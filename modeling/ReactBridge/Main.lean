import ReactBridge.CommandLine.Reply

/-!
# The program

* `main`: answers the request of a command line on the files of the system.
-/

namespace ReactBridge

/-- The result of an action, none if it fails. -/
def attempt {α : Type} (action : IO α) : IO (Option α) := do
  match ← action.toBaseIO with
  | .ok value => return some value
  | .error _ => return none

instance : Files IO IO.FS.Handle where
  readText path := attempt (IO.FS.readFile path.text)
  names path := attempt do
    let entries ← (← IO.FS.realPath path.text).readDir
    return entries.toList.map fun entry => .text entry.fileName
  isFile path := do
    let regular ← attempt do
      return (← (← IO.FS.realPath path.text).metadata).type == .file
    return regular.getD false
  create path := attempt do
    match path.parent? with
    | some parent => if !parent.text.isEmpty then IO.FS.createDirAll parent.text
    | none => pure ()
    IO.FS.Handle.mk path.text .write
  append handle text := do
    let written ← attempt do
      handle.putStr text
      handle.flush
    return written.map fun _ => handle
  release handle := return (← attempt handle.flush).isSome

end ReactBridge

open ReactBridge ReactBridge.CommandLine

def main (arguments : List String) : IO UInt32 := do
  let gopath ← IO.getEnv "GOPATH"
  let reply ← (Request.ofArguments arguments).reply gopath
  IO.print reply.output
  IO.eprint reply.errors
  return reply.exit
