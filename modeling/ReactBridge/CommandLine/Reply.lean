import ReactBridge.CommandLine.Request
import ReactBridge.Report.Declaration
import ReactBridge.Report.Generate
import ReactBridge.Report.Inspect

/-!
# Replies to requests

* `helpText`: what the program can be asked for;
* `Shell.script`: a script that completes the names of commands and options;
* `Reply`: an exit code, and what goes to the two output streams;
* `Request.reply`: does what is asked for.
-/

namespace ReactBridge.CommandLine

/-! ## Texts for the users of a shell -/

def helpText : String :=
  "Generate React Native Java bridges for Go packages\n\n" ++
  "Usage: gobridge [-v] generate [PACKAGE]... [-c FILE] [-o DIR]\n" ++
  "                              [--package-root NAME] [--source-dir DIR]\n" ++
  "       gobridge [-v] inspect [PACKAGE] [--source-dir DIR] [--json]\n" ++
  "       gobridge [-v] completions bash|elvish|fish|powershell|zsh [-o FILE]\n" ++
  "       gobridge help | --version\n"

def words : String :=
  " ".intercalate (commandNames ++
    (generateRules ++ inspectRules).eraseDups.map fun rule => "--" ++ rule.name)

def Shell.script : Shell → String
  | bash => "complete -o default -W \"" ++ words ++ "\" gobridge\n"
  | elvish =>
    "set edit:completion:arg-completer[gobridge] = \x7b|@a| put " ++ words ++ " \x7d\n"
  | fish => "complete -c gobridge -a \"" ++ words ++ "\"\n"
  | powershell =>
    "Register-ArgumentCompleter -Native -CommandName gobridge -ScriptBlock \x7b -split \"" ++
      words ++ "\" \x7d\n"
  | zsh => "#compdef gobridge\ncompadd " ++ words ++ "\n"

/-! ## Replies -/

structure Reply where
  exit : UInt32
  output : String
  errors : String
deriving DecidableEq, Repr

namespace Reply

def success (output : String) : Reply :=
  ⟨0, output, ""⟩

def failure (exit : UInt32) (message : String) : Reply :=
  ⟨exit, "", "error: " ++ message ++ "\n"⟩

end Reply

def failureExit : UInt32 :=
  1

def usageExit : UInt32 :=
  2

/-- The exit code of a script that cannot be written to a file that is open. -/
def brokenExit : UInt32 :=
  101

def warnings (events : List Report.Event) : String :=
  String.join (events.map fun event =>
    match event with
    | .warning text => "warning: " ++ text ++ "\n"
    | _ => "")

variable {m : Type → Type} {Handle : Type} [Monad m] [Files m Handle]

/-- Generates bridges. Packages that fail are reported, and do not make the run fail. -/
def generateReply (gopath : Option String) (file : Option Path) (overrides : Settings.Overrides) :
    m Reply := do
  match ← Settings.load file with
  | .error e => return .failure failureExit e.message
  | .ok file =>
    let settings := Settings.resolve file overrides
    let outcomes ← Run.generate gopath settings
    let lines := (Report.failures outcomes).map fun (label, failure) =>
      label ++ ": " ++ failure.message ++ "\n"
    return ⟨0, Report.render (Report.ofOutcomes settings.bridge.output outcomes),
      String.join lines⟩

def inspectReply (gopath : Option String) (source : Source) (json : Bool) : m Reply := do
  match ← Run.inspect gopath source with
  | .error e => return .failure failureExit e.message
  | .ok inspection =>
    if json then return .success (Report.declarationsText inspection.declarations ++ "\n")
    else
      let events := Report.ofInspection inspection
      return ⟨0, Report.render events, warnings events⟩

def scriptReply (shell : Shell) (path : Path) : m Reply := do
  match ← Files.create path with
  | none => return .failure failureExit (Java.WriteError.create path).message
  | some handle =>
    match ← Files.append handle shell.script with
    | none => return .failure brokenExit (Java.WriteError.write path).message
    | some handle =>
      if ← Files.release handle then return .success ""
      else return .failure failureExit (Java.WriteError.write path).message

def Command.reply (gopath : Option String) : Command → m Reply
  | .generate file overrides => generateReply gopath file overrides
  | .inspect source json => inspectReply gopath source json
  | .completions shell none => return .success shell.script
  | .completions shell (some path) => scriptReply shell path

def Request.reply (gopath : Option String) : Request → m Reply
  | .run command => command.reply gopath
  | .help => return .success helpText
  | .version => return .success "gobridge 0.5.0\n"
  | .refuse error => return .failure usageExit error.message

end ReactBridge.CommandLine
