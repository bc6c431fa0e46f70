import ReactBridge.Files
import ReactBridge.Java.Piece

/-!
# Writers of Java files

A writer has a path, and while it is open a handle on the file there. Each line reaches the file
before the next one is looked at. Actions give their outcome and the writer to go on with, which a
failure may have changed too.

* `WriteError`: why a Java file cannot be written;
* `Writer.retarget`, `Writer.openFile`, `Writer.close`: which file is written;
* `Writer.write`, `Writer.writeAll`: its text.
-/

namespace ReactBridge.Java

inductive WriteError where
  | alreadyOpen (path : Path)
  | notOpen (path : Path)
  | alreadyBuilt (path : Path)
  /-- The builder of the file is closed. -/
  | closed
  /-- The file cannot be created. -/
  | create (path : Path)
  /-- The file does not take a text. -/
  | write (path : Path)
deriving DecidableEq, Repr

def WriteError.message : WriteError → String
  | alreadyOpen path => "file already open: '" ++ path.text ++ "'"
  | notOpen path => "stream unavailable: '" ++ path.text ++ "' is not open"
  | alreadyBuilt path => "builder already built '" ++ path.text ++ "'"
  | closed => "builder is closed"
  | create path => "failed to create '" ++ path.text ++ "'"
  | write path => "failed to write '" ++ path.text ++ "'"

/-! ## Writers -/

/-- A path, the handle of the file that is open there, and the margin of the next line. -/
structure Writer (Handle : Type) where
  path : Path
  handle : Option Handle
  margin : Margin

namespace Writer

variable {m : Type → Type} {Handle : Type}

abbrev Outcome (Handle : Type) :=
  Except WriteError Unit × Writer Handle

def ofPath (path : Path) : Writer Handle :=
  ⟨path, none, .start⟩

def isOpen (writer : Writer Handle) : Bool :=
  writer.handle.isSome

def retarget (writer : Writer Handle) (path : Path) : Outcome Handle :=
  if writer.isOpen then (.error (.alreadyOpen writer.path), writer)
  else (.ok (), { writer with path })

variable [Monad m] [Files m Handle]

def openFile (writer : Writer Handle) : m (Outcome Handle) := do
  if writer.isOpen then return (.error (.alreadyOpen writer.path), writer)
  match ← Files.create writer.path with
  | some handle => return (.ok (), { writer with handle := some handle, margin := .start })
  | none => return (.error (.create writer.path), writer)

/-- Gives the file back. The writer is not open afterwards, also if that fails. -/
def close (writer : Writer Handle) : m (Outcome Handle) := do
  match writer.handle with
  | none => return (.error (.notOpen writer.path), writer)
  | some handle =>
    let safe ← Files.release handle
    return (if safe then .ok () else .error (.write writer.path), { writer with handle := none })

def append (writer : Writer Handle) (text : String) : m (Outcome Handle) := do
  match writer.handle with
  | none => return (.error (.notOpen writer.path), writer)
  | some handle =>
    match ← Files.append handle text with
    | some handle => return (.ok (), { writer with handle := some handle })
    | none => return (.error (.write writer.path), writer)

/-- Writes a line. The margin moves on even if the line does not reach the file. -/
def writeLine (writer : Writer Handle) : Line → m (Outcome Handle)
  | .verbatim text => writer.append text
  | .placed text mode => do
    let (text, margin) := writer.margin.place text mode
    let (result, writer) ← writer.append (text ++ "\n")
    return (result, { writer with margin })

/-- Writes lines up to the first failure. -/
def writeLines (writer : Writer Handle) : List Line → m (Outcome Handle)
  | [] => return (.ok (), writer)
  | line :: lines => do
    match ← writer.writeLine line with
    | (.ok (), writer) => writer.writeLines lines
    | (.error e, writer) => return (.error e, writer)

def write (writer : Writer Handle) (piece : Piece) : m (Outcome Handle) :=
  writer.writeLines piece.lines

def writeAll (writer : Writer Handle) (pieces : List Piece) : m (Outcome Handle) :=
  writer.writeLines (pieces.flatMap Piece.lines)

end Writer

end ReactBridge.Java
