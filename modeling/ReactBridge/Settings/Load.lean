import ReactBridge.Files
import ReactBridge.Run
import ReactBridge.Settings.File

/-!
# Settings of a run

* `SettingsError`: why settings cannot be had;
* `load`: the settings of a file;
* `Overrides`, `resolve`: what is asked of a run itself counts before its file.
-/

namespace ReactBridge.Settings

inductive SettingsError where
  /-- A file that cannot be read as a text. -/
  | unreadable (path : Path)
  /-- A text, known by a name, that gives no settings. -/
  | invalid (name : String)
deriving DecidableEq, Repr

namespace SettingsError

def message : SettingsError → String
  | unreadable path => "failed to read '" ++ path.text ++ "'"
  | invalid name => "failed to parse " ++ name

def code : SettingsError → String
  | unreadable _ => "gobridge::config::io"
  | invalid _ => "gobridge::config::parse"

end SettingsError

def read (document name : String) : Except SettingsError FileSettings :=
  match FileSettings.ofDocument? document with
  | some settings => .ok settings
  | none => .error (.invalid name)

def defaultFile : Path :=
  ⟨"gobridge.toml"⟩

variable {m : Type → Type} {Handle : Type} [Monad m] [Files m Handle]

def readAt (path : Path) : m (Except SettingsError FileSettings) := do
  match ← Files.readText path with
  | none => return .error (.unreadable path)
  | some document => return read document path.text

/-- The settings in a named file, or in the default one if it is there. -/
def load (named : Option Path) : m (Except SettingsError FileSettings) := do
  match named with
  | some path => readAt path
  | none => if ← Files.isFile defaultFile then readAt defaultFile else return .ok {}

structure Overrides where
  packages : List String := []
  output : Option Path := none
  packageRoot : Option String := none
  sourceDir : Option Path := none
deriving DecidableEq, Repr

/-- The packages of a run. Those that are asked for come before those of the file; in each, a
directory counts before import paths. -/
def sources (file : FileSettings) (overrides : Overrides) : List Source :=
  match overrides.sourceDir with
  | some dir => [.directory dir]
  | none =>
    if !overrides.packages.isEmpty then overrides.packages.map .importPath
    else
      match file.dir with
      | some dir => [.directory dir]
      | none => file.packages.map .importPath

def resolve (file : FileSettings) (overrides : Overrides) : Run.Settings where
  bridge :=
    { output := overrides.output.getD file.bridge.output
      packageRoot := overrides.packageRoot.getD file.bridge.packageRoot
      contextParam := file.bridge.contextParam }
  sources := sources file overrides

end ReactBridge.Settings
