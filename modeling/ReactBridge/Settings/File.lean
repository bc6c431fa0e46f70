import ReactBridge.Bridge.Name
import ReactBridge.Toml.Document

/-!
# Settings in a file

A settings file has two sections, `bridge` and `source`. Every setting may be left out, but none
that is unknown may be there. A section may also be written as an array of its settings in order.

* `FileSettings`: what a file settles;
* `FileSettings.ofDocument?`: the settings of a document.
-/

namespace ReactBridge.Settings

open ReactBridge.Toml

/-- What a settings file settles. A directory counts before import paths. -/
structure FileSettings where
  bridge : Bridge.Config := {}
  packages : List String := ["golang.org/x/mobile/example/bind/hello"]
  dir : Option Path := none
deriving DecidableEq, Repr

/-- The named fields of a value: a table that has no others, or an array that gives them in order.
Items of an array that are left over count for nothing. -/
def fields? (names : List String) : Value → Option Entries
  | .table _ entries =>
    if entries.all fun entry => names.contains entry.1 then some entries else none
  | .array items => some (names.zip items)
  | _ => none

def sectionFields? (names : List String) : Option Value → Option Entries
  | none => some []
  | some value => fields? names value

def text? (fields : Entries) (name default : String) : Option String :=
  match fields.lookup name with
  | none => some default
  | some (.string text) => some text
  | some _ => none

def texts? : List Value → Option (List String)
  | [] => some []
  | .string text :: values => (texts? values).map (text :: ·)
  | _ :: _ => none

def list? (fields : Entries) (name : String) (default : List String) : Option (List String) :=
  match fields.lookup name with
  | none => some default
  | some (.array items) => texts? items
  | some _ => none

def bridge? (fields : Entries) : Option Bridge.Config := do
  let default : Bridge.Config := {}
  let output ← text? fields "output" default.output.text
  let packageRoot ← text? fields "package_root" default.packageRoot
  let contextParam ← text? fields "context_param" default.contextParam
  return ⟨⟨output⟩, packageRoot, contextParam⟩

def dir? (fields : Entries) : Option (Option Path) :=
  match fields.lookup "dir" with
  | none => some none
  | some (.string text) => some (some ⟨text⟩)
  | some _ => none

def FileSettings.ofEntries? (entries : Entries) : Option FileSettings := do
  let default : FileSettings := {}
  guard (entries.all fun entry => ["bridge", "source"].contains entry.1)
  let bridge ← sectionFields? ["output", "package_root", "context_param"] (entries.lookup "bridge")
  let source ← sectionFields? ["packages", "dir"] (entries.lookup "source")
  return ⟨← bridge? bridge, ← list? source "packages" default.packages, ← dir? source⟩

def FileSettings.ofDocument? (document : String) : Option FileSettings :=
  (readDocument document).bind FileSettings.ofEntries?

end ReactBridge.Settings
