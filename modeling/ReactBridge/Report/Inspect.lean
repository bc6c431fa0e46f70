import ReactBridge.Run

/-!
# Reports, and those of inspections

* `Event`: what a report asks its reader to be shown;
* `Event.line`: how a terminal shows it;
* `signature`: an exported function as it is shown;
* `ofInspection`: the report on what a package exports.
-/

namespace ReactBridge.Report

inductive Event where
  | heading (name : String)
  | keyValue (key value : String)
  | item (text : String)
  /-- Something that the run has added. -/
  | added (text : String)
  | warning (text : String)
  /-- A line that is shown as it is. -/
  | plain (text : String)
  | emptyLine
deriving DecidableEq, Repr

/-- The line that shows an event. Warnings have none, since they stand apart. -/
def Event.line : Event → Option String
  | heading name => some (name ++ ":")
  | keyValue key value => some (key ++ ": " ++ value)
  | item text => some ("  - " ++ text)
  | added text => some ("  + " ++ text)
  | warning _ => none
  | plain text => some text
  | emptyLine => some ""

def render (events : List Event) : String :=
  String.join ((events.filterMap Event.line).map fun line => line ++ "\n")

/-! ## Inspections -/

def signature (entry : Callable × Parameter) : String :=
  let parameters := entry.1.parameters.map fun parameter =>
    parameter.name ++ " " ++ parameter.typeName
  let head := entry.1.name ++ "(" ++ ", ".intercalate parameters ++ ")"
  if entry.2.hasType then head ++ " " ++ entry.2.typeName else head

def ofDeclaration (decl : Declaration) : List Event :=
  [.emptyLine, .heading decl.packageName] ++
  decl.entries.map (fun entry => .item (signature entry)) ++
  if decl.isValid then [] else [.warning (decl.packageName ++ ": nothing to bridge")]

def ofInspection (inspection : Run.Inspection) : List Event :=
  .keyValue "Package" inspection.label :: inspection.declarations.flatMap ofDeclaration

end ReactBridge.Report
