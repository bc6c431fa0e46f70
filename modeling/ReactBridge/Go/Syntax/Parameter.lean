import ReactBridge.Go.Syntax
import ReactBridge.Go.Syntax.Error

/-!
# Names and types of a parameter list

A lone identifier in a parameter list is a name if any entry of the list has both a name and a
type, and a type otherwise. `fieldsOfEntries` settles this once the whole list has been read.
-/

namespace ReactBridge.Go

inductive Entry where
  /-- A lone identifier, which is a name or a type. -/
  | bare (name : String) (span : Span)
  | named (name : String) (type : TypeExpr)
  | unnamed (type : TypeExpr)
deriving Repr

namespace Entry

def isNamed : Entry → Bool
  | named _ _ => true
  | _ => false

def unnamedField? : Entry → Option Field
  | bare name _ => some ⟨[], .named name⟩
  | unnamed type => some ⟨[], type⟩
  | named _ _ => none

end Entry

/-- The fields of a list with a named entry. The names `waiting` take the type of the next named
entry; `last` is where the last of them stands. An unnamed type is an error that covers the whole
`list`, names that are left without a type one at the last of them. -/
def namedFields (list : Span) (waiting : List String) (last : Option Span) :
    List Entry → Except SyntaxError (List Field)
  | [] =>
    match last with
    | some span => .error ⟨.mixedParameters, span⟩
    | none => .ok []
  | .bare name span :: entries => namedFields list (waiting ++ [name]) (some span) entries
  | .named name type :: entries =>
    match namedFields list [] none entries with
    | .ok fields => .ok (⟨waiting ++ [name], type⟩ :: fields)
    | .error e => .error e
  | .unnamed _ :: _ => .error ⟨.mixedParameters, list⟩

/-- The fields of a parameter list that covers the bytes `list`. -/
def fieldsOfEntries (entries : List Entry) (list : Span) : Except SyntaxError (List Field) :=
  if entries.any Entry.isNamed then namedFields list [] none entries
  else .ok (entries.filterMap Entry.unnamedField?)

end ReactBridge.Go
