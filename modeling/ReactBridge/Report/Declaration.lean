import ReactBridge.Declaration

/-!
# Declarations as JSON

* `Json`: values made of strings, lists and objects;
* `Json.pretty`: the text of a value, one member to a line;
* `declarationJson`: a declaration, with its functions and its return slots apart;
* `declarationsText`: the text of a list of them.
-/

namespace ReactBridge.Text

/-- A value made of strings, lists and objects. The members of an object are in order. -/
inductive Json where
  | string (text : String)
  | list (items : List Json)
  | object (members : List (String × Json))

namespace Json

/-- How a character is written inside a string. Only the quote, the backslash and the control
characters up to the blank are escaped, some of them by a letter. -/
def escape (c : Char) : List Char :=
  match c with
  | '"' => ['\\', '"']
  | '\\' => ['\\', '\\']
  | '\x08' => ['\\', 'b']
  | '\x0c' => ['\\', 'f']
  | '\n' => ['\\', 'n']
  | '\r' => ['\\', 'r']
  | '\t' => ['\\', 't']
  | c =>
    if c.toNat < 0x20 then
      ['\\', 'u', '0', '0', Nat.digitChar (c.toNat / 16), Nat.digitChar (c.toNat % 16)]
    else [c]

/-- The text of a string, with its quotes. -/
def quote (text : String) : String :=
  "\"" ++ String.ofList (text.toList.flatMap escape) ++ "\""

/-- The start of a line: two blanks for each value around it. -/
def margin (depth : Nat) : String :=
  String.ofList (List.replicate (2 * depth) ' ')

/-- A pair of brackets around members, each on lines of its own. -/
def enclose (depth : Nat) (opening closing : String) (members : List String) : String :=
  if members.isEmpty then opening ++ closing
  else opening ++ "\n" ++ ",\n".intercalate members ++ "\n" ++ margin depth ++ closing

mutual

/-- The text of a value that stands inside `depth` others. -/
def pretty (depth : Nat) : Json → String
  | string text => quote text
  | list items => enclose depth "[" "]" (prettyItems (depth + 1) items)
  | object members => enclose depth "\x7b" "\x7d" (prettyMembers (depth + 1) members)

def prettyItems (depth : Nat) : List Json → List String
  | [] => []
  | item :: items => (margin depth ++ item.pretty depth) :: prettyItems depth items

def prettyMembers (depth : Nat) : List (String × Json) → List String
  | [] => []
  | (name, value) :: members =>
    (margin depth ++ quote name ++ ": " ++ value.pretty depth) :: prettyMembers depth members

end

end Json

end ReactBridge.Text

namespace ReactBridge.Report

open ReactBridge.Text (Json)

def parameterJson (parameter : Parameter) : Json :=
  .object [("name", .string parameter.name), ("type_name", .string parameter.typeName)]

def callableJson (callable : Callable) : Json :=
  .object [("name", .string callable.name),
    ("parameters", .list (callable.parameters.map parameterJson))]

def declarationJson (decl : Declaration) : Json :=
  .object [("package_name", .string decl.packageName),
    ("callables", .list (decl.callables.map callableJson)),
    ("returns", .list (decl.returns.map parameterJson))]

def declarationsText (decls : List Declaration) : String :=
  (Json.list (decls.map declarationJson)).pretty 0

end ReactBridge.Report
