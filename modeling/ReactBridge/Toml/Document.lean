import ReactBridge.Toml.Quoted
import ReactBridge.Toml.Scalar

/-!
# TOML documents

A document is read into the entries of its tables. Tables nest as values and by dotted keys;
headers name tables of the document itself only, and none of an array.

* `Value`: strings, arrays and tables, and other scalars without their value;
* `insert`: a value under a dotted key, which must be new;
* `readKey`: a dotted key;
* `readValue`, `readItems`, `readMembers`: values;
* `readDocument`: a whole document.
-/

namespace ReactBridge.Toml

/-! ## Values and tables -/

/-- A value. No setting is a number, a truth value or a date, so their values are not kept. -/
inductive Value where
  | string (text : String)
  /-- A number, a truth value or a date. -/
  | scalar
  | array (items : List Value)
  /-- A table in the order of its keys. One that is closed takes no further keys. -/
  | table (closed : Bool) (entries : List (String × Value))

abbrev Entries := List (String × Value)

def replace (key : String) (value : Value) : Entries → Entries
  | [] => []
  | (other, old) :: entries =>
    if key = other then (other, value) :: entries else (other, old) :: replace key value entries

/-- The entries with a value under a dotted key. The tables on the way are made where they are
missing; none of them may be closed, and the last key must be new. -/
def insert (entries : Entries) (value : Value) : List String → Option Entries
  | [] => none
  | [key] => if (entries.lookup key).isSome then none else some (entries ++ [(key, value)])
  | key :: next :: keys =>
    match entries.lookup key with
    | none => do
      let inner ← insert [] value (next :: keys)
      return entries ++ [(key, .table false inner)]
    | some (.table false inner) => do
      let inner ← insert inner value (next :: keys)
      return replace key (.table false inner) entries
    | some _ => none

/-! ## Keys -/

/-- Whether a character can stand in a key without quotes. -/
def isBareChar (c : Char) : Bool :=
  c.isAlphanum || c = '_' || c = '-'

def readKeyPart (cs : List Char) : Option (String × Rest cs) :=
  match readLineString cs with
  | some (text, rest) => some (text, rest)
  | none =>
    if (cs.takeWhile isBareChar).isEmpty then none
    else some (String.ofList (cs.takeWhile isBareChar), Rest.dropWhile isBareChar cs)

/-- Reads a key: parts with dots between them, and blanks around. -/
def readKey (cs : List Char) : Option (List String × Rest cs) := do
  let before := skipBlanks cs
  let (part, rest) ← readKeyPart before.items
  let after := skipBlanks rest.items
  let here := before.within (rest.within after)
  match Rest.skip? '.' here.items with
  | some ⟨dot, _⟩ =>
    let (parts, last) ← readKey dot.items
    return (part :: parts, here.within (dot.within last))
  | none => return ([part], here)
termination_by cs.length
decreasing_by grind

/-- How deep values may nest, and how many parts a key may have. -/
def maxDepth : Nat :=
  80

/-- Reads a key and the `=` behind it, with a `gap` on both sides of the sign. -/
def readKeySign (gap : (cs : List Char) → Rest cs) (cs : List Char) :
    Option (List String × { rest : Rest cs // rest.items.length < cs.length }) := do
  let (keys, rest) ← readKey cs
  guard (keys.length ≤ maxDepth)
  let behind := rest.within (gap rest.items)
  let ⟨sign, _⟩ ← Rest.skip? '=' behind.items
  return (keys, ⟨behind.within (sign.within (gap sign.items)), by grind⟩)

/-! ## Reading values -/

mutual

/-- Reads a value that may nest `depth` deep. -/
def readValue (depth : Nat) (cs : List Char) : Option (Value × Rest cs) :=
  match cs, depth with
  | '[' :: _, 0 | '\x7b' :: _, 0 => none
  | '[' :: cs, depth + 1 => do
    let (items, rest) ← readItems depth cs
    return (.array items, rest.behind '[')
  | '\x7b' :: cs, depth + 1 => do
    let (entries, rest) ← readMembers depth [] cs
    return (.table true entries, rest.behind '\x7b')
  | cs, _ =>
    match readString cs with
    | some (text, rest) => some (.string text, rest)
    | none => (readScalar cs).map fun rest => (.scalar, rest)
  termination_by 2 * cs.length
  decreasing_by all_goals grind

/-- Reads the items of an array up to its bracket, behind the opening one or a comma. -/
def readItems (depth : Nat) (cs : List Char) : Option (List Value × Rest cs) := do
  let start := skipLayout cs
  match Rest.skip? ']' start.items with
  | some ⟨last, _⟩ => return ([], start.within last)
  | none =>
    let (item, rest) ← readValue depth start.items
    let behind := start.within (rest.within (skipLayout rest.items))
    match Rest.skip? ',' behind.items with
    | some ⟨comma, _⟩ =>
      let (items, last) ← readItems depth comma.items
      return (item :: items, behind.within (comma.within last))
    | none =>
      let ⟨last, _⟩ ← Rest.skip? ']' behind.items
      return ([item], behind.within last)
  termination_by 2 * cs.length + 1
  decreasing_by all_goals grind

/-- Reads the entries of an inline table up to its brace, behind the opening one or a comma, and
adds them to earlier ones. -/
def readMembers (depth : Nat) (entries : Entries) (cs : List Char) :
    Option (Entries × Rest cs) := do
  let start := skipLayout cs
  match Rest.skip? '\x7d' start.items with
  | some ⟨last, _⟩ => return (entries, start.within last)
  | none =>
    let (keys, ⟨sign, _⟩) ← readKeySign skipLayout start.items
    let (value, rest) ← readValue depth sign.items
    let entries ← insert entries value keys
    let behind := start.within (sign.within (rest.within (skipLayout rest.items)))
    match Rest.skip? ',' behind.items with
    | some ⟨comma, _⟩ =>
      let (entries, last) ← readMembers depth entries comma.items
      return (entries, behind.within (comma.within last))
    | none =>
      let ⟨last, _⟩ ← Rest.skip? '\x7d' behind.items
      return (entries, behind.within last)
  termination_by 2 * cs.length + 1
  decreasing_by all_goals grind

end

/-! ## Documents -/

/-- Reads a header up to its bracket, behind the opening one. -/
def readHeader (cs : List Char) : Option (String × Rest cs) := do
  let (keys, rest) ← readKey cs
  let ⟨last, _⟩ ← Rest.skip? ']' rest.items
  match keys with
  | [key] => return (key, rest.within last)
  | _ => none

/-- Reads the lines of a document into its entries, where `sec` names the table that they belong
to, or nothing for the document itself. -/
def readLines (entries : Entries) (sec : List String) (cs : List Char) : Option Entries := do
  let start := skipLayout cs
  match start.items with
  | [] => return entries
  | _ =>
    match Rest.skip? '[' start.items with
    | some ⟨opened, _⟩ =>
      let (key, rest) ← readHeader opened.items
      let entries ← insert entries (.table false []) [key]
      let last ← endLine rest.items
      readLines entries [key] last.items
    | none =>
      let (keys, ⟨sign, _⟩) ← readKeySign skipBlanks start.items
      let (value, rest) ← readValue maxDepth sign.items
      let entries ← insert entries value (sec ++ keys)
      let last ← endLine rest.items
      readLines entries sec last.items
termination_by cs.length
decreasing_by all_goals grind

/-- Reads a document. A mark of byte order in front of it is skipped. -/
def readDocument (text : String) : Option Entries :=
  match text.toList with
  | '\ufeff' :: cs => readLines [] [] cs
  | cs => readLines [] [] cs

end ReactBridge.Toml
