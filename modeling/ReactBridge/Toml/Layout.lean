import ReactBridge.Rest

/-!
# Blanks, comments and line ends of a TOML document

* `skipBlanks`, `skipLayout`: what may stand between the parts of a line, and between lines;
* `endLine`: the end of a line, behind blanks and a comment.
-/

namespace ReactBridge.Toml

/-- Whether a character may stand only where the format gives it a meaning. -/
def isControl (c : Char) : Bool :=
  (c.toNat < 0x20 && c ≠ '\t') || c.toNat = 0x7f

def isBlank (c : Char) : Bool :=
  c = ' ' || c = '\t'

def skipBlanks (cs : List Char) : Rest cs :=
  Rest.dropWhile isBlank cs

def skipSpace : (cs : List Char) → Rest cs
  | '\r' :: '\n' :: cs => ((skipSpace cs).behind '\n').behind '\r'
  | c :: cs => if isBlank c || c = '\n' then (skipSpace cs).behind c else Rest.all (c :: cs)
  | [] => Rest.all []

/-- What is left behind blanks, line ends and comments. A comment ends before the first control
character, and only a line end is skipped there. -/
def skipLayout (cs : List Char) : Rest cs :=
  match cs with
  | '\r' :: '\n' :: cs => ((skipLayout cs).behind '\n').behind '\r'
  | '#' :: cs =>
    let behind := Rest.dropWhile (fun c => !isControl c) cs
    (behind.within (skipLayout behind.items)).behind '#'
  | c :: cs => if isBlank c || c = '\n' then (skipLayout cs).behind c else Rest.all (c :: cs)
  | [] => Rest.all []
termination_by cs.length
decreasing_by all_goals grind

/-- What is left behind a comment, if one starts here. -/
def skipComment (cs : List Char) : Rest cs :=
  match cs with
  | '#' :: cs => (Rest.dropWhile (fun c => !isControl c) cs).behind '#'
  | cs => Rest.all cs

/-- What is left behind the end of a line, or at the end of the text. -/
def skipLineEnd : (cs : List Char) → Option (Rest cs)
  | [] => some (Rest.all [])
  | '\n' :: cs => some ((Rest.all cs).behind '\n')
  | '\r' :: '\n' :: cs => some (((Rest.all cs).behind '\n').behind '\r')
  | _ => none

def endLine (cs : List Char) : Option (Rest cs) := do
  let blanks := skipBlanks cs
  let comment := skipComment blanks.items
  let last ← skipLineEnd comment.items
  return blanks.within (comment.within last)

end ReactBridge.Toml
