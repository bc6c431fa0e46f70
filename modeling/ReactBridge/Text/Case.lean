import ReactBridge.Text.Alphabetic
import ReactBridge.Text.CaseMap
import ReactBridge.Text.Cased
import ReactBridge.Text.Classes

/-!
# Lowercase and title case of texts

* `lowercase`: every character in lowercase, with the final form of a sigma that ends a word;
* `titleCase`: the first character of every word in uppercase, the rest as it is;
* `lowerTitleCase`: title case of the lowercase form.
-/

namespace ReactBridge.Text

/-- Whether the first character that is not case-ignorable has a case. -/
def startsCased (cs : List Char) : Bool :=
  match cs.dropWhile isCaseIgnorable with
  | c :: _ => isCased c
  | [] => false

/-- The lowercase form of what follows the characters `before`, the nearest of which is first.
A capital sigma takes its final form behind a cased character and not ahead of one. -/
def lowerAfter (before : List Char) : List Char → List Char
  | [] => []
  | c :: cs =>
    (if c = 'Σ' then [if startsCased before && !startsCased cs then 'ς' else 'σ'] else lower c)
      ++ lowerAfter (c :: before) cs

def lowercase (text : String) : String :=
  String.ofList (lowerAfter [] text.toList)

/-- Whether a word ends at `c`. Letters, digits and `_` continue a word; of the other characters
beyond ASCII only white space ends one. -/
def separates (c : Char) : Bool :=
  if c.toNat < 0x80 then !(c.isAlphanum || c = '_')
  else if isAlphabetic c || isNumeric c then false
  else isBlank c

/-- Title case of a stretch of text, at whose start a word begins if `fresh`. -/
def titleFrom (fresh : Bool) : List Char → List Char
  | [] => []
  | c :: cs => (if fresh then upper c else [c]) ++ titleFrom (separates c) cs

def titleCase (text : String) : String :=
  String.ofList (titleFrom true text.toList)

def lowerTitleCase (text : String) : String :=
  titleCase (lowercase text)

end ReactBridge.Text
