import ReactBridge.Text.Split
import ReactBridge.Toml.Layout

/-!
# Numbers, truth values and dates of a TOML document

No value of these is kept, so they are checked for their form only. The form of numbers is laxer
than the format has it where only their value would show the fault.

* `isRadix`, `isDecimal`, `isFloat`: numbers, with `_` between digits (`separates`);
* `isMoment`: dates and times of day, together or alone;
* `readScalar`: any of them, or a truth value.
-/

namespace ReactBridge.Toml

/-! ## Numbers -/

def isHexDigit (c : Char) : Bool :=
  c.isDigit || ('a' ≤ c && c ≤ 'f') || ('A' ≤ c && c ≤ 'F')

/-- Whether groups that follow a `_` start with a digit, and end with one ahead of a further `_`. -/
def areGroups (isDigit : Char → Bool) : List (List Char) → Bool
  | [] => true
  | [group] => group.head?.any isDigit
  | group :: groups =>
    group.head?.any isDigit && group.getLast?.any isDigit && areGroups isDigit groups

/-- Whether each `_` stands between two digits. What stands between those is not looked at. -/
def separates (isDigit : Char → Bool) (cs : List Char) : Bool :=
  match Text.split '_' cs with
  | [] | [_] => true
  | group :: groups => group.getLast?.any isDigit && areGroups isDigit groups

def unsigned : List Char → List Char
  | '+' :: cs | '-' :: cs => cs
  | cs => cs

/-- Digits behind the mark of their radix. There may be none. -/
def areDigits (isDigit : Char → Bool) (cs : List Char) : Bool :=
  cs.isEmpty || (cs.all (fun c => isDigit c || c = '_') && separates isDigit cs)

/-- An integer with the mark of its radix, which takes no sign. -/
def isRadix : List Char → Bool
  | '0' :: 'x' :: cs => areDigits isHexDigit cs
  | '0' :: 'o' :: cs => areDigits (fun c => '0' ≤ c && c ≤ '7') cs
  | '0' :: 'b' :: cs => areDigits (fun c => c = '0' || c = '1') cs
  | _ => false

/-- Whether a character makes a number with a `_` a fraction or a power, or no number. -/
def isIntegerEnd (c : Char) : Bool :=
  c = ' ' || c = '.' || c = 'e' || c = 'E'

/-- A decimal integer without a needless zero in front. One that holds a `_` is not looked at
further, apart from the neighbours of each `_`. -/
def isDecimal (cs : List Char) : Bool :=
  let digits := unsigned cs
  match digits.dropWhile Char.isDigit with
  | [] => digits = ['0'] || digits.head?.any (· ≠ '0')
  | '_' :: rest =>
    digits.head? ≠ some '0' && !rest.any isIntegerEnd && separates isHexDigit cs
  | _ => false

/-- Whether a character is a decimal digit or stands between digits. -/
def isNumeral (c : Char) : Bool :=
  c.isDigit || c = '_'

/-- What is left behind a run of digits, if it holds any. -/
def skipDigits (cs : List Char) : Option (List Char) :=
  if (cs.takeWhile isNumeral).any Char.isDigit then some (cs.dropWhile isNumeral) else none

def skipFraction : List Char → Option (List Char)
  | '.' :: cs => skipDigits cs
  | cs => some cs

def skipExponent : List Char → Option (List Char)
  | 'e' :: cs | 'E' :: cs => skipDigits (unsigned cs)
  | cs => some cs

/-- Whether a run of digits starts with a zero that is not its only digit. -/
def hasNeedlessZero (cs : List Char) : Bool :=
  cs.head? = some '0' && 1 < ((cs.takeWhile isNumeral).filter Char.isDigit).length

/-- A number with a fraction, an exponent or both, or one that is not finite. -/
def isFloat (cs : List Char) : Bool :=
  let number := unsigned cs
  number = "inf".toList || number = "nan".toList ||
    (number.any isIntegerEnd && !hasNeedlessZero number &&
      ((skipDigits number).bind skipFraction).bind skipExponent = some [] &&
      separates Char.isDigit cs)

/-! ## Dates and times -/

def digits? (cs : List Char) : Option Nat :=
  cs.foldlM (fun value c => if c.isDigit then some (10 * value + (c.toNat - '0'.toNat)) else none) 0

/-- Whether digits stand for a number in a range. -/
def inRange (low high : Nat) (cs : List Char) : Bool :=
  (digits? cs).any fun value => low ≤ value && value ≤ high

def daysOf (year month : Nat) : Nat :=
  if month = 2 then
    if year % 4 = 0 && (year % 100 ≠ 0 || year % 400 = 0) then 29 else 28
  else if month = 4 || month = 6 || month = 9 || month = 11 then 30
  else 31

def isDate : List Char → Bool
  | [y₁, y₂, y₃, y₄, '-', m₁, m₂, '-', d₁, d₂] =>
    match digits? [y₁, y₂, y₃, y₄], digits? [m₁, m₂] with
    | some year, some month =>
      1 ≤ month && month ≤ 12 && inRange 1 (daysOf year month) [d₁, d₂]
    | _, _ => false
  | _ => false

/-- What may follow a time of day: nothing, or its distance from universal time. -/
def isOffset : List Char → Bool
  | [] | ['Z'] | ['z'] => true
  | [sign, h₁, h₂, ':', m₁, m₂] =>
    (sign = '+' || sign = '-') && inRange 0 23 [h₁, h₂] && inRange 0 59 [m₁, m₂]
  | _ => false

/-- What may follow the seconds of a time of day, where `ends` says how it may end. -/
def isFraction (ends : List Char → Bool) : List Char → Bool
  | '.' :: c :: cs => c.isDigit && ends (cs.dropWhile Char.isDigit)
  | cs => ends cs

/-- A time of day, perhaps without seconds. -/
def isTime (ends : List Char → Bool) : List Char → Bool
  | h₁ :: h₂ :: ':' :: m₁ :: m₂ :: cs =>
    inRange 0 23 [h₁, h₂] && inRange 0 59 [m₁, m₂] &&
      match cs with
      | ':' :: s₁ :: s₂ :: cs => inRange 0 60 [s₁, s₂] && isFraction ends cs
      | cs => ends cs
  | _ => false

/-- A date, a time of day, or both with a `T` or a blank between them. Only both together may have
a distance from universal time. -/
def isMoment (cs : List Char) : Bool :=
  isDate cs || isTime List.isEmpty cs ||
    (isDate (cs.take 10) &&
      match cs.drop 10 with
      | c :: time => (c = 'T' || c = 't' || c = ' ') && isTime isOffset time
      | [] => false)

/-! ## All scalars -/

def isScalar (cs : List Char) : Bool :=
  cs = "true".toList || cs = "false".toList || isRadix cs || isDecimal cs || isFloat cs ||
    isMoment cs

def isScalarChar (c : Char) : Bool :=
  !(['=', ',', '[', ']', '\x7b', '\x7d', ' ', '\t', '#', '\r', '\n'].contains c)

/-- Whether a scalar goes on with a character that stands behind blanks. -/
def continuesScalar (c : Char) : Bool :=
  isScalarChar c && !(['.', '"', '\''].contains c)

/-- What is left behind a scalar. It ends ahead of blanks that nothing of it follows. -/
def skipScalar (cs : List Char) : Rest cs :=
  let word := Rest.dropWhile isScalarChar cs
  let gap := skipBlanks word.items
  if _h : gap.items.length < word.items.length then
    if gap.items.head?.any continuesScalar then
      word.within (gap.within (skipScalar gap.items))
    else word
  else word
termination_by cs.length
decreasing_by grind

def readScalar (cs : List Char) : Option (Rest cs) :=
  let rest := skipScalar cs
  if isScalar (cs.take (cs.length - rest.items.length)) then some rest else none

end ReactBridge.Toml
