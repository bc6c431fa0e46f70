import ReactBridge.Toml.Layout

/-!
# Strings of a TOML document

Between double quotes a backslash escapes, between single ones nothing does. Three quotes instead
of one let a string go on over lines; a line end right behind them is dropped, and up to two
further quotes may stand before the three that close.

* `readBasic`, `readLiteral`: strings on one line, behind their opening quote;
* `readBasicLines`, `readLiteralLines`: strings over lines;
* `readString`: the four kinds.
-/

namespace ReactBridge.Toml

/-! ## Escapes -/

def hexDigit? (c : Char) : Option Nat :=
  if '0' ≤ c && c ≤ '9' then some (c.toNat - '0'.toNat)
  else if 'a' ≤ c && c ≤ 'f' then some (c.toNat - 'a'.toNat + 10)
  else if 'A' ≤ c && c ≤ 'F' then some (c.toNat - 'A'.toNat + 10)
  else none

def hexValue? (digits : List Char) : Option Nat :=
  digits.foldlM (fun value c => (hexDigit? c).map (16 * value + ·)) 0

/-- The character whose code point is given by the next `n` digits. -/
def readCode (n : Nat) (cs : List Char) : Option (Char × Rest cs) := do
  guard ((cs.take n).length = n)
  let code ← hexValue? (cs.take n)
  guard code.isValidChar
  return (Char.ofNat code, Rest.drop n cs)

/-- The characters that a letter behind a backslash stands for. -/
def escapes : List (Char × Char) :=
  [('b', '\x08'), ('t', '\t'), ('n', '\n'), ('f', '\x0c'), ('r', '\r'), ('e', '\x1b'),
    ('"', '"'), ('\\', '\\')]

def readEscape : (cs : List Char) → Option (Char × Rest cs)
  | [] => none
  | 'x' :: cs => (readCode 2 cs).map fun (c, rest) => (c, rest.behind 'x')
  | 'u' :: cs => (readCode 4 cs).map fun (c, rest) => (c, rest.behind 'u')
  | 'U' :: cs => (readCode 8 cs).map fun (c, rest) => (c, rest.behind 'U')
  | letter :: cs => (escapes.lookup letter).map fun c => (c, (Rest.all cs).behind letter)

/-! ## Strings on one line -/

def readBasic (cs : List Char) : Option (List Char × Rest cs) :=
  match cs with
  | [] => none
  | '"' :: cs => some ([], (Rest.all cs).behind '"')
  | '\\' :: cs => do
    let (c, rest) ← readEscape cs
    let (text, last) ← readBasic rest.items
    return (c :: text, (rest.within last).behind '\\')
  | c :: cs =>
    if isControl c then none
    else do
      let (text, last) ← readBasic cs
      return (c :: text, last.behind c)
termination_by cs.length
decreasing_by all_goals grind

def readLiteral : (cs : List Char) → Option (List Char × Rest cs)
  | [] => none
  | '\'' :: cs => some ([], (Rest.all cs).behind '\'')
  | c :: cs =>
    if isControl c then none
    else do
      let (text, last) ← readLiteral cs
      return (c :: text, last.behind c)

/-! ## Strings over lines -/

/-- What is left behind a line end, if one stands right here. -/
def skipFirstLineEnd : (cs : List Char) → Rest cs
  | '\n' :: cs => (Rest.all cs).behind '\n'
  | '\r' :: '\n' :: cs => ((Rest.all cs).behind '\n').behind '\r'
  | cs => Rest.all cs

/-- The quotes at the end of a string over lines that belong to its text, and how many there are
with those that close it. -/
def closingQuotes (quote : Char) (cs : List Char) : Option (List Char × Nat) :=
  match (cs.takeWhile (· = quote)).length with
  | 0 | 1 | 2 => none
  | 3 => some ([], 3)
  | 4 => some ([quote], 4)
  | _ => some ([quote, quote], 5)

/-- What is left behind the spaces and line ends that a backslash hides, if a line ends behind
it. -/
def skipHidden (cs : List Char) : Option (Rest cs) :=
  match (skipBlanks cs).items with
  | '\n' :: _ | '\r' :: '\n' :: _ => some (skipSpace cs)
  | _ => none

def readBasicLines (cs : List Char) : Option (List Char × Rest cs) :=
  match closingQuotes '"' cs with
  | some (text, n) => some (text, Rest.drop n cs)
  | none =>
    match cs with
    | [] => none
    | '\\' :: cs =>
      match skipHidden cs with
      | some rest => do
        let (text, last) ← readBasicLines rest.items
        return (text, (rest.within last).behind '\\')
      | none => do
        let (c, rest) ← readEscape cs
        let (text, last) ← readBasicLines rest.items
        return (c :: text, (rest.within last).behind '\\')
    | '\r' :: '\n' :: cs => do
      let (text, last) ← readBasicLines cs
      return ('\r' :: '\n' :: text, (last.behind '\n').behind '\r')
    | c :: cs =>
      if isControl c && c ≠ '\n' then none
      else do
        let (text, last) ← readBasicLines cs
        return (c :: text, last.behind c)
termination_by cs.length
decreasing_by all_goals grind

def readLiteralLines (cs : List Char) : Option (List Char × Rest cs) :=
  match closingQuotes '\'' cs with
  | some (text, n) => some (text, Rest.drop n cs)
  | none =>
    match cs with
    | [] => none
    | '\r' :: '\n' :: cs => do
      let (text, last) ← readLiteralLines cs
      return ('\r' :: '\n' :: text, (last.behind '\n').behind '\r')
    | c :: cs =>
      if isControl c && c ≠ '\n' then none
      else do
        let (text, last) ← readLiteralLines cs
        return (c :: text, last.behind c)
termination_by cs.length
decreasing_by all_goals grind

/-! ## All strings -/

def readLineString : (cs : List Char) → Option (String × Rest cs)
  | '"' :: cs => (readBasic cs).map fun (text, rest) => (String.ofList text, rest.behind '"')
  | '\'' :: cs => (readLiteral cs).map fun (text, rest) => (String.ofList text, rest.behind '\'')
  | _ => none

def readString (cs : List Char) : Option (String × Rest cs) :=
  if ['"', '"', '"'].isPrefixOf cs then do
    let start := Rest.drop 3 cs
    let first := skipFirstLineEnd start.items
    let (text, last) ← readBasicLines first.items
    return (String.ofList text, start.within (first.within last))
  else if ['\'', '\'', '\''].isPrefixOf cs then do
    let start := Rest.drop 3 cs
    let first := skipFirstLineEnd start.items
    let (text, last) ← readLiteralLines first.items
    return (String.ofList text, start.within (first.within last))
  else readLineString cs

end ReactBridge.Toml
