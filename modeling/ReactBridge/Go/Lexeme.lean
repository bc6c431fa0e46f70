import ReactBridge.Go.Token
import ReactBridge.Text.Alphabetic
import ReactBridge.Text.Classes

/-!
# Lexemes and tokens of a source text

A text is cut into layout and tokens. Layout carries one meaning: behind a token that can end a
statement, the first line end, or the end of the text, stands for a semicolon. A comment that spans
lines counts as a line end at its own start.

* `Lexeme.next`: the lexeme that starts at a character, and what follows it;
* `Lexeme.scan`: the lexemes of a whole text, or the first `LexError`;
* `next_append`, `next_ne_nil`: a lexeme is a non-empty start of the text, so the scan ends;
* `Lexeme.tokens`: the tokens of a sequence of lexemes, with their positions;
* `tokenize`: the tokens of a source text, of which the last is the end of the file.
-/

namespace ReactBridge.Go

def isNameStart (c : Char) : Bool :=
  c = '_' || Text.isAlphabetic c

def isNamePart (c : Char) : Bool :=
  c = '_' || (Text.isAlphabetic c || Text.isNumeric c)

/-- How many bytes a stretch of text takes. -/
def width : List Char → Nat
  | [] => 0
  | c :: cs => c.utf8Size + width cs

/-- What is wrong with a text that is no sequence of lexemes. -/
inductive LexError.Cause where
  | unterminatedString
  | unterminatedRawString
  | unterminatedRune
  | unterminatedComment
  | unexpectedCharacter (c : Char)
deriving DecidableEq, Repr

def LexError.Cause.message : LexError.Cause → String
  | unterminatedString => "unterminated string literal"
  | unterminatedRawString => "unterminated raw string literal"
  | unterminatedRune => "unterminated rune literal"
  | unterminatedComment => "unterminated block comment"
  | unexpectedCharacter c => "unexpected character `" ++ c.toString ++ "`"

structure LexError where
  cause : LexError.Cause
  span : Span
deriving DecidableEq, Repr

inductive Lexeme where
  /-- A blank, a line end or a comment. -/
  | layout (text : List Char)
  | token (kind : Token.Kind) (text : List Char)
deriving DecidableEq, Repr

namespace Lexeme

def text : Lexeme → List Char
  | layout text => text
  | token _ text => text

/-- A text that starts no lexeme: the cause, and how much of the text it covers. -/
structure Fault where
  cause : LexError.Cause
  text : List Char

/-! ## The parts of long lexemes -/

/-- Cuts behind the first `*/`. -/
def cutComment : List Char → Option (List Char × List Char)
  | [] => none
  | '*' :: '/' :: cs => some (['*', '/'], cs)
  | c :: cs => (cutComment cs).map fun (text, rest) => (c :: text, rest)

def cutRaw : List Char → Option (List Char × List Char)
  | [] => none
  | c :: cs =>
    if c.toNat = 0x60 then some ([c], cs)
    else (cutRaw cs).map fun (text, rest) => (c :: text, rest)

/-- Cuts behind the first `quote` that no backslash escapes. A line end ahead of it, unless
escaped, or the end of the text is a fault that covers all that was read. -/
def cutQuoted (quote : Char) : List Char → Except (List Char) (List Char × List Char)
  | [] => .error []
  | ['\\'] => .error ['\\']
  | '\\' :: c :: cs =>
    match cutQuoted quote cs with
    | .ok (text, rest) => .ok ('\\' :: c :: text, rest)
    | .error text => .error ('\\' :: c :: text)
  | c :: cs =>
    if c = quote then .ok ([c], cs)
    else if c = '\n' then .error [c]
    else
      match cutQuoted quote cs with
      | .ok (text, rest) => .ok (c :: text, rest)
      | .error text => .error (c :: text)

/-- Whether a number goes on with `c` behind `last`. A sign belongs to the number directly behind
the letter of an exponent; `e` is no such letter in a hexadecimal number. -/
def numberContinues (hex : Bool) (last c : Char) : Bool :=
  c.isAlphanum || c = '_' || c = '.' ||
    ((c = '+' || c = '-') && (last = 'p' || last = 'P' || (!hex && (last = 'e' || last = 'E'))))

/-- Cuts where a number whose last character so far is `last` ends. -/
def cutNumber (hex : Bool) (last : Char) : List Char → List Char × List Char
  | [] => ([], [])
  | c :: cs =>
    if numberContinues hex last c then (c :: (cutNumber hex c cs).1, (cutNumber hex c cs).2)
    else ([], c :: cs)

/-- Whether `c` and what follows start a hexadecimal number. -/
def startsHex (c : Char) (cs : List Char) : Bool :=
  c = '0' && (cs.head? = some 'x' || cs.head? = some 'X')

/-! ## One lexeme -/

def wordKind (word : List Char) : Token.Kind :=
  match Keyword.ofWord? (String.ofList word) with
  | some keyword => .keyword keyword
  | none => .ident (String.ofList word)

/-- The longest operator that `c :: cs` starts with. -/
def operator? (c : Char) (cs : List Char) : Option (String × Token.Kind) :=
  Token.Kind.operators.find? fun entry => entry.1.toList.isPrefixOf (c :: cs)

/-- A quoted literal whose opening quote is `quote`. -/
def quoted (kind : LiteralKind) (cause : LexError.Cause) (quote : Char) (cs : List Char) :
    Except Fault (Lexeme × List Char) :=
  match cutQuoted quote cs with
  | .ok (text, rest) => .ok (token (.literal kind) (quote :: text), rest)
  | .error text => .error ⟨cause, quote :: text⟩

/-- The lexeme that starts at `c`, with `cs` behind it, and what follows the lexeme. -/
def next (c : Char) (cs : List Char) : Except Fault (Lexeme × List Char) :=
  if c = '\n' || c = ' ' || c = '\t' || c = '\r' then
    .ok (layout [c], cs)
  else if c = '/' && cs.head? = some '/' then
    .ok (layout (c :: cs.takeWhile (· ≠ '\n')), cs.dropWhile (· ≠ '\n'))
  else if c = '/' && cs.head? = some '*' then
    match cutComment cs.tail with
    | some (text, rest) => .ok (layout ('/' :: '*' :: text), rest)
    | none => .error ⟨.unterminatedComment, c :: cs⟩
  else if c = '"' then
    quoted .string .unterminatedString c cs
  else if c.toNat = 0x60 then
    match cutRaw cs with
    | some (text, rest) => .ok (token (.literal .rawString) (c :: text), rest)
    | none => .error ⟨.unterminatedRawString, c :: cs⟩
  else if c = '\'' then
    quoted .rune .unterminatedRune c cs
  else if c.isDigit || (c = '.' && cs.head?.any Char.isDigit) then
    let (text, rest) := cutNumber (startsHex c cs) c cs
    .ok (token (.literal .number) (c :: text), rest)
  else if isNameStart c then
    let word := c :: cs.takeWhile isNamePart
    .ok (token (wordKind word) word, cs.dropWhile isNamePart)
  else
    match operator? c cs with
    | some (text, kind) => .ok (token kind text.toList, (c :: cs).drop text.length)
    | none => .error ⟨.unexpectedCharacter c, [c]⟩

/-! ## A lexeme is a non-empty start of the text -/

theorem cutComment_append {cs text rest : List Char} (h : cutComment cs = some (text, rest)) :
    text ++ rest = cs := by
  fun_induction cutComment cs generalizing text with
  | case1 => simp at h
  | case2 cs =>
    obtain ⟨rfl, rfl⟩ : ['*', '/'] = text ∧ cs = rest := by simpa using h
    rfl
  | case3 c cs _ ih =>
    obtain ⟨⟨t, r⟩, hcut, heq⟩ := Option.map_eq_some_iff.mp h
    obtain ⟨rfl, rfl⟩ : c :: t = text ∧ r = rest := by simpa using heq
    simp [ih hcut]

theorem cutRaw_append {cs text rest : List Char} (h : cutRaw cs = some (text, rest)) :
    text ++ rest = cs := by
  fun_induction cutRaw cs generalizing text with
  | case1 => simp at h
  | case2 c cs =>
    obtain ⟨rfl, rfl⟩ : [c] = text ∧ cs = rest := by simpa using h
    rfl
  | case3 c cs _ ih =>
    obtain ⟨⟨t, r⟩, hcut, heq⟩ := Option.map_eq_some_iff.mp h
    obtain ⟨rfl, rfl⟩ : c :: t = text ∧ r = rest := by simpa using heq
    simp [ih hcut]

theorem cutQuoted_append {quote : Char} {cs text rest : List Char}
    (h : cutQuoted quote cs = .ok (text, rest)) : text ++ rest = cs := by
  fun_induction cutQuoted quote cs generalizing text with
  | case1 | case2 | case4 | case6 | case8 => simp at h
  | case3 c cs t r hcut ih =>
    obtain ⟨rfl, rfl⟩ : '\\' :: c :: t = text ∧ r = rest := by simpa using h
    simp [ih hcut]
  | case5 cs =>
    obtain ⟨rfl, rfl⟩ : [quote] = text ∧ cs = rest := by simpa using h
    rfl
  | case7 c cs _ _ _ _ t r hcut ih =>
    obtain ⟨rfl, rfl⟩ : c :: t = text ∧ r = rest := by simpa using h
    simp [ih hcut]

theorem cutNumber_append (hex : Bool) (last : Char) (cs : List Char) :
    (cutNumber hex last cs).1 ++ (cutNumber hex last cs).2 = cs := by
  fun_induction cutNumber hex last cs with
  | case1 => rfl
  | case2 last c cs _ ih => simp [ih]
  | case3 => rfl

theorem quoted_append {kind : LiteralKind} {cause : LexError.Cause} {quote : Char}
    {cs rest : List Char} {lexeme : Lexeme} (h : quoted kind cause quote cs = .ok (lexeme, rest)) :
    lexeme.text ++ rest = quote :: cs ∧ lexeme.text ≠ [] := by
  unfold quoted at h
  split at h
  · next t r hcut =>
    obtain ⟨rfl, rfl⟩ : token (.literal kind) (quote :: t) = lexeme ∧ r = rest := by simpa using h
    simp [text, cutQuoted_append hcut]
  · simp at h

theorem operator?_append {c : Char} {cs : List Char} {text : String} {kind : Token.Kind}
    (h : operator? c cs = some (text, kind)) :
    text.toList ++ (c :: cs).drop text.length = c :: cs ∧ text.toList ≠ [] := by
  have hstart : text.toList <+: c :: cs := by simpa using List.find?_some h
  have hne : ∀ entry ∈ Token.Kind.operators, entry.1.toList ≠ [] := by decide
  obtain ⟨rest, hrest⟩ := hstart
  refine ⟨?_, hne _ (List.mem_of_find?_eq_some h)⟩
  rw [← hrest, ← String.length_toList, List.drop_left]

/-- A lexeme and what follows it are the text that it was read from, and it is not empty. -/
theorem next_append {c : Char} {cs rest : List Char} {lexeme : Lexeme}
    (h : next c cs = .ok (lexeme, rest)) : lexeme.text ++ rest = c :: cs ∧ lexeme.text ≠ [] := by
  simp only [next] at h
  split at h
  · obtain ⟨rfl, rfl⟩ : layout [c] = lexeme ∧ cs = rest := by simpa using h
    simp [text]
  split at h
  · injection h with h
    obtain ⟨rfl, rfl⟩ := Prod.mk.inj h
    simp [text]
  split at h
  · next hc =>
    split at h
    · next t r hcut =>
      obtain ⟨rfl, rfl⟩ : layout ('/' :: '*' :: t) = lexeme ∧ r = rest := by simpa using h
      obtain ⟨rfl, hhead⟩ : c = '/' ∧ cs.head? = some '*' := by simpa using hc
      obtain ⟨tail, rfl⟩ := List.head?_eq_some_iff.mp hhead
      simpa [text] using cutComment_append hcut
    · simp at h
  split at h
  · exact quoted_append h
  split at h
  · split at h
    · next t r hcut =>
      obtain ⟨rfl, rfl⟩ : token (.literal .rawString) (c :: t) = lexeme ∧ r = rest := by
        simpa using h
      simpa [text] using cutRaw_append hcut
    · simp at h
  split at h
  · exact quoted_append h
  split at h
  · injection h with h
    obtain ⟨rfl, rfl⟩ := Prod.mk.inj h
    simp [text, cutNumber_append]
  split at h
  · injection h with h
    obtain ⟨rfl, rfl⟩ := Prod.mk.inj h
    simp [text]
  split at h
  · next t kind hop =>
    obtain ⟨rfl, rfl⟩ : token kind t.toList = lexeme ∧ (c :: cs).drop t.length = rest := by
      simpa using h
    exact operator?_append hop
  · simp at h

theorem next_length {c : Char} {cs rest : List Char} {lexeme : Lexeme}
    (h : next c cs = .ok (lexeme, rest)) : rest.length < (c :: cs).length := by
  obtain ⟨happend, hne⟩ := next_append h
  have := congrArg List.length happend
  have := List.length_pos_iff.mpr hne
  simp only [List.length_append] at *
  omega

/-! ## The lexemes of a text -/

/-- The lexemes of a text that starts `offset` bytes into its source. -/
def scan (offset : Nat) : List Char → Except LexError (List Lexeme)
  | [] => .ok []
  | c :: cs =>
    match _h : next c cs with
    | .error fault => .error ⟨fault.cause, offset, offset + width fault.text⟩
    | .ok (lexeme, rest) =>
      match scan (offset + width lexeme.text) rest with
      | .error e => .error e
      | .ok lexemes => .ok (lexeme :: lexemes)
  termination_by cs => cs.length
  decreasing_by exact next_length _h

end Lexeme

/-! ## Tokens -/

/-- The semicolon that a line end at `offset` stands for, if a statement `ends` there. -/
def impliedSemicolon (ends : Bool) (offset : Nat) : List Token :=
  if ends then [⟨.semicolon, offset, offset⟩] else []

namespace Lexeme

/-- The tokens of lexemes that start `offset` bytes into their source; `ends` tells whether the
token ahead of them ends a statement at a line end. -/
def tokens (offset : Nat) (ends : Bool) : List Lexeme → List Token
  | [] => impliedSemicolon ends offset ++ [⟨.endOfFile, offset, offset⟩]
  | layout text :: lexemes =>
    if '\n' ∈ text then
      impliedSemicolon ends offset ++ tokens (offset + width text) false lexemes
    else tokens (offset + width text) ends lexemes
  | token kind text :: lexemes =>
    ⟨kind, offset, offset + width text⟩ :: tokens (offset + width text) kind.endsLine lexemes

end Lexeme

def tokenize (source : String) : Except LexError (List Token) :=
  (Lexeme.scan 0 source.toList).map (Lexeme.tokens 0 false)

end ReactBridge.Go
