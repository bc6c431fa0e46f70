import Mathlib.Data.List.Chain
import ReactBridge.Go.Lexeme

/-!
# The lexical grammar

Which texts a lexeme can have, said without the functions that cut it out.

* `IsIdentifier`: names of declarations;
* `QuotedBody`, `NumberChain`: the long literals;
* `Token.Kind.Spells` : the texts of a token of a given kind;
* `Layout.Element`, `Layout` : blanks, line ends and comments, ahead of a given text;
* `Token.Kind.EndsAhead` : where a token has to stop;
* `cutQuoted_eq_ok_iff`, `cutComment_eq_some_iff`, `cutRaw_eq_some_iff`, `cutNumber_eq_iff` : the
  parts that a lexeme is cut from.
-/

namespace ReactBridge.Go

/-! ## Texts of tokens -/

/-- A name that can be declared: no reserved word, and built like a word. -/
structure IsIdentifier (name : String) : Prop where
  starts : name.toList.head?.any isNameStart = true
  continues : ∀ c ∈ name.toList.tail, isNamePart c = true
  unreserved : Keyword.ofWord? name = none

instance : DecidablePred IsIdentifier := fun name =>
  decidable_of_iff (name.toList.head?.any isNameStart = true ∧
      name.toList.tail.all isNamePart = true ∧ Keyword.ofWord? name = none)
    ⟨fun ⟨starts, continues, unreserved⟩ => ⟨starts, List.all_eq_true.1 continues, unreserved⟩,
      fun ⟨starts, continues, unreserved⟩ => ⟨starts, List.all_eq_true.2 continues, unreserved⟩⟩

theorem IsIdentifier.ne_empty {name : String} (h : IsIdentifier name) : name ≠ "" := by
  rintro rfl
  exact absurd h.starts (by decide)

theorem IsIdentifier.isNamePart {name : String} (h : IsIdentifier name) :
    ∀ c ∈ name.toList, isNamePart c = true := by
  have hstarts := h.starts
  have hcontinues := h.continues
  cases hchars : name.toList with
  | nil => nofun
  | cons c cs =>
    rw [hchars, List.head?_cons, Option.any_some] at hstarts
    rw [hchars, List.tail_cons] at hcontinues
    refine List.forall_mem_cons.2 ⟨?_, hcontinues⟩
    rw [isNameStart, Bool.or_eq_true] at hstarts
    rw [Go.isNamePart, Bool.or_eq_true, Bool.or_eq_true]
    exact hstarts.imp id .inl

/-- What may follow the opening quote of a literal, up to its closing quote, inclusive: a backslash
takes the next character with it, and no line ends outside of such a pair. -/
inductive QuotedBody (quote : Char) : List Char → Prop
  | close : QuotedBody quote [quote]
  | escape (c : Char) {cs : List Char} (body : QuotedBody quote cs) :
      QuotedBody quote ('\\' :: c :: cs)
  | plain {c : Char} {cs : List Char} (inside : c ≠ quote) (unescaped : c ≠ '\\')
      (inLine : c ≠ '\n') (body : QuotedBody quote cs) : QuotedBody quote (c :: cs)

/-- Whether a number starts here: a digit, or a point ahead of one. -/
def startsNumber : List Char → Bool
  | [] => false
  | c :: cs => c.isDigit || (c = '.' && cs.head?.any Char.isDigit)

def startsComment : List Char → Bool
  | [] => false
  | c :: cs => c = '/' && (cs.head? = some '/' || cs.head? = some '*')

/-- Whether the text is written in hexadecimal digits, if it is a number. -/
def isHex : List Char → Bool
  | [] => false
  | c :: cs => Lexeme.startsHex c cs

/-- Each character carries on the number that the ones before it are. -/
def NumberChain (hex : Bool) (text : List Char) : Prop :=
  List.IsChain (fun last c => Lexeme.numberContinues hex last c = true) text

def rawQuote : Char :=
  '\x60'

/-- The texts that a token of a kind can have. An implied semicolon and the end of the file have
none. -/
def Token.Kind.Spells : Token.Kind → List Char → Prop
  | ident name, text => String.ofList text = name ∧ IsIdentifier name
  | keyword word, text => Keyword.ofWord? (String.ofList text) = some word
  | literal .number, text => startsNumber text = true ∧ NumberChain (isHex text) text
  | literal .string, text => ∃ body, text = '"' :: body ∧ QuotedBody '"' body
  | literal .rune, text => ∃ body, text = '\'' :: body ∧ QuotedBody '\'' body
  | literal .rawString, text =>
    ∃ body, text = rawQuote :: (body ++ [rawQuote]) ∧ rawQuote ∉ body
  | kind, text => (String.ofList text, kind) ∈ operators

/-- Whether a token of a kind and with a text is done where `after` follows: a word ahead of what is
no part of a name, a number ahead of what does not carry it on, and an operator where no longer one
starts. A literal in quotes ends by itself. -/
def Token.Kind.EndsAhead : Token.Kind → (text after : List Char) → Prop
  | ident _, _, after | keyword _, _, after => ∀ c ∈ after.head?, isNamePart c = false
  | literal .number, text, after =>
    ∀ last ∈ text.getLast?, ∀ c ∈ after.head?, Lexeme.numberContinues (isHex text) last c = false
  | literal _, _, _ => True
  | _, text, after =>
    (∀ entry ∈ operators, entry.1.toList <+: text ++ after → entry.1.length ≤ text.length) ∧
      startsComment (text ++ after) = false ∧ startsNumber (text ++ after) = false

namespace Token.Kind

def isOperator : Kind → Bool
  | ident _ | keyword _ | literal _ => false
  | _ => true

theorem spells_iff_mem_operators {kind : Kind} (h : kind.isOperator = true) (text : List Char) :
    kind.Spells text ↔ (String.ofList text, kind) ∈ operators := by
  cases kind <;> first | rfl | cases h

theorem endsAhead_iff_of_isOperator {kind : Kind} (h : kind.isOperator = true)
    (text after : List Char) :
    kind.EndsAhead text after ↔
      (∀ entry ∈ operators, entry.1.toList <+: text ++ after → entry.1.length ≤ text.length) ∧
        startsComment (text ++ after) = false ∧ startsNumber (text ++ after) = false := by
  cases kind <;> first | rfl | cases h

theorem isOperator_of_mem_operators : ∀ entry ∈ operators, entry.2.isOperator = true := by
  decide

end Token.Kind

/-! ## Layout -/

/-- One blank, line end or comment, ahead of `after`. A line comment reaches up to the line end, and
a block comment up to the first end mark behind its start mark. -/
inductive Layout.Element : (text after : List Char) → Prop
  | blank {c : Char} {after : List Char} (h : c = '\n' ∨ c = ' ' ∨ c = '\t' ∨ c = '\r') :
      Layout.Element [c] after
  | lineComment {body after : List Char} (inLine : '\n' ∉ body) (ends : ∀ c ∈ after.head?, c = '\n') :
      Layout.Element ('/' :: '/' :: body) after
  | blockComment {body after : List Char} (first : ¬ ['*', '/'] <:+: body ++ ['*']) :
      Layout.Element ('/' :: '*' :: (body ++ ['*', '/'])) after

/-- Elements of layout one behind the other, ahead of `after`. -/
inductive Layout : (text after : List Char) → Prop
  | nil {after : List Char} : Layout [] after
  | cons {text more after : List Char} (head : Layout.Element text (more ++ after))
      (tail : Layout more after) : Layout (text ++ more) after

/-! ## Parts of lexemes -/

namespace Lexeme

theorem cutQuoted_eq_ok_iff {quote : Char} (hquote : quote ≠ '\\') {cs text rest : List Char} :
    cutQuoted quote cs = .ok (text, rest) ↔ text ++ rest = cs ∧ QuotedBody quote text := by
  constructor
  · intro h
    refine ⟨cutQuoted_append h, ?_⟩
    fun_induction cutQuoted quote cs generalizing text with
    | case1 | case2 | case4 | case6 | case8 => simp at h
    | case3 c cs t r hcut ih =>
      obtain ⟨rfl, rfl⟩ : '\\' :: c :: t = text ∧ r = rest := by simpa using h
      exact .escape c (ih hcut)
    | case5 cs =>
      obtain ⟨rfl, rfl⟩ : [quote] = text ∧ cs = rest := by simpa using h
      exact .close
    | case7 c cs hescape hlast hc hline t r hcut ih =>
      obtain ⟨rfl, rfl⟩ : c :: t = text ∧ r = rest := by simpa using h
      refine .plain hc ?_ hline (ih hcut)
      rintro rfl
      cases cs with
      | nil => exact hescape rfl rfl
      | cons d cs => exact hlast d cs rfl rfl
  · rintro ⟨rfl, hbody⟩
    induction hbody with
    | close =>
      rw [List.singleton_append, cutQuoted, if_pos rfl]
      · exact fun h _ => hquote h
      · exact fun _ _ h _ => hquote h
    | escape c body ih => rw [List.cons_append, List.cons_append, cutQuoted, ih]
    | plain hc hescape hline body ih =>
      rw [List.cons_append, cutQuoted, if_neg hc, if_neg hline, ih]
      · exact fun h _ => hescape h
      · exact fun _ _ h _ => hescape h

theorem toNat_eq_iff_rawQuote (c : Char) : c.toNat = 0x60 ↔ c = rawQuote := by
  rw [← Char.toNat_inj]
  rfl

theorem cutRaw_eq_some_iff {cs text rest : List Char} :
    cutRaw cs = some (text, rest) ↔
      text ++ rest = cs ∧ ∃ body, text = body ++ [rawQuote] ∧ rawQuote ∉ body := by
  constructor
  · intro h
    refine ⟨cutRaw_append h, ?_⟩
    fun_induction cutRaw cs generalizing text with
    | case1 => simp at h
    | case2 c cs hc =>
      obtain ⟨rfl, rfl⟩ : [c] = text ∧ cs = rest := by simpa using h
      exact ⟨[], by simp [(toNat_eq_iff_rawQuote c).1 hc], by simp⟩
    | case3 c cs hc ih =>
      obtain ⟨⟨t, r⟩, hcut, heq⟩ := Option.map_eq_some_iff.mp h
      obtain ⟨rfl, rfl⟩ : c :: t = text ∧ r = rest := by simpa using heq
      obtain ⟨body, rfl, hbody⟩ := ih hcut
      refine ⟨c :: body, rfl, ?_⟩
      rw [List.mem_cons, not_or]
      exact ⟨fun h => hc ((toNat_eq_iff_rawQuote c).2 h.symm), hbody⟩
  · rintro ⟨rfl, body, rfl, hbody⟩
    induction body with
    | nil => rfl
    | cons c body ih =>
      rw [List.mem_cons, not_or] at hbody
      have hc : ¬ c.toNat = 0x60 := fun h => hbody.1 ((toNat_eq_iff_rawQuote c).1 h).symm
      simp only [List.cons_append, cutRaw, if_neg hc, ih hbody.2, Option.map_some]

/-- The end mark of a comment stands in front, or further on. -/
theorem endMark_infix_cons_iff {c : Char} {cs : List Char} :
    ['*', '/'] <:+: c :: cs ↔ (c = '*' ∧ cs.head? = some '/') ∨ ['*', '/'] <:+: cs := by
  rw [List.infix_cons_iff, List.cons_prefix_cons, @eq_comm _ '*' c]
  cases cs <;> simp [@eq_comm _ '/']

theorem cutComment_eq_some_iff {cs text rest : List Char} :
    cutComment cs = some (text, rest) ↔
      text ++ rest = cs ∧
        ∃ body, text = body ++ ['*', '/'] ∧ ¬ ['*', '/'] <:+: body ++ ['*'] := by
  constructor
  · intro h
    refine ⟨cutComment_append h, ?_⟩
    fun_induction cutComment cs generalizing text with
    | case1 => simp at h
    | case2 cs =>
      obtain ⟨rfl, rfl⟩ : ['*', '/'] = text ∧ cs = rest := by simpa using h
      exact ⟨[], rfl, by decide⟩
    | case3 c cs hend ih =>
      obtain ⟨⟨t, r⟩, hcut, heq⟩ := Option.map_eq_some_iff.mp h
      obtain ⟨rfl, rfl⟩ : c :: t = text ∧ r = rest := by simpa using heq
      obtain ⟨body, rfl, hbody⟩ := ih hcut
      refine ⟨c :: body, rfl, ?_⟩
      rw [List.cons_append, endMark_infix_cons_iff, not_or]
      refine ⟨?_, hbody⟩
      rintro ⟨rfl, hhead⟩
      have happend := cutComment_append hcut
      cases body with
      | nil => simp at hhead
      | cons d body =>
        obtain rfl : d = '/' := by simpa using hhead
        exact hend _ rfl happend.symm
  · rintro ⟨rfl, body, rfl, hbody⟩
    induction body with
    | nil => rfl
    | cons c body ih =>
      rw [List.cons_append, endMark_infix_cons_iff, not_or] at hbody
      rw [List.cons_append, List.cons_append, cutComment, ih hbody.2]
      · rfl
      · intro tail hc htail
        refine hbody.1 ⟨hc, ?_⟩
        cases body with
        | nil => simp at htail
        | cons d body => simpa using (List.cons.inj htail).1

theorem cutNumber_eq_iff {hex : Bool} {last : Char} {cs text rest : List Char} :
    cutNumber hex last cs = (text, rest) ↔
      text ++ rest = cs ∧ NumberChain hex (last :: text) ∧
        ∀ l ∈ (last :: text).getLast?, ∀ c ∈ rest.head?, numberContinues hex l c = false := by
  induction cs generalizing last text with
  | nil =>
    simp only [cutNumber, Prod.mk.injEq, List.append_eq_nil_iff]
    constructor
    · rintro ⟨rfl, rfl⟩
      exact ⟨⟨rfl, rfl⟩, List.isChain_singleton _, by simp⟩
    · rintro ⟨⟨rfl, rfl⟩, -, -⟩
      exact ⟨rfl, rfl⟩
  | cons c cs ih =>
    by_cases hc : numberContinues hex last c = true
    · simp only [cutNumber, if_pos hc]
      constructor
      · intro h
        obtain ⟨rfl, hrest⟩ := Prod.mk.inj h
        obtain ⟨happend, hchain, hlast⟩ := (@ih c _).1 (Prod.ext rfl hrest)
        refine ⟨congrArg (c :: ·) happend, .cons_cons hc hchain, ?_⟩
        rwa [List.getLast?_cons_cons]
      · rintro ⟨happend, hchain, hlast⟩
        cases text with
        | nil =>
          obtain rfl : rest = c :: cs := happend
          simp [hc] at hlast
        | cons d text =>
          obtain ⟨rfl, htail⟩ := List.cons.inj happend
          rw [List.getLast?_cons_cons] at hlast
          have hcut := (@ih d _).2 ⟨htail, (List.isChain_cons_cons.1 hchain).2, hlast⟩
          rw [hcut]
    · simp only [cutNumber, if_neg hc, Prod.mk.injEq]
      constructor
      · rintro ⟨rfl, rfl⟩
        exact ⟨rfl, List.isChain_singleton _, by simpa using hc⟩
      · rintro ⟨happend, hchain, -⟩
        cases text with
        | nil => exact ⟨rfl, happend.symm⟩
        | cons d text =>
          obtain ⟨rfl, -⟩ := List.cons.inj happend
          exact absurd (List.isChain_cons_cons.1 hchain).1 hc

end Lexeme

end ReactBridge.Go
