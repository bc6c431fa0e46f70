import Mathlib.Data.List.DropRight
import ReactBridge.Proofs.Go.LexicalError

/-!
# Literals in quotes

A literal ends at the first quote that is not escaped, and is given up at the first line end that is
not. What is escaped is told by the backslashes right ahead of it. A line end can be escaped too, so
a literal goes on in the next line behind one.

* `escapes front` : what follows a text is escaped;
* `Inside quote text` : a text without a quote and without a line end, but for escaped ones;
* `quotedBody_iff`, `unclosedBody_iff` : what a literal is cut from, said with these;
* `tokenize_quoted` : the literals of a source, and where one is given up.
-/

namespace ReactBridge.Go

/-! ## Escapes -/

/-- Whether a character behind the text is escaped: an odd number of backslashes stands there. -/
def escapes (front : List Char) : Bool :=
  (front.rtakeWhile (· = '\\')).length % 2 = 1

theorem escapes_concat (front : List Char) (c : Char) :
    escapes (front ++ [c]) = (decide (c = '\\') && !escapes front) := by
  rw [escapes, List.rtakeWhile_concat]
  by_cases hc : c = '\\'
  · rw [if_pos (decide_eq_true hc), decide_eq_true hc, Bool.true_and, escapes, Bool.eq_iff_iff]
    simp only [List.length_append, List.length_singleton, decide_eq_true_eq, Bool.not_eq_true',
      decide_eq_false_iff_not]
    omega
  · rw [if_neg (by rwa [decide_eq_true_eq]), decide_eq_false hc]
    rfl

/-- Read from the left, a backslash escapes what follows it unless it is escaped itself. -/
theorem escapes_eq_foldl (front : List Char) :
    escapes front = front.foldl (fun escaped c => decide (c = '\\') && !escaped) false := by
  induction front using List.reverseRecOn with
  | nil => rfl
  | append_singleton front c ih => rw [escapes_concat, List.foldl_concat, ih]

theorem escapes_pair (c : Char) (front : List Char) :
    escapes ('\\' :: c :: front) = escapes front := by
  rw [escapes_eq_foldl, escapes_eq_foldl]
  simp

theorem escapes_cons {c : Char} (hc : c ≠ '\\') (front : List Char) :
    escapes (c :: front) = escapes front := by
  rw [escapes_eq_foldl, escapes_eq_foldl]
  simp [hc]

/-- A text is empty or a lone backslash, or starts with an escape or with another character. -/
theorem escape_induction {motive : List Char → Prop} (nil : motive []) (last : motive ['\\'])
    (pair : ∀ c text, motive text → motive ('\\' :: c :: text))
    (plain : ∀ c text, c ≠ '\\' → motive text → motive (c :: text)) : ∀ text, motive text
  | [] => nil
  | [c] => by
    by_cases hc : c = '\\'
    · exact hc ▸ last
    · exact plain c [] hc nil
  | c :: d :: text => by
    by_cases hc : c = '\\'
    · exact hc ▸ pair d text (escape_induction nil last pair plain text)
    · exact plain c (d :: text) hc (escape_induction nil last pair plain (d :: text))

/-! ## Texts inside of quotes -/

/-- Whether neither the quote nor a line end stands in a text, but for escaped ones. -/
def Inside (quote : Char) (text : List Char) : Prop :=
  ∀ front c back, text = front ++ c :: back → c = quote ∨ c = '\n' → escapes front = true

/-- Whether a text fills a literal: the quote behind it is the first that closes it. -/
@[mk_iff]
structure Fills (quote : Char) (text : List Char) : Prop where
  inside : Inside quote text
  unescaped : escapes text = false

variable {quote : Char}

theorem inside_nil (quote : Char) : Inside quote [] := by
  intro front c back h
  simp at h

theorem inside_last (hquote : quote ≠ '\\') : Inside quote ['\\'] := by
  intro front c back h hc
  cases front with
  | nil =>
    obtain ⟨rfl, -⟩ := List.cons.inj h
    rcases hc with rfl | hc
    · exact absurd rfl hquote
    · cases hc
  | cons x front => simp at h

theorem inside_pair (hquote : quote ≠ '\\') {c : Char} {text : List Char} :
    Inside quote ('\\' :: c :: text) ↔ Inside quote text := by
  constructor
  · rintro h front d back rfl hd
    rw [← escapes_pair c front]
    exact h ('\\' :: c :: front) d back rfl hd
  · intro h front d back heq hd
    -- A mark is no backslash, so it is the character behind that, or stands behind the pair.
    rcases front with - | ⟨x, - | ⟨y, front⟩⟩
    · obtain ⟨rfl, -⟩ := List.cons.inj heq
      rcases hd with rfl | hd
      · exact absurd rfl hquote
      · cases hd
    · obtain ⟨rfl, -⟩ := List.cons.inj heq
      rfl
    · obtain ⟨rfl, htail⟩ := List.cons.inj heq
      obtain ⟨rfl, hrest⟩ := List.cons.inj htail
      rw [escapes_pair]
      exact h front d back hrest hd

theorem inside_cons {c : Char} (hc : c ≠ '\\') {text : List Char} :
    Inside quote (c :: text) ↔ (c ≠ quote ∧ c ≠ '\n') ∧ Inside quote text := by
  constructor
  · intro h
    refine ⟨?_, ?_⟩
    · rw [← not_or]
      intro hmark
      cases h [] c text rfl hmark
    · rintro front d back rfl hd
      rw [← escapes_cons hc front]
      exact h (c :: front) d back rfl hd
  · rintro ⟨hplain, h⟩ front d back heq hd
    cases front with
    | nil =>
      obtain ⟨rfl, -⟩ := List.cons.inj heq
      exact absurd hd (not_or.2 hplain)
    | cons x front =>
      obtain ⟨rfl, htail⟩ := List.cons.inj heq
      rw [escapes_cons hc]
      exact h front d back htail hd

theorem fills_pair (hquote : quote ≠ '\\') {c : Char} {text : List Char} :
    Fills quote ('\\' :: c :: text) ↔ Fills quote text := by
  rw [fills_iff, fills_iff, inside_pair hquote, escapes_pair]

theorem fills_cons {c : Char} (hc : c ≠ '\\') {text : List Char} :
    Fills quote (c :: text) ↔ (c ≠ quote ∧ c ≠ '\n') ∧ Fills quote text := by
  rw [fills_iff, fills_iff, inside_cons hc, escapes_cons hc, and_assoc]

/-! ## Bodies of literals -/

/-- A literal goes up to the first quote that is not escaped. -/
theorem quotedBody_iff (hquote : quote ≠ '\\') {text : List Char} :
    QuotedBody quote text ↔ ∃ body, text = body ++ [quote] ∧ Fills quote body := by
  constructor
  · intro h
    induction h with
    | close => exact ⟨[], rfl, inside_nil quote, rfl⟩
    | escape c _ ih =>
      obtain ⟨body, rfl, hbody⟩ := ih
      exact ⟨'\\' :: c :: body, rfl, (fills_pair hquote).2 hbody⟩
    | @plain c _ inside unescaped inLine _ ih =>
      obtain ⟨body, rfl, hbody⟩ := ih
      exact ⟨c :: body, rfl, (fills_cons unescaped).2 ⟨⟨inside, inLine⟩, hbody⟩⟩
  · rintro ⟨body, rfl, hbody⟩
    induction body using escape_induction with
    | nil => exact .close
    | last => cases hbody.unescaped
    | pair c body ih => exact .escape c (ih ((fills_pair hquote).1 hbody))
    | plain c body hc ih =>
      obtain ⟨⟨hinside, hline⟩, hbody⟩ := (fills_cons hc).1 hbody
      exact .plain hinside hc hline (ih hbody)

/-- A literal is given up behind the first line end that is not escaped, or else where the text
ends. -/
theorem unclosedBody_iff (hquote : quote ≠ '\\') {text after : List Char} :
    UnclosedBody quote text after ↔
      (∃ body, text = body ++ ['\n'] ∧ Fills quote body) ∨ Inside quote text ∧ after = [] := by
  constructor
  · intro h
    induction h with
    | lineEnd => exact .inl ⟨[], rfl, inside_nil quote, rfl⟩
    | textEnd => exact .inr ⟨inside_nil quote, rfl⟩
    | lastEscape => exact .inr ⟨inside_last hquote, rfl⟩
    | escape c _ ih =>
      rcases ih with ⟨body, rfl, hbody⟩ | ⟨hbody, rfl⟩
      · exact .inl ⟨'\\' :: c :: body, rfl, (fills_pair hquote).2 hbody⟩
      · exact .inr ⟨(inside_pair hquote).2 hbody, rfl⟩
    | @plain c _ _ inside unescaped inLine _ ih =>
      rcases ih with ⟨body, rfl, hbody⟩ | ⟨hbody, rfl⟩
      · exact .inl ⟨c :: body, rfl, (fills_cons unescaped).2 ⟨⟨inside, inLine⟩, hbody⟩⟩
      · exact .inr ⟨(inside_cons unescaped).2 ⟨⟨inside, inLine⟩, hbody⟩, rfl⟩
  · rintro (⟨body, rfl, hbody⟩ | ⟨hbody, rfl⟩)
    · induction body using escape_induction with
      | nil => exact .lineEnd
      | last => cases hbody.unescaped
      | pair c body ih => exact .escape c (ih ((fills_pair hquote).1 hbody))
      | plain c body hc ih =>
        obtain ⟨⟨hinside, hline⟩, hbody⟩ := (fills_cons hc).1 hbody
        exact .plain hinside hc hline (ih hbody)
    · induction text using escape_induction with
      | nil => exact .textEnd
      | last => exact .lastEscape
      | pair c text ih => exact .escape c (ih ((inside_pair hquote).1 hbody))
      | plain c text hc ih =>
        obtain ⟨⟨hinside, hline⟩, hbody⟩ := (inside_cons hc).1 hbody
        exact .plain hinside hc hline (ih hbody)

/-! ## Literals of a source -/

/-- A kind of literals that stand in quotes and know escapes, with the quote and with the error of
one that is given up. -/
inductive QuotedKind : LiteralKind → Char → LexError.Cause → Prop
  | string : QuotedKind .string '"' .unterminatedString
  | rune : QuotedKind .rune '\'' .unterminatedRune

/-- Whether a lexeme starts where `after` follows `before`: what comes first is made of lexemes that
fit ahead of it. -/
def LexemeStarts (before after : List Char) : Prop :=
  ∃ lexemes, Lexeme.textOf lexemes = before ∧ Lexeme.FitAhead after lexemes

namespace QuotedKind

variable {kind : LiteralKind} {cause : LexError.Cause}

theorem quote_ne (h : QuotedKind kind quote cause) {c : Char} (hc : c ∉ ['"', '\'']) : quote ≠ c := by
  rintro rfl
  cases h <;> exact hc (by decide)

theorem spells_iff (h : QuotedKind kind quote cause) {text : List Char} :
    (Token.Kind.literal kind).Spells text ↔
      ∃ body, text = quote :: (body ++ [quote]) ∧ Fills quote body := by
  have hbody : (Token.Kind.literal kind).Spells text ↔
      ∃ body, text = quote :: body ∧ QuotedBody quote body := by
    cases h <;> rfl
  rw [hbody]
  constructor
  · rintro ⟨_, rfl, hquoted⟩
    obtain ⟨body, rfl, hfills⟩ := (quotedBody_iff (h.quote_ne (by decide))).1 hquoted
    exact ⟨body, rfl, hfills⟩
  · rintro ⟨body, rfl, hfills⟩
    exact ⟨body ++ [quote], rfl, (quotedBody_iff (h.quote_ne (by decide))).2 ⟨body, rfl, hfills⟩⟩

theorem fits_iff (h : QuotedKind kind quote cause) {text after : List Char} :
    (Lexeme.token (.literal kind) text).Fits after ↔ (Token.Kind.literal kind).Spells text := by
  have hends : (Token.Kind.literal kind).EndsAhead text after := by cases h <;> trivial
  exact and_iff_left hends

theorem next_eq (h : QuotedKind kind quote cause) (cs : List Char) :
    Lexeme.next quote cs = Lexeme.quoted kind cause quote cs := by
  cases h <;> rfl

theorem next_of_unclosed (h : QuotedKind kind quote cause) {text after : List Char}
    (hbody : UnclosedBody quote text after) :
    Lexeme.next quote (text ++ after) = .error ⟨cause, quote :: text⟩ := by
  rw [h.next_eq, Lexeme.quoted,
    (Lexeme.cutQuoted_eq_error_iff (h.quote_ne (by decide))).2 ⟨after, rfl, hbody⟩]

/-- A literal that is given up is the error of its source, if a lexeme starts there. -/
theorem tokenize_eq_error (h : QuotedKind kind quote cause) {source : String}
    {before text after : List Char} (hsource : source.toList = before ++ quote :: (text ++ after))
    (hstart : LexemeStarts before (quote :: (text ++ after))) (hbody : UnclosedBody quote text after) :
    tokenize source = .error ⟨cause, width before, width (before ++ quote :: text)⟩ := by
  obtain ⟨lexemes, rfl, hfit⟩ := hstart
  rw [tokenize, hsource, Lexeme.scan_append hfit, Lexeme.scan_of_fault (h.next_of_unclosed hbody),
    Nat.zero_add, width_append]
  rfl

end QuotedKind

namespace Lexeme

/-- A lexeme that is a token stands where the text ahead of it ends. -/
theorem mem_tokens_append (offset : Nat) (ends : Bool) (front : List Lexeme) (kind : Token.Kind)
    (text : List Char) (back : List Lexeme) :
    ⟨kind, offset + width (textOf front), offset + width (textOf front) + width text⟩ ∈
      tokens offset ends (front ++ token kind text :: back) := by
  induction front generalizing offset ends with
  | nil => exact List.mem_cons_self
  | cons lexeme front ih =>
    rw [textOf_cons, width_append, ← Nat.add_assoc]
    cases lexeme with
    | layout text =>
      rw [List.cons_append, tokens]
      split
      · exact List.mem_append_right _ (ih _ _)
      · exact ih _ _
    | token kind text => exact List.mem_cons_of_mem _ (ih _ _)

end Lexeme

/-- A literal whose quote is closed is a token of its source, if a lexeme starts there. -/
theorem QuotedKind.mem_tokens {kind : LiteralKind} {cause : LexError.Cause}
    (h : QuotedKind kind quote cause) {source : String} {before body after : List Char}
    (hsource : source.toList = before ++ quote :: (body ++ quote :: after))
    (hstart : LexemeStarts before (quote :: (body ++ quote :: after))) (hbody : Fills quote body)
    {tokens : List Token} (htokens : tokenize source = .ok tokens) :
    ⟨.literal kind, width before, width (before ++ quote :: (body ++ [quote]))⟩ ∈ tokens := by
  obtain ⟨lexemes, rfl, hfit⟩ := hstart
  have hliteral : (Lexeme.token (.literal kind) (quote :: (body ++ [quote]))).Fits after :=
    h.fits_iff.2 (h.spells_iff.2 ⟨body, rfl, hbody⟩)
  have hsplit : quote :: (body ++ quote :: after) =
      (Lexeme.token (.literal kind) (quote :: (body ++ [quote]))).text ++ after := by
    simp [Lexeme.text]
  rw [tokenize, hsource, Lexeme.scan_append hfit, hsplit, Lexeme.scan_of_fits hliteral] at htokens
  cases hmore : Lexeme.scan (0 + width (Lexeme.textOf lexemes) +
      width (Lexeme.token (.literal kind) (quote :: (body ++ [quote]))).text) after with
  | error e =>
    rw [hmore] at htokens
    cases htokens
  | ok more =>
    rw [hmore] at htokens
    obtain rfl := Except.ok.inj htokens
    have hmem := Lexeme.mem_tokens_append 0 false lexemes (.literal kind)
      (quote :: (body ++ [quote])) more
    rwa [Nat.zero_add, ← width_append] at hmem

/-- **Literals in quotes**, of any source. Between the quotes of a literal each quote and each line
end is escaped. Where a literal starts, it ends at the first quote that is not, in the same line or
another; a line end that is not escaped, or the end of the text, ahead of it is an error there. -/
theorem tokenize_quoted (source : String) {kind : LiteralKind} {cause : LexError.Cause}
    (h : QuotedKind kind quote cause) :
    (∀ tokens, tokenize source = .ok tokens → ∀ t ∈ tokens, t.kind = .literal kind →
      ∃ before body after, Fills quote body ∧
        t.span.Cuts source.toList before (quote :: (body ++ [quote])) after) ∧
      ∀ before rest, source.toList = before ++ quote :: rest → LexemeStarts before (quote :: rest) →
        (∀ body after, rest = body ++ '\n' :: after → Fills quote body → tokenize source =
          .error ⟨cause, width before, width (before ++ quote :: (body ++ ['\n']))⟩) ∧
        (Inside quote rest → tokenize source = .error ⟨cause, width before, width source.toList⟩) ∧
        ∀ body after, rest = body ++ quote :: after → Fills quote body →
          ∀ tokens, tokenize source = .ok tokens →
            ⟨.literal kind, width before, width (before ++ quote :: (body ++ [quote]))⟩ ∈ tokens := by
  refine ⟨fun tokens htokens t ht hkind => ?_, fun before rest hsource hstart => ⟨?_, ?_, ?_⟩⟩
  · obtain ⟨before, text, after, hcuts, hspells⟩ :=
      (stream_of_tokenize htokens).spells t ht (by rw [hkind]; rfl)
    rw [hkind, h.spells_iff] at hspells
    obtain ⟨body, rfl, hbody⟩ := hspells
    exact ⟨before, body, after, hbody, hcuts⟩
  · rintro body after rfl hbody
    have hsplit : body ++ '\n' :: after = (body ++ ['\n']) ++ after := by simp
    rw [hsplit] at hsource hstart
    exact h.tokenize_eq_error hsource hstart
      ((unclosedBody_iff (h.quote_ne (by decide))).2 (.inl ⟨body, rfl, hbody⟩))
  · intro hrest
    rw [← List.append_nil rest] at hsource hstart
    have herror := h.tokenize_eq_error hsource hstart
      ((unclosedBody_iff (h.quote_ne (by decide))).2 (.inr ⟨hrest, rfl⟩))
    rwa [← List.append_nil rest, ← hsource] at herror
  · rintro body after rfl hbody tokens htokens
    exact h.mem_tokens hsource hstart hbody htokens

/-- A line end behind a backslash, in a literal that is closed and in one that another line end
breaks off. -/
theorem tokenize_quoted_lines :
    (QuotedKind .string '"' .unterminatedString ∧ ∃ tokens,
      tokenize "\"a\\\nb\"" = .ok tokens ∧ ∃ t ∈ tokens, t.kind = .literal .string ∧
        ∃ before body after, Fills '"' body ∧
          t.span.Cuts "\"a\\\nb\"".toList before ('"' :: (body ++ ['"'])) after) ∧
      QuotedKind .rune '\'' .unterminatedRune ∧
        tokenize "'\\\n\n" = .error ⟨.unterminatedRune, 0, 4⟩ := by
  have htokens : tokenize "\"a\\\nb\"" =
      .ok [⟨.literal .string, 0, 6⟩, ⟨.semicolon, 6, 6⟩, ⟨.endOfFile, 6, 6⟩] := by
    decide +kernel
  have hfills : Fills '\'' ['\\', '\n'] :=
    (fills_pair (by decide)).2 ⟨inside_nil '\'', rfl⟩
  refine ⟨⟨.string, _, htokens, _, List.mem_cons_self, rfl, ?_⟩, .rune, ?_⟩
  · exact (tokenize_quoted _ .string).1 _ htokens _ List.mem_cons_self rfl
  · exact ((tokenize_quoted "'\\\n\n" .rune).2 [] ['\\', '\n', '\n'] rfl
      ⟨[], rfl, trivial⟩).1 ['\\', '\n'] [] rfl hfills

/-- A line end behind a backslash stands inside of a literal. -/
theorem tokenize_escaped_line :
    ¬ ∀ (source : String) (tokens : List Token), tokenize source = .ok tokens →
      ∀ t ∈ tokens, t.kind = .literal .string ∨ t.kind = .literal .rune →
        ∀ before text after, t.span.Cuts source.toList before text after → '\n' ∉ text := by
  intro hclaim
  have htokens : tokenize "\"a\\\nb\"" =
      .ok [⟨.literal .string, 0, 6⟩, ⟨.semicolon, 6, 6⟩, ⟨.endOfFile, 6, 6⟩] := by
    decide +kernel
  have hcuts : Span.Cuts ⟨0, 6⟩ "\"a\\\nb\"".toList [] ['"', 'a', '\\', '\n', 'b', '"'] [] := by
    exact ⟨by decide, by decide, by decide⟩
  exact hclaim _ _ htokens _ List.mem_cons_self (.inl rfl) _ _ _ hcuts (by decide)

end ReactBridge.Go
