import ReactBridge.Proofs.Go.LineEnd

/-!
# Where a text stops being lexical

A text that is no sequence of lexemes is one up to the error, and the error tells what stands there.

* `UnclosedBody` : what follows the opening quote of a literal without a closing one;
* `StartsNothing` : characters that are the first of no lexeme;
* `LexError.Cause.Explains` : the text that an error of each cause is about;
* `Lexeme.next_error`, `Lexeme.scan_error` : an error of one lexeme, and of a whole text;
* `tokenize_localises` : errors stand at the first bad lexeme.
-/

namespace ReactBridge.Go
open Token.Kind (operators)

/-! ## Texts of errors -/

/-- What follows the opening quote of a literal up to where it has to be given up: behind the first
line end ahead of a closing quote, or at the end of the text. A backslash takes the next character
with it, if there is one. -/
inductive UnclosedBody (quote : Char) : (text after : List Char) → Prop
  | lineEnd {after : List Char} : UnclosedBody quote ['\n'] after
  | textEnd : UnclosedBody quote [] []
  | lastEscape : UnclosedBody quote ['\\'] []
  | escape (c : Char) {cs after : List Char} (body : UnclosedBody quote cs after) :
      UnclosedBody quote ('\\' :: c :: cs) after
  | plain {c : Char} {cs after : List Char} (inside : c ≠ quote) (unescaped : c ≠ '\\')
      (inLine : c ≠ '\n') (body : UnclosedBody quote cs after) : UnclosedBody quote (c :: cs) after

/-- Whether no lexeme starts with the character, whatever follows it. -/
structure StartsNothing (c : Char) : Prop where
  visible : c ∉ ['\n', ' ', '\t', '\r']
  noLayout : ∀ text after, ¬ Layout.Element (c :: text) after
  noToken : ∀ (kind : Token.Kind) text, ¬ kind.Spells (c :: text)

/-- Whether an error of the cause is about `text`, ahead of `after`. -/
def LexError.Cause.Explains : LexError.Cause → (text after : List Char) → Prop
  | unterminatedComment, text, after =>
    ∃ body, text = '/' :: '*' :: body ∧ ¬ ['*', '/'] <:+: body ∧ after = []
  | unterminatedRawString, text, after =>
    ∃ body, text = rawQuote :: body ∧ rawQuote ∉ body ∧ after = []
  | unterminatedString, text, after => ∃ body, text = '"' :: body ∧ UnclosedBody '"' body after
  | unterminatedRune, text, after => ∃ body, text = '\'' :: body ∧ UnclosedBody '\'' body after
  | unexpectedCharacter c, text, _ => text = [c] ∧ StartsNothing c

namespace Lexeme

/-! ## Lexemes that are given up -/

theorem cutQuoted_eq_error_iff {quote : Char} (hline : quote ≠ '\n')
    {cs text : List Char} :
    cutQuoted quote cs = .error text ↔ ∃ after, text ++ after = cs ∧ UnclosedBody quote text after := by
  constructor
  · intro h
    fun_induction cutQuoted quote cs generalizing text with
    | case1 =>
      obtain rfl : [] = text := Except.error.inj h
      exact ⟨[], rfl, .textEnd⟩
    | case2 =>
      obtain rfl : ['\\'] = text := Except.error.inj h
      exact ⟨[], rfl, .lastEscape⟩
    | case3 | case5 | case7 => cases h
    | case4 c cs t hcut ih =>
      obtain rfl := Except.error.inj h
      obtain ⟨after, rfl, hbody⟩ := ih hcut
      exact ⟨after, rfl, .escape c hbody⟩
    | case6 cs =>
      obtain rfl := Except.error.inj h
      exact ⟨cs, rfl, .lineEnd⟩
    | case8 c cs hescape hlast hc hinLine t hcut ih =>
      obtain rfl := Except.error.inj h
      obtain ⟨after, rfl, hbody⟩ := ih hcut
      refine ⟨after, rfl, .plain hc ?_ hinLine hbody⟩
      rintro rfl
      cases hall : t ++ after with
      | nil => exact hescape rfl hall
      | cons d ds => exact hlast d ds rfl hall
  · rintro ⟨after, rfl, hbody⟩
    induction hbody with
    | lineEnd =>
      rw [List.singleton_append, cutQuoted, if_neg hline.symm, if_pos rfl]
      · exact fun h => by cases h
      · exact fun _ _ h => by cases h
    | textEnd => rfl
    | lastEscape => rfl
    | escape c body ih => rw [List.cons_append, List.cons_append, cutQuoted, ih]
    | plain hc hescape hinLine body ih =>
      rw [List.cons_append, cutQuoted, if_neg hc, if_neg hinLine, ih]
      · exact fun h _ => hescape h
      · exact fun _ _ h _ => hescape h

theorem cutRaw_eq_none_iff {cs : List Char} : cutRaw cs = none ↔ rawQuote ∉ cs := by
  induction cs with
  | nil => exact ⟨fun _ => List.not_mem_nil, fun _ => rfl⟩
  | cons c cs ih =>
    rw [cutRaw, List.mem_cons, not_or, ← ih]
    by_cases hc : c = rawQuote
    · rw [if_pos ((toNat_eq_iff_rawQuote c).2 hc)]
      exact ⟨fun h => absurd h (Option.some_ne_none _), fun h => absurd hc.symm h.1⟩
    · rw [if_neg (mt (toNat_eq_iff_rawQuote c).1 hc), Option.map_eq_none_iff]
      exact ⟨fun h => ⟨Ne.symm hc, h⟩, And.right⟩

theorem cutComment_eq_none_iff {cs : List Char} : cutComment cs = none ↔ ¬ ['*', '/'] <:+: cs := by
  constructor
  · intro h
    fun_induction cutComment cs with
    | case1 => simp
    | case2 cs => cases h
    | case3 c cs hend ih =>
      rw [endMark_infix_cons_iff, not_or]
      refine ⟨?_, ih (Option.map_eq_none_iff.1 h)⟩
      rintro ⟨rfl, hhead⟩
      obtain ⟨tail, rfl⟩ := List.head?_eq_some_iff.1 hhead
      exact hend tail rfl rfl
  · intro h
    cases hcut : cutComment cs with
    | none => rfl
    | some cut =>
      obtain ⟨text, rest⟩ := cut
      obtain ⟨rfl, body, rfl, -⟩ := cutComment_eq_some_iff.1 hcut
      exact absurd ⟨body, rest, by rw [List.append_assoc]⟩ h

theorem quoted_error {kind : LiteralKind} {cause : LexError.Cause} {quote : Char}
    (hline : quote ≠ '\n') {cs : List Char} {fault : Fault}
    (h : quoted kind cause quote cs = .error fault) :
    fault.cause = cause ∧ ∃ body after, fault.text = quote :: body ∧ body ++ after = cs ∧
      UnclosedBody quote body after := by
  unfold quoted at h
  split at h
  · cases h
  · next text hcut =>
    obtain rfl := Except.error.inj h
    obtain ⟨after, happend, hbody⟩ := (cutQuoted_eq_error_iff hline).1 hcut
    exact ⟨rfl, text, after, rfl, happend, hbody⟩

/-- The first character of each operator is an operator by itself. -/
theorem operators_heads :
    ∀ entry ∈ operators, ∃ other ∈ operators, other.1.toList = entry.1.toList.take 1 := by
  decide

/-- No operator is found just where none starts with the character. -/
theorem not_mem_operators_of_operator? {c : Char} {cs : List Char} (h : operator? c cs = none)
    (text : List Char) (kind : Token.Kind) : (String.ofList (c :: text), kind) ∉ operators := by
  intro hentry
  obtain ⟨other, hother, hhead⟩ := operators_heads _ hentry
  rw [String.toList_ofList, List.take_succ_cons, List.take_zero] at hhead
  refine absurd (List.isPrefixOf_iff_prefix.2 ?_) (List.find?_eq_none.1 h other hother)
  rw [hhead]
  exact ⟨cs, rfl⟩

theorem startsNothing_of_next {c : Char} {cs : List Char}
    (hother : c ∉ ['\n', ' ', '\t', '\r', '"', '\'', rawQuote])
    (hnumber : startsNumber (c :: cs) = false) (hname : isNameStart c = false)
    (hoperator : operator? c cs = none) : StartsNothing c := by
  have hno := not_mem_operators_of_operator? hoperator
  have hne : ∀ d, (∃ kind, (String.ofList [d], kind) ∈ operators) → c ≠ d := by
    rintro d ⟨kind, hentry⟩ rfl
    exact hno [] kind hentry
  have hslash : c ≠ '/' := hne '/' ⟨.operator, by decide⟩
  have hpoint : c ≠ '.' := hne '.' ⟨.dot, by decide⟩
  simp only [List.mem_cons, List.not_mem_nil, or_false, not_or] at hother
  obtain ⟨hnewline, hspace, htab, hreturn, hquote, hrune, hraw⟩ := hother
  refine ⟨by simp [hnewline, hspace, htab, hreturn], fun text after helement => ?_,
    fun kind text hspells => ?_⟩
  · cases helement with
    | blank hblank => simp [hnewline, hspace, htab, hreturn] at hblank
    | lineComment | blockComment => exact hslash rfl
  · by_cases hkind : kind.isOperator = true
    · exact hno text kind ((Token.Kind.spells_iff_mem_operators hkind _).1 hspells)
    cases kind with
    | ident name =>
      obtain ⟨rfl, hidentifier⟩ := hspells
      have hstarts := hidentifier.starts
      rw [String.toList_ofList, List.head?_cons, Option.any_some, hname] at hstarts
      cases hstarts
    | keyword word =>
      have hstarts := (isWord_of_keyword hspells).1
      rw [List.head?_cons, Option.any_some, hname] at hstarts
      cases hstarts
    | literal kind =>
      cases kind with
      | number =>
        have hdigit : c.isDigit = true := by simpa [startsNumber, hpoint] using hspells.1
        simp [startsNumber, hdigit] at hnumber
      | string =>
        obtain ⟨body, hbody, -⟩ := hspells
        exact hquote (List.cons.inj hbody).1
      | rune =>
        obtain ⟨body, hbody, -⟩ := hspells
        exact hrune (List.cons.inj hbody).1
      | rawString =>
        obtain ⟨body, hbody, -⟩ := hspells
        exact hraw (List.cons.inj hbody).1
    | _ => exact hkind rfl

/-- What the error of one lexeme is about is a start of the text. -/
theorem next_error {c : Char} {cs : List Char} {fault : Fault} (h : next c cs = .error fault) :
    ∃ after, fault.text ++ after = c :: cs ∧ fault.cause.Explains fault.text after := by
  by_cases hblank : c = '\n' ∨ c = ' ' ∨ c = '\t' ∨ c = '\r'
  · rw [next_blank hblank] at h
    cases h
  by_cases hcomment : startsComment (c :: cs) = true
  · simp only [startsComment, Bool.and_eq_true, Bool.or_eq_true, decide_eq_true_eq] at hcomment
    obtain ⟨rfl, hline | hblock⟩ := hcomment
    · obtain ⟨cs, rfl⟩ := List.head?_eq_some_iff.1 hline
      rw [next_lineComment] at h
      cases h
    · obtain ⟨cs, rfl⟩ := List.head?_eq_some_iff.1 hblock
      rw [next_blockComment] at h
      split at h
      · cases h
      · next hcut =>
        obtain rfl := Except.error.inj h
        exact ⟨[], List.append_nil _, cs, rfl, cutComment_eq_none_iff.1 hcut, rfl⟩
  by_cases hquote : c = '"'
  · subst hquote
    rw [next_string] at h
    obtain ⟨hcause, body, after, htext, rfl, hbody⟩ := quoted_error (by decide) h
    rw [hcause, htext]
    exact ⟨after, rfl, body, rfl, hbody⟩
  by_cases hrune : c = '\''
  · subst hrune
    rw [next_rune] at h
    obtain ⟨hcause, body, after, htext, rfl, hbody⟩ := quoted_error (by decide) h
    rw [hcause, htext]
    exact ⟨after, rfl, body, rfl, hbody⟩
  by_cases hraw : c = rawQuote
  · subst hraw
    rw [next_raw] at h
    split at h
    · cases h
    · next hcut =>
      obtain rfl := Except.error.inj h
      exact ⟨[], List.append_nil _, cs, rfl, cutRaw_eq_none_iff.1 hcut, rfl⟩
  by_cases hnumber : startsNumber (c :: cs) = true
  · rw [next_number hnumber] at h
    cases h
  by_cases hname : isNameStart c = true
  · rw [next_word hname] at h
    cases h
  rw [Bool.not_eq_true] at hcomment hnumber hname
  have hother : c ∉ ['\n', ' ', '\t', '\r', '"', '\'', rawQuote] := by simp_all
  rw [next_other hother hcomment hnumber hname] at h
  split at h
  · cases h
  · next hoperator =>
    obtain rfl := Except.error.inj h
    exact ⟨cs, rfl, rfl, startsNothing_of_next hother hnumber hname hoperator⟩

/-! ## Errors of a text -/

/-- Ahead of an error the text is made of lexemes, and these fit where the text ends there. -/
theorem scan_error {offset : Nat} {cs : List Char} {e : LexError} (h : scan offset cs = .error e) :
    ∃ lexemes text after, textOf lexemes ++ (text ++ after) = cs ∧ AllFit lexemes ∧
      e.cause.Explains text after ∧
      e.span = ⟨offset + width (textOf lexemes), offset + width (textOf lexemes) + width text⟩ := by
  fun_induction scan offset cs with
  | case1 => cases h
  | case2 offset c cs fault hfault =>
    obtain rfl := Except.error.inj h
    obtain ⟨after, happend, hexplains⟩ := next_error hfault
    exact ⟨[], fault.text, after, happend, trivial, hexplains, rfl⟩
  | case3 offset c cs lexeme rest hnext e' hscan ih =>
    obtain rfl := Except.error.inj h
    obtain ⟨lexemes, text, after, rfl, hfit, hexplains, hspan⟩ := ih hscan
    obtain ⟨happend, hlexeme⟩ := next_eq_ok_iff.1 hnext
    refine ⟨lexeme :: lexemes, text, after, ?_, ⟨hlexeme.of_append, hfit⟩, hexplains, ?_⟩
    · rw [textOf_cons, List.append_assoc, happend]
    · rw [textOf_cons, width_append, hspan, Nat.add_assoc offset]
  | case4 => cases h

end Lexeme

theorem LexError.Cause.Explains.ne_nil {cause : LexError.Cause} {text after : List Char}
    (h : cause.Explains text after) : text ≠ [] := by
  cases cause with
  | unexpectedCharacter c =>
    rw [h.1]
    exact List.cons_ne_nil _ _
  | _ =>
    obtain ⟨body, rfl, -⟩ := h
    exact List.cons_ne_nil _ _

/-- Ahead of a lexical error a source is made of lexemes that fit where it ends there. -/
theorem exists_of_tokenize_error {source : String} {e : LexError} (h : tokenize source = .error e) :
    ∃ lexemes text after, e.span.Cuts source.toList (Lexeme.textOf lexemes) text after ∧
      Lexeme.AllFit lexemes ∧ e.cause.Explains text after := by
  have hscan : Lexeme.scan 0 source.toList = .error e := by
    rw [tokenize] at h
    cases hscan : Lexeme.scan 0 source.toList with
    | error e' =>
      rw [hscan] at h
      exact congrArg Except.error (Except.error.inj h)
    | ok lexemes =>
      rw [hscan] at h
      cases h
  obtain ⟨lexemes, text, after, hsource, hfit, hexplains, hspan⟩ := Lexeme.scan_error hscan
  rw [Nat.zero_add, ← width_append] at hspan
  exact ⟨lexemes, text, after, ⟨hsource.symm, hspan ▸ rfl, hspan ▸ rfl⟩, hfit, hexplains⟩

/-- **A lexical error stands at the first bad lexeme.** It covers characters of the source; what comes
before it can be tokenized by itself; and the cause tells what stands there. -/
theorem tokenize_localises {source : String} {e : LexError} (h : tokenize source = .error e) :
    e.span.start < e.span.stop ∧ e.span.stop ≤ source.utf8ByteSize ∧
      ∃ before text after, e.span.Cuts source.toList before text after ∧
        (∃ tokens, tokenize (String.ofList before) = .ok tokens) ∧ e.cause.Explains text after := by
  obtain ⟨lexemes, text, after, hcuts, hfit, hexplains⟩ := exists_of_tokenize_error h
  refine ⟨?_, hcuts.stop_le, _, text, after, hcuts, ?_, hexplains⟩
  · have hpos := width_pos hexplains.ne_nil
    rw [hcuts.start_eq, hcuts.stop_eq, width_append]
    omega
  · exact ⟨_, tokenize_eq_ok_iff.2 ⟨lexemes, String.toList_ofList.symm, hfit, rfl⟩⟩

/-- A backslash at the end of a text, behind a literal in which one takes the closing quote with it. -/
theorem tokenize_localises_lastEscape :
    tokenize "é/\"\\\"\"'\\" = .error ⟨.unterminatedRune, 7, 9⟩ ∧
      ∃ before text after, Span.Cuts ⟨7, 9⟩ "é/\"\\\"\"'\\".toList before text after ∧
        (∃ tokens, tokenize (String.ofList before) = .ok tokens) ∧
          LexError.Cause.Explains .unterminatedRune text after := by
  have h : tokenize "é/\"\\\"\"'\\" = .error ⟨.unterminatedRune, 7, 9⟩ := by decide +kernel
  exact ⟨h, (tokenize_localises h).2.2⟩

end ReactBridge.Go
