import Mathlib.Data.List.Nodup
import Mathlib.Data.List.TakeWhile
import ReactBridge.Proofs.Go.Lexical

/-!
# What is cut off a text, and when

* `Lexeme.Fits lexeme after` : the grammar allows the lexeme ahead of the text `after`;
* `operator?_longest` : the first operator of the table that fits is the longest;
* `next_*` : the alternatives of `next`, each where it applies;
* `next_eq_ok_iff` : the next lexeme of a text is the start of it that fits.
-/

namespace ReactBridge.Go.Lexeme
open Token.Kind (operators)

/-- Whether the grammar allows a lexeme ahead of the text `after`. -/
def Fits : Lexeme → (after : List Char) → Prop
  | layout text, after => Layout.Element text after
  | token kind text, after => kind.Spells text ∧ kind.EndsAhead text after

/-! ## Characters that words start with -/

theorem ne_of_isNameStart {c d : Char} (hc : isNameStart c = true) (hd : isNameStart d = false) :
    c ≠ d := by
  rintro rfl
  rw [hc] at hd
  cases hd

theorem isDigit_eq_false_of_isNameStart {c : Char} (hc : isNameStart c = true) :
    c.isDigit = false := by
  rw [Bool.eq_false_iff]
  intro hdigit
  obtain ⟨hlow, hhigh⟩ : 48 ≤ c.toNat ∧ c.toNat ≤ 57 := by
    simpa [Char.isDigit, UInt32.le_iff_toNat_le] using hdigit
  have hupper : c.isUpper = false := by
    refine decide_eq_false fun ⟨hleast, _⟩ => ?_
    have : 65 ≤ c.toNat := UInt32.le_iff_toNat_le.1 hleast
    omega
  have hlower : c.isLower = false := by
    have hleast : ¬ 'a'.val ≤ c.val := by
      rw [UInt32.le_iff_toNat_le]
      show ¬ 97 ≤ c.toNat
      omega
    exact Bool.and_eq_false_iff.2 (.inl (decide_eq_false hleast))
  have halpha : c.isAlpha = false := Bool.or_eq_false_iff.2 ⟨hupper, hlower⟩
  have hline : c ≠ '_' := by
    rintro rfl
    exact absurd hhigh (by decide)
  have hascii : c.toNat < 0x80 := by omega
  simp [isNameStart, Text.isAlphabetic, halpha, hline, hascii] at hc

/-! ## The table of operators -/

theorem operators_longest_first :
    operators.Pairwise fun entry other =>
      entry.1.toList <+: other.1.toList → other.1.length ≤ entry.1.length := by
  decide

theorem operators_texts_nodup : (operators.map Prod.fst).Nodup := by
  decide

/-- No word, number, literal in quotes or layout starts like an operator, comments and numbers
without a leading digit aside. -/
theorem operators_start :
    ∀ entry ∈ operators, ∀ c ∈ entry.1.toList.head?,
      isNameStart c = false ∧ c.isDigit = false ∧
        c ∉ ['\n', ' ', '\t', '\r', '"', '\'', rawQuote] := by
  have hall : ∀ entry ∈ operators, entry.1.toList.head?.all (fun c =>
      !isNameStart c && !c.isDigit &&
        !List.contains ['\n', ' ', '\t', '\r', '"', '\'', rawQuote] c) = true := by decide
  intro entry hentry c hc
  have hfirst := hall entry hentry
  rw [hc, Option.all_some] at hfirst
  simpa [and_assoc] using hfirst

theorem operator?_longest {c : Char} {cs : List Char} {entry : String × Token.Kind}
    (h : operator? c cs = some entry) :
    ∀ other ∈ operators, other.1.toList <+: c :: cs → other.1.length ≤ entry.1.length := by
  obtain ⟨hentry, ahead, behind, htable, hahead⟩ := List.find?_eq_some_iff_append.1 h
  have hentry : entry.1.toList <+: c :: cs := by simpa using hentry
  intro other hother hstart
  have horder := operators_longest_first
  rw [htable] at hother horder
  rcases List.mem_append.1 hother with hother | hother
  · have hnot := hahead other hother
    rw [List.isPrefixOf_iff_prefix.2 hstart] at hnot
    cases hnot
  rcases List.mem_cons.1 hother with rfl | hother
  · exact le_rfl
  · by_contra hlt
    rw [not_le, ← String.length_toList, ← String.length_toList] at hlt
    have hprefix := List.prefix_of_prefix_length_le hentry hstart hlt.le
    have hle := (List.pairwise_cons.1 (List.pairwise_append.1 horder).2.1).1 other hother hprefix
    simp only [String.length_toList] at hlt
    omega

theorem operator?_eq_some_of_longest {c : Char} {cs : List Char} {entry : String × Token.Kind}
    (hentry : entry ∈ operators) (hstart : entry.1.toList <+: c :: cs)
    (hlongest : ∀ other ∈ operators, other.1.toList <+: c :: cs →
      other.1.length ≤ entry.1.length) : operator? c cs = some entry := by
  cases hfound : operator? c cs with
  | none =>
    exact absurd (List.isPrefixOf_iff_prefix.2 hstart) (List.find?_eq_none.1 hfound entry hentry)
  | some found =>
    have hmem : found ∈ operators := List.mem_of_find?_eq_some hfound
    have hprefix : found.1.toList <+: c :: cs := by simpa using List.find?_some hfound
    have hlength : found.1.length = entry.1.length :=
      le_antisymm (hlongest found hmem hprefix) (operator?_longest hfound entry hentry hstart)
    have htext : found.1 = entry.1 := by
      have htoList : found.1.toList.length = entry.1.toList.length := by
        rw [String.length_toList, String.length_toList, hlength]
      rw [← String.toList_inj]
      exact (List.prefix_of_prefix_length_le hprefix hstart htoList.le).eq_of_length htoList
    exact congrArg some (List.inj_on_of_nodup_map operators_texts_nodup hmem hentry htext)

/-! ## The alternatives -/

theorem next_blank {c : Char} (hc : c = '\n' ∨ c = ' ' ∨ c = '\t' ∨ c = '\r') (cs : List Char) :
    next c cs = .ok (layout [c], cs) := by
  rcases hc with rfl | rfl | rfl | rfl <;> rfl

theorem next_lineComment (cs : List Char) :
    next '/' ('/' :: cs) =
      .ok (layout ('/' :: '/' :: cs.takeWhile (· ≠ '\n')), cs.dropWhile (· ≠ '\n')) := by
  rfl

theorem next_blockComment (cs : List Char) :
    next '/' ('*' :: cs) =
      match cutComment cs with
      | some (text, rest) => .ok (layout ('/' :: '*' :: text), rest)
      | none => .error ⟨.unterminatedComment, '/' :: '*' :: cs⟩ := by
  rfl

theorem next_string (cs : List Char) :
    next '"' cs = quoted .string .unterminatedString '"' cs := by
  rfl

theorem next_rune (cs : List Char) :
    next '\'' cs = quoted .rune .unterminatedRune '\'' cs := by
  rfl

theorem next_raw (cs : List Char) :
    next rawQuote cs =
      match cutRaw cs with
      | some (text, rest) => .ok (token (.literal .rawString) (rawQuote :: text), rest)
      | none => .error ⟨.unterminatedRawString, rawQuote :: cs⟩ := by
  rfl

theorem next_number {c : Char} {cs : List Char} (h : startsNumber (c :: cs) = true) :
    next c cs =
      .ok (token (.literal .number) (c :: (cutNumber (startsHex c cs) c cs).1),
        (cutNumber (startsHex c cs) c cs).2) := by
  have hne : ∀ d, d.isDigit = false → d ≠ '.' → c ≠ d := by
    rintro d hd hpoint rfl
    simp [startsNumber, hd, hpoint] at h
  have hnewline := hne '\n' (by decide) (by decide)
  have hspace := hne ' ' (by decide) (by decide)
  have htab := hne '\t' (by decide) (by decide)
  have hreturn := hne '\r' (by decide) (by decide)
  have hslash := hne '/' (by decide) (by decide)
  have hquote := hne '"' (by decide) (by decide)
  have hrune := hne '\'' (by decide) (by decide)
  have hraw : c.toNat ≠ 0x60 := by
    rw [ne_eq, toNat_eq_iff_rawQuote]
    exact hne rawQuote (by decide) (by decide)
  rw [startsNumber] at h
  simp only [next, hnewline, hspace, htab, hreturn, hslash, hquote, hrune, hraw, h]
  simp

theorem next_word {c : Char} (hc : isNameStart c = true) (cs : List Char) :
    next c cs =
      .ok (token (wordKind (c :: cs.takeWhile isNamePart)) (c :: cs.takeWhile isNamePart),
        cs.dropWhile isNamePart) := by
  have hnewline := ne_of_isNameStart (d := '\n') hc (by decide)
  have hspace := ne_of_isNameStart (d := ' ') hc (by decide)
  have htab := ne_of_isNameStart (d := '\t') hc (by decide)
  have hreturn := ne_of_isNameStart (d := '\r') hc (by decide)
  have hslash := ne_of_isNameStart (d := '/') hc (by decide)
  have hquote := ne_of_isNameStart (d := '"') hc (by decide)
  have hrune := ne_of_isNameStart (d := '\'') hc (by decide)
  have hpoint := ne_of_isNameStart (d := '.') hc (by decide)
  have hraw : c.toNat ≠ 0x60 := by
    rw [ne_eq, toNat_eq_iff_rawQuote]
    exact ne_of_isNameStart hc (by decide)
  have hdigit := isDigit_eq_false_of_isNameStart hc
  simp [next, *]

/-- Where nothing else starts, an operator has to. -/
theorem next_other {c : Char} {cs : List Char}
    (hother : c ∉ ['\n', ' ', '\t', '\r', '"', '\'', rawQuote])
    (hcomment : startsComment (c :: cs) = false) (hnumber : startsNumber (c :: cs) = false)
    (hname : isNameStart c = false) :
    next c cs =
      match operator? c cs with
      | some (text, kind) => .ok (token kind text.toList, (c :: cs).drop text.length)
      | none => .error ⟨.unexpectedCharacter c, [c]⟩ := by
  simp only [List.mem_cons, List.not_mem_nil, or_false, not_or] at hother
  obtain ⟨hnewline, hspace, htab, hreturn, hquote, hrune, hraw⟩ := hother
  rw [← toNat_eq_iff_rawQuote] at hraw
  rw [startsNumber] at hnumber
  simp only [startsComment, Bool.and_eq_false_iff, Bool.or_eq_false_iff,
    decide_eq_false_iff_not] at hcomment
  simp only [next, hnewline, hspace, htab, hreturn, hquote, hrune, hraw, hname, hnumber]
  rcases hcomment with hslash | ⟨hline, hblock⟩
  · cases operator? c cs <;> simp [hslash]
  · cases operator? c cs <;> simp [hline, hblock]

theorem next_operator {c : Char} {cs : List Char} {entry : String × Token.Kind}
    (hentry : operator? c cs = some entry) (hcomment : startsComment (c :: cs) = false)
    (hnumber : startsNumber (c :: cs) = false) :
    next c cs = .ok (token entry.2 entry.1.toList, (c :: cs).drop entry.1.length) := by
  have hstart : entry.1.toList <+: c :: cs := by simpa using List.find?_some hentry
  have hhead : c ∈ entry.1.toList.head? := by
    obtain ⟨rest, hrest⟩ := hstart
    cases htext : entry.1.toList with
    | nil => exact absurd htext (operator?_append hentry).2
    | cons d ds =>
      rw [htext] at hrest
      exact congrArg some (List.cons.inj hrest).1
  obtain ⟨hname, -, hother⟩ := operators_start entry (List.mem_of_find?_eq_some hentry) c hhead
  rw [next_other hother hcomment hnumber hname, hentry]

/-! ## What is cut off fits -/

theorem startsHex_append {hex : Bool} {c : Char} {text rest : List Char}
    (hend : ∀ l ∈ (c :: text).getLast?, ∀ d ∈ rest.head?, numberContinues hex l d = false) :
    startsHex c (text ++ rest) = startsHex c text := by
  cases text with
  | cons d text => rfl
  | nil =>
    cases rest with
    | nil => rfl
    | cons d rest =>
      have hstop := hend c rfl d rfl
      simp only [numberContinues, Bool.or_eq_false_iff, decide_eq_false_iff_not] at hstop
      have hx : d ≠ 'x' ∧ d ≠ 'X' := by
        constructor <;> (rintro rfl; exact absurd hstop.1.1.1 (by decide))
      simp [startsHex, hx]

theorem fits_number {c : Char} {cs : List Char} (h : startsNumber (c :: cs) = true) :
    Fits (token (.literal .number) (c :: (cutNumber (startsHex c cs) c cs).1))
      (cutNumber (startsHex c cs) c cs).2 := by
  obtain ⟨happend, hchain, hend⟩ :=
    cutNumber_eq_iff.1 (Eq.refl (cutNumber (startsHex c cs) c cs))
  generalize (cutNumber (startsHex c cs) c cs).1 = text at *
  generalize (cutNumber (startsHex c cs) c cs).2 = rest at *
  subst happend
  have hhex := startsHex_append hend
  rw [hhex] at hchain hend
  refine ⟨⟨?_, hchain⟩, hend⟩
  cases text with
  | cons d text => exact h
  | nil =>
    cases rest with
    | nil => exact h
    | cons d rest =>
      have hstop := hend c rfl d rfl
      simp only [numberContinues, Char.isAlphanum, Bool.or_eq_false_iff] at hstop
      simpa [startsNumber, hstop.1.1.1.2] using h

theorem isNamePart_head?_dropWhile {cs : List Char} :
    ∀ d ∈ (cs.dropWhile isNamePart).head?, isNamePart d = false := by
  intro d hd
  have := List.head?_dropWhile_not isNamePart cs
  rw [Option.mem_def] at hd
  rw [hd] at this
  simpa using this

theorem spells_wordKind {c : Char} {cs : List Char} (hc : isNameStart c = true)
    (hcs : ∀ d ∈ cs, isNamePart d = true) : (wordKind (c :: cs)).Spells (c :: cs) := by
  unfold wordKind
  split
  · next word hword => exact hword
  · next hword =>
    refine ⟨rfl, ⟨?_, ?_, hword⟩⟩
    · rw [String.toList_ofList]
      exact hc
    · rw [String.toList_ofList]
      exact hcs

theorem endsAhead_wordKind {word after : List Char} (h : ∀ d ∈ after.head?, isNamePart d = false) :
    (wordKind word).EndsAhead word after := by
  unfold wordKind
  split <;> exact h

theorem fits_word {c : Char} (hc : isNameStart c = true) (cs : List Char) :
    Fits (token (wordKind (c :: cs.takeWhile isNamePart)) (c :: cs.takeWhile isNamePart))
      (cs.dropWhile isNamePart) :=
  ⟨spells_wordKind hc fun _ hd => List.mem_takeWhile_imp hd,
    endsAhead_wordKind isNamePart_head?_dropWhile⟩

theorem fits_operator {c : Char} {cs : List Char} {entry : String × Token.Kind}
    (hentry : operator? c cs = some entry) (hcomment : startsComment (c :: cs) = false)
    (hnumber : startsNumber (c :: cs) = false) :
    Fits (token entry.2 entry.1.toList) ((c :: cs).drop entry.1.length) := by
  have hmem : entry ∈ operators := List.mem_of_find?_eq_some hentry
  have hkind := Token.Kind.isOperator_of_mem_operators entry hmem
  refine ⟨(Token.Kind.spells_iff_mem_operators hkind _).2 ?_,
    (Token.Kind.endsAhead_iff_of_isOperator hkind _ _).2 ?_⟩
  · rw [String.ofList_toList]
    exact hmem
  · rw [(operator?_append hentry).1]
    refine ⟨fun other hother hstart => ?_, hcomment, hnumber⟩
    rw [String.length_toList]
    exact operator?_longest hentry other hother hstart

theorem fits_lineComment (cs : List Char) :
    Fits (layout ('/' :: '/' :: cs.takeWhile (· ≠ '\n'))) (cs.dropWhile (· ≠ '\n')) := by
  refine .lineComment (fun h => ?_) fun d hd => ?_
  · simpa using List.mem_takeWhile_imp h
  · have := List.head?_dropWhile_not (fun c => decide (c ≠ '\n')) cs
    rw [Option.mem_def] at hd
    rw [hd] at this
    simpa using this

theorem fits_quoted {kind : LiteralKind} {cause : LexError.Cause} {quote : Char}
    (hquote : quote ≠ '\\') (hkind : ∀ body, QuotedBody quote body →
      ∀ after, Fits (token (.literal kind) (quote :: body)) after)
    {cs rest : List Char} {lexeme : Lexeme} (h : quoted kind cause quote cs = .ok (lexeme, rest)) :
    lexeme.Fits rest := by
  unfold quoted at h
  split at h
  · next text after hcut =>
    obtain ⟨rfl, rfl⟩ : token (.literal kind) (quote :: text) = lexeme ∧ after = rest := by
      simpa using h
    exact hkind text ((cutQuoted_eq_ok_iff hquote).1 hcut).2 after
  · simp at h

/-- What is cut off a text fits. -/
theorem next_fits {c : Char} {cs rest : List Char} {lexeme : Lexeme}
    (h : next c cs = .ok (lexeme, rest)) : lexeme.Fits rest := by
  by_cases hblank : c = '\n' ∨ c = ' ' ∨ c = '\t' ∨ c = '\r'
  · rw [next_blank hblank] at h
    obtain ⟨rfl, rfl⟩ : layout [c] = lexeme ∧ cs = rest := by simpa using h
    exact .blank hblank
  by_cases hcomment : startsComment (c :: cs) = true
  · simp only [startsComment, Bool.and_eq_true, Bool.or_eq_true, decide_eq_true_eq] at hcomment
    obtain ⟨rfl, hline | hblock⟩ := hcomment
    · obtain ⟨cs, rfl⟩ := List.head?_eq_some_iff.1 hline
      rw [next_lineComment] at h
      obtain ⟨rfl, rfl⟩ := Prod.mk.inj (Except.ok.inj h)
      exact fits_lineComment cs
    · obtain ⟨cs, rfl⟩ := List.head?_eq_some_iff.1 hblock
      rw [next_blockComment] at h
      split at h
      · next text after hcut =>
        obtain ⟨rfl, rfl⟩ := Prod.mk.inj (Except.ok.inj h)
        obtain ⟨-, body, rfl, hbody⟩ := cutComment_eq_some_iff.1 hcut
        exact .blockComment hbody
      · cases h
  by_cases hquote : c = '"'
  · subst hquote
    rw [next_string] at h
    refine fits_quoted (by decide) (fun body hbody after => ?_) h
    exact ⟨⟨body, rfl, hbody⟩, trivial⟩
  by_cases hrune : c = '\''
  · subst hrune
    rw [next_rune] at h
    refine fits_quoted (by decide) (fun body hbody after => ?_) h
    exact ⟨⟨body, rfl, hbody⟩, trivial⟩
  by_cases hraw : c = rawQuote
  · subst hraw
    rw [next_raw] at h
    split at h
    · next text after hcut =>
      obtain ⟨rfl, rfl⟩ := Prod.mk.inj (Except.ok.inj h)
      obtain ⟨-, body, rfl, hbody⟩ := cutRaw_eq_some_iff.1 hcut
      exact ⟨⟨body, rfl, hbody⟩, trivial⟩
    · cases h
  by_cases hnumber : startsNumber (c :: cs) = true
  · rw [next_number hnumber] at h
    obtain ⟨rfl, rfl⟩ := Prod.mk.inj (Except.ok.inj h)
    exact fits_number hnumber
  by_cases hname : isNameStart c = true
  · rw [next_word hname] at h
    obtain ⟨rfl, rfl⟩ := Prod.mk.inj (Except.ok.inj h)
    exact fits_word hname cs
  rw [Bool.not_eq_true] at hcomment hnumber hname
  rw [next_other (by simp_all) hcomment hnumber hname] at h
  split at h
  · next text kind hentry =>
    obtain ⟨rfl, rfl⟩ := Prod.mk.inj (Except.ok.inj h)
    exact fits_operator hentry hcomment hnumber
  · cases h

/-! ## What fits is cut off -/

theorem takeWhile_append_of_stop {p : Char → Bool} {text rest : List Char}
    (htext : ∀ c ∈ text, p c = true) (hrest : ∀ c ∈ rest.head?, p c = false) :
    (text ++ rest).takeWhile p = text ∧ (text ++ rest).dropWhile p = rest := by
  rw [List.takeWhile_append_of_pos htext, List.dropWhile_append_of_pos htext]
  cases rest with
  | nil => simp
  | cons c rest => simp [hrest c rfl]

theorem next_of_layout_fits {text rest : List Char} (h : Layout.Element text rest) {c : Char}
    {cs : List Char} (happend : text ++ rest = c :: cs) : next c cs = .ok (layout text, rest) := by
  cases h with
  | blank hc =>
    obtain ⟨rfl, rfl⟩ := List.cons.inj happend
    exact next_blank hc _
  | @lineComment body _ hbody hends =>
    obtain ⟨rfl, rfl⟩ := List.cons.inj happend
    have hinLine : ∀ d ∈ body, decide (d ≠ '\n') = true := fun d hd =>
      decide_eq_true (ne_of_mem_of_not_mem hd hbody)
    have hstop : ∀ d ∈ rest.head?, decide (d ≠ '\n') = false := fun d hd =>
      decide_eq_false (not_not.2 (hends d hd))
    obtain ⟨htake, hdrop⟩ := takeWhile_append_of_stop hinLine hstop
    change next '/' ('/' :: (body ++ rest)) = _
    rw [next_lineComment, htake, hdrop]
  | @blockComment body _ hbody =>
    obtain ⟨rfl, rfl⟩ := List.cons.inj happend
    change next '/' ('*' :: (body ++ ['*', '/'] ++ rest)) = _
    rw [next_blockComment, cutComment_eq_some_iff.2 ⟨rfl, body, rfl, hbody⟩]

theorem isWord_of_keyword {text : List Char} {word : Keyword}
    (h : Keyword.ofWord? (String.ofList text) = some word) :
    text.head?.any isNameStart = true ∧ ∀ c ∈ text.tail, isNamePart c = true := by
  rw [← List.all_eq_true, ← String.toList_ofList (l := text)]
  generalize String.ofList text = name at h
  unfold Keyword.ofWord? at h
  split at h <;> first | decide | cases h

theorem next_of_word {c : Char} {text rest : List Char} (hstart : isNameStart c = true)
    (htext : ∀ d ∈ text, isNamePart d = true) (hrest : ∀ d ∈ rest.head?, isNamePart d = false) :
    next c (text ++ rest) = .ok (token (wordKind (c :: text)) (c :: text), rest) := by
  obtain ⟨htake, hdrop⟩ := takeWhile_append_of_stop htext hrest
  rw [next_word hstart, htake, hdrop]

theorem next_of_number {c : Char} {text rest : List Char}
    (h : Fits (token (.literal .number) (c :: text)) rest) :
    next c (text ++ rest) = .ok (token (.literal .number) (c :: text), rest) := by
  obtain ⟨⟨hstart, hchain⟩, hend⟩ := h
  have hhex := startsHex_append hend
  have hstart : startsNumber (c :: (text ++ rest)) = true := by
    cases text with
    | cons d text => exact hstart
    | nil =>
      have hdigit : c.isDigit = true := by simpa [startsNumber] using hstart
      simp [startsNumber, hdigit]
  have hcut := cutNumber_eq_iff.2 ⟨rfl, hchain, hend⟩
  rw [isHex, ← hhex] at hcut
  rw [next_number hstart, hcut]

theorem next_of_operator {kind : Token.Kind} (hkind : kind.isOperator = true) {text rest : List Char}
    (h : Fits (token kind text) rest) {c : Char} {cs : List Char} (happend : text ++ rest = c :: cs) :
    next c cs = .ok (token kind text, rest) := by
  obtain ⟨hspells, hends⟩ := h
  rw [Token.Kind.spells_iff_mem_operators hkind] at hspells
  rw [Token.Kind.endsAhead_iff_of_isOperator hkind, happend] at hends
  obtain ⟨hlongest, hcomment, hnumber⟩ := hends
  have hentry : operator? c cs = some (String.ofList text, kind) := by
    refine operator?_eq_some_of_longest hspells ?_ ?_
    · rw [String.toList_ofList]
      exact ⟨rest, happend⟩
    · intro other hother hstart
      rw [String.length_ofList]
      exact hlongest other hother hstart
  rw [next_operator hentry hcomment hnumber, String.toList_ofList, String.length_ofList, ← happend,
    List.drop_left]

theorem not_spells_nil (kind : Token.Kind) : ¬ kind.Spells [] := by
  intro h
  by_cases hkind : kind.isOperator = true
  · rw [Token.Kind.spells_iff_mem_operators hkind] at h
    exact absurd rfl ((by decide : ∀ entry ∈ operators, entry.1 ≠ "") _ h)
  cases kind with
  | ident name =>
    obtain ⟨rfl, hname⟩ := h
    cases hname.starts
  | keyword word => cases h
  | literal kind =>
    cases kind with
    | number => cases h.1
    | string | rune | rawString =>
      obtain ⟨body, hbody, -⟩ := h
      cases hbody
  | _ => exact hkind rfl

theorem next_of_fits {lexeme : Lexeme} {rest : List Char} (h : lexeme.Fits rest) {c : Char}
    {cs : List Char} (happend : lexeme.text ++ rest = c :: cs) : next c cs = .ok (lexeme, rest) := by
  cases lexeme with
  | layout text => exact next_of_layout_fits h happend
  | token kind text =>
    change text ++ rest = c :: cs at happend
    by_cases hkind : kind.isOperator = true
    · exact next_of_operator hkind h happend
    cases text with
    | nil => exact absurd h.1 (not_spells_nil kind)
    | cons d text =>
      obtain ⟨rfl, rfl⟩ : d = c ∧ text ++ rest = cs := List.cons.inj happend
      cases kind with
      | ident name =>
        obtain ⟨⟨rfl, hname⟩, hends⟩ := h
        have hstart := hname.starts
        have hparts := hname.continues
        rw [String.toList_ofList] at hstart hparts
        rw [List.tail_cons] at hparts
        rw [next_of_word hstart hparts hends, wordKind, hname.unreserved]
      | keyword word =>
        obtain ⟨hword, hends⟩ := h
        obtain ⟨hstart, hparts⟩ : isNameStart d = true ∧ ∀ c ∈ text, isNamePart c = true :=
          isWord_of_keyword hword
        rw [next_of_word hstart hparts hends, wordKind, hword]
      | literal literalKind =>
        cases literalKind with
        | number => exact next_of_number h
        | string =>
          obtain ⟨⟨body, hbody, hquoted⟩, -⟩ := h
          obtain ⟨rfl, rfl⟩ := List.cons.inj hbody
          rw [next_string, quoted, (cutQuoted_eq_ok_iff (by decide)).2 ⟨rfl, hquoted⟩]
        | rune =>
          obtain ⟨⟨body, hbody, hquoted⟩, -⟩ := h
          obtain ⟨rfl, rfl⟩ := List.cons.inj hbody
          rw [next_rune, quoted, (cutQuoted_eq_ok_iff (by decide)).2 ⟨rfl, hquoted⟩]
        | rawString =>
          obtain ⟨⟨body, hbody, hraw⟩, -⟩ := h
          obtain ⟨rfl, rfl⟩ := List.cons.inj hbody
          rw [next_raw, cutRaw_eq_some_iff.2 ⟨rfl, body, rfl, hraw⟩]
      | _ => exact absurd rfl hkind

/-- The next lexeme of a text is the start of it that fits ahead of what is left. -/
theorem next_eq_ok_iff {c : Char} {cs rest : List Char} {lexeme : Lexeme} :
    next c cs = .ok (lexeme, rest) ↔ lexeme.text ++ rest = c :: cs ∧ lexeme.Fits rest :=
  ⟨fun h => ⟨(next_append h).1, next_fits h⟩, fun h => next_of_fits h.2 h.1⟩

end ReactBridge.Go.Lexeme
