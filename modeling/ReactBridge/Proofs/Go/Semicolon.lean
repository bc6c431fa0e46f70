import ReactBridge.Proofs.Go.Coverage

/-!
# Semicolons at line ends

Behind a token that can end a statement, a gap of layout stands for one semicolon if a line ends in
it, and for none otherwise.

* `Token.endsGap` : the tokens that gaps stand ahead of;
* `BreaksBehind gap after ahead` : the first line end of a gap comes behind `ahead`;
* `Implied ends before gap after semicolons` : the semicolons that a gap stands for;
* `Gaps ends before rest tokens` : tokens over `rest` with the semicolons of each gap;
* `tokenize_semicolons` : the semicolons without a text among the tokens of a source.
-/

namespace ReactBridge.Go

/-- Whether a gap of layout is over at the token: it has a text, or is the end of the file. -/
def Token.endsGap (token : Token) : Bool :=
  !token.span.isEmpty || token.kind = .endOfFile

/-- The text of a gap up to its first line end, which is a newline or the start of a comment that
holds one, or the whole gap if no line ends in it. -/
inductive BreaksBehind : (gap after ahead : List Char) → Prop
  | newline {ahead more after : List Char} (hahead : Layout ahead ('\n' :: (more ++ after)))
      (hline : '\n' ∉ ahead) : BreaksBehind (ahead ++ '\n' :: more) after ahead
  | comment {ahead body more after : List Char}
      (hahead : Layout ahead ('/' :: '*' :: (body ++ ['*', '/']) ++ (more ++ after)))
      (hline : '\n' ∉ ahead) (hcomment : ¬ ['*', '/'] <:+: body ++ ['*']) (hbody : '\n' ∈ body) :
      BreaksBehind (ahead ++ ('/' :: '*' :: (body ++ ['*', '/']) ++ more)) after ahead
  | nowhere {gap after : List Char} (hline : '\n' ∉ gap) : BreaksBehind gap after gap

/-- The semicolon behind a text. -/
def semicolonBehind (text : List Char) : Token :=
  ⟨.semicolon, width text, width text⟩

/-- The semicolons that a gap stands for: one at its first line end, if the token ahead of it `ends` a
statement there and a line or the text ends, and none otherwise. -/
structure Implied (ends : Bool) (before gap after : List Char) (semicolons : List Token) : Prop where
  one : ends = true ∧ ('\n' ∈ gap ∨ after = []) →
    ∃ ahead, BreaksBehind gap after ahead ∧ semicolons = [semicolonBehind (before ++ ahead)]
  none : ¬ (ends = true ∧ ('\n' ∈ gap ∨ after = [])) → semicolons = []

/-! ## One gap -/

theorem BreaksBehind.layout {gap after ahead text : List Char} (h : BreaksBehind gap after ahead)
    (htext : Layout.Element text (gap ++ after)) (hline : '\n' ∉ text) :
    BreaksBehind (text ++ gap) after (text ++ ahead) := by
  have hnew : ∀ {rest : List Char}, '\n' ∉ rest → '\n' ∉ text ++ rest := fun hrest hmem =>
    (List.mem_append.1 hmem).elim hline hrest
  cases h with
  | @newline _ more _ hahead hin =>
    rw [← List.append_assoc]
    refine .newline (.cons ?_ hahead) (hnew hin)
    simpa using htext
  | @comment _ body more _ hahead hin hcomment hbody =>
    rw [← List.append_assoc]
    refine .comment (.cons ?_ hahead) (hnew hin) hcomment hbody
    simpa using htext
  | nowhere hin => exact .nowhere (hnew hin)

theorem BreaksBehind.of_element {text more after : List Char}
    (htext : Layout.Element text (more ++ after)) (hline : '\n' ∈ text) :
    BreaksBehind (text ++ more) after [] := by
  generalize hall : more ++ after = all at htext
  cases htext with
  | blank hc =>
    obtain rfl := List.mem_singleton.1 hline
    exact .newline .nil List.not_mem_nil
  | lineComment hin =>
    rw [List.mem_cons, List.mem_cons] at hline
    rcases hline with h | h | h
    · cases h
    · cases h
    · exact absurd h hin
  | @blockComment body _ hfirst =>
    have hbody : '\n' ∈ body := by simpa using hline
    have hnil : Layout [] ('/' :: '*' :: (body ++ ['*', '/']) ++ (more ++ after)) := .nil
    exact .comment hnil List.not_mem_nil hfirst hbody

namespace Implied

variable {ends : Bool} {before gap after text : List Char} {semicolons : List Token}

theorem eq_nil (h : Implied false before gap after semicolons) : semicolons = [] :=
  h.none fun hends => Bool.false_ne_true hends.1

/-- An element of layout in which no line ends can come ahead. -/
theorem layout (h : Implied ends (before ++ text) gap after semicolons)
    (htext : Layout.Element text (gap ++ after)) (hline : '\n' ∉ text) :
    Implied ends before (text ++ gap) after semicolons := by
  have hmem : '\n' ∈ text ++ gap ↔ '\n' ∈ gap := by
    rw [List.mem_append]
    exact ⟨fun hmem => hmem.resolve_left hline, .inr⟩
  refine ⟨fun hends => ?_, fun hends => ?_⟩
  · rw [hmem] at hends
    obtain ⟨ahead, hbreaks, hsemicolons⟩ := h.one hends
    refine ⟨text ++ ahead, hbreaks.layout htext hline, ?_⟩
    rw [hsemicolons, List.append_assoc]
  · rw [hmem] at hends
    exact h.none hends

/-- An element in which a line ends takes the semicolon of the gap behind it. -/
theorem line (h : Implied false (before ++ text) gap after semicolons)
    (htext : Layout.Element text (gap ++ after)) (hline : '\n' ∈ text) :
    Implied ends before (text ++ gap) after (impliedSemicolon ends (width before) ++ semicolons) := by
  rw [h.eq_nil, List.append_nil]
  have hmem : '\n' ∈ text ++ gap := List.mem_append_left gap hline
  cases ends with
  | false => exact ⟨fun hends => absurd hends.1 Bool.false_ne_true, fun _ => rfl⟩
  | true =>
    refine ⟨fun _ => ⟨[], .of_element htext hline, ?_⟩, fun hends => absurd ⟨rfl, .inl hmem⟩ hends⟩
    rw [List.append_nil]
    rfl

/-- The end of the text takes a semicolon if the token right ahead of it ends a statement. -/
theorem at_end (ends : Bool) (before : List Char) :
    Implied ends before [] [] (impliedSemicolon ends (width before)) := by
  cases ends with
  | false => exact ⟨fun hends => absurd hends.1 Bool.false_ne_true, fun _ => rfl⟩
  | true =>
    refine ⟨fun _ => ⟨[], .nowhere List.not_mem_nil, ?_⟩, fun hends => absurd ⟨rfl, .inr rfl⟩ hends⟩
    rw [List.append_nil]
    rfl

theorem at_token (ends : Bool) (before : List Char) (hafter : after ≠ []) :
    Implied ends before [] after [] :=
  ⟨fun hends => absurd (hends.2.resolve_left List.not_mem_nil) hafter, fun _ => rfl⟩

theorem endsGap_eq_false (h : Implied ends before gap after semicolons) :
    ∀ t ∈ semicolons, t.endsGap = false := by
  by_cases hends : ends = true ∧ ('\n' ∈ gap ∨ after = [])
  · obtain ⟨ahead, -, rfl⟩ := h.one hends
    refine List.forall_mem_singleton.2 ?_
    simp [semicolonBehind, Token.endsGap, Span.isEmpty, Span.length]
  · rw [h.none hends]
    exact fun t ht => absurd ht List.not_mem_nil

end Implied

/-! ## The gaps of a text -/

theorem append_ne_nil_of_spells {kind : Token.Kind} {text : List Char} (h : kind.Spells text)
    (rest : List Char) : text ++ rest ≠ [] := by
  intro hnil
  rw [(List.append_eq_nil_iff.1 hnil).1] at h
  exact Lexeme.not_spells_nil kind h

theorem exists_of_append_eq_append_cons {α : Type} {xs ys zs rest : List α} {x : α} (hx : x ∉ xs)
    (h : xs ++ rest = ys ++ x :: zs) : ∃ middle, ys = xs ++ middle ∧ rest = middle ++ x :: zs := by
  induction xs generalizing ys with
  | nil => exact ⟨ys, rfl, h⟩
  | cons y xs ih =>
    rw [List.mem_cons, not_or] at hx
    cases ys with
    | nil => exact absurd (List.cons.inj h).1.symm hx.1
    | cons z ys =>
      obtain ⟨rfl, hrest⟩ := List.cons.inj h
      obtain ⟨middle, rfl, hmiddle⟩ := ih hx.2 hrest
      exact ⟨middle, rfl, hmiddle⟩

theorem eq_of_endsGap {front between more back : List Token} {t u : Token}
    (hfront : ∀ s ∈ front, s.endsGap = false) (ht : t.endsGap = true)
    (hbetween : ∀ s ∈ between, s.endsGap = false) (hu : u.endsGap = true)
    (h : front ++ t :: more = between ++ u :: back) : front = between ∧ t = u := by
  have hnot : ∀ {ts : List Token} {v : Token}, (∀ s ∈ ts, s.endsGap = false) → v.endsGap = true →
      v ∉ ts := by
    intro ts v hts hv hmem
    rw [hts v hmem] at hv
    cases hv
  obtain ⟨middle, rfl, hmiddle⟩ := exists_of_append_eq_append_cons (hnot hfront hu) h
  cases middle with
  | nil => exact ⟨(List.append_nil front).symm, (List.cons.inj hmiddle).1⟩
  | cons v middle =>
    obtain ⟨rfl, -⟩ := List.cons.inj hmiddle
    exact absurd (List.mem_append_right front List.mem_cons_self) (hnot hbetween ht)

/-- Tokens over the text `rest` of a source in which `before` comes first: each stands behind a gap and
the semicolons of it. `ends` tells whether the token ahead of the first gap ends a statement. -/
inductive Gaps : (ends : Bool) → (before rest : List Char) → List Token → Prop
  | done {ends : Bool} {before gap : List Char} {semicolons : List Token} (hgap : Layout gap [])
      (himplied : Implied ends before gap [] semicolons) :
      Gaps ends before gap
        (semicolons ++ [⟨.endOfFile, width (before ++ gap), width (before ++ gap)⟩])
  | token {ends : Bool} {before gap text rest : List Char} {kind : Token.Kind}
      {semicolons tokens : List Token} (hgap : Layout gap (text ++ rest))
      (himplied : Implied ends before gap (text ++ rest) semicolons) (hspells : kind.Spells text)
      (more : Gaps kind.endsLine (before ++ gap ++ text) rest tokens) :
      Gaps ends before (gap ++ (text ++ rest))
        (semicolons ++ ⟨kind, width (before ++ gap), width (before ++ gap ++ text)⟩ :: tokens)

namespace Gaps

variable {ends : Bool} {before rest text : List Char} {tokens : List Token}

theorem layout (h : Gaps ends (before ++ text) rest tokens) (htext : Layout.Element text rest)
    (hline : '\n' ∉ text) : Gaps ends before (text ++ rest) tokens := by
  generalize hall : before ++ text = all at h
  cases h with
  | done hgap himplied =>
    subst hall
    rw [List.append_assoc before]
    refine .done (.cons ?_ hgap) (himplied.layout ?_ hline)
    · rwa [List.append_nil]
    · rwa [List.append_nil]
  | token hgap himplied hspells more =>
    subst hall
    rw [List.append_assoc before] at more ⊢
    rw [← List.append_assoc text]
    exact .token (.cons htext hgap) (himplied.layout htext hline) hspells more

theorem line (h : Gaps false (before ++ text) rest tokens) (htext : Layout.Element text rest)
    (hline : '\n' ∈ text) :
    Gaps ends before (text ++ rest) (impliedSemicolon ends (width before) ++ tokens) := by
  generalize hall : before ++ text = all at h
  cases h with
  | done hgap himplied =>
    subst hall
    rw [List.append_assoc before, ← List.append_assoc (impliedSemicolon _ _)]
    refine .done (.cons ?_ hgap) (himplied.line ?_ hline)
    · rwa [List.append_nil]
    · rwa [List.append_nil]
  | token hgap himplied hspells more =>
    subst hall
    rw [List.append_assoc before] at more ⊢
    rw [← List.append_assoc text, ← List.append_assoc (impliedSemicolon _ _)]
    exact .token (.cons htext hgap) (himplied.line htext hline) hspells more

theorem first (h : Gaps ends before rest tokens) {between back : List Token} {u : Token}
    (htokens : tokens = between ++ u :: back) (hbetween : ∀ t ∈ between, t.endsGap = false)
    (hu : u.endsGap = true) :
    ∃ gap after, rest = gap ++ after ∧ u.span.start = width (before ++ gap) ∧ Layout gap after ∧
      (after = [] ↔ u.kind = .endOfFile) ∧ Implied ends before gap after between := by
  cases h with
  | done hgap himplied =>
    obtain ⟨rfl, rfl⟩ := eq_of_endsGap himplied.endsGap_eq_false (by simp [Token.endsGap]) hbetween hu
      htokens
    exact ⟨rest, [], (List.append_nil rest).symm, rfl, hgap, by simp, himplied⟩
  | @token _ _ gap text rest kind _ _ hgap himplied hspells more =>
    have hv : Token.endsGap ⟨kind, width (before ++ gap), width (before ++ gap ++ text)⟩ = true := by
      rw [Token.endsGap, isEmpty_eq_false_of_spells hspells]
      rfl
    obtain ⟨rfl, rfl⟩ := eq_of_endsGap himplied.endsGap_eq_false hv hbetween hu htokens
    exact ⟨gap, text ++ rest, rfl, rfl, hgap,
      iff_of_false (append_ne_nil_of_spells hspells rest) (ne_endOfFile_of_spells hspells), himplied⟩

theorem next (h : Gaps ends before rest tokens) {front between back : List Token} {t u : Token}
    (htokens : tokens = front ++ t :: (between ++ u :: back)) (ht : t.span.isEmpty = false)
    (hbetween : ∀ s ∈ between, s.endsGap = false) (hu : u.endsGap = true) :
    ∃ ahead gap after, before ++ rest = ahead ++ (gap ++ after) ∧ t.span.stop = width ahead ∧
      u.span.start = width (ahead ++ gap) ∧ Layout gap after ∧
        (after = [] ↔ u.kind = .endOfFile) ∧ Implied t.kind.endsLine ahead gap after between := by
  have hgap : ∀ s : Token, s.endsGap = false → s ≠ t := by
    rintro s hs rfl
    rw [Token.endsGap, ht] at hs
    cases hs
  induction h generalizing front with
  | @done _ before gap semicolons _ himplied =>
    -- No token has a text there.
    have hmem : t ∈ semicolons ++ [⟨.endOfFile, width (before ++ gap), width (before ++ gap)⟩] := by
      rw [htokens]
      exact List.mem_append_right _ List.mem_cons_self
    rcases List.mem_append.1 hmem with hmem | hmem
    · exact absurd rfl (hgap t (himplied.endsGap_eq_false t hmem))
    · obtain rfl := List.mem_singleton.1 hmem
      simp [Span.isEmpty, Span.length] at ht
  | @token _ before gap text rest kind semicolons tokens _ himplied _ more ih =>
    have hsemicolons : t ∉ semicolons := fun hmem => hgap t (himplied.endsGap_eq_false t hmem) rfl
    obtain ⟨middle, rfl, hmiddle⟩ := exists_of_append_eq_append_cons hsemicolons htokens
    cases middle with
    | nil =>
      obtain ⟨rfl, rfl⟩ := List.cons.inj hmiddle
      obtain ⟨gap', after, rfl, hfound⟩ := more.first rfl hbetween hu
      obtain ⟨hstart, hlayout, hafter, himplied'⟩ := hfound
      exact ⟨before ++ gap ++ text, gap', after, by simp, rfl, hstart, hlayout, hafter, himplied'⟩
    | cons v middle =>
      obtain ⟨rfl, hmore⟩ := List.cons.inj hmiddle
      obtain ⟨ahead, gap', after, hsource, hfound⟩ := ih hmore
      refine ⟨ahead, gap', after, ?_, hfound⟩
      rw [← hsource]
      simp

end Gaps

/-- The tokens of lexemes that all fit stand behind their gaps. -/
theorem gaps_tokens {lexemes : List Lexeme} (hfit : Lexeme.AllFit lexemes) (before : List Char)
    (ends : Bool) :
    Gaps ends before (Lexeme.textOf lexemes) (Lexeme.tokens (width before) ends lexemes) := by
  induction lexemes generalizing before ends with
  | nil =>
    have hdone := Gaps.done Layout.nil (Implied.at_end ends before)
    rwa [List.append_nil] at hdone
  | cons lexeme lexemes ih =>
    obtain ⟨hlexeme, hfit⟩ := hfit
    cases lexeme with
    | layout text =>
      have hmore := fun ends => ih hfit (before ++ text) ends
      rw [width_append] at hmore
      rw [Lexeme.tokens]
      split
      · next hline => exact (hmore false).line hlexeme hline
      · next hline => exact (hmore ends).layout hlexeme hline
    | token kind text =>
      have hne := append_ne_nil_of_spells hlexeme.1 (Lexeme.textOf lexemes)
      have hmore := ih hfit (before ++ text) kind.endsLine
      have htoken := Gaps.token .nil (.at_token ends before hne) hlexeme.1 (by simpa using hmore)
      simpa [Lexeme.tokens, Lexeme.text] using htoken

/-! ## The tokens of a source -/

/-- Which semicolons stand among the tokens of a source without a text of their own. -/
structure Punctuated (source : String) (tokens : List Token) : Prop where
  /-- None stands ahead of the first token with a text, or of the end of a text without any. -/
  first : ∀ front u back, tokens = front ++ u :: back → (∀ t ∈ front, t.endsGap = false) →
    u.endsGap = true → front = []
  /-- Between a token with a text and the next one, or the end of the file, lies a gap of layout, and
  there stand the semicolons of that gap and nothing else. -/
  next : ∀ front t between u back, tokens = front ++ t :: (between ++ u :: back) →
    t.span.isEmpty = false → (∀ s ∈ between, s.endsGap = false) → u.endsGap = true →
    ∃ before gap after, source.toList = before ++ (gap ++ after) ∧ t.span.stop = width before ∧
      u.span.start = width (before ++ gap) ∧ Layout gap after ∧
        (after = [] ↔ u.kind = .endOfFile) ∧ Implied t.kind.endsLine before gap after between

/-- **A line end stands for a semicolon** behind a token that can end a statement, once for each gap
and at its first line end, and nowhere else. -/
theorem tokenize_semicolons {source : String} {tokens : List Token}
    (h : tokenize source = .ok tokens) : Punctuated source tokens := by
  obtain ⟨lexemes, htext, hfit, rfl⟩ := tokenize_eq_ok_iff.1 h
  have hgaps := gaps_tokens hfit [] false
  rw [htext] at hgaps
  refine ⟨fun front u back htokens hfront hu => ?_, fun front t between u back htokens ht hbetween hu => ?_⟩
  · obtain ⟨gap, after, -, -, -, -, himplied⟩ := hgaps.first htokens hfront hu
    exact himplied.eq_nil
  · exact hgaps.next htokens ht hbetween hu

/-- A comment over two lines behind a name, with a line end behind it, and a comment at the end of the
text. -/
theorem tokenize_semicolons_sample :
    ∃ tokens, tokenize "\nx /* a\n*/ \n:= é// b" = .ok tokens ∧
      Punctuated "\nx /* a\n*/ \n:= é// b" tokens := by
  have h : tokenize "\nx /* a\n*/ \n:= é// b" =
      .ok [⟨.ident "x", 1, 2⟩, ⟨.semicolon, 3, 3⟩, ⟨.operator, 12, 14⟩, ⟨.ident "é", 15, 17⟩,
        ⟨.semicolon, 21, 21⟩, ⟨.endOfFile, 21, 21⟩] := by
    decide +kernel
  exact ⟨_, h, tokenize_semicolons h⟩

end ReactBridge.Go
