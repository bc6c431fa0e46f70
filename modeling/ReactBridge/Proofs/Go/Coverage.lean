import ReactBridge.Proofs.Go.Lexeme

/-!
# Tokens cover their source

* `scan_eq_ok_iff` : the lexemes of a text are those that it is made of and that all fit;
* `Stream before rest tokens` : tokens laid over `rest`, each behind a gap of layout, with the
  semicolons that line ends stand for in between;
* `tokenize_eq_ok_iff` : the tokens of a source are a stream over all of it, in one way;
* `Tiling before rest tokens` : tokens with a text, and the gaps around them, put together;
* `tokenize_covers` : positions, texts and gaps of the tokens of a source.
-/

namespace ReactBridge.Go

@[simp, grind =]
theorem width_append (cs ds : List Char) : width (cs ++ ds) = width cs + width ds := by
  induction cs with
  | nil => rw [List.nil_append, width, Nat.zero_add]
  | cons c cs ih => rw [List.cons_append, width, width, ih, Nat.add_assoc]

theorem width_pos {cs : List Char} (h : cs ≠ []) : 0 < width cs := by
  cases cs with
  | nil => exact absurd rfl h
  | cons c cs =>
    have := c.utf8Size_pos
    rw [width]
    omega

theorem width_eq_length (cs : List Char) : width cs = (cs.flatMap String.utf8EncodeChar).length := by
  induction cs with
  | nil => rfl
  | cons c cs ih =>
    rw [width, ih, List.flatMap_cons, List.length_append, String.length_utf8EncodeChar]

theorem width_toList (source : String) : width source.toList = source.utf8ByteSize := by
  rw [← String.size_toByteArray, ← String.utf8Encode_toList, List.utf8Encode,
    List.size_toByteArray, width_eq_length]

/-! ## The lexemes of a text -/

namespace Lexeme

def textOf (lexemes : List Lexeme) : List Char :=
  lexemes.flatMap text

@[simp, grind =]
theorem textOf_nil : textOf [] = [] := rfl

@[simp, grind =]
theorem textOf_cons (lexeme : Lexeme) (lexemes : List Lexeme) :
    textOf (lexeme :: lexemes) = lexeme.text ++ textOf lexemes :=
  List.flatMap_cons

@[simp, grind =]
theorem textOf_append (first second : List Lexeme) :
    textOf (first ++ second) = textOf first ++ textOf second :=
  List.flatMap_append

/-- Whether each lexeme fits ahead of those behind it. -/
def AllFit : List Lexeme → Prop
  | [] => True
  | lexeme :: lexemes => lexeme.Fits (textOf lexemes) ∧ AllFit lexemes

theorem text_ne_nil_of_fits {lexeme : Lexeme} {after : List Char} (h : lexeme.Fits after) :
    lexeme.text ≠ [] := by
  cases lexeme with
  | layout text => cases h <;> simp [text]
  | token kind text =>
    intro htext
    rw [show text = [] from htext] at h
    exact not_spells_nil kind h.1

theorem scan_eq_ok_iff {offset : Nat} {cs : List Char} {lexemes : List Lexeme} :
    scan offset cs = .ok lexemes ↔ textOf lexemes = cs ∧ AllFit lexemes := by
  constructor
  · intro h
    fun_induction scan offset cs generalizing lexemes with
    | case1 =>
      obtain rfl := Except.ok.inj h
      exact ⟨rfl, trivial⟩
    | case2 | case3 => cases h
    | case4 offset c cs lexeme rest hnext lexemes hscan ih =>
      obtain rfl := Except.ok.inj h
      obtain ⟨hrest, hfit⟩ := ih hscan
      obtain ⟨happend, hlexeme⟩ := next_eq_ok_iff.1 hnext
      rw [← hrest] at happend hlexeme
      exact ⟨happend, hlexeme, hfit⟩
  · rintro ⟨rfl, hfit⟩
    induction lexemes generalizing offset with
    | nil => rw [textOf_nil, scan]
    | cons lexeme lexemes ih =>
      obtain ⟨hlexeme, hfit⟩ := hfit
      cases htext : textOf (lexeme :: lexemes) with
      | nil =>
        have hnil := List.append_eq_nil_iff.1 htext
        exact absurd hnil.1 (text_ne_nil_of_fits hlexeme)
      | cons c cs =>
        have hnext := next_eq_ok_iff.2 ⟨htext, hlexeme⟩
        rw [scan]
        split
        · next hfault => rw [hnext] at hfault; cases hfault
        · next found rest hfound =>
          rw [hnext] at hfound
          obtain ⟨rfl, rfl⟩ : lexeme = found ∧ textOf lexemes = rest :=
            Prod.mk.inj (Except.ok.inj hfound)
          rw [ih hfit]

end Lexeme

theorem tokenize_eq_ok_iff {source : String} {tokens : List Token} :
    tokenize source = .ok tokens ↔
      ∃ lexemes, Lexeme.textOf lexemes = source.toList ∧ Lexeme.AllFit lexemes ∧
        Lexeme.tokens 0 false lexemes = tokens := by
  unfold tokenize
  constructor
  · intro h
    cases hscan : Lexeme.scan 0 source.toList with
    | error e => rw [hscan] at h; cases h
    | ok lexemes =>
      rw [hscan] at h
      obtain ⟨htext, hfit⟩ := Lexeme.scan_eq_ok_iff.1 hscan
      exact ⟨lexemes, htext, hfit, Except.ok.inj h⟩
  · rintro ⟨lexemes, htext, hfit, rfl⟩
    rw [Lexeme.scan_eq_ok_iff.2 ⟨htext, hfit⟩]
    rfl

/-! ## Streams -/

theorem Layout.append {text more after : List Char} (htext : Layout text (more ++ after))
    (hmore : Layout more after) : Layout (text ++ more) after := by
  generalize hall : more ++ after = all at htext
  induction htext with
  | nil => exact hmore
  | cons head tail ih =>
    subst hall
    rw [List.append_assoc]
    refine .cons ?_ (ih rfl)
    rwa [List.append_assoc]

theorem Layout.of_element {text after : List Char} (h : Layout.Element text after) :
    Layout text after := by
  have : Layout (text ++ []) after := .cons h .nil
  rwa [List.append_nil] at this

/-- Whether a line ends where `after` starts: at a line end, at a comment that spans one, or at the
end of the text. -/
def EndsLine (after : List Char) : Prop :=
  after = [] ∨ ∃ text rest, after = text ++ rest ∧ Layout.Element text rest ∧ '\n' ∈ text

/-- Tokens over the text `rest` of a source in which `before` comes first. -/
inductive Stream : (before rest : List Char) → List Token → Prop
  | done {before gap : List Char} (hgap : Layout gap []) :
      Stream before gap [⟨.endOfFile, width (before ++ gap), width (before ++ gap)⟩]
  | lineEnd {before gap rest : List Char} {tokens : List Token} (hgap : Layout gap rest)
      (hends : EndsLine rest) (more : Stream (before ++ gap) rest tokens) :
      Stream before (gap ++ rest)
        (⟨.semicolon, width (before ++ gap), width (before ++ gap)⟩ :: tokens)
  | token {before gap text rest : List Char} {kind : Token.Kind} {tokens : List Token}
      (hgap : Layout gap (text ++ rest)) (hspells : kind.Spells text)
      (hends : kind.EndsAhead text rest) (more : Stream (before ++ gap ++ text) rest tokens) :
      Stream before (gap ++ (text ++ rest))
        (⟨kind, width (before ++ gap), width (before ++ gap ++ text)⟩ :: tokens)

theorem Stream.layout {before text rest : List Char} {tokens : List Token}
    (h : Layout text rest) (hstream : Stream (before ++ text) rest tokens) :
    Stream before (text ++ rest) tokens := by
  generalize hall : before ++ text = all at hstream
  cases hstream with
  | done hgap =>
    subst hall
    rw [List.append_assoc]
    exact .done (.append (by rwa [List.append_nil]) hgap)
  | lineEnd hgap hends more =>
    subst hall
    rw [List.append_assoc before] at *
    rw [← List.append_assoc]
    exact .lineEnd (.append h hgap) hends more
  | token hgap hspells hends more =>
    subst hall
    rw [List.append_assoc before] at *
    rw [← List.append_assoc]
    exact .token (.append h hgap) hspells hends more

theorem Stream.lineEnd_here {before rest : List Char} {tokens : List Token} (hends : EndsLine rest)
    (more : Stream before rest tokens) :
    Stream before rest (⟨.semicolon, width before, width before⟩ :: tokens) := by
  rw [← List.append_nil before] at more ⊢
  simpa using Stream.lineEnd .nil hends more

theorem Stream.token_here {before text rest : List Char} {kind : Token.Kind} {tokens : List Token}
    (hspells : kind.Spells text) (hends : kind.EndsAhead text rest)
    (more : Stream (before ++ text) rest tokens) :
    Stream before (text ++ rest) (⟨kind, width before, width (before ++ text)⟩ :: tokens) := by
  rw [← List.append_nil before] at more
  simpa using Stream.token .nil hspells hends more

theorem Stream.implied {before rest : List Char} {tokens : List Token} (hends : EndsLine rest)
    (ends : Bool) (more : Stream before rest tokens) :
    Stream before rest (impliedSemicolon ends (width before) ++ tokens) := by
  cases ends with
  | false => exact more
  | true => exact .lineEnd_here hends more

/-- The tokens of lexemes that all fit are a stream over their text. -/
theorem stream_tokens {lexemes : List Lexeme} (hfit : Lexeme.AllFit lexemes) (before : List Char)
    (ends : Bool) :
    Stream before (Lexeme.textOf lexemes) (Lexeme.tokens (width before) ends lexemes) := by
  induction lexemes generalizing before ends with
  | nil =>
    refine .implied (.inl rfl) ends ?_
    simpa using @Stream.done before [] .nil
  | cons lexeme lexemes ih =>
    obtain ⟨hlexeme, hfit⟩ := hfit
    cases lexeme with
    | layout text =>
      have hmore := fun ends =>
        Stream.layout (.of_element hlexeme) (ih hfit (before ++ text) ends)
      rw [width_append] at hmore
      rw [Lexeme.tokens]
      split
      · next hline =>
        exact .implied (.inr ⟨text, Lexeme.textOf lexemes, rfl, hlexeme, hline⟩) ends (hmore false)
      · exact hmore ends
    | token kind text =>
      have hmore := ih hfit (before ++ text) kind.endsLine
      have hstream := Stream.token_here hlexeme.1 hlexeme.2 hmore
      rwa [width_append] at hstream

theorem stream_of_tokenize {source : String} {tokens : List Token}
    (h : tokenize source = .ok tokens) : Stream [] source.toList tokens := by
  obtain ⟨lexemes, htext, hfit, rfl⟩ := tokenize_eq_ok_iff.1 h
  rw [← htext]
  exact stream_tokens hfit [] false

/-! ## Positions -/

/-- The span covers `text` in a source, behind `before` and ahead of `after`. -/
structure Span.Cuts (span : Span) (source before text after : List Char) : Prop where
  source_eq : source = before ++ (text ++ after)
  start_eq : span.start = width before
  stop_eq : span.stop = width (before ++ text)

theorem Span.Cuts.start_le_stop {span : Span} {source before text after : List Char}
    (h : span.Cuts source before text after) : span.start ≤ span.stop := by
  rw [h.start_eq, h.stop_eq, width_append]
  exact Nat.le_add_right _ _

theorem Span.Cuts.stop_le {span : Span} {source : String} {before text after : List Char}
    (h : span.Cuts source.toList before text after) : span.stop ≤ source.utf8ByteSize := by
  rw [h.stop_eq, ← width_toList, h.source_eq, ← List.append_assoc, width_append _ after]
  exact Nat.le_add_right _ _

theorem ne_endOfFile_of_spells {kind : Token.Kind} {text : List Char} (h : kind.Spells text) :
    kind ≠ .endOfFile := by
  rintro rfl
  exact absurd rfl ((by decide : ∀ entry ∈ Token.Kind.operators, entry.2 ≠ .endOfFile) _ h)

theorem isEmpty_eq_false_of_spells {kind : Token.Kind} {before text : List Char}
    (h : kind.Spells text) : Span.isEmpty ⟨width before, width (before ++ text)⟩ = false := by
  have hne : text ≠ [] := fun htext => Lexeme.not_spells_nil kind (htext ▸ h)
  have := width_pos hne
  simp only [Span.isEmpty, Span.length, width_append, decide_eq_false_iff_not]
  omega

namespace Stream

variable {before rest : List Char} {tokens : List Token}

theorem ends (h : Stream before rest tokens) :
    ∃ others, tokens =
        others ++ [⟨.endOfFile, width (before ++ rest), width (before ++ rest)⟩] ∧
      ∀ t ∈ others, t.kind ≠ .endOfFile := by
  induction h with
  | done hgap => exact ⟨[], rfl, fun t ht => by cases ht⟩
  | lineEnd hgap hends more ih =>
    obtain ⟨others, htokens, hothers⟩ := ih
    refine ⟨_ :: others, congrArg _ ?_, List.forall_mem_cons.2 ⟨Token.Kind.noConfusion, hothers⟩⟩
    rwa [List.append_assoc] at htokens
  | token hgap hspells hends more ih =>
    obtain ⟨others, htokens, hothers⟩ := ih
    refine ⟨_ :: others, congrArg _ ?_,
      List.forall_mem_cons.2 ⟨ne_endOfFile_of_spells hspells, hothers⟩⟩
    rwa [List.append_assoc, List.append_assoc] at htokens

theorem cuts (h : Stream before rest tokens) :
    ∀ t ∈ tokens, width before ≤ t.span.start ∧
      ∃ ahead text after, t.span.Cuts (before ++ rest) ahead text after := by
  induction h with
  | @done before gap hgap =>
    refine List.forall_mem_singleton.2 ⟨?_, before ++ gap, [], [], ?_⟩
    · simp only [width_append]
      omega
    · exact ⟨by simp, rfl, by simp⟩
  | @lineEnd before gap rest tokens hgap hends more ih =>
    refine List.forall_mem_cons.2 ⟨⟨?_, before ++ gap, [], rest, ?_⟩, fun t ht => ?_⟩
    · simp only [width_append]
      omega
    · exact ⟨by simp, rfl, by simp⟩
    · obtain ⟨hstart, hcuts⟩ := ih t ht
      rw [List.append_assoc] at hcuts
      rw [width_append] at hstart
      exact ⟨by omega, hcuts⟩
  | @token before gap text rest kind tokens hgap hspells hends more ih =>
    refine List.forall_mem_cons.2 ⟨⟨?_, before ++ gap, text, rest, ?_⟩, fun t ht => ?_⟩
    · simp only [width_append]
      omega
    · exact ⟨by simp, rfl, rfl⟩
    · obtain ⟨hstart, hcuts⟩ := ih t ht
      rw [List.append_assoc, List.append_assoc] at hcuts
      rw [width_append, width_append] at hstart
      exact ⟨by omega, hcuts⟩

/-- Each literal and each word is spelled where it stands. -/
theorem spells (h : Stream before rest tokens) : ∀ t ∈ tokens, t.kind.isOperator = false →
    ∃ ahead text after, t.span.Cuts (before ++ rest) ahead text after ∧ t.kind.Spells text := by
  induction h with
  | done => exact List.forall_mem_singleton.2 nofun
  | lineEnd hgap hends more ih =>
    rw [List.append_assoc] at ih
    exact List.forall_mem_cons.2 ⟨nofun, ih⟩
  | @token before gap text rest kind tokens hgap hspells hends more ih =>
    rw [List.append_assoc, List.append_assoc] at ih
    refine List.forall_mem_cons.2 ⟨fun _ => ⟨before ++ gap, text, rest, ?_, hspells⟩, ih⟩
    exact ⟨by simp, rfl, rfl⟩

theorem pairwise (h : Stream before rest tokens) :
    tokens.Pairwise fun t u => t.span.stop ≤ u.span.start := by
  induction h with
  | done hgap => exact List.pairwise_singleton _ _
  | lineEnd hgap hends more ih => exact .cons (fun t ht => (more.cuts t ht).1) ih
  | token hgap hspells hends more ih => exact .cons (fun t ht => (more.cuts t ht).1) ih

theorem empty (h : Stream before rest tokens) :
    ∀ t ∈ tokens, t.span.isEmpty = true → t.kind = .endOfFile ∨
      t.kind = .semicolon ∧
        ∃ ahead after, t.span.Cuts (before ++ rest) ahead [] after ∧ EndsLine after := by
  induction h with
  | done hgap => exact List.forall_mem_singleton.2 fun _ => .inl rfl
  | @lineEnd before gap rest tokens hgap hends more ih =>
    rw [List.append_assoc] at ih
    refine List.forall_mem_cons.2 ⟨fun _ => .inr ⟨rfl, before ++ gap, rest, ?_, hends⟩, ih⟩
    exact ⟨by simp, rfl, by simp⟩
  | token hgap hspells hends more ih =>
    rw [List.append_assoc, List.append_assoc] at ih
    refine List.forall_mem_cons.2 ⟨fun hempty => ?_, ih⟩
    rw [isEmpty_eq_false_of_spells hspells] at hempty
    cases hempty

end Stream

/-! ## Tokens and gaps put together -/

/-- Tokens with a text over the text `rest` of a source in which `before` comes first: each has a
text of its kind, is done where it stops, and layout is all that stands around it. -/
inductive Tiling : (before rest : List Char) → List Token → Prop
  | done {before gap : List Char} (hgap : Layout gap []) : Tiling before gap []
  | token {before gap text rest : List Char} {kind : Token.Kind} {tokens : List Token}
      (hgap : Layout gap (text ++ rest)) (hspells : kind.Spells text)
      (hends : kind.EndsAhead text rest) (more : Tiling (before ++ gap ++ text) rest tokens) :
      Tiling before (gap ++ (text ++ rest))
        (⟨kind, width (before ++ gap), width (before ++ gap ++ text)⟩ :: tokens)

theorem Tiling.layout {before text rest : List Char} {tokens : List Token}
    (h : Layout text rest) (htiling : Tiling (before ++ text) rest tokens) :
    Tiling before (text ++ rest) tokens := by
  generalize hall : before ++ text = all at htiling
  cases htiling with
  | done hgap => exact .done (.append (by rwa [List.append_nil]) hgap)
  | token hgap hspells hends more =>
    subst hall
    rw [List.append_assoc before] at *
    rw [← List.append_assoc]
    exact .token (.append h hgap) hspells hends more

theorem Stream.tiling {before rest : List Char} {tokens : List Token}
    (h : Stream before rest tokens) :
    Tiling before rest (tokens.filter fun t => !t.span.isEmpty) := by
  induction h with
  | done hgap =>
    rw [List.filter_singleton]
    simpa [Span.isEmpty, Span.length] using Tiling.done hgap
  | lineEnd hgap hends more ih =>
    rw [List.filter_cons_of_neg (by simp [Span.isEmpty, Span.length])]
    exact ih.layout hgap
  | token hgap hspells hends more ih =>
    rw [List.filter_cons_of_pos (by rw [isEmpty_eq_false_of_spells hspells]; rfl)]
    exact .token hgap hspells hends ih

/-- What tokens of a source say about it. -/
structure Covers (source : String) (tokens : List Token) : Prop where
  /-- The end of the file is the last token and no other, and stands at the end. -/
  ends : ∃ others, tokens =
      others ++ [⟨.endOfFile, source.utf8ByteSize, source.utf8ByteSize⟩] ∧
    ∀ t ∈ others, t.kind ≠ .endOfFile
  /-- Each token starts and stops between two characters of the source. -/
  cuts : ∀ t ∈ tokens, ∃ before text after, t.span.Cuts source.toList before text after
  /-- Tokens stand in order and apart. -/
  ordered : tokens.Pairwise fun t u => t.span.stop ≤ u.span.start
  /-- The only tokens without a text are the end of the file and semicolons at line ends. -/
  empty : ∀ t ∈ tokens, t.span.isEmpty = true → t.kind = .endOfFile ∨
    t.kind = .semicolon ∧
      ∃ before after, t.span.Cuts source.toList before [] after ∧ EndsLine after
  /-- The texts of the others, and the layout between them, are the source. -/
  tiled : Tiling [] source.toList (tokens.filter fun t => !t.span.isEmpty)

/-- **The tokens of a source cover it**, without losing, doubling or inventing any of its text. -/
theorem tokenize_covers {source : String} {tokens : List Token}
    (h : tokenize source = .ok tokens) : Covers source tokens := by
  obtain ⟨lexemes, htext, hfit, rfl⟩ := tokenize_eq_ok_iff.1 h
  have hstream := stream_tokens hfit [] false
  rw [htext] at hstream
  refine ⟨?_, fun t ht => (hstream.cuts t ht).2, hstream.pairwise, hstream.empty, hstream.tiling⟩
  rw [← width_toList]
  exact hstream.ends

/-- Comments, an implied semicolon inside of a gap, and a literal that starts with a point. -/
theorem tokenize_covers_sample :
    ∃ tokens, tokenize "x /* a\n*/ := `r`// é\n<<=.5e-3" = .ok tokens ∧
      Covers "x /* a\n*/ := `r`// é\n<<=.5e-3" tokens := by
  have h : tokenize "x /* a\n*/ := `r`// é\n<<=.5e-3" =
      .ok [⟨.ident "x", 0, 1⟩, ⟨.semicolon, 2, 2⟩, ⟨.operator, 10, 12⟩,
        ⟨.literal .rawString, 13, 16⟩, ⟨.semicolon, 21, 21⟩, ⟨.operator, 22, 25⟩,
        ⟨.literal .number, 25, 30⟩, ⟨.semicolon, 30, 30⟩, ⟨.endOfFile, 30, 30⟩] := by
    decide +kernel
  exact ⟨_, h, tokenize_covers h⟩

end ReactBridge.Go
