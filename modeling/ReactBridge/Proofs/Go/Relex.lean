import Mathlib.Data.String.Basic
import ReactBridge.Proofs.Go.Ahead
import ReactBridge.Proofs.Go.Coverage

/-!
# Tokens written out

The tokens of a source, written out with a blank between each two, are read back: a blank ends each of
them, and no line end is left that could stand for a semicolon.

* `Token.text?`, `normalText` : the text of a token, and of tokens with blanks between them;
* `Piece`, `Lexeme.written` : what is written for lexemes, the semicolons that line ends stand for
  included;
* `Lexeme.kinds_tokens`, `Lexeme.texts_tokens` : this is what their tokens are, and what those say;
* `spaced` : the lexemes of pieces with a blank between each two;
* `Lexeme.written_spaced`, `Lexeme.explicit_tokens_spaced` : nothing is added when they are read;
* `tokenize_normalText` : tokens that are written out are read back.
-/

namespace ReactBridge.Go

/-- The source text of a token, or `;` for a semicolon that a line end stands for. The end of the file
has none. -/
def Token.text? (source : String) (t : Token) : Option String :=
  if t.span.isEmpty then
    if t.kind = .semicolon then some ";" else none
  else some (String.Pos.Raw.extract source ⟨t.span.start⟩ ⟨t.span.stop⟩)

/-- The texts of tokens with a blank between each two. -/
def normalText (source : String) (tokens : List Token) : String :=
  " ".intercalate (tokens.filterMap (Token.text? source))

structure Piece where
  kind : Token.Kind
  text : List Char

/-- The semicolon that a line end stands for, written out, if a statement `ends` there. -/
def impliedPiece (ends : Bool) : List Piece :=
  if ends then [⟨.semicolon, [';']⟩] else []

/-- What is written for lexemes; `ends` tells whether the token ahead of them ends a statement at a
line end. -/
def Lexeme.written (ends : Bool) : List Lexeme → List Piece
  | [] => impliedPiece ends
  | layout text :: lexemes =>
    if '\n' ∈ text then impliedPiece ends ++ written false lexemes else written ends lexemes
  | token kind text :: lexemes => ⟨kind, text⟩ :: written kind.endsLine lexemes

/-- Whether a line end behind the pieces stands for a semicolon; `ends` tells whether it does behind
the token ahead of them. -/
def leftOpen (ends : Bool) : List Piece → Bool
  | [] => ends
  | piece :: pieces => leftOpen piece.kind.endsLine pieces

/-- The lexemes of pieces with a blank between each two. -/
def spaced : List Piece → List Lexeme
  | [] => []
  | [piece] => [.token piece.kind piece.text]
  | piece :: next :: pieces =>
    .token piece.kind piece.text :: .layout [' '] :: spaced (next :: pieces)

/-! ## Texts of tokens -/

theorem width_eq_utf8Len (cs : List Char) : width cs = String.utf8Len cs := by
  rw [← String.utf8ByteSize_ofList, ← width_toList, String.toList_ofList]

theorem text?_of_spells {kind : Token.Kind} {text : List Char} (h : kind.Spells text)
    (before after : List Char) :
    Token.text? (String.ofList (before ++ (text ++ after)))
      ⟨kind, width before, width (before ++ text)⟩ = some (String.ofList text) := by
  rw [Token.text?, isEmpty_eq_false_of_spells h, if_neg Bool.false_ne_true, ← List.append_assoc,
    width_append, width_eq_utf8Len, width_eq_utf8Len, String.extract_of_valid]

/-- What stands at one place without a text is written out as a semicolon, if it is one. -/
theorem text?_of_empty (source : String) (kind : Token.Kind) (offset : Nat) :
    Token.text? source ⟨kind, offset, offset⟩ = if kind = .semicolon then some ";" else none := by
  rw [Token.text?, Span.isEmpty, Span.length, Nat.sub_self, if_pos (decide_eq_true rfl)]

theorem filterMap_text?_impliedSemicolon (source : String) (ends : Bool) (offset : Nat) :
    (impliedSemicolon ends offset).filterMap (Token.text? source) =
      (impliedPiece ends).map fun piece => String.ofList piece.text := by
  cases ends with
  | false => rfl
  | true =>
    rw [impliedSemicolon, if_pos rfl, List.filterMap_cons, text?_of_empty, if_pos rfl]
    rfl

namespace Lexeme

variable {lexemes : List Lexeme} {pieces : List Piece}

/-! ## Pieces of lexemes -/

theorem kinds_tokens (lexemes : List Lexeme) (offset : Nat) (ends : Bool) :
    (tokens offset ends lexemes).map Token.kind =
      (written ends lexemes).map Piece.kind ++ [.endOfFile] := by
  have himplied : ∀ ends offset,
      (impliedSemicolon ends offset).map Token.kind = (impliedPiece ends).map Piece.kind := by
    intro ends offset
    cases ends <;> rfl
  induction lexemes generalizing offset ends with
  | nil =>
    rw [tokens, written, List.map_append, himplied]
    rfl
  | cons lexeme lexemes ih =>
    cases lexeme with
    | layout text =>
      rw [tokens, written]
      split
      · rw [List.map_append, List.map_append, himplied, ih, List.append_assoc]
      · exact ih _ _
    | token kind text =>
      rw [tokens, written, List.map_cons, List.map_cons, ih, List.cons_append]

theorem texts_tokens (hfit : AllFit lexemes) (before : List Char) (ends : Bool) :
    (tokens (width before) ends lexemes).filterMap
        (Token.text? (String.ofList (before ++ textOf lexemes))) =
      (written ends lexemes).map fun piece => String.ofList piece.text := by
  induction lexemes generalizing before ends with
  | nil =>
    rw [tokens, written, List.filterMap_append, filterMap_text?_impliedSemicolon,
      List.filterMap_cons, text?_of_empty, if_neg (by decide), List.filterMap_nil, List.append_nil]
  | cons lexeme lexemes ih =>
    obtain ⟨hlexeme, hfit⟩ := hfit
    have hmore := ih hfit (before ++ lexeme.text)
    rw [List.append_assoc, width_append] at hmore
    cases lexeme with
    | layout text =>
      rw [tokens, written]
      split
      · rw [List.filterMap_append, filterMap_text?_impliedSemicolon, List.map_append]
        exact congrArg _ (hmore false)
      · exact hmore ends
    | token kind text =>
      have htext := text?_of_spells hlexeme.1 before (textOf lexemes)
      rw [width_append] at htext
      rw [tokens, written, List.map_cons]
      exact (List.filterMap_cons_some htext).trans (congrArg _ (hmore kind.endsLine))

theorem spells_written (hfit : AllFit lexemes) (ends : Bool) :
    ∀ piece ∈ written ends lexemes, piece.kind.Spells piece.text := by
  have himplied : ∀ ends, ∀ piece ∈ impliedPiece ends, piece.kind.Spells piece.text := by
    intro ends piece hpiece
    cases ends with
    | false => cases hpiece
    | true =>
      obtain rfl := List.mem_singleton.1 hpiece
      exact (Token.Kind.spells_iff_mem_operators rfl _).2 (by decide)
  induction lexemes generalizing ends with
  | nil => exact himplied ends
  | cons lexeme lexemes ih =>
    obtain ⟨hlexeme, hfit⟩ := hfit
    cases lexeme with
    | layout text =>
      rw [written]
      split
      · exact fun piece hpiece => (List.mem_append.1 hpiece).elim (himplied ends piece)
          (ih hfit false piece)
      · exact ih hfit ends
    | token kind text => exact List.forall_mem_cons.2 ⟨hlexeme.1, ih hfit kind.endsLine⟩

theorem leftOpen_written (lexemes : List Lexeme) (ends : Bool) :
    leftOpen ends (written ends lexemes) = false := by
  -- A semicolon ends no statement itself, so a line end behind it adds no other.
  have himplied : ∀ ends more, leftOpen false more = false →
      leftOpen ends (impliedPiece ends ++ more) = false := by
    intro ends more hmore
    cases ends <;> exact hmore
  induction lexemes generalizing ends with
  | nil =>
    rw [written, ← List.append_nil (impliedPiece ends)]
    exact himplied ends [] rfl
  | cons lexeme lexemes ih =>
    cases lexeme with
    | layout text =>
      rw [written]
      split
      · exact himplied ends _ (ih false)
      · exact ih ends
    | token kind text => exact ih kind.endsLine

/-! ## Pieces with blanks between them -/

theorem textOf_spaced (pieces : List Piece) :
    textOf (spaced pieces) = [' '].intercalate (pieces.map Piece.text) := by
  induction pieces using spaced.induct with
  | case1 => rfl
  | case2 piece => simp [spaced, text]
  | case3 piece next pieces ih =>
    simp only [List.map_cons, List.intercalate_cons_cons] at ih ⊢
    rw [spaced, textOf_cons, textOf_cons, ih]
    simp [text]

theorem allFit_spaced_append (h : ∀ piece ∈ pieces, piece.kind.Spells piece.text)
    {more : List Lexeme} (hmore : AllFit more)
    (hahead : ∀ c ∈ (textOf more).head?, c ∈ [' ', '\n']) : AllFit (spaced pieces ++ more) := by
  induction pieces using spaced.induct with
  | case1 => exact hmore
  | case2 piece =>
    have hpiece := h piece List.mem_cons_self
    exact ⟨⟨hpiece, hpiece.endsAhead_of_head? hahead⟩, hmore⟩
  | case3 piece next pieces ih =>
    rw [List.forall_mem_cons] at h
    exact ⟨⟨h.1, h.1.endsAhead (by decide) _⟩, .blank (.inr (.inl rfl)), ih h.2⟩

theorem allFit_spaced (h : ∀ piece ∈ pieces, piece.kind.Spells piece.text) :
    AllFit (spaced pieces) := by
  have hfit := @allFit_spaced_append pieces h [] trivial (by rintro _ ⟨⟩)
  rwa [List.append_nil] at hfit

/-- No line ends between the pieces, so they are written out as they are. -/
theorem written_spaced {ends : Bool} (h : leftOpen ends pieces = false) :
    written ends (spaced pieces) = pieces := by
  induction pieces using spaced.induct generalizing ends with
  | case1 =>
    obtain rfl : ends = false := h
    rfl
  | case2 piece =>
    have hends : piece.kind.endsLine = false := h
    rw [spaced, written, written, hends]
    rfl
  | case3 piece next pieces ih =>
    rw [spaced, written, written, if_neg (by decide), ih h]

/-- Each token but the end of the file has a text. -/
theorem explicit_tokens_spaced (hspells : ∀ piece ∈ pieces, piece.kind.Spells piece.text)
    {ends : Bool} (h : leftOpen ends pieces = false) (before : List Char) :
    ∀ t ∈ tokens (width before) ends (spaced pieces),
      t.kind ≠ .endOfFile → t.span.isEmpty = false := by
  induction pieces using spaced.induct generalizing ends before with
  | case1 =>
    obtain rfl : ends = false := h
    exact List.forall_mem_singleton.2 fun hkind => absurd rfl hkind
  | case2 piece =>
    have hends : piece.kind.endsLine = false := h
    have hpiece := hspells piece List.mem_cons_self
    rw [spaced, tokens, tokens, hends, ← width_append]
    refine List.forall_mem_cons.2 ⟨fun _ => isEmpty_eq_false_of_spells hpiece, ?_⟩
    exact List.forall_mem_singleton.2 fun hkind => absurd rfl hkind
  | case3 piece next pieces ih =>
    rw [List.forall_mem_cons] at hspells
    rw [spaced, tokens, tokens, if_neg (by decide), ← width_append, ← width_append]
    exact List.forall_mem_cons.2 ⟨fun _ => isEmpty_eq_false_of_spells hspells.1, ih hspells.2 h _⟩

end Lexeme

/-! ## Tokens read back -/

theorem normalText_eq {source : String} {lexemes : List Lexeme}
    (htext : Lexeme.textOf lexemes = source.toList) (hfit : Lexeme.AllFit lexemes) :
    normalText source (Lexeme.tokens 0 false lexemes) =
      String.ofList (Lexeme.textOf (spaced (Lexeme.written false lexemes))) := by
  have htexts := Lexeme.texts_tokens hfit [] false
  rw [List.nil_append, htext, String.ofList_toList] at htexts
  rw [← String.toList_inj, normalText, String.toList_intercalate,
    String.toList_ofList (l := Lexeme.textOf _), Lexeme.textOf_spaced]
  change [' '].intercalate (((Lexeme.tokens (width []) false lexemes).filterMap _).map _) = _
  rw [htexts, List.map_map]
  exact congrArg _ (List.map_congr_left fun piece _ => String.toList_ofList)

/-- Tokens that are written out are read back, and written out again they look the same. -/
theorem exists_relexed {source : String} {tokens : List Token} (h : tokenize source = .ok tokens) :
    ∃ relexed, tokenize (normalText source tokens) = .ok relexed ∧
      relexed.map Token.kind = tokens.map Token.kind ∧
      (∀ t ∈ relexed, t.kind = .semicolon → t.span.isEmpty = false) ∧
      normalText (normalText source tokens) relexed = normalText source tokens := by
  obtain ⟨lexemes, htext, hfit, rfl⟩ := tokenize_eq_ok_iff.1 h
  have hspells := Lexeme.spells_written hfit false
  have hopen := Lexeme.leftOpen_written lexemes false
  have hwritten := Lexeme.written_spaced hopen
  have hnormal := normalText_eq htext hfit
  have hspaced := congrArg String.toList hnormal
  rw [String.toList_ofList] at hspaced
  refine ⟨Lexeme.tokens 0 false (spaced (Lexeme.written false lexemes)), ?_, ?_, ?_, ?_⟩
  · exact tokenize_eq_ok_iff.2 ⟨_, hspaced.symm, Lexeme.allFit_spaced hspells, rfl⟩
  · rw [Lexeme.kinds_tokens, hwritten, ← Lexeme.kinds_tokens]
  · intro t ht hkind
    have hne : t.kind ≠ .endOfFile := by
      rw [hkind]
      exact Token.Kind.noConfusion
    exact Lexeme.explicit_tokens_spaced hspells hopen [] t ht hne
  · rw [normalText_eq hspaced.symm (Lexeme.allFit_spaced hspells), hwritten, ← hnormal]

/-- **Tokens that are written out are read back.** They are of the same kinds, no semicolon is implied
any more, and written out again they look the same. So the kinds of the tokens of a source depend on
what is written for them only. -/
theorem tokenize_normalText {source : String} {tokens : List Token}
    (h : tokenize source = .ok tokens) :
    (∃ relexed, tokenize (normalText source tokens) = .ok relexed ∧
      relexed.map Token.kind = tokens.map Token.kind ∧
      (∀ t ∈ relexed, t.kind = .semicolon → t.span.isEmpty = false) ∧
      normalText (normalText source tokens) relexed = normalText source tokens) ∧
    ∀ other tokens', tokenize other = .ok tokens' →
      normalText other tokens' = normalText source tokens →
        tokens'.map Token.kind = tokens.map Token.kind := by
  refine ⟨exists_relexed h, fun other tokens' hother hsame => ?_⟩
  obtain ⟨relexed, hrelexed, hkinds, -⟩ := exists_relexed h
  obtain ⟨relexed', hrelexed', hkinds', -⟩ := exists_relexed hother
  rw [hsame, hrelexed] at hrelexed'
  rw [← hkinds, ← hkinds', Except.ok.inj hrelexed']

/-- A comment and line ends that stand for semicolons, and tokens without a blank between them. -/
theorem tokenize_normalText_sample :
    ∃ tokens relexed, tokenize "x/* a\n*/:=`r\n`//\n1e+5-x++" = .ok tokens ∧
      tokenize "x ; := `r\n` ; 1e+5 - x ++ ;" = .ok relexed ∧
      relexed.map Token.kind = tokens.map Token.kind := by
  have hwritten : (tokenize "x/* a\n*/:=`r\n`//\n1e+5-x++").map
      (normalText "x/* a\n*/:=`r\n`//\n1e+5-x++") = .ok "x ; := `r\n` ; 1e+5 - x ++ ;" := by
    decide +kernel
  cases h : tokenize "x/* a\n*/:=`r\n`//\n1e+5-x++" with
  | error e =>
    rw [h] at hwritten
    cases hwritten
  | ok tokens =>
    rw [h] at hwritten
    obtain ⟨relexed, hrelexed, hkinds, -⟩ := (tokenize_normalText h).1
    rw [Except.ok.inj hwritten] at hrelexed
    exact ⟨tokens, relexed, rfl, hrelexed, hkinds⟩

end ReactBridge.Go
