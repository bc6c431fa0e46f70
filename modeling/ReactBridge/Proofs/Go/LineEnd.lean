import ReactBridge.Proofs.Go.Ahead
import ReactBridge.Proofs.Go.Coverage

/-!
# Texts put together at a line end

A line end closes every lexeme but a comment in brackets or a literal, so that what follows it is cut
as if it stood alone.

* `Span.shift`, `Token.shift`, `LexError.shift` : positions some bytes further on;
* `Lexeme.scan_append` : the lexemes of a text behind some that fit ahead of it;
* `Lexeme.scan_append_line`, `Lexeme.tokens_append_line` : the lexemes and the tokens of two texts with
  a line end between them;
* `tokenize_append_line` : the tokens of both, or the error of the second;
* `tokenize_line_parts` : how a text is tokenized in parts.
-/

namespace ReactBridge.Go

/-! ## Positions further on -/

/-- The span `k` bytes further on. -/
def Span.shift (k : Nat) (span : Span) : Span :=
  ⟨span.start + k, span.stop + k⟩

def Token.shift (k : Nat) (t : Token) : Token :=
  ⟨t.kind, t.span.shift k⟩

def LexError.shift (k : Nat) (e : LexError) : LexError :=
  ⟨e.cause, e.span.shift k⟩

@[simp]
theorem Token.kind_shift (k : Nat) (t : Token) : (t.shift k).kind = t.kind :=
  rfl

namespace Lexeme

/-! ## Lexemes of two texts -/

theorem scan_of_next {offset : Nat} {c : Char} {cs rest : List Char} {lexeme : Lexeme}
    (h : next c cs = .ok (lexeme, rest)) :
    scan offset (c :: cs) = (scan (offset + width lexeme.text) rest).map (lexeme :: ·) := by
  rw [scan]
  split
  · next fault hfault =>
    rw [h] at hfault
    cases hfault
  · next found behind hfound =>
    rw [h] at hfound
    obtain ⟨rfl, rfl⟩ := Prod.mk.inj (Except.ok.inj hfound)
    cases scan (offset + width lexeme.text) rest <;> rfl

theorem scan_of_fault {offset : Nat} {c : Char} {cs : List Char} {fault : Fault}
    (h : next c cs = .error fault) :
    scan offset (c :: cs) = .error ⟨fault.cause, offset, offset + width fault.text⟩ := by
  rw [scan]
  split
  · next found hfound =>
    rw [h] at hfound
    rw [Except.error.inj hfound]
  · next found =>
    rw [h] at found
    cases found

theorem scan_of_fits {offset : Nat} {lexeme : Lexeme} {rest : List Char} (h : lexeme.Fits rest) :
    scan offset (lexeme.text ++ rest) =
      (scan (offset + width lexeme.text) rest).map (lexeme :: ·) := by
  cases htext : lexeme.text ++ rest with
  | nil => exact absurd (List.append_eq_nil_iff.1 htext).1 (text_ne_nil_of_fits h)
  | cons c cs => exact scan_of_next (next_eq_ok_iff.2 ⟨htext, h⟩)

/-- Whether each lexeme fits ahead of those behind it and of the text behind all of them. -/
def FitAhead (after : List Char) : List Lexeme → Prop
  | [] => True
  | lexeme :: lexemes => lexeme.Fits (textOf lexemes ++ after) ∧ FitAhead after lexemes

/-- Behind lexemes that fit ahead of it a text is cut as if it stood alone. -/
theorem scan_append {lexemes : List Lexeme} {after : List Char} (h : FitAhead after lexemes)
    (offset : Nat) : scan offset (textOf lexemes ++ after) =
      (scan (offset + width (textOf lexemes)) after).map (lexemes ++ ·) := by
  induction lexemes generalizing offset with
  | nil =>
    change scan offset after = (scan offset after).map id
    cases scan offset after <;> rfl
  | cons lexeme lexemes ih =>
    obtain ⟨hlexeme, hmore⟩ := h
    rw [textOf_cons, List.append_assoc, scan_of_fits hlexeme, ih hmore, width_append, ← Nat.add_assoc]
    cases scan (offset + width lexeme.text + width (textOf lexemes)) after <;> rfl

theorem AllFit.ahead_of_line {lexemes : List Lexeme} (h : AllFit lexemes) (rest : List Char) :
    FitAhead ('\n' :: rest) lexemes := by
  induction lexemes with
  | nil => trivial
  | cons lexeme lexemes ih => exact ⟨h.1.ahead_of_line rest, ih h.2⟩

/-- Behind lexemes and a line end the text is cut as if it stood alone. -/
theorem scan_append_line {lexemes : List Lexeme} (h : AllFit lexemes) (offset : Nat)
    (rest : List Char) :
    scan offset (textOf lexemes ++ '\n' :: rest) =
      (scan (offset + width (textOf lexemes) + 1) rest).map
        (lexemes ++ layout ['\n'] :: ·) := by
  rw [scan_append (h.ahead_of_line rest), scan_of_next (next_blank (.inl rfl) rest)]
  change ((scan (offset + width (textOf lexemes) + 1) rest).map _).map _ = _
  cases scan (offset + width (textOf lexemes) + 1) rest <;> rfl

/-- Where a text starts makes a difference for the position of an error only. -/
theorem scan_shift (k offset : Nat) (cs : List Char) :
    scan (offset + k) cs = (scan offset cs).mapError (LexError.shift k) := by
  fun_induction scan offset cs with
  | case1 => rw [scan]; rfl
  | case2 offset c cs fault hfault =>
    rw [scan_of_fault hfault, Nat.add_right_comm]
    rfl
  | case3 offset c cs lexeme rest hnext e he ih =>
    rw [scan_of_next hnext, Nat.add_right_comm, ih, he]
    rfl
  | case4 offset c cs lexeme rest hnext lexemes hlexemes ih =>
    rw [scan_of_next hnext, Nat.add_right_comm, ih, hlexemes]
    rfl

/-! ## Tokens of two texts -/

theorem tokens_shift (k offset : Nat) (ends : Bool) (lexemes : List Lexeme) :
    tokens (offset + k) ends lexemes = (tokens offset ends lexemes).map (Token.shift k) := by
  have himplied : ∀ (ends : Bool) (offset : Nat),
      impliedSemicolon ends (offset + k) = (impliedSemicolon ends offset).map (Token.shift k) := by
    intro ends offset
    cases ends <;> rfl
  induction lexemes generalizing offset ends with
  | nil =>
    rw [tokens, tokens, himplied, List.map_append]
    rfl
  | cons lexeme lexemes ih =>
    cases lexeme with
    | layout text =>
      rw [tokens, tokens, Nat.add_right_comm]
      split
      · rw [ih, himplied, List.map_append]
      · exact ih _ _
    | token kind text =>
      rw [tokens, tokens, Nat.add_right_comm, ih]
      rfl

theorem tokens_ne_nil (offset : Nat) (ends : Bool) (lexemes : List Lexeme) :
    tokens offset ends lexemes ≠ [] := by
  induction lexemes generalizing offset ends with
  | nil => exact List.append_ne_nil_of_right_ne_nil _ (List.cons_ne_nil _ _)
  | cons lexeme lexemes ih =>
    cases lexeme with
    | layout text =>
      rw [tokens]
      split
      · exact List.append_ne_nil_of_right_ne_nil _ (ih _ _)
      · exact ih _ _
    | token kind text => exact List.cons_ne_nil _ _

/-- A line end closes the line as the end of the text would. -/
theorem tokens_append_line (offset : Nat) (ends : Bool) (lexemes more : List Lexeme) :
    tokens offset ends (lexemes ++ layout ['\n'] :: more) =
      (tokens offset ends lexemes).dropLast ++
        tokens (offset + width (textOf lexemes) + 1) false more := by
  induction lexemes generalizing offset ends with
  | nil =>
    rw [List.nil_append, tokens.eq_2, if_pos List.mem_cons_self, tokens.eq_1, List.dropLast_concat]
    rfl
  | cons lexeme lexemes ih =>
    rw [textOf_cons, width_append, ← Nat.add_assoc]
    cases lexeme with
    | layout text =>
      rw [List.cons_append, tokens, tokens]
      split
      · rw [ih, List.dropLast_append_of_ne_nil (tokens_ne_nil _ _ _), List.append_assoc]
        rfl
      · exact ih _ _
    | token kind text =>
      rw [List.cons_append, tokens, tokens, ih, List.dropLast_cons_of_ne_nil (tokens_ne_nil _ _ _)]
      rfl

end Lexeme

/-- **Two texts with a line end between them** have the tokens of the first, without the end of its
file, and behind them those of the second, further on. An error in the second text is an error of
both. -/
theorem tokenize_append_line {first : String} {tokens : List Token} (h : tokenize first = .ok tokens)
    (second : String) :
    tokenize (first ++ "\n" ++ second) =
      ((tokenize second).mapError (LexError.shift (first.utf8ByteSize + 1))).map
        (tokens.dropLast ++ ·.map (Token.shift (first.utf8ByteSize + 1))) := by
  obtain ⟨lexemes, htext, hfit, rfl⟩ := tokenize_eq_ok_iff.1 h
  have hlist : (first ++ "\n" ++ second).toList = Lexeme.textOf lexemes ++ '\n' :: second.toList := by
    rw [String.toList_append, String.toList_append, htext, List.append_assoc]
    rfl
  have hwidth : 0 + width (Lexeme.textOf lexemes) + 1 = 0 + (first.utf8ByteSize + 1) := by
    rw [htext, width_toList, Nat.add_assoc]
  unfold tokenize
  rw [hlist, Lexeme.scan_append_line hfit, hwidth, Lexeme.scan_shift]
  cases Lexeme.scan 0 second.toList with
  | error e => rfl
  | ok more =>
    have htokens := Lexeme.tokens_append_line 0 false lexemes more
    rw [hwidth, Lexeme.tokens_shift] at htokens
    exact congrArg Except.ok htokens

theorem tokenize_ends {source : String} {tokens : List Token} (h : tokenize source = .ok tokens) :
    ∃ others, tokens = others ++ [⟨.endOfFile, source.utf8ByteSize, source.utf8ByteSize⟩] ∧
      ∀ t ∈ others, t.kind ≠ .endOfFile := by
  rw [← width_toList]
  exact (stream_of_tokenize h).ends

/-- **A line end parts a text.** What follows it succeeds or fails as it would alone, further on: its
tokens stand where the end of the file stood, and its error is the error of both. A line end with
nothing behind it moves the end of the file. -/
theorem tokenize_line_parts {first : String} {tokens : List Token} (h : tokenize first = .ok tokens) :
    ∃ others, tokens = others ++ [⟨.endOfFile, first.utf8ByteSize, first.utf8ByteSize⟩] ∧
      (∀ t ∈ others, t.kind ≠ .endOfFile) ∧
      (∀ second, (∃ all, tokenize (first ++ "\n" ++ second) = .ok all) ↔
        ∃ more, tokenize second = .ok more) ∧
      (∀ second more, tokenize second = .ok more →
        tokenize (first ++ "\n" ++ second) =
          .ok (others ++ more.map (Token.shift (first.utf8ByteSize + 1)))) ∧
      (∀ second e, tokenize second = .error e →
        tokenize (first ++ "\n" ++ second) = .error (e.shift (first.utf8ByteSize + 1))) ∧
      tokenize (first ++ "\n") =
        .ok (others ++ [⟨.endOfFile, first.utf8ByteSize + 1, first.utf8ByteSize + 1⟩]) := by
  obtain ⟨others, rfl, hothers⟩ := tokenize_ends h
  have happend := tokenize_append_line h
  rw [List.dropLast_concat] at happend
  have hok : ∀ second more, tokenize second = .ok more →
      tokenize (first ++ "\n" ++ second) =
        .ok (others ++ more.map (Token.shift (first.utf8ByteSize + 1))) := by
    intro second more hmore
    rw [happend, hmore]
    rfl
  have herror : ∀ second e, tokenize second = .error e →
      tokenize (first ++ "\n" ++ second) = .error (e.shift (first.utf8ByteSize + 1)) := by
    intro second e he
    rw [happend, he]
    rfl
  refine ⟨others, rfl, hothers, fun second => ⟨?_, ?_⟩, hok, herror, ?_⟩
  · rintro ⟨all, hall⟩
    cases hsecond : tokenize second with
    | ok more => exact ⟨more, rfl⟩
    | error e => cases (herror second e hsecond).symm.trans hall
  · rintro ⟨more, hmore⟩
    exact ⟨_, hok second more hmore⟩
  · have hempty : tokenize "" = .ok [⟨.endOfFile, 0, 0⟩] :=
      tokenize_eq_ok_iff.2 ⟨[], rfl, trivial, rfl⟩
    have hend := hok "" _ hempty
    rwa [String.append_empty, List.map_singleton, Token.shift, Span.shift, Nat.zero_add] at hend

/-- A number and an operator that a sign would go on, and a quote that nothing closes. -/
theorem tokenize_line_parts_sample :
    tokenize "x <- 1e" = .ok [⟨.ident "x", 0, 1⟩, ⟨.arrow, 2, 4⟩, ⟨.literal .number, 5, 7⟩,
        ⟨.semicolon, 7, 7⟩, ⟨.endOfFile, 7, 7⟩] ∧
      tokenize ("x <- 1e" ++ "\n" ++ "+2") = .ok [⟨.ident "x", 0, 1⟩, ⟨.arrow, 2, 4⟩,
        ⟨.literal .number, 5, 7⟩, ⟨.semicolon, 7, 7⟩, ⟨.operator, 8, 9⟩, ⟨.literal .number, 9, 10⟩,
        ⟨.semicolon, 10, 10⟩, ⟨.endOfFile, 10, 10⟩] ∧
      tokenize ("x <- 1e" ++ "\n" ++ "+'") = .error ⟨.unterminatedRune, 9, 10⟩ := by
  have hfirst : tokenize "x <- 1e" = .ok [⟨.ident "x", 0, 1⟩, ⟨.arrow, 2, 4⟩,
      ⟨.literal .number, 5, 7⟩, ⟨.semicolon, 7, 7⟩, ⟨.endOfFile, 7, 7⟩] := by decide +kernel
  have hsecond : tokenize "+2" = .ok [⟨.operator, 0, 1⟩, ⟨.literal .number, 1, 2⟩,
      ⟨.semicolon, 2, 2⟩, ⟨.endOfFile, 2, 2⟩] := by decide +kernel
  have hfault : tokenize "+'" = .error ⟨.unterminatedRune, 1, 2⟩ := by decide +kernel
  obtain ⟨others, htokens, -, -, hok, herror, -⟩ := tokenize_line_parts hfirst
  have hsplit : [⟨.ident "x", 0, 1⟩, ⟨.arrow, 2, 4⟩, ⟨.literal .number, 5, 7⟩, ⟨.semicolon, 7, 7⟩] ++
      [⟨.endOfFile, 7, 7⟩] = others ++ [⟨.endOfFile, 7, 7⟩] := htokens
  obtain ⟨rfl, -⟩ := List.append_inj' hsplit rfl
  exact ⟨hfirst, hok "+2" _ hsecond, herror "+'" _ hfault⟩

end ReactBridge.Go
