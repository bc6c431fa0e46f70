import ReactBridge.Proofs.Go.Lexeme

/-!
# What may follow a lexeme

A lexeme is cut off by what follows it, of which it sees no more than a few characters.

* `Token.Kind.Spells.endsAhead` : each token is done ahead of a blank or a line end;
* `Lexeme.Fits.ahead_of_line` : what fits ahead of a text fits where a line end follows that text;
* `Lexeme.Fits.of_append` : what fits ahead of a text fits ahead of each start of it.
-/

namespace ReactBridge.Go

/-! ## Starts of a text -/

theorem startsComment_append_cons {text : List Char} (htext : text ≠ []) (c : Char)
    (after : List Char) : startsComment (text ++ c :: after) = startsComment (text ++ [c]) := by
  rcases text with - | ⟨d, - | ⟨e, text⟩⟩
  · exact absurd rfl htext
  · rfl
  · rfl

theorem startsNumber_append_cons {text : List Char} (htext : text ≠ []) (c : Char)
    (after : List Char) : startsNumber (text ++ c :: after) = startsNumber (text ++ [c]) := by
  rcases text with - | ⟨d, - | ⟨e, text⟩⟩
  · exact absurd rfl htext
  · rfl
  · rfl

theorem startsComment_append {text : List Char} (h : startsComment text = true)
    (more : List Char) : startsComment (text ++ more) = true := by
  rcases text with - | ⟨c, - | ⟨d, text⟩⟩
  · cases h
  · simp [startsComment] at h
  · exact h

theorem startsNumber_append {text : List Char} (h : startsNumber text = true)
    (more : List Char) : startsNumber (text ++ more) = true := by
  rcases text with - | ⟨c, - | ⟨d, text⟩⟩
  · cases h
  · have hdigit : c.isDigit = true := by simpa [startsNumber] using h
    exact Bool.or_eq_true_iff.2 (.inl hdigit)
  · exact h

theorem head?_append_of_mem {after : List Char} {c : Char} (h : c ∈ after.head?)
    (more : List Char) : c ∈ (after ++ more).head? := by
  rw [Option.mem_def] at h ⊢
  rw [List.head?_append, h, Option.some_or]

theorem isPrefix_of_isPrefix_append_cons {α : Type} {xs ys zs : List α} {x : α} (hx : x ∉ xs)
    (h : xs <+: ys ++ x :: zs) : xs <+: ys := by
  rcases List.prefix_or_prefix_of_prefix h (List.prefix_append ys (x :: zs)) with hxs | ⟨more, rfl⟩
  · exact hxs
  · rw [List.prefix_append_right_inj] at h
    cases more with
    | nil => exact (List.append_nil ys).symm ▸ List.prefix_refl ys
    | cons y more =>
      obtain ⟨rfl, -⟩ := List.cons_prefix_cons.1 h
      exact absurd (List.mem_append_right ys List.mem_cons_self) hx

/-! ## Blanks -/

namespace Token.Kind

/-- No operator holds a blank, nor does one start a comment or a number ahead of a blank. -/
theorem operators_ahead_of_blank :
    ∀ entry ∈ operators, ∀ c ∈ [' ', '\n'], c ∉ entry.1.toList ∧
      startsComment (entry.1.toList ++ [c]) = false ∧
      startsNumber (entry.1.toList ++ [c]) = false := by
  intro entry hentry c hc
  revert entry
  simp only [List.mem_cons, List.not_mem_nil, or_false] at hc
  rcases hc with rfl | rfl <;> decide

/-- Each token is done ahead of a blank or a line end. -/
theorem Spells.endsAhead {kind : Kind} {text : List Char} (h : kind.Spells text) {c : Char}
    (hc : c ∈ [' ', '\n']) (after : List Char) : kind.EndsAhead text (c :: after) := by
  by_cases hkind : kind.isOperator = true
  · have htext : text ≠ [] := fun hnil => Lexeme.not_spells_nil kind (hnil ▸ h)
    rw [spells_iff_mem_operators hkind] at h
    obtain ⟨-, hcomment, hnumber⟩ := operators_ahead_of_blank _ h c hc
    rw [String.toList_ofList] at hcomment hnumber
    rw [endsAhead_iff_of_isOperator hkind, startsComment_append_cons htext,
      startsNumber_append_cons htext]
    refine ⟨fun entry hentry hstart => ?_, hcomment, hnumber⟩
    have hblank := (operators_ahead_of_blank entry hentry c hc).1
    rw [← String.length_toList]
    exact (isPrefix_of_isPrefix_append_cons hblank hstart).length_le
  · simp only [List.mem_cons, List.not_mem_nil, or_false] at hc
    have hpart : isNamePart c = false := by
      rcases hc with rfl | rfl <;> decide
    have hcontinues : ∀ hex last, Lexeme.numberContinues hex last c = false := by
      intro hex last
      rcases hc with rfl | rfl <;> rfl
    cases kind with
    | ident name | keyword word => simpa [EndsAhead] using hpart
    | literal kind =>
      cases kind with
      | number => simpa [EndsAhead] using fun last _ => hcontinues _ last
      | _ => trivial
    | _ => exact absurd rfl hkind

end Token.Kind

/-! ## Line ends -/

theorem Token.Kind.EndsAhead.ahead_of_line {kind : Token.Kind} {text after : List Char}
    (hspells : kind.Spells text) (h : kind.EndsAhead text after) (more : List Char) :
    kind.EndsAhead text (after ++ '\n' :: more) := by
  cases after with
  | nil => exact hspells.endsAhead (by decide) more
  | cons c after =>
    by_cases hkind : kind.isOperator = true
    · have htext : text ≠ [] := fun hnil => Lexeme.not_spells_nil kind (hnil ▸ hspells)
      rw [Token.Kind.endsAhead_iff_of_isOperator hkind] at h ⊢
      obtain ⟨hlongest, hcomment, hnumber⟩ := h
      refine ⟨fun entry hentry hstart => hlongest entry hentry ?_, ?_, ?_⟩
      · rw [← List.append_assoc] at hstart
        exact isPrefix_of_isPrefix_append_cons
          (Token.Kind.operators_ahead_of_blank entry hentry '\n' (by decide)).1 hstart
      · rw [startsComment_append_cons htext] at hcomment
        rwa [List.cons_append, startsComment_append_cons htext]
      · rw [startsNumber_append_cons htext] at hnumber
        rwa [List.cons_append, startsNumber_append_cons htext]
    · cases kind with
      | ident name | keyword word => exact h
      | literal kind => cases kind <;> exact h
      | _ => exact absurd rfl hkind

/-- What fits ahead of a text fits where a line end follows that text. -/
theorem Lexeme.Fits.ahead_of_line {lexeme : Lexeme} {after : List Char} (h : lexeme.Fits after)
    (more : List Char) : lexeme.Fits (after ++ '\n' :: more) := by
  cases lexeme with
  | layout text =>
    cases h with
    | blank hc => exact .blank hc
    | blockComment hfirst => exact .blockComment hfirst
    | lineComment hline hends =>
      refine .lineComment hline fun c hc => ?_
      cases after with
      | nil => exact (Option.some.inj hc).symm
      | cons d after => exact hends c hc
  | token kind text => exact ⟨h.1, h.2.ahead_of_line h.1 more⟩

/-! ## Less of what follows -/

theorem Token.Kind.EndsAhead.of_append {kind : Token.Kind} {text after more : List Char}
    (h : kind.EndsAhead text (after ++ more)) : kind.EndsAhead text after := by
  by_cases hkind : kind.isOperator = true
  · rw [endsAhead_iff_of_isOperator hkind, ← List.append_assoc] at h
    obtain ⟨hlongest, hcomment, hnumber⟩ := h
    refine (endsAhead_iff_of_isOperator hkind _ _).2
      ⟨fun entry hentry hstart => hlongest entry hentry ?_, ?_, ?_⟩
    · exact hstart.trans (List.prefix_append _ more)
    · rw [Bool.eq_false_iff] at hcomment ⊢
      exact fun hstart => hcomment (startsComment_append hstart more)
    · rw [Bool.eq_false_iff] at hnumber ⊢
      exact fun hstart => hnumber (startsNumber_append hstart more)
  · cases kind with
    | ident name | keyword word => exact fun c hc => h c (head?_append_of_mem hc more)
    | literal kind =>
      cases kind with
      | number => exact fun last hlast c hc => h last hlast c (head?_append_of_mem hc more)
      | _ => trivial
    | _ => exact absurd rfl hkind

/-- What fits ahead of a text fits ahead of each start of it. -/
theorem Lexeme.Fits.of_append {lexeme : Lexeme} {after more : List Char}
    (h : lexeme.Fits (after ++ more)) : lexeme.Fits after := by
  cases lexeme with
  | layout text =>
    cases h with
    | blank hc => exact .blank hc
    | blockComment hfirst => exact .blockComment hfirst
    | lineComment hline hends =>
      exact .lineComment hline fun c hc => hends c (head?_append_of_mem hc more)
  | token kind text => exact ⟨h.1, h.2.of_append⟩

/-- Each token is done ahead of a text that does not go on, or does with a blank or a line end. -/
theorem Token.Kind.Spells.endsAhead_of_head? {kind : Token.Kind} {text after : List Char}
    (h : kind.Spells text) (hafter : ∀ c ∈ after.head?, c ∈ [' ', '\n']) :
    kind.EndsAhead text after := by
  cases after with
  | nil =>
    have hblank : kind.EndsAhead text ([] ++ [' ']) := h.endsAhead (by decide) []
    exact hblank.of_append
  | cons c after => exact h.endsAhead (hafter c rfl) after

end ReactBridge.Go
