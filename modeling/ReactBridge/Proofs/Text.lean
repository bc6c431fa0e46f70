import ReactBridge.Text.Alphabetic
import ReactBridge.Text.Case

/-!
# Characters and their cases

* `forall_ascii` : what holds of each ASCII code holds of each ASCII character;
* `CodeRanges.holds_eq_false` : a character in one table is in no table apart from it;
* `isAlphabetic_eq_false_of_isBlank`, `isNumeric_eq_false_of_isBlank` : white space is no part of a
  word;
* `eq_of_mem_lower`, `eq_of_mem_upper` : no other character becomes a dot or a slash;
* `mem_of_mem_lowercase`, `mem_of_mem_lowerTitleCase` : so neither comes into a text;
* `mem_lowercase` : and neither goes out of it;
* `lowercase_ne_empty` : no text becomes empty.
-/

namespace ReactBridge.Text

/-! ## Classes of characters -/

theorem forall_ascii {P : Char → Prop} (h : ∀ n < 0x80, P (Char.ofNat n)) {c : Char}
    (hc : c.toNat < 0x80) : P c := by
  have hchar := h c.toNat hc
  rwa [Char.ofNat_toNat] at hchar

theorem CodeRanges.holds_eq_false {ranges others : CodeRanges}
    (hapart : ∀ range ∈ ranges, ∀ other ∈ others, range.2 < other.1 ∨ other.2 < range.1) {c : Char}
    (hholds : ranges.holds c = true) : others.holds c = false := by
  obtain ⟨range, hrange, hbounds⟩ := List.any_eq_true.1 hholds
  rw [Bool.and_eq_true, decide_eq_true_iff, decide_eq_true_iff] at hbounds
  refine List.any_eq_false.2 fun other hother => ?_
  have := hapart range hrange other hother
  rw [Bool.and_eq_true, decide_eq_true_iff, decide_eq_true_iff]
  omega

theorem eq_false_of_isBlank {ascii : Char → Bool} {others : CodeRanges}
    (hascii : ∀ n < 0x80, isBlank (Char.ofNat n) = true → ascii (Char.ofNat n) = false)
    (hothers : ∀ range ∈ blankRanges, ∀ other ∈ others, range.2 < other.1 ∨ other.2 < range.1)
    {c : Char} (h : isBlank c = true) :
    (if c.toNat < 0x80 then ascii c else others.holds c) = false := by
  split
  · next hc => exact forall_ascii (P := fun c => isBlank c = true → ascii c = false) hascii hc h
  · exact CodeRanges.holds_eq_false hothers h

theorem isAlphabetic_eq_false_of_isBlank {c : Char} (h : isBlank c = true) :
    isAlphabetic c = false :=
  eq_false_of_isBlank (by decide) (by decide +kernel) h

theorem isNumeric_eq_false_of_isBlank {c : Char} (h : isBlank c = true) : isNumeric c = false :=
  eq_false_of_isBlank (by decide) (by decide +kernel) h

/-! ## Marks -/

/-- The marks between the names of a package or of a path. -/
def IsMark (c : Char) : Prop :=
  c = '.' ∨ c = '/'

instance : DecidablePred IsMark := fun c =>
  inferInstanceAs (Decidable (c = '.' ∨ c = '/'))

/-! ## Single characters -/

theorem not_isMark_ofNat {n : Nat} (h : 0x2F < n) : ¬ IsMark (Char.ofNat n) := by
  intro hmark
  have htoNat : (Char.ofNat n).toNat = n ∨ (Char.ofNat n).toNat = 0 := by
    unfold Char.ofNat
    by_cases hvalid : n.isValidChar
    · rw [dif_pos hvalid]
      exact .inl rfl
    · rw [dif_neg hvalid]
      exact .inr rfl
  rcases hmark with hmark | hmark <;> rw [hmark] at htoNat
  · have hdot : '.'.toNat = 0x2E := rfl
    omega
  · have hslash : '/'.toNat = 0x2F := rfl
    omega

/-- A mapping whose entries all lie behind the marks makes none. -/
theorem eq_of_mem_mapCase {expansions : List (Nat × List Nat)} {runs : List ShiftRun}
    (hexpansions : ∀ entry ∈ expansions, ∀ code ∈ entry.2, 0x2F < code)
    (hruns : ∀ run ∈ runs, (0x2F : Int) < run.first + run.shift) {c d : Char}
    (hd : d ∈ mapCase expansions runs c) (hmark : IsMark d) : d = c := by
  rw [mapCase] at hd
  split at hd
  · next codes hlookup =>
    obtain ⟨code, hcode, rfl⟩ := List.mem_map.1 hd
    obtain ⟨front, back, hentries, -⟩ := List.lookup_eq_some_iff.1 hlookup
    have hentry : (c.toNat, codes) ∈ expansions := by
      rw [hentries]
      exact List.mem_append_right front List.mem_cons_self
    exact absurd hmark (not_isMark_ofNat (hexpansions _ hentry code hcode))
  · split at hd
    · next run hrun =>
      obtain rfl := List.mem_singleton.1 hd
      have hfirst := hruns run (List.mem_of_find?_eq_some hrun)
      have hholds := List.find?_some hrun
      simp only [ShiftRun.holds, Bool.and_eq_true, decide_eq_true_eq] at hholds
      exact absurd hmark (not_isMark_ofNat (by omega))
    · exact List.mem_singleton.1 hd

theorem mapCase_ne_nil {expansions : List (Nat × List Nat)} {runs : List ShiftRun}
    (h : ∀ entry ∈ expansions, entry.2 ≠ []) (c : Char) : mapCase expansions runs c ≠ [] := by
  rw [mapCase]
  split
  · next codes hlookup =>
    obtain ⟨front, back, hentries, -⟩ := List.lookup_eq_some_iff.1 hlookup
    have hentry : (c.toNat, codes) ∈ expansions := by
      rw [hentries]
      exact List.mem_append_right front List.mem_cons_self
    exact mt List.map_eq_nil_iff.1 (h _ hentry)
  · split <;> exact List.cons_ne_nil _ _

theorem eq_of_isMark_toLower {c : Char} (hascii : c.toNat < 0x80) (hmark : IsMark c.toLower) :
    c.toLower = c :=
  forall_ascii (P := fun c => IsMark c.toLower → c.toLower = c) (by decide) hascii hmark

theorem eq_of_isMark_toUpper {c : Char} (hascii : c.toNat < 0x80) (hmark : IsMark c.toUpper) :
    c.toUpper = c :=
  forall_ascii (P := fun c => IsMark c.toUpper → c.toUpper = c) (by decide) hascii hmark

theorem upperExpansions_behind : ∀ entry ∈ upperExpansions, ∀ code ∈ entry.2, 0x2F < code := by
  decide +kernel

theorem lowerRuns_behind : ∀ run ∈ lowerRuns, (0x2F : Int) < run.first + run.shift := by
  decide +kernel

theorem upperRuns_behind : ∀ run ∈ upperRuns, (0x2F : Int) < run.first + run.shift := by
  decide +kernel

theorem eq_of_mem_lower {c d : Char} (hd : d ∈ lower c) (hmark : IsMark d) : d = c := by
  rw [lower] at hd
  split at hd
  · next hascii =>
    obtain rfl := List.mem_singleton.1 hd
    exact eq_of_isMark_toLower hascii hmark
  · exact eq_of_mem_mapCase (by decide) lowerRuns_behind hd hmark

theorem eq_of_mem_upper {c d : Char} (hd : d ∈ upper c) (hmark : IsMark d) : d = c := by
  rw [upper] at hd
  split at hd
  · next hascii =>
    obtain rfl := List.mem_singleton.1 hd
    exact eq_of_isMark_toUpper hascii hmark
  · exact eq_of_mem_mapCase upperExpansions_behind upperRuns_behind hd hmark

theorem lower_ne_nil (c : Char) : lower c ≠ [] := by
  rw [lower]
  split
  · exact List.cons_ne_nil _ _
  · exact mapCase_ne_nil (by decide) c

/-! ## Texts -/

theorem mem_of_mem_lowerAfter {before cs : List Char} {d : Char} (hd : d ∈ lowerAfter before cs)
    (hmark : IsMark d) : d ∈ cs := by
  induction cs generalizing before with
  | nil => exact hd
  | cons c cs ih =>
    rw [lowerAfter, List.mem_append] at hd
    rcases hd with hd | hd
    · split at hd
      · obtain rfl := List.mem_singleton.1 hd
        have hsigma : ∀ last : Bool, ¬ IsMark (if last then 'ς' else 'σ') := by decide
        exact absurd hmark (hsigma _)
      · rw [eq_of_mem_lower hd hmark]
        exact List.mem_cons_self
    · exact List.mem_cons_of_mem c (ih hd)

theorem mem_of_mem_lowercase {text : String} {d : Char} (hd : d ∈ (lowercase text).toList)
    (hmark : IsMark d) : d ∈ text.toList := by
  rw [lowercase, String.toList_ofList] at hd
  exact mem_of_mem_lowerAfter hd hmark

theorem lower_of_isMark {c : Char} (hmark : IsMark c) : lower c = [c] := by
  rcases hmark with rfl | rfl <;> rfl

theorem mem_lowerAfter {before cs : List Char} {d : Char} (hd : d ∈ cs) (hmark : IsMark d) :
    d ∈ lowerAfter before cs := by
  induction cs generalizing before with
  | nil => exact hd
  | cons c cs ih =>
    rw [lowerAfter, List.mem_append]
    rcases List.mem_cons.1 hd with rfl | hd
    · left
      have hsigma : d ≠ 'Σ' := by
        rintro rfl
        exact absurd hmark (by decide)
      rw [if_neg hsigma, lower_of_isMark hmark]
      exact List.mem_singleton.2 rfl
    · exact .inr (ih hd)

/-- The marks of a text are also in its lowercase form. -/
theorem mem_lowercase {text : String} {d : Char} (hd : d ∈ text.toList) (hmark : IsMark d) :
    d ∈ (lowercase text).toList := by
  rw [lowercase, String.toList_ofList]
  exact mem_lowerAfter hd hmark

theorem lowercase_ne_empty {text : String} (h : text ≠ "") : lowercase text ≠ "" := by
  obtain ⟨c, cs, hcs⟩ := List.exists_cons_of_ne_nil (mt String.toList_eq_nil_iff.1 h)
  intro hempty
  rw [← String.toList_eq_nil_iff, lowercase, String.toList_ofList, hcs, lowerAfter,
    List.append_eq_nil_iff] at hempty
  have hfirst := hempty.1
  split at hfirst
  · exact absurd hfirst (List.cons_ne_nil _ _)
  · exact lower_ne_nil c hfirst

theorem mem_of_mem_titleFrom {fresh : Bool} {cs : List Char} {d : Char}
    (hd : d ∈ titleFrom fresh cs) (hmark : IsMark d) : d ∈ cs := by
  induction cs generalizing fresh with
  | nil => exact hd
  | cons c cs ih =>
    rw [titleFrom, List.mem_append] at hd
    rcases hd with hd | hd
    · cases fresh with
      | true =>
        rw [eq_of_mem_upper hd hmark]
        exact List.mem_cons_self
      | false =>
        rw [List.mem_singleton.1 hd]
        exact List.mem_cons_self
    · exact List.mem_cons_of_mem c (ih hd)

theorem mem_of_mem_lowerTitleCase {text : String} {d : Char}
    (hd : d ∈ (lowerTitleCase text).toList) (hmark : IsMark d) : d ∈ text.toList := by
  rw [lowerTitleCase, titleCase, String.toList_ofList] at hd
  exact mem_of_mem_lowercase (mem_of_mem_titleFrom hd hmark) hmark

end ReactBridge.Text
