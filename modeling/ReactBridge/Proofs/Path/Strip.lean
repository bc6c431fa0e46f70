import Mathlib.Data.List.DropRight
import ReactBridge.Proofs.Path.Join

/-!
# Paths relative to a base

* `Path.isAbsolute_iff` : an absolute path is one with an empty segment ahead of others;
* `Path.components_prefix_join` : a relative path below a base goes on from it;
* `Path.components_join_stripBase` : what is left of a path behind a base leads back from there.
-/

namespace ReactBridge.Path

/-! ## Absolute paths -/

theorem isAbsolute_iff {path : Path} :
    path.isAbsolute = true ↔ ∃ next rest, path.segments = "" :: next :: rest := by
  rw [isAbsolute, decide_eq_true_eq, segments]
  cases path.text.toList with
  | nil => simp [Text.split]
  | cons c cs =>
    obtain ⟨piece, pieces, hpieces⟩ := List.exists_cons_of_ne_nil (Text.split_ne_nil '/' cs)
    by_cases hc : c = '/'
    · simp [Text.split, hc, hpieces]
    · simp [Text.split, hc, hpieces, ← String.toList_inj]

theorem isAbsolute_join {base : Path} (h : base.isAbsolute = true) (path : Path) :
    (base.join path).isAbsolute = true := by
  cases hpath : path.isAbsolute with
  | true => rwa [join_of_isAbsolute base hpath]
  | false =>
    have hbase : base.text ≠ "" := by
      intro hempty
      rw [isAbsolute, hempty] at h
      cases h
    rw [join_relative base hpath, String.append_assoc, isAbsolute_append hbase]
    exact h

theorem components_prefix_join (base : Path) {path : Path} (h : path.isAbsolute = false) :
    base.components <+: (base.join path).components := by
  by_cases hbase : base.text = ""
  · rw [components_eq_nil_of_empty hbase]
    exact List.nil_prefix
  · obtain ⟨front, hfront⟩ := join_relative_segments hbase
    rw [(hfront path h).2]
    exact List.prefix_append _ _

/-! ## What is left behind a base -/

/-- Each segment that is no still one is a component. -/
theorem filterMap_dropComponents (n : Nat) (segments : List String) :
    (dropComponents n segments).filterMap Component.ofSegment? =
      (segments.filterMap Component.ofSegment?).drop n := by
  fun_induction dropComponents n segments with
  | case1 => rfl
  | case2 => rfl
  | case3 n segment segments hstill ih =>
    have hnone : Component.ofSegment? segment = none := if_pos hstill
    rw [ih, List.filterMap_cons, hnone]
  | case4 n segment segments hmoves ih =>
    obtain ⟨component, hcomponent⟩ : ∃ component, Component.ofSegment? segment = some component := by
      rw [Component.ofSegment?, if_neg hmoves]
      split
      · exact ⟨_, rfl⟩
      · exact ⟨_, rfl⟩
    rw [ih, List.filterMap_cons, hcomponent, List.drop_succ_cons]

theorem dropComponents_suffix (n : Nat) (segments : List String) :
    dropComponents n segments <:+ segments := by
  fun_induction dropComponents n segments with
  | case1 => exact List.suffix_rfl
  | case2 => exact List.suffix_rfl
  | case3 n segment segments _ ih => exact ih.trans (List.suffix_cons _ _)
  | case4 n segment segments _ ih => exact ih.trans (List.suffix_cons _ _)

theorem isPrefix_trimEnd (segments : List String) : trimEnd segments <+: segments :=
  List.rdropWhile_prefix isStill segments

/-- Behind its first component, a path has those of its further segments. -/
theorem drop_components {path : Path} (h : path.text ≠ "") (n : Nat) :
    path.components.drop (n + 1) =
      (path.segments.tail.filterMap Component.ofSegment?).drop n := by
  obtain ⟨first, rest, hsegments⟩ := List.exists_cons_of_ne_nil path.segments_ne_nil
  obtain ⟨start, hstart⟩ := Option.isSome_iff_exists.1 (isSome_ofFirst first)
  rw [components_of_segments hsegments, ofFirst_more h hsegments, hstart, hsegments, List.tail_cons,
    Option.toList_some, List.singleton_append, List.drop_succ_cons]

theorem isAbsolute_ofSegments {segments : List String}
    (hslash : ∀ segment ∈ segments, '/' ∉ segment.toList)
    (hfirst : ∀ segment ∈ segments.head?, isStill segment = false) :
    (ofSegments segments).isAbsolute = false := by
  rw [Bool.eq_false_iff]
  intro habsolute
  obtain ⟨next, rest, hsegments⟩ := isAbsolute_iff.1 habsolute
  cases segments with
  | nil =>
    have hnil : (ofSegments []).segments = [""] := by decide
    rw [hnil] at hsegments
    cases hsegments
  | cons segment segments =>
    rw [segments_ofSegments (List.cons_ne_nil _ _) hslash] at hsegments
    obtain ⟨rfl, -⟩ := List.cons.inj hsegments
    exact absurd (hfirst "" rfl) (by decide)

theorem filterMap_segments_ofSegments {segments : List String}
    (hslash : ∀ segment ∈ segments, '/' ∉ segment.toList) :
    (ofSegments segments).segments.filterMap Component.ofSegment? =
      segments.filterMap Component.ofSegment? := by
  by_cases hnil : segments = []
  · subst hnil
    decide
  · rw [segments_ofSegments hnil hslash]

/-- Segments that are cut out of those of a path make up a relative path, with their components. -/
theorem ofSegments_cut {path : Path} {cut : List String} (h : cut ⊆ path.segments) :
    (ofSegments (trimEnd (cut.dropWhile isStill))).isAbsolute = false ∧
      (ofSegments (trimEnd (cut.dropWhile isStill))).segments.filterMap Component.ofSegment? =
        cut.filterMap Component.ofSegment? := by
  have hslash : ∀ segment ∈ trimEnd (cut.dropWhile isStill), '/' ∉ segment.toList := by
    intro segment hsegment
    have hkept := (isPrefix_trimEnd _).subset hsegment
    exact path.notMem_of_mem_segments segment (h ((List.dropWhile_sublist isStill).subset hkept))
  refine ⟨isAbsolute_ofSegments hslash fun segment hsegment => ?_, ?_⟩
  · obtain ⟨back, hback⟩ := isPrefix_trimEnd (cut.dropWhile isStill)
    have hstop := List.head?_dropWhile_not isStill cut
    rw [← hback, List.head?_append, Option.mem_def.1 hsegment] at hstop
    simpa using hstop
  · rw [filterMap_segments_ofSegments hslash, filterMap_trimEnd, filterMap_dropWhile]

/-- **What is left of a path behind a base** leads from there to where the path leads. -/
theorem components_join_stripBase {path base rest : Path} (h : path.stripBase base = some rest) :
    (base.join rest).components = path.components := by
  rw [stripBase] at h
  split at h
  swap
  · cases h
  next hprefix =>
  rw [List.isPrefixOf_iff_prefix] at hprefix
  split at h
  · -- A base without components leaves all of the path, also its root.
    next hlength =>
    obtain rfl := Option.some.inj h
    have hbase : base.text = "" := by
      by_contra htext
      exact components_ne_nil htext (List.eq_nil_of_length_eq_zero hlength)
    cases htrimmed : path.trimmed.isAbsolute with
    | true => rw [join_of_isAbsolute base htrimmed, components_trimmed]
    | false => rw [join_of_empty hbase htrimmed, components_trimmed]
  · -- The first component of the path is that of the base, so only what is behind it is cut.
    next n hlength =>
    obtain rfl := Option.some.inj h
    have hnonempty : ∀ other : Path, base.components <+: other.components → other.text ≠ "" := by
      intro other hother hempty
      rw [components_eq_nil_of_empty hempty, List.prefix_nil] at hother
      rw [hother] at hlength
      cases hlength
    have hsegments : dropComponents n path.segments.tail ⊆ path.segments :=
      ((dropComponents_suffix n _).trans (List.tail_suffix _)).subset
    obtain ⟨hrelative, hcut⟩ := ofSegments_cut hsegments
    obtain ⟨front, hfront⟩ := join_relative_segments (hnonempty base (List.prefix_refl _))
    have hdrop := List.prefix_iff_eq_append.1 hprefix
    rw [hlength, drop_components (hnonempty path hprefix)] at hdrop
    rw [(hfront _ hrelative).2, hcut, filterMap_dropComponents, hdrop]

end ReactBridge.Path
