import ReactBridge.Path

/-!
# Components of paths

* `Text.split_join` : splitting undoes joining;
* `Path.components_trimmed` : still segments at the end of a path are no components;
* `Path.components_of_parent?` : a path goes through its parent to its last name.
-/

namespace ReactBridge

namespace Text

theorem notMem_of_mem_split {sep : Char} {cs : List Char} :
    ∀ piece ∈ split sep cs, sep ∉ piece := by
  induction cs with
  | nil => exact List.forall_mem_singleton.2 List.not_mem_nil
  | cons c cs ih =>
    unfold split
    split
    · exact List.forall_mem_cons.2 ⟨List.not_mem_nil, ih⟩
    · next hc =>
      split
      · next piece pieces h =>
        rw [h, List.forall_mem_cons] at ih
        refine List.forall_mem_cons.2 ⟨?_, ih.2⟩
        rw [List.mem_cons, not_or]
        exact ⟨fun hsep => hc hsep.symm, ih.1⟩
      · next h => exact absurd h (split_ne_nil sep cs)

theorem split_of_notMem {sep : Char} {cs : List Char} (h : sep ∉ cs) : split sep cs = [cs] := by
  induction cs with
  | nil => rfl
  | cons c cs ih =>
    rw [List.mem_cons, not_or] at h
    rw [split, if_neg fun hc => h.1 hc.symm, ih h.2]

theorem split_append_cons {sep : Char} {piece : List Char} (h : sep ∉ piece) (cs : List Char) :
    split sep (piece ++ sep :: cs) = piece :: split sep cs := by
  induction piece with
  | nil => rw [List.nil_append, split, if_pos rfl]
  | cons c piece ih =>
    rw [List.mem_cons, not_or] at h
    rw [List.cons_append, split, if_neg fun hc => h.1 hc.symm, ih h.2]

theorem split_join {sep : Char} {pieces : List (List Char)} (hne : pieces ≠ [])
    (h : ∀ piece ∈ pieces, sep ∉ piece) : split sep (join sep pieces) = pieces := by
  induction pieces with
  | nil => exact absurd rfl hne
  | cons piece pieces ih =>
    rw [List.forall_mem_cons] at h
    cases pieces with
    | nil => exact split_of_notMem h.1
    | cons next pieces => rw [join, split_append_cons h.1, ih (List.cons_ne_nil _ _) h.2]

end Text

namespace Path

/-! ## Segments -/

theorem segments_ne_nil (path : Path) : path.segments ≠ [] := by
  rw [segments, ne_eq, List.map_eq_nil_iff]
  exact Text.split_ne_nil '/' _

theorem notMem_of_mem_segments {path : Path} : ∀ segment ∈ path.segments, '/' ∉ segment.toList := by
  rw [segments, List.forall_mem_map]
  intro piece hpiece
  rw [String.toList_ofList]
  exact Text.notMem_of_mem_split piece hpiece

theorem segments_ofSegments {segments : List String} (hne : segments ≠ [])
    (h : ∀ segment ∈ segments, '/' ∉ segment.toList) : (ofSegments segments).segments = segments := by
  have hpieces : ∀ piece ∈ segments.map String.toList, '/' ∉ piece := List.forall_mem_map.2 h
  rw [ofSegments, Path.segments, String.toList_ofList,
    Text.split_join (by rwa [ne_eq, List.map_eq_nil_iff]) hpieces, List.map_map]
  refine (List.map_congr_left fun segment _ => ?_).trans (List.map_id segments)
  exact String.ofList_toList

theorem segments_of_notMem {segment : String} (h : '/' ∉ segment.toList) :
    (Path.mk segment).segments = [segment] := by
  rw [segments, Text.split_of_notMem h, List.map_singleton, String.ofList_toList]

/-! ## Components -/

theorem components_of_segments {path : Path} {first : String} {rest : List String}
    (h : path.segments = first :: rest) :
    path.components =
      (Component.ofFirst first (!rest.isEmpty)).toList ++ rest.filterMap Component.ofSegment? := by
  rw [components, h]

/-- Only whether an empty first segment is all there is makes a difference. -/
theorem ofFirst_of_ne {first : String} (h : first ≠ "") (more more' : Bool) :
    Component.ofFirst first more = Component.ofFirst first more' := by
  rw [Component.ofFirst, Component.ofFirst, if_neg h, if_neg h]

theorem filterMap_dropWhile (segments : List String) :
    (segments.dropWhile isStill).filterMap Component.ofSegment? =
      segments.filterMap Component.ofSegment? := by
  induction segments with
  | nil => rfl
  | cons segment segments ih =>
    rw [List.dropWhile_cons]
    split
    · next hstill =>
      have hnone : Component.ofSegment? segment = none := if_pos hstill
      rw [ih, List.filterMap_cons, hnone]
    · rfl

theorem filterMap_trimEnd (segments : List String) :
    (trimEnd segments).filterMap Component.ofSegment? =
      segments.filterMap Component.ofSegment? := by
  rw [trimEnd, List.filterMap_reverse, filterMap_dropWhile, ← List.filterMap_reverse,
    List.reverse_reverse]

theorem trimEnd_subset (segments : List String) : trimEnd segments ⊆ segments := by
  intro segment h
  rw [trimEnd, List.mem_reverse] at h
  exact List.mem_reverse.1 ((List.dropWhile_sublist isStill).subset h)

theorem components_trimmed (path : Path) : path.trimmed.components = path.components := by
  obtain ⟨first, rest, hsegments⟩ := List.exists_cons_of_ne_nil path.segments_ne_nil
  have hslash := path.notMem_of_mem_segments
  rw [hsegments, List.forall_mem_cons] at hslash
  have hfilter := filterMap_trimEnd rest
  rw [components_of_segments hsegments, trimmed, hsegments]
  dsimp only
  split
  · next htrim =>
    rw [htrim, List.filterMap_nil] at hfilter
    rw [← hfilter, List.append_nil]
    split
    · next hroot =>
      rw [Bool.and_eq_true, decide_eq_true_eq] at hroot
      rw [hroot.1, hroot.2]
      rfl
    · next hroot =>
      rw [components_of_segments (segments_of_notMem hslash.1), List.filterMap_nil, List.append_nil]
      rw [Bool.and_eq_true, decide_eq_true_eq, not_and, Bool.not_eq_true] at hroot
      by_cases hfirst : first = ""
      · rw [hroot hfirst]
        rfl
      · rw [ofFirst_of_ne hfirst _ (!rest.isEmpty)]
  · next htrim =>
    have hne : trimEnd rest ≠ [] := htrim
    have hall : ∀ segment ∈ first :: trimEnd rest, '/' ∉ segment.toList :=
      List.forall_mem_cons.2 ⟨hslash.1, fun segment h => hslash.2 segment (trimEnd_subset rest h)⟩
    have hrest : rest ≠ [] := by
      rintro rfl
      exact hne rfl
    rw [components_of_segments (segments_ofSegments nofun hall), hfilter,
      List.isEmpty_eq_false_iff.2 hne, List.isEmpty_eq_false_iff.2 hrest]

theorem trimEnd_append_singleton {segment : String} (h : isStill segment = false)
    (segments : List String) : trimEnd (segments ++ [segment]) = segments ++ [segment] := by
  rw [trimEnd, List.reverse_append, List.reverse_singleton, List.singleton_append,
    List.dropWhile_cons_of_neg (by rw [h]; exact Bool.false_ne_true), List.reverse_cons,
    List.reverse_reverse]

theorem segments_of_lastName? {path : Path} {name : String} (h : path.lastName? = some name) :
    ∃ front, path.segments = front ++ [name] ∧ isStill name = false ∧ name ≠ ".." := by
  rw [lastName?] at h
  split at h
  · next segment hlast =>
    split at h
    · cases h
    · next hproper =>
      obtain rfl := Option.some.inj h
      rw [Bool.or_eq_true, decide_eq_true_eq, not_or, Bool.not_eq_true] at hproper
      obtain ⟨front, hfront⟩ := List.getLast?_eq_some_iff.1 hlast
      exact ⟨front, hfront, hproper⟩
  · cases h

theorem components_of_parent? {path parent : Path} {name : String}
    (hname : path.lastName? = some name) (hparent : path.parent? = some parent) :
    path.components = parent.components ++ [.name name] := by
  obtain ⟨front, hsegments, hstill, hup⟩ := segments_of_lastName? hname
  have hlast : Component.ofSegment? name = some (.name name) := by
    rw [Component.ofSegment?, hstill, if_neg hup]
    rfl
  have hslash := path.notMem_of_mem_segments
  rw [parent?] at hparent
  split at hparent
  · cases hparent
  rw [hsegments, trimEnd_append_singleton hstill, List.dropLast_concat] at hparent
  rw [hsegments, List.forall_mem_append] at hslash
  cases front with
  | nil =>
    obtain rfl := Option.some.inj hparent
    have hfirst : Component.ofFirst name false = some (.name name) := by
      rw [isStill, Bool.or_eq_false_iff, decide_eq_false_iff_not, decide_eq_false_iff_not] at hstill
      rw [Component.ofFirst, if_neg hstill.1, if_neg hstill.2, hlast]
    rw [components_of_segments hsegments, components_trimmed]
    change (Component.ofFirst name false).toList ++ [] = _
    rw [hfirst]
    rfl
  | cons first mid =>
    have hmid : path.segments = first :: (mid ++ [name]) := hsegments
    have hmore : (!(mid ++ [name]).isEmpty) = true := by cases mid <;> rfl
    rw [components_of_segments hmid, List.filterMap_append, List.filterMap_cons, hlast,
      ← List.append_assoc, hmore]
    refine congrArg (· ++ [Component.name name]) ?_
    split at hparent
    · next hroot =>
      obtain ⟨rfl, rfl⟩ := List.cons.inj hroot
      obtain rfl := Option.some.inj hparent
      rfl
    · next hroot =>
      obtain rfl := Option.some.inj hparent
      rw [components_trimmed, components_of_segments (segments_ofSegments nofun hslash.1)]
      by_cases hfirst : first = ""
      · have hne : mid ≠ [] := fun hnil => hroot (by rw [hfirst, hnil])
        rw [List.isEmpty_eq_false_iff.2 hne]
        rfl
      · rw [ofFirst_of_ne hfirst _ (!mid.isEmpty)]

end Path

end ReactBridge
