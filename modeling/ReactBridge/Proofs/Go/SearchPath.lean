import ReactBridge.Go.Package
import ReactBridge.Proofs.Path.Join

/-!
# Directories of import paths

* `Path.components_filter` : the components of a path that lead somewhere are those of its segments;
* `IsSearchRoot` : the first entry of `GOPATH`;
* `packageDir_components` : the directory of an import path stays below it.
-/

namespace ReactBridge

namespace Path

/-- Whether a component leads elsewhere than to a start. -/
def Component.moves : Component → Bool
  | root | here => false
  | up | name _ => true

theorem Component.moves_ofSegment? {segment : String} {component : Component}
    (h : ofSegment? segment = some component) : component.moves = true := by
  rw [ofSegment?] at h
  split at h
  · cases h
  · split at h <;> obtain rfl := Option.some.inj h <;> rfl

/-- The first segment is a start, or a component like any other. -/
theorem Component.filter_ofFirst (segment : String) (more : Bool) :
    (ofFirst segment more).toList.filter moves = (ofSegment? segment).toList := by
  by_cases hempty : segment = ""
  · subst hempty
    cases more <;> rfl
  by_cases hdot : segment = "."
  · subst hdot
    rfl
  rw [ofFirst, if_neg hempty, if_neg hdot]
  cases hsegment : ofSegment? segment with
  | none => rfl
  | some component =>
    exact List.filter_cons_of_pos (moves_ofSegment? hsegment)

/-- The components of a path that are no start are those of its segments. -/
theorem components_filter (path : Path) :
    path.components.filter Component.moves = path.segments.filterMap Component.ofSegment? := by
  obtain ⟨first, rest, hsegments⟩ := List.exists_cons_of_ne_nil path.segments_ne_nil
  have hrest : (rest.filterMap Component.ofSegment?).filter Component.moves =
      rest.filterMap Component.ofSegment? := by
    rw [List.filter_eq_self]
    intro component hcomponent
    obtain ⟨segment, -, hsegment⟩ := List.mem_filterMap.1 hcomponent
    exact Component.moves_ofSegment? hsegment
  have hcons : (first :: rest).filterMap Component.ofSegment? =
      (Component.ofSegment? first).toList ++ rest.filterMap Component.ofSegment? := by
    rw [List.filterMap_cons]
    cases Component.ofSegment? first <;> rfl
  rw [components_of_segments hsegments, List.filter_append, Component.filter_ofFirst, hrest,
    hsegments, hcons]

/-- Separators at the start of a path are no components that lead anywhere. -/
theorem filterMap_segments_dropWhile (cs : List Char) :
    (Path.mk (String.ofList (cs.dropWhile (· = '/')))).segments.filterMap Component.ofSegment? =
      (Path.mk (String.ofList cs)).segments.filterMap Component.ofSegment? := by
  induction cs with
  | nil => rfl
  | cons c cs ih =>
    by_cases hc : c = '/'
    · have hsegments : (Path.mk (String.ofList (c :: cs))).segments =
          "" :: (Path.mk (String.ofList cs)).segments := by
        rw [segments, segments, String.toList_ofList, String.toList_ofList, Text.split, if_pos hc]
        rfl
      have hstill : Component.ofSegment? "" = none := rfl
      rw [List.dropWhile_cons, if_pos (decide_eq_true hc), ih, hsegments, List.filterMap_cons, hstill]
    · rw [List.dropWhile_cons, if_neg (by rwa [decide_eq_true_eq])]

end Path

namespace Go
open ReactBridge.Path (Component)

/-- The text of a value ahead of its first `:`, where there is one that is not empty. -/
def IsSearchRoot (gopath : Option String) (entry : String) : Prop :=
  ∃ value, gopath = some value ∧ entry ≠ "" ∧ ':' ∉ entry.toList ∧
    (value = entry ∨ ∃ more, value = entry ++ ":" ++ more)

theorem takeWhile_colon {value entry : String} (hcolon : ':' ∉ entry.toList)
    (h : value = entry ∨ ∃ more, value = entry ++ ":" ++ more) :
    value.toList.takeWhile (· ≠ ':') = entry.toList := by
  have hpass : ∀ c ∈ entry.toList, decide (c ≠ ':') = true := by
    intro c hc
    rw [decide_eq_true_eq]
    rintro rfl
    exact hcolon hc
  rcases h with rfl | ⟨more, rfl⟩
  · exact List.takeWhile_eq_self_iff.2 hpass
  · have hmark : ":".toList = [':'] := rfl
    rw [String.toList_append, String.toList_append, hmark, List.append_assoc,
      List.takeWhile_append_of_pos hpass]
    simp

theorem exists_value_eq (value : String) :
    value = String.ofList (value.toList.takeWhile (· ≠ ':')) ∨
      ∃ more, value = String.ofList (value.toList.takeWhile (· ≠ ':')) ++ ":" ++ more := by
  have hsplit := List.takeWhile_append_dropWhile (p := (· ≠ ':')) (l := value.toList)
  cases hrest : value.toList.dropWhile (· ≠ ':') with
  | nil =>
    left
    rw [hrest, List.append_nil] at hsplit
    rw [hsplit, String.ofList_toList]
  | cons c cs =>
    right
    obtain rfl : c = ':' := by
      have hstop := List.head?_dropWhile_not (· ≠ ':') value.toList
      rw [hrest] at hstop
      simpa using hstop
    have hmark : ":".toList = [':'] := rfl
    refine ⟨String.ofList cs, ?_⟩
    rw [hrest] at hsplit
    rw [← String.toList_inj, String.toList_append, String.toList_append, hmark,
      String.toList_ofList, String.toList_ofList, List.append_assoc, List.singleton_append, hsplit]

theorem firstEntry_eq_some_iff {gopath : Option String} {root : Path} :
    gopath.bind firstEntry = some root ↔ IsSearchRoot gopath root.text := by
  rw [Option.bind_eq_some_iff]
  constructor
  · rintro ⟨value, hvalue, hroot⟩
    rw [firstEntry] at hroot
    split at hroot
    · cases hroot
    · next hne =>
      obtain rfl := Option.some.inj hroot
      refine ⟨value, hvalue, by simpa using hne, ?_, exists_value_eq value⟩
      rw [String.toList_ofList]
      intro hcolon
      simpa using List.mem_takeWhile_imp hcolon
  · rintro ⟨value, hvalue, hne, hcolon, hentry⟩
    refine ⟨value, hvalue, ?_⟩
    rw [firstEntry, takeWhile_colon hcolon hentry, String.ofList_toList]
    simp [hne]

/-- **The directory of an import path.** It lies in `src` below the first entry of `GOPATH`,
whatever the import path is, and goes on with the components of the import path that are no start.
There is none exactly if there is no first entry. -/
theorem packageDir_components (gopath : Option String) (importPath : String) :
    (∀ entry, IsSearchRoot gopath entry → ∃ dir, packageDir gopath importPath = .ok dir ∧
      dir.components = (Path.mk entry).components ++
        .name "src" :: (Path.mk importPath).components.filter Component.moves) ∧
      (packageDir gopath importPath = .error .noGopath ↔ ∀ entry, ¬ IsSearchRoot gopath entry) := by
  constructor
  · intro entry hentry
    have hroot : gopath.bind firstEntry = some ⟨entry⟩ := firstEntry_eq_some_iff.2 hentry
    rw [packageDir, hroot]
    refine ⟨_, rfl, ?_⟩
    have hsrc : Path.IsName "src" := by decide
    have hbase : ((Path.mk entry).join ⟨"src"⟩).text ≠ "" := by
      rw [Path.join_relative _ hsrc.isAbsolute]
      simp
    -- Without its leading separators the import path cannot replace what it is put below.
    have hrelative :
        (Path.mk (String.ofList (importPath.toList.dropWhile (· = '/')))).isAbsolute = false := by
      have hstop := List.head?_dropWhile_not (· = '/') importPath.toList
      rw [Path.isAbsolute, String.toList_ofList, decide_eq_false_iff_not]
      intro hslash
      rw [hslash] at hstop
      simp at hstop
    obtain ⟨front, hfront⟩ := Path.join_relative_segments hbase
    rw [(hfront _ hrelative).2, Path.components_join _ hsrc, Path.filterMap_segments_dropWhile,
      String.ofList_toList, Path.components_filter, List.append_assoc, List.singleton_append]
  · rw [packageDir]
    cases hroot : gopath.bind firstEntry with
    | some root => simpa using ⟨root.text, firstEntry_eq_some_iff.1 hroot⟩
    | none =>
      refine iff_of_true rfl fun entry hentry => ?_
      have hsome : gopath.bind firstEntry = some ⟨entry⟩ := firstEntry_eq_some_iff.2 hentry
      rw [hroot] at hsome
      cases hsome

end Go

end ReactBridge
