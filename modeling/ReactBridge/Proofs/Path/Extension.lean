import ReactBridge.Proofs.Path.Strip

/-!
# Extensions of paths below a base

* `Path.exists_withExtension` : an extension is that of the last name, whatever stands ahead of it;
* `Path.withExtension_join` : so it is the same below a base;
* `Path.withExtension_name` : a name that has no extension gets one behind it.
-/

namespace ReactBridge

namespace Text

/-- The last piece goes on where the text does, up to the next separator. -/
theorem split_append_of_notMem {sep : Char} {more : List Char} (h : sep ∉ more)
    (cs : List Char) : ∃ front last, split sep cs = front ++ [last] ∧
      split sep (cs ++ more) = front ++ [last ++ more] := by
  induction cs with
  | nil => exact ⟨[], [], rfl, split_of_notMem h⟩
  | cons c cs ih =>
    obtain ⟨front, last, hcs, hmore⟩ := ih
    by_cases hc : c = sep
    · refine ⟨[] :: front, last, ?_, ?_⟩
      · rw [split, if_pos hc, hcs, List.cons_append]
      · rw [List.cons_append, split, if_pos hc, hmore, List.cons_append]
    · rw [List.cons_append, split, if_neg hc, hcs, split, if_neg hc, hmore]
      cases front with
      | nil => exact ⟨[], c :: last, rfl, rfl⟩
      | cons first front => exact ⟨(c :: first) :: front, last, rfl, rfl⟩

theorem join_concat (sep : Char) (front : List (List Char)) :
    ∃ ahead, ∀ last, join sep (front ++ [last]) = ahead ++ last := by
  induction front with
  | nil => exact ⟨[], fun last => rfl⟩
  | cons piece front ih =>
    obtain ⟨ahead, hahead⟩ := ih
    refine ⟨piece ++ sep :: ahead, fun last => ?_⟩
    rw [List.cons_append, join_cons_of_ne_nil _ _ (by simp), hahead, List.append_assoc,
      List.cons_append]

end Text

namespace Path

/-! ## The last segment -/

theorem text_ofSegments_concat (front : List String) :
    ∃ ahead, ∀ last : String, (ofSegments (front ++ [last])).text.toList = ahead ++ last.toList := by
  obtain ⟨ahead, hahead⟩ := Text.join_concat '/' (front.map String.toList)
  refine ⟨ahead, fun last => ?_⟩
  rw [ofSegments, String.toList_ofList, List.map_append, List.map_singleton]
  exact hahead last.toList

theorem isAbsolute_concat {path : Path} {front : List String} {last : String}
    (h : path.segments = front ++ [last]) : path.isAbsolute = decide (front.head? = some "") := by
  rw [Bool.eq_iff_iff, isAbsolute_iff, h, decide_eq_true_eq]
  cases front with
  | nil => simp
  | cons first front =>
    cases front with
    | nil => simp
    | cons next front => simp

theorem fileName_concat {path : Path} {front : List String} {last : String}
    (h : path.segments = front ++ [last]) (hstill : isStill last = false) :
    path.fileName = if last = ".." then none else some last := by
  have hlast : path.components.getLast? = Component.ofSegment? last := by
    cases front with
    | nil =>
      have hne : last ≠ "" ∧ last ≠ "." := by simpa [isStill] using hstill
      rw [components_of_segments h, Component.ofFirst, if_neg hne.1, if_neg hne.2]
      cases Component.ofSegment? last <;> rfl
    | cons first front =>
      have hsome : (Component.ofSegment? last).isSome = true := by
        rw [Component.ofSegment?, hstill, if_neg Bool.false_ne_true]
        split <;> rfl
      obtain ⟨component, hcomponent⟩ := Option.isSome_iff_exists.1 hsome
      have hcons : path.segments = first :: (front ++ [last]) := h
      rw [components_of_segments hcons, List.filterMap_append,
        List.filterMap_cons, hcomponent, ← List.append_assoc, List.filterMap_nil,
        List.getLast?_concat]
  rw [fileName, hlast, Component.ofSegment?, hstill, if_neg Bool.false_ne_true]
  split
  · next heq =>
    split at heq
    · cases heq
    · next hup =>
      rw [if_neg hup]
      exact congrArg some (Component.name.inj (Option.some.inj heq)).symm
  · next hother =>
    by_cases hup : last = ".."
    · rw [if_pos hup]
    · rw [if_neg hup] at hother
      exact absurd rfl (hother last)

theorem setExtension_concat {front : List String} {last : String}
    (hfront : ∀ segment ∈ front, '/' ∉ segment.toList) (hlast : '/' ∉ last.toList)
    (hstill : isStill last = false) (ext : String) :
    (ofSegments (front ++ [last])).setExtension ext =
      ofSegments (front ++ [if last = ".." then last else stem last ++ "." ++ ext]) := by
  have hsegments : (ofSegments (front ++ [last])).segments = front ++ [last] :=
    segments_ofSegments (by simp) (List.forall_mem_append.2
      ⟨hfront, List.forall_mem_singleton.2 hlast⟩)
  rw [setExtension, fileName_concat hsegments hstill]
  by_cases hup : last = ".."
  · rw [if_pos hup, if_pos hup]
  · rw [if_neg hup, if_neg hup]
    dsimp only
    rw [hsegments, trimEnd_append_singleton hstill, List.dropLast_concat]

/-! ## The last name -/

theorem stem_subset (name : String) : (stem name).toList ⊆ name.toList := by
  intro c hc
  rw [stem, cutExtension] at hc
  rcases hcut : Text.cutLast '.' name.toList with _ | ⟨front, back⟩ <;> rw [hcut] at hc
  · exact hc
  · rw [(Text.cutLast_eq_some_iff.1 hcut).2.2]
    rw [String.toList_ofList] at hc
    exact List.mem_append_left _ hc

/-- The name with its extension cut off, but not the dot ahead of that. -/
def cutName (name : String) : String :=
  String.ofList (name.toList.take (name.toList.length - ((cutExtension name).2.getD "").length))

/-- What is cut off stands behind a dot, and something stands ahead of that. -/
theorem cutName_cases (name : String) :
    cutName name = name ∨ ∃ stem, stem ≠ "" ∧ cutName name = stem ++ "." := by
  cases hcut : (cutExtension name).2 with
  | none =>
    left
    have hlength : "".length = 0 := rfl
    rw [cutName, hcut, Option.getD_none, hlength, Nat.sub_zero, List.take_length, String.ofList_toList]
  | some ext =>
    right
    obtain ⟨stem, hstem, hname⟩ := eq_append_of_cutExtension hcut
    refine ⟨stem, hstem, ?_⟩
    rw [cutName, hcut, Option.getD_some, hname, String.toList_append, List.length_append,
      String.length_toList (s := ext), Nat.add_sub_cancel, List.take_left, String.ofList_toList]

theorem length_cutExtension_le (name : String) :
    ((cutExtension name).2.getD "").length ≤ name.toList.length := by
  cases hcut : (cutExtension name).2 with
  | none => exact Nat.zero_le _
  | some ext =>
    obtain ⟨stem, -, hname⟩ := eq_append_of_cutExtension hcut
    rw [Option.getD_some, hname, String.toList_append, List.length_append,
      String.length_toList (s := ext)]
    exact Nat.le_add_left _ _

theorem isStill_cutName {name : String} (h : IsName name) : isStill (cutName name) = false := by
  rcases cutName_cases name with hsame | ⟨stem, hstem, hcut⟩
  · rw [hsame]
    exact h.moves
  · rw [hcut, isStill, Bool.or_eq_false_iff, decide_eq_false_iff_not, decide_eq_false_iff_not]
    constructor
    · intro hempty
      simp at hempty
    · intro hdot
      have hlength := congrArg String.length hdot
      rw [String.length_append] at hlength
      exact hstem (String.length_eq_zero_iff.1 (Nat.succ.inj hlength))

theorem notMem_cutName {name : String} (h : IsName name) : '/' ∉ (cutName name).toList := by
  rw [cutName, String.toList_ofList]
  exact fun hslash => h.inSegment (List.mem_of_mem_take hslash)

/-- An extension is set on the last name of a path, in a way that depends on that name only. -/
theorem exists_withExtension {name : String} (h : IsName name) {ext : String}
    (hext : '/' ∉ ext.toList) : ∃ last : String, '/' ∉ last.toList ∧
      ∀ (path : Path) front, path.segments = front ++ [name] →
        path.withExtension ext = ofSegments (front ++ [last]) := by
  refine ⟨if cutName name = ".." then cutName name else stem (cutName name) ++ "." ++ ext, ?_,
    fun path front hpath => ?_⟩
  · split
    · exact notMem_cutName h
    · rw [String.toList_append, String.toList_append, List.mem_append, List.mem_append, not_or, not_or]
      exact ⟨⟨fun hslash => notMem_cutName h (stem_subset _ hslash), by decide⟩, hext⟩
  · obtain ⟨ahead, hahead⟩ := text_ofSegments_concat front
    have htext : path.text.toList = ahead ++ name.toList := by
      rw [← hahead, ← hpath, ofSegments_segments]
    have hextension : path.extension = (cutExtension name).2 := by
      rw [extension, fileName_concat hpath h.moves, if_neg h.ne_up, Option.bind_some]
    have hcut : Path.mk (String.ofList
        (path.text.toList.take (path.text.length - (path.extension.getD "").length))) =
          ofSegments (front ++ [cutName name]) := by
      have hkept := hahead (cutName name)
      rw [cutName, String.toList_ofList, ← String.toList_ofList (l := ahead ++ _), String.toList_inj] at hkept
      rw [← String.length_toList, hextension, htext, List.length_append,
        Nat.add_sub_assoc (length_cutExtension_le name), List.take_length_add_append, ← hkept]
      rfl
    have hfront : ∀ segment ∈ front, '/' ∉ segment.toList := fun segment hsegment =>
      path.notMem_of_mem_segments segment (hpath ▸ List.mem_append_left _ hsegment)
    rw [withExtension, hcut, setExtension_concat hfront (notMem_cutName h) (isStill_cutName h)]

/-! ## Extensions below a base -/

theorem isName_of_lastName? {path : Path} {name : String} (h : path.lastName? = some name) :
    ∃ front, path.segments = front ++ [name] ∧ IsName name := by
  obtain ⟨front, hsegments, hstill, hup⟩ := segments_of_lastName? h
  have hslash := path.notMem_of_mem_segments name (hsegments ▸ List.mem_concat_self)
  exact ⟨front, hsegments, hstill, hup, hslash⟩

/-- **An extension is the same below a base**, also where the base is replaced. -/
theorem withExtension_join (base : Path) {path : Path} {name ext : String}
    (h : path.lastName? = some name) (hext : '/' ∉ ext.toList) :
    (base.join path).withExtension ext = base.join (path.withExtension ext) := by
  obtain ⟨front, hsegments, hname⟩ := isName_of_lastName? h
  obtain ⟨last, hlast, hrename⟩ := exists_withExtension hname hext
  have hslash : ∀ segment ∈ front ++ [last], '/' ∉ segment.toList := by
    rw [List.forall_mem_append, List.forall_mem_singleton]
    exact ⟨fun segment hsegment => path.notMem_of_mem_segments segment
      (hsegments ▸ List.mem_append_left _ hsegment), hlast⟩
  have hrenamed := segments_ofSegments (by simp) hslash
  rw [← hrename path front hsegments] at hrenamed
  have habsolute : (path.withExtension ext).isAbsolute = path.isAbsolute := by
    rw [isAbsolute_concat hrenamed, isAbsolute_concat hsegments]
  cases hpath : path.isAbsolute with
  | true => rw [join_of_isAbsolute base hpath, join_of_isAbsolute base (habsolute.trans hpath)]
  | false =>
    by_cases hbase : base.text = ""
    · rw [join_of_empty hbase hpath, join_of_empty hbase (habsolute.trans hpath)]
    · obtain ⟨ahead, hahead⟩ := join_relative_segments hbase
      have hwhole := (hahead path hpath).1
      rw [hsegments, ← List.append_assoc] at hwhole
      rw [hrename _ _ hwhole, List.append_assoc, ← hrenamed,
        ← (hahead _ (habsolute.trans hpath)).1, ofSegments_segments]

/-- A name that has no extension gets one behind it. -/
theorem withExtension_name (base : Path) {name ext : String} (hname : IsName name)
    (hdot : '.' ∉ name.toList) (hext : '/' ∉ ext.toList) :
    (base.join ⟨name⟩).withExtension ext = base.join ⟨name ++ "." ++ ext⟩ := by
  have hsegments := segments_of_notMem hname.inSegment
  have hlast : (Path.mk name).lastName? = some name := by
    rw [lastName?, hsegments, List.getLast?_singleton]
    simp [hname.moves, hname.ne_up]
  have hcut : cutExtension name = (name, none) := by
    rw [cutExtension, Text.cutLast_eq_none hdot]
  have hfile : (Path.mk name).fileName = some name := by
    have hconcat : (Path.mk name).segments = [] ++ [name] := hsegments
    rw [fileName_concat hconcat hname.moves, if_neg hname.ne_up]
  have hkept : (Path.mk name).text.length - ((Path.mk name).extension.getD "").length =
      name.toList.length := by
    rw [extension, hfile, Option.bind_some, hcut, Option.getD_none, String.length_toList]
    rfl
  rw [withExtension_join base hlast hext, withExtension, hkept, List.take_length,
    String.ofList_toList, setExtension, hfile]
  dsimp only
  rw [hsegments, stem, hcut, ← List.nil_append [name], trimEnd_append_singleton hname.moves,
    List.dropLast_concat, List.nil_append, ofSegments, List.map_singleton, Text.join,
    String.ofList_toList]

end Path

end ReactBridge
