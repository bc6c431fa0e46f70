import Mathlib.Data.List.Induction
import Mathlib.Data.List.TakeWhile
import ReactBridge.Proofs.Path

/-!
# Names below a path

* `Path.IsName` : what an entry of a directory can be called;
* `Path.join_relative_segments` : a relative path below another goes on from it;
* `Path.components_join` : a name below a path is one more component;
* `Path.below` : a path with names below it, one after the other (`join_ofNames`);
* `Path.join_join` : going on below a path that is itself below another.
-/

namespace ReactBridge

namespace Text

theorem split_append_sep (sep : Char) (xs ys : List Char) :
    split sep (xs ++ sep :: ys) = split sep xs ++ split sep ys := by
  induction xs with
  | nil => simp [split]
  | cons x xs ih =>
    rw [List.cons_append, split, split]
    split
    · rw [ih, List.cons_append]
    · rw [ih]
      cases h : split sep xs with
      | nil => exact absurd h (split_ne_nil sep xs)
      | cons piece pieces => rfl

theorem mem_of_mem_split {sep c : Char} {cs piece : List Char} (hpiece : piece ∈ split sep cs)
    (hc : c ∈ piece) : c ∈ cs := by
  induction cs generalizing piece with
  | nil =>
    obtain rfl := List.mem_singleton.1 hpiece
    exact hc
  | cons d cs ih =>
    rw [split] at hpiece
    split at hpiece
    · rcases List.mem_cons.1 hpiece with rfl | hpiece
      · cases hc
      · exact List.mem_cons_of_mem d (ih hpiece hc)
    · split at hpiece
      · next first pieces hsplit =>
        rw [hsplit] at ih
        rcases List.mem_cons.1 hpiece with rfl | hpiece
        · rcases List.mem_cons.1 hc with rfl | hc
          · exact List.mem_cons_self
          · exact List.mem_cons_of_mem d (ih List.mem_cons_self hc)
        · exact List.mem_cons_of_mem d (ih (List.mem_cons_of_mem first hpiece) hc)
      · next hnil => exact absurd hnil (split_ne_nil sep cs)

/-- A cut is at the last of the marks, with something ahead of it. -/
theorem cutLast_eq_some_iff {α : Type} [DecidableEq α] {sep : α} {as front back : List α} :
    cutLast sep as = some (front, back) ↔
      front ≠ [] ∧ sep ∉ back ∧ as = front ++ sep :: back := by
  unfold cutLast
  constructor
  · intro h
    have hsplit := List.takeWhile_append_dropWhile (p := (· ≠ sep)) (l := as.reverse)
    split at h
    · next last a rest hbehind =>
      obtain rfl : last = sep := by
        have hlast := List.head?_dropWhile_not (· ≠ sep) as.reverse
        rw [hbehind] at hlast
        simpa using hlast
      obtain ⟨rfl, rfl⟩ := Prod.mk.inj (Option.some.inj h)
      refine ⟨mt List.reverse_eq_nil_iff.1 (List.cons_ne_nil a rest), fun hback => ?_, ?_⟩
      · simpa using List.mem_takeWhile_imp (List.mem_reverse.1 hback)
      · rw [hbehind] at hsplit
        rw [← List.reverse_inj]
        refine hsplit.symm.trans ?_
        simp
    · cases h
  · rintro ⟨hfront, hback, rfl⟩
    have hpass : ∀ b ∈ back.reverse, decide (b ≠ sep) = true := by
      intro b hb
      rw [decide_eq_true_eq]
      rintro rfl
      exact hback (List.mem_reverse.1 hb)
    obtain ⟨a, rest, hrest⟩ := List.exists_cons_of_ne_nil (mt List.reverse_eq_nil_iff.1 hfront)
    have hreverse : (front ++ sep :: back).reverse = back.reverse ++ sep :: front.reverse := by simp
    rw [hreverse, List.takeWhile_append_of_pos hpass, List.dropWhile_append_of_pos hpass, hrest]
    rw [← List.reverse_reverse front, hrest]
    simp

theorem cutLast_eq_none {α : Type} [DecidableEq α] {sep : α} {as : List α} (h : sep ∉ as) :
    cutLast sep as = none := by
  rcases hcut : cutLast sep as with _ | ⟨front, back⟩
  · rfl
  · obtain ⟨-, -, rfl⟩ := cutLast_eq_some_iff.1 hcut
    exact absurd (List.mem_append_right _ List.mem_cons_self) h

end Text

namespace Path

/-! ## Names -/

/-- What an entry of a directory can be called. -/
structure IsName (name : String) : Prop where
  moves : isStill name = false
  ne_up : name ≠ ".."
  inSegment : '/' ∉ name.toList

instance : DecidablePred IsName := fun name =>
  decidable_of_iff (isStill name = false ∧ name ≠ ".." ∧ '/' ∉ name.toList)
    ⟨fun ⟨moves, ne_up, inSegment⟩ => ⟨moves, ne_up, inSegment⟩,
      fun ⟨moves, ne_up, inSegment⟩ => ⟨moves, ne_up, inSegment⟩⟩

theorem IsName.ne_empty {name : String} (h : IsName name) : name ≠ "" := by
  rintro rfl
  exact absurd h.moves (by decide)

theorem IsName.ofSegment? {name : String} (h : IsName name) :
    Component.ofSegment? name = some (.name name) := by
  rw [Component.ofSegment?, h.moves, if_neg Bool.false_ne_true, if_neg h.ne_up]

theorem IsName.filterMap {name : String} (h : IsName name) :
    [name].filterMap Component.ofSegment? = [.name name] := by
  rw [List.filterMap_cons, h.ofSegment?]
  rfl

theorem IsName.ofFirst {name : String} (h : IsName name) (more : Bool) :
    Component.ofFirst name more = some (.name name) := by
  have hdot : name ≠ "." := by
    rintro rfl
    exact absurd h.moves (by decide)
  rw [Component.ofFirst, if_neg h.ne_empty, if_neg hdot, h.ofSegment?]

theorem IsName.isAbsolute {name : String} (h : IsName name) : (Path.mk name).isAbsolute = false := by
  rw [Path.isAbsolute, decide_eq_false_iff_not]
  exact fun hhead => h.inSegment (List.mem_of_mem_head? hhead)

theorem isName_of_mem_components {path : Path} {name : String}
    (h : Component.name name ∈ path.components) : IsName name := by
  have hsegment : ∀ segment : String, '/' ∉ segment.toList →
      Component.ofSegment? segment = some (.name name) → IsName name := by
    intro segment hslash hof
    rw [Component.ofSegment?] at hof
    split at hof
    · cases hof
    · next hmoves =>
      split at hof
      · cases hof
      · next hup =>
        obtain rfl := Component.name.inj (Option.some.inj hof)
        exact ⟨Bool.eq_false_iff.2 hmoves, hup, hslash⟩
  obtain ⟨first, rest, hsegments⟩ := List.exists_cons_of_ne_nil path.segments_ne_nil
  have hslash := path.notMem_of_mem_segments
  rw [hsegments, List.forall_mem_cons] at hslash
  rw [components_of_segments hsegments, List.mem_append] at h
  rcases h with h | h
  · rw [Option.mem_toList] at h
    rw [Component.ofFirst] at h
    split at h
    · split at h <;> cases h
    · split at h
      · cases h
      · exact hsegment first hslash.1 h
  · obtain ⟨segment, hmem, hof⟩ := List.mem_filterMap.1 h
    exact hsegment segment (hslash.2 segment hmem) hof

/-! ## A relative path below a path -/

theorem ofSegments_segments (path : Path) : ofSegments path.segments = path := by
  have hpieces : (path.segments.map String.toList) = Text.split '/' path.text.toList := by
    rw [segments, List.map_map]
    refine (List.map_congr_left fun piece _ => ?_).trans (List.map_id _)
    exact String.toList_ofList
  rw [ofSegments, hpieces, Text.join_split, String.ofList_toList]

theorem components_eq_nil_of_empty {path : Path} (h : path.text = "") : path.components = [] := by
  obtain ⟨text⟩ := path
  obtain rfl : text = "" := h
  rfl

/-- An empty first segment is all there is of an empty path only. -/
theorem ofFirst_more {path : Path} {first : String} {rest : List String} (h : path.text ≠ "")
    (hsegments : path.segments = first :: rest) :
    Component.ofFirst first (!rest.isEmpty) = Component.ofFirst first true := by
  by_cases hfirst : first = ""
  · have hrest : rest ≠ [] := by
      rintro rfl
      have htext := path.ofSegments_segments
      rw [hsegments, hfirst] at htext
      exact h (congrArg Path.text htext).symm
    rw [List.isEmpty_eq_false_iff.2 hrest]
    rfl
  · exact ofFirst_of_ne hfirst _ _

theorem isSome_ofFirst (first : String) : (Component.ofFirst first true).isSome = true := by
  unfold Component.ofFirst
  split
  · rfl
  · next hempty =>
    split
    · rfl
    · next hdot =>
      rw [Component.ofSegment?, isStill, decide_eq_false hempty, decide_eq_false hdot]
      by_cases hup : first = ".." <;> simp [hup]

theorem components_ne_nil {path : Path} (h : path.text ≠ "") : path.components ≠ [] := by
  obtain ⟨first, rest, hsegments⟩ := List.exists_cons_of_ne_nil path.segments_ne_nil
  obtain ⟨component, hcomponent⟩ := Option.isSome_iff_exists.1 (isSome_ofFirst first)
  rw [components_of_segments hsegments, ofFirst_more h hsegments, hcomponent]
  exact List.cons_ne_nil _ _

/-- What stands between a path and a name below it. -/
def gap (path : Path) : String :=
  if path.text.isEmpty || path.text.toList.getLast? = some '/' then "" else "/"

theorem join_of_isAbsolute (base : Path) {path : Path} (h : path.isAbsolute = true) :
    base.join path = path := by
  rw [Path.join, if_pos h]

theorem join_relative (base : Path) {path : Path} (h : path.isAbsolute = false) :
    base.join path = ⟨base.text ++ base.gap ++ path.text⟩ := by
  rw [Path.join, h, if_neg Bool.false_ne_true, gap]
  split
  · rw [String.append_empty]
  · rfl

theorem join_of_empty {base path : Path} (hbase : base.text = "") (h : path.isAbsolute = false) :
    base.join path = path := by
  rw [join_relative base h, gap, hbase]
  simp

theorem segments_append_slash (text more : String) :
    (Path.mk (text ++ "/" ++ more)).segments = (Path.mk text).segments ++ (Path.mk more).segments := by
  have hslash : "/".toList = ['/'] := rfl
  rw [segments, String.toList_append, String.toList_append, hslash, List.append_assoc,
    List.singleton_append, Text.split_append_sep, List.map_append]
  rfl

/-- A path goes on behind a separator with the segments that are no still ones. -/
theorem components_append_slash (text more : String) :
    (Path.mk (text ++ "/" ++ more)).components = (Path.mk (text ++ "/")).components ++
      (Path.mk more).segments.filterMap Component.ofSegment? := by
  obtain ⟨first, rest, hsegments⟩ := List.exists_cons_of_ne_nil (Path.mk text).segments_ne_nil
  have hwhole := segments_append_slash text more
  have hopen := segments_append_slash text ""
  rw [hsegments, List.cons_append] at hwhole hopen
  rw [String.append_empty] at hopen
  have hmore : ∀ path : Path, (!(rest ++ path.segments).isEmpty) = true := by
    intro path
    simp [segments_ne_nil]
  have hstill : (Path.mk "").segments.filterMap Component.ofSegment? = [] := by decide
  rw [components_of_segments hwhole, components_of_segments hopen, hmore, hmore,
    List.filterMap_append, List.filterMap_append, hstill, List.append_nil, List.append_assoc]

theorem components_slash {text : String} (h : text ≠ "") :
    (Path.mk (text ++ "/")).components = (Path.mk text).components := by
  obtain ⟨first, rest, hsegments⟩ := List.exists_cons_of_ne_nil (Path.mk text).segments_ne_nil
  have hopen := segments_append_slash text ""
  rw [hsegments, List.cons_append, String.append_empty] at hopen
  have hstill : (Path.mk "").segments.filterMap Component.ofSegment? = [] := by decide
  have hmore : (!(rest ++ (Path.mk "").segments).isEmpty) = true := by simp [segments_ne_nil]
  rw [components_of_segments hopen, components_of_segments hsegments, List.filterMap_append, hstill,
    List.append_nil, hmore, ofFirst_more h hsegments]

/-- A path that is not empty ends in a separator once there is room for a name below it. -/
theorem exists_append_gap {base : Path} (h : base.text ≠ "") : ∃ text,
    base.text ++ base.gap = text ++ "/" ∧ (Path.mk (text ++ "/")).components = base.components := by
  by_cases hlast : base.text.toList.getLast? = some '/'
  · obtain ⟨chars, hchars⟩ := List.getLast?_eq_some_iff.1 hlast
    have htext : base.text = String.ofList chars ++ "/" := by
      rw [← String.toList_inj, hchars, String.toList_append, String.toList_ofList]
      rfl
    refine ⟨String.ofList chars, ?_, ?_⟩
    · rw [gap, if_pos (by simp [hlast]), String.append_empty, htext]
    · rw [← htext]
  · refine ⟨base.text, ?_, components_slash h⟩
    rw [gap, if_neg (by simp [h, hlast])]

/-- The segments of a relative path below another stand behind some that only the other tells, and
its components go on from those of the other. -/
theorem join_relative_segments {base : Path} (hbase : base.text ≠ "") :
    ∃ front, ∀ path : Path, path.isAbsolute = false →
      (base.join path).segments = front ++ path.segments ∧
        (base.join path).components =
          base.components ++ path.segments.filterMap Component.ofSegment? := by
  obtain ⟨text, hgap, hcomponents⟩ := exists_append_gap hbase
  refine ⟨(Path.mk text).segments, fun path hpath => ?_⟩
  rw [join_relative base hpath, hgap, ← hcomponents]
  exact ⟨segments_append_slash text path.text, components_append_slash text path.text⟩

/-! ## One name below a path -/

/-- A name below a path stands in a segment of its own, and is its last component. -/
theorem join_name (base : Path) : ∃ front, ∀ name, IsName name →
    (base.join ⟨name⟩).segments = front ++ [name] ∧
      (base.join ⟨name⟩).components = base.components ++ [.name name] := by
  by_cases hbase : base.text = ""
  · refine ⟨[], fun name hname => ?_⟩
    have hsegments := segments_of_notMem hname.inSegment
    rw [join_of_empty hbase hname.isAbsolute, components_of_segments hsegments, hname.ofFirst,
      components_eq_nil_of_empty hbase]
    exact ⟨hsegments, rfl⟩
  · obtain ⟨front, hfront⟩ := join_relative_segments hbase
    refine ⟨front, fun name hname => ?_⟩
    have hjoin := hfront ⟨name⟩ hname.isAbsolute
    rwa [segments_of_notMem hname.inSegment, hname.filterMap] at hjoin

theorem components_join (base : Path) {name : String} (h : IsName name) :
    (base.join ⟨name⟩).components = base.components ++ [.name name] := by
  obtain ⟨front, hfront⟩ := base.join_name
  exact (hfront name h).2

theorem lastName?_join (base : Path) {name : String} (h : IsName name) :
    (base.join ⟨name⟩).lastName? = some name := by
  obtain ⟨front, hfront⟩ := base.join_name
  rw [lastName?, (hfront name h).1, List.getLast?_concat]
  simp [h.moves, h.ne_up]

/-- A name below a path is more than a root. -/
theorem not_isRoot_join (base : Path) {name : String} (h : IsName name) :
    ¬ (((base.join ⟨name⟩).components.isEmpty ||
      decide ((base.join ⟨name⟩).components = [.root])) = true) := by
  rw [components_join base h]
  intro hroot
  cases hbase : base.components with
  | nil => simp [hbase] at hroot
  | cons component components => simp [hbase] at hroot

theorem parent?_join (base : Path) {name : String} (h : IsName name) :
    ∃ parent, (base.join ⟨name⟩).parent? = some parent ∧ parent.components = base.components := by
  have hsome : ∃ parent, (base.join ⟨name⟩).parent? = some parent := by
    rw [parent?, if_neg (not_isRoot_join base h)]
    split
    · exact ⟨_, rfl⟩
    · exact ⟨_, rfl⟩
  obtain ⟨parent, hparent⟩ := hsome
  refine ⟨parent, hparent, ?_⟩
  have hcomponents := components_of_parent? (lastName?_join base h) hparent
  rw [components_join base h] at hcomponents
  exact (List.append_cancel_right hcomponents).symm

/-- All names below a path have one parent. -/
theorem parent?_join_congr (base : Path) {name name' : String} (h : IsName name)
    (h' : IsName name') : (base.join ⟨name⟩).parent? = (base.join ⟨name'⟩).parent? := by
  obtain ⟨front, hfront⟩ := base.join_name
  have hsegments : ∀ name, IsName name →
      (trimEnd (base.join ⟨name⟩).segments).dropLast = front := by
    intro name h
    rw [(hfront name h).1, trimEnd_append_singleton h.moves, List.dropLast_concat]
  rw [parent?, parent?, if_neg (not_isRoot_join base h), if_neg (not_isRoot_join base h'),
    hsegments name h, hsegments name' h']

theorem fileName_join (base : Path) {name : String} (h : IsName name) :
    (base.join ⟨name⟩).fileName = some name := by
  rw [fileName, components_join base h, List.getLast?_concat]

/-! ## Extensions -/

theorem extension_join (base : Path) {name : String} (h : IsName name) :
    (base.join ⟨name⟩).extension = (cutExtension name).2 := by
  rw [extension, fileName_join base h, Option.bind_some]

theorem cutExtension_append {stem ext : String} (hstem : stem ≠ "") (hext : '.' ∉ ext.toList) :
    (cutExtension (stem ++ "." ++ ext)).2 = some ext := by
  have hchars : (stem ++ "." ++ ext).toList = stem.toList ++ '.' :: ext.toList := by
    have hdot : ".".toList = ['.'] := rfl
    simp [String.toList_append, hdot]
  rw [cutExtension, hchars, Text.cutLast_eq_some_iff.2 ⟨mt String.toList_eq_nil_iff.1 hstem, hext, rfl⟩]
  exact congrArg some String.ofList_toList

/-- An extension is cut off behind a dot, with something in front of it. -/
theorem eq_append_of_cutExtension {name ext : String} (h : (cutExtension name).2 = some ext) :
    ∃ stem, stem ≠ "" ∧ name = stem ++ "." ++ ext := by
  unfold cutExtension at h
  rcases hcut : Text.cutLast '.' name.toList with _ | ⟨front, back⟩ <;> rw [hcut] at h
  · cases h
  obtain ⟨hfront, -, hname⟩ := Text.cutLast_eq_some_iff.1 hcut
  obtain rfl := Option.some.inj h
  refine ⟨String.ofList front, ?_, ?_⟩
  · rwa [ne_eq, ← String.toList_eq_nil_iff, String.toList_ofList]
  · rw [← String.toList_inj, hname]
    simp

/-! ## Names one below the other -/

def below (base : Path) (names : List String) : Path :=
  names.foldl (fun path name => path.join ⟨name⟩) base

@[simp]
theorem below_append (base : Path) (front back : List String) :
    base.below (front ++ back) = (base.below front).below back :=
  List.foldl_append

theorem below_concat (base : Path) (names : List String) (name : String) :
    base.below (names ++ [name]) = (base.below names).join ⟨name⟩ :=
  base.below_append names [name]

theorem ofNames_concat (names : List String) (name : String) :
    ofNames (names ++ [name]) = (ofNames names).join ⟨name⟩ :=
  (Path.mk "").below_concat names name

theorem components_below (base : Path) {names : List String} (h : ∀ name ∈ names, IsName name) :
    (base.below names).components = base.components ++ names.map .name := by
  induction names generalizing base with
  | nil => exact (List.append_nil _).symm
  | cons name names ih =>
    rw [List.forall_mem_cons] at h
    change ((base.join ⟨name⟩).below names).components = _
    rw [ih (base.join ⟨name⟩) h.2, components_join base h.1, List.append_assoc]
    rfl

theorem isAbsolute_append {text : String} (h : text ≠ "") (more : String) :
    (Path.mk (text ++ more)).isAbsolute = (Path.mk text).isAbsolute := by
  obtain ⟨c, cs, hcs⟩ := List.exists_cons_of_ne_nil (mt String.toList_eq_nil_iff.1 h)
  rw [isAbsolute, isAbsolute, String.toList_append, hcs]
  rfl

/-- A gap depends on the end of the text, and there is none behind another gap. -/
theorem gap_append (base path : Path) :
    (Path.mk (base.text ++ base.gap ++ path.text)).gap = path.gap := by
  by_cases hpath : path.text = ""
  · rw [hpath, String.append_empty]
    unfold gap
    by_cases hopen : base.text = "" ∨ base.text.toList.getLast? = some '/'
    · simp [hopen, hpath]
    · simp [hopen, hpath]
  · simp [gap, hpath]

/-- Going on below a path is going on below the path behind it. -/
theorem join_join (base path : Path) {name : String} (hname : IsName name) :
    base.join (path.join ⟨name⟩) = (base.join path).join ⟨name⟩ := by
  have hjoin := path.join_relative hname.isAbsolute
  have habsolute : path.text ≠ "" → (path.join ⟨name⟩).isAbsolute = path.isAbsolute := by
    intro hne
    rw [hjoin, String.append_assoc, isAbsolute_append hne]
  cases hpath : path.isAbsolute with
  | true =>
    have hne : path.text ≠ "" := by
      intro hempty
      rw [isAbsolute, hempty] at hpath
      cases hpath
    rw [join_of_isAbsolute base ((habsolute hne).trans hpath), join_of_isAbsolute base hpath]
  | false =>
    have hrelative : (path.join ⟨name⟩).isAbsolute = false := by
      by_cases hempty : path.text = ""
      · rw [hjoin]
        simpa [gap, hempty] using hname.isAbsolute
      · exact (habsolute hempty).trans hpath
    rw [join_relative base hrelative, hjoin, join_relative base hpath,
      join_relative _ hname.isAbsolute, gap_append]
    simp only [String.append_assoc]

theorem join_ofNames (base : Path) {names : List String} (hne : names ≠ [])
    (h : ∀ name ∈ names, IsName name) : base.join (ofNames names) = base.below names := by
  induction names using List.reverseRecOn with
  | nil => exact absurd rfl hne
  | append_singleton names last ih =>
    rw [List.forall_mem_append, List.forall_mem_singleton] at h
    rw [ofNames_concat, join_join base _ h.2, below_concat]
    by_cases hnames : names = []
    · -- Nothing below a path leaves at most a separator behind it.
      rw [hnames, ← join_join base _ h.2, join_relative _ h.2.isAbsolute]
      rfl
    · rw [ih hnames h.1]

end Path

end ReactBridge
