import Mathlib.Data.List.Infix
import ReactBridge.Proofs.FileSystem
import ReactBridge.Proofs.Path.Join

/-!
# Trees of directories and files

* `IsTree fs` : each entry is called by a name, and lies in a directory;
* `IsTree.create` : making files and directories leaves a tree;
* `locate fs path` : where the text of a path leads; a path never leads elsewhere (`resolve_eq_locate`);
* `IsTree.resolve_eq_some_iff` : a straight path leads there if there is anything;
* `mem_namesBelow` : the names in a directory.
-/

namespace ReactBridge.FileSystem

/-! ## Trees -/

/-- Each entry is called by a name, and lies in a directory. -/
structure IsTree (fs : FileSystem) : Prop where
  parent : ∀ place name, (fs.find (place ++ [name])).isSome = true → fs.isDirectory place = true
  names : ∀ place name, (fs.find (place ++ [name])).isSome = true → Path.IsName name

theorem find_isSome_iff {fs : FileSystem} {location : Location} :
    (fs.find location).isSome = true ↔ ∃ entry, (location, entry) ∈ fs.entries := by
  rw [find, List.lookup_isSome_iff]
  constructor
  · rintro ⟨⟨other, entry⟩, hmem, heq⟩
    exact ⟨entry, eq_of_beq heq ▸ hmem⟩
  · rintro ⟨entry, hmem⟩
    exact ⟨_, hmem, beq_self_eq_true _⟩

/-- Whether a location can be that of an entry, for what stands above it. -/
def fitsTree (fs : FileSystem) (location : Location) : Bool :=
  location.getLast?.all fun name => decide (Path.IsName name) && fs.isDirectory location.dropLast

theorem fitsTree_concat {fs : FileSystem} {place : Location} {name : String} :
    fs.fitsTree (place ++ [name]) = true ↔ Path.IsName name ∧ fs.isDirectory place = true := by
  simp [fitsTree]

theorem isTree_iff {fs : FileSystem} :
    fs.IsTree ↔ ∀ entry ∈ fs.entries, fs.fitsTree entry.1 = true := by
  constructor
  · rintro ⟨hparent, hnames⟩ ⟨location, entry⟩ hmem
    rcases List.eq_nil_or_concat location with rfl | ⟨place, name, rfl⟩
    · rfl
    · rw [List.concat_eq_append] at hmem ⊢
      have hsome := find_isSome_iff.2 ⟨entry, hmem⟩
      exact fitsTree_concat.2 ⟨hnames place name hsome, hparent place name hsome⟩
  · intro h
    have hfits : ∀ place name, (fs.find (place ++ [name])).isSome = true →
        Path.IsName name ∧ fs.isDirectory place = true := fun place name hsome => by
      obtain ⟨entry, hmem⟩ := find_isSome_iff.1 hsome
      exact fitsTree_concat.1 (h _ hmem)
    exact ⟨fun place name hsome => (hfits place name hsome).2,
      fun place name hsome => (hfits place name hsome).1⟩

instance : DecidablePred IsTree := fun _ => decidable_of_iff _ isTree_iff.symm

theorem isSome_of_isDirectory {fs : FileSystem} {place : Location}
    (h : fs.isDirectory place = true) : (fs.find place).isSome = true := by
  rw [isDirectory, decide_eq_true_eq] at h
  rw [h]
  rfl

theorem isDirectory_of_none {fs : FileSystem} {place : Location} (h : fs.find place = none) :
    fs.isDirectory place = false := by
  rw [isDirectory, h]
  rfl

namespace IsTree

variable {fs : FileSystem}

theorem above (h : fs.IsTree) {above place : Location} (hunder : above <+: place)
    (hplace : (fs.find place).isSome = true) : above = place ∨ fs.isDirectory above = true := by
  induction place using List.reverseRecOn with
  | nil => exact .inl (List.prefix_nil.1 hunder)
  | append_singleton place name ih =>
    have hdirectory := h.parent place name hplace
    rcases List.prefix_concat_iff.1 hunder with heq | hunder
    · exact .inl heq
    · rcases ih hunder (isSome_of_isDirectory hdirectory) with rfl | habove
      · exact .inr hdirectory
      · exact .inr habove

theorem isDirectory_above (h : fs.IsTree) {above place : Location} (hunder : above <+: place)
    (hplace : fs.isDirectory place = true) : fs.isDirectory above = true := by
  rcases h.above hunder (isSome_of_isDirectory hplace) with rfl | habove
  · exact hplace
  · exact habove

theorem fits (h : fs.IsTree) {location : Location} (hsome : (fs.find location).isSome = true) :
    fs.fitsTree location = true := by
  obtain ⟨entry, hmem⟩ := find_isSome_iff.1 hsome
  exact isTree_iff.1 h _ hmem

/-- In a tree, an entry can be put wherever it fits, but for the places of directories. -/
theorem put (h : fs.IsTree) {location : Location} (hfits : fs.fitsTree location = true)
    (hfree : fs.isDirectory location = false) (entry : Entry) :
    (fs.put location entry).IsTree := by
  have hkeeps := Keeps.put hfree entry
  have hentry : ∀ place name, ((fs.put location entry).find (place ++ [name])).isSome = true →
      Path.IsName name ∧ fs.isDirectory place = true := by
    intro place name hsome
    rw [find_put] at hsome
    split at hsome
    · next heq => exact fitsTree_concat.1 (heq ▸ hfits)
    · exact ⟨h.names place name hsome, h.parent place name hsome⟩
  exact ⟨fun place name hsome => hkeeps.directories _ (hentry place name hsome).2,
    fun place name hsome => (hentry place name hsome).1⟩

theorem makeStep (h : fs.IsTree) (place : Location) {component : Path.Component}
    (hname : ∀ name, component = .name name → Path.IsName name) :
    (fs.makeStep place component).1.IsTree := by
  unfold FileSystem.makeStep
  split
  · next text hnone =>
    split
    · next hmake =>
      rw [Bool.and_eq_true] at hmake
      have hfree : fs.find (place ++ [text]) = none := by
        unfold FileSystem.step at hnone
        rw [if_pos hmake.1] at hnone
        simpa using hnone
      exact h.put (fitsTree_concat.2 ⟨hname text rfl, hmake.1⟩) (isDirectory_of_none hfree) _
    · exact h
  · exact h

theorem makeDirectories (h : fs.IsTree) (place : Location) {components : List Path.Component}
    (hnames : ∀ name, .name name ∈ components → Path.IsName name) :
    (fs.makeDirectories place components).1.IsTree := by
  induction components generalizing fs place with
  | nil => exact h
  | cons component components ih =>
    have hmade := h.makeStep place fun name heq => hnames name (heq ▸ List.mem_cons_self)
    unfold FileSystem.makeDirectories
    split
    · next made heq =>
      rw [heq] at hmade
      exact hmade
    · next made next heq =>
      rw [heq] at hmade
      exact ih hmade next fun name hmem => hnames name (List.mem_cons_of_mem _ hmem)

theorem makeParent (h : fs.IsTree) (path : Path) : (fs.makeParent path).1.IsTree := by
  unfold FileSystem.makeParent
  split
  · exact h
  · split
    · exact h.makeDirectories _ fun name => Path.isName_of_mem_components
    · exact h

theorem openFile (h : fs.IsTree) {place : Location} {name : String} (hname : Path.IsName name)
    (hplace : fs.isDirectory place = true) : (fs.openFile (place ++ [name])).1.IsTree := by
  have hfile : fs.isDirectory (place ++ [name]) = false →
      (fs.put (place ++ [name]) (.file [])).IsTree := fun hfree =>
    h.put (fitsTree_concat.2 ⟨hname, hplace⟩) hfree _
  unfold FileSystem.openFile
  split
  · exact h
  · exact h
  · next bytes hfind => exact hfile (by rw [isDirectory, hfind]; rfl)
  · next hfind =>
    split
    · exact hfile (isDirectory_of_none hfind)
    · exact h

theorem create (h : fs.IsTree) (path : Path) : (fs.create path).1.IsTree := by
  have hparent := h.makeParent path
  unfold FileSystem.create
  split
  · next made heq =>
    rw [heq] at hparent
    exact hparent
  next made place heq =>
  rw [heq] at hparent
  split
  · next name hname =>
    split
    · obtain ⟨parent, hpath, -, -, hplace⟩ := makeParent_eq heq
      have hcomponents := Path.components_of_parent? hname hpath
      have hmem : Path.Component.name name ∈ path.components := by
        rw [hcomponents]
        exact List.mem_append_right _ List.mem_cons_self
      exact hparent.openFile (Path.isName_of_mem_components hmem) hplace
    · exact hparent
  · exact hparent

end IsTree

/-! ## Names in a directory -/

theorem mem_namesBelow {fs : FileSystem} {place : Location} {name : String} :
    name ∈ fs.namesBelow place ↔ (fs.find (place ++ [name])).isSome = true := by
  rw [namesBelow, List.mem_eraseDups, List.mem_filterMap, find_isSome_iff]
  constructor
  · rintro ⟨⟨other, entry⟩, hmem, hname⟩
    obtain ⟨-, hother⟩ := Option.filter_eq_some_iff.1 hname
    rw [decide_eq_true_eq] at hother
    exact ⟨entry, hother ▸ hmem⟩
  · rintro ⟨entry, hmem⟩
    exact ⟨_, hmem, by simp⟩

theorem nodup_eraseDups {α : Type} [BEq α] [LawfulBEq α] (as : List α) : as.eraseDups.Nodup := by
  match as with
  | [] => exact List.nodup_nil
  | a :: as =>
    rw [List.eraseDups_cons, List.nodup_cons, List.mem_eraseDups, List.mem_filter]
    have hshorter : (as.filter fun b => !b == a).length < (a :: as).length :=
      Nat.lt_succ_of_le (List.length_filter_le _ as)
    refine ⟨?_, nodup_eraseDups _⟩
    rintro ⟨-, hne⟩
    simp at hne
  termination_by as.length
  decreasing_by exact hshorter

theorem nodup_namesBelow (fs : FileSystem) (place : Location) : (fs.namesBelow place).Nodup :=
  nodup_eraseDups _

/-! ## Where a path leads by its text -/

/-- Where a component leads, whatever stands there. -/
def move (place : Location) : Path.Component → Location
  | .root => []
  | .here => place
  | .up => place.dropLast
  | .name text => place ++ [text]

/-- Where a path leads, whatever stands there. -/
def locate (fs : FileSystem) (path : Path) : Location :=
  path.components.foldl move fs.workingDirectory

theorem step_eq_some_iff {fs : FileSystem} {place next : Location} {component : Path.Component} :
    fs.step place component = some next ↔ fs.isDirectory place = true ∧
      next = move place component ∧
        ∀ text, component = .name text → (fs.find next).isSome = true := by
  unfold FileSystem.step
  by_cases hplace : fs.isDirectory place = true
  · rw [if_pos hplace]
    cases component with
    | name text =>
      dsimp only [move]
      constructor
      · intro h
        split at h
        · next hsome =>
          obtain rfl := Option.some.inj h
          exact ⟨hplace, rfl, fun _ _ => hsome⟩
        · cases h
      · rintro ⟨-, rfl, hsome⟩
        rw [if_pos (hsome text rfl)]
    | _ => exact ⟨fun h => ⟨hplace, (Option.some.inj h).symm, nofun⟩, fun h => congrArg some h.2.1.symm⟩
  · rw [if_neg hplace]
    exact ⟨nofun, fun h => absurd h.1 hplace⟩

theorem walk_concat {fs : FileSystem} {front : List Path.Component} {component : Path.Component}
    {place last : Location} : (front ++ [component]).foldlM fs.step place = some last ↔
      ∃ mid, front.foldlM fs.step place = some mid ∧ fs.step mid component = some last := by
  rw [List.foldlM_append, Option.bind_eq_bind, Option.bind_eq_some_iff]
  refine exists_congr fun mid => and_congr_right fun _ => ?_
  rw [List.foldlM_cons, Option.bind_eq_bind]
  cases fs.step mid component <;> rfl

theorem walk_eq_move {fs : FileSystem} {components : List Path.Component} {place last : Location}
    (h : components.foldlM fs.step place = some last) : last = components.foldl move place := by
  induction components generalizing place with
  | nil => exact (Option.some.inj h).symm
  | cons component components ih =>
    rw [List.foldlM_cons] at h
    obtain ⟨next, hnext, hrest⟩ := Option.bind_eq_some_iff.1 h
    obtain ⟨-, rfl, -⟩ := step_eq_some_iff.1 hnext
    exact ih hrest

/-- A path leads nowhere else than its text says. -/
theorem resolve_eq_locate {fs : FileSystem} {path : Path} {place : Location}
    (h : fs.resolve path = some place) : place = fs.locate path :=
  walk_eq_move (resolve_eq_some_iff.1 h).2.1

theorem locate_below (fs : FileSystem) (root : Path) {names : List String}
    (h : ∀ name ∈ names, Path.IsName name) :
    fs.locate (root.below names) = fs.locate root ++ names := by
  have hmove : ∀ place, (names.map Path.Component.name).foldl move place = place ++ names := by
    intro place
    induction names generalizing place with
    | nil => exact (List.append_nil place).symm
    | cons name names ih =>
      rw [List.forall_mem_cons] at h
      rw [List.map_cons, List.foldl_cons, ih h.2]
      simp [move]
  rw [locate, Path.components_below root h, List.foldl_append, hmove]
  rfl

end ReactBridge.FileSystem

namespace ReactBridge.Path

/-- Whether a path never goes up. -/
def IsStraight (path : Path) : Prop :=
  .up ∉ path.components

instance : DecidablePred IsStraight := fun path =>
  inferInstanceAs (Decidable (.up ∉ path.components))

/-- Behind its first component, a straight path has names only. -/
theorem IsStraight.names {path : Path} (h : path.IsStraight) {front : List Component}
    {component : Component} (hne : front ≠ []) (hfront : front ++ [component] <+: path.components) :
    ∃ name, component = .name name := by
  obtain ⟨first, rest, hsegments⟩ := List.exists_cons_of_ne_nil path.segments_ne_nil
  obtain ⟨back, hpath⟩ := hfront
  have hmem : component ∈ rest.filterMap Component.ofSegment? := by
    have hcomponents := components_of_segments hsegments
    obtain ⟨head, tail, rfl⟩ := List.exists_cons_of_ne_nil hne
    rw [← hpath] at hcomponents
    cases hfirst : Component.ofFirst first (!rest.isEmpty) with
    | none =>
      rw [hfirst, Option.toList_none, List.nil_append] at hcomponents
      rw [← hcomponents]
      simp
    | some start =>
      rw [hfirst, Option.toList_some, List.cons_append, List.singleton_append] at hcomponents
      rw [← (List.cons.inj hcomponents).2]
      simp
  obtain ⟨segment, -, hsegment⟩ := List.mem_filterMap.1 hmem
  cases component with
  | name name => exact ⟨name, rfl⟩
  | up => exact absurd (hpath ▸ by simp) h
  | _ =>
    unfold Component.ofSegment? at hsegment
    split at hsegment
    · cases hsegment
    · split at hsegment <;> cases hsegment

end ReactBridge.Path

namespace ReactBridge.FileSystem.IsTree

variable {fs : FileSystem}

/-- In a tree, a straight path leads to whatever stands where its text says. -/
theorem walk_eq_some_iff (h : fs.IsTree) {path : Path} (hpath : path.IsStraight)
    (hne : path.components ≠ []) {last : Location} :
    path.components.foldlM fs.step fs.workingDirectory = some last ↔
      fs.isDirectory fs.workingDirectory = true ∧ last = fs.locate path ∧
        (fs.find last).isSome = true := by
  have hfronts : ∀ front, front <+: path.components → front ≠ [] → ∀ last,
      front.foldlM fs.step fs.workingDirectory = some last ↔
        fs.isDirectory fs.workingDirectory = true ∧ last = front.foldl move fs.workingDirectory ∧
          (fs.find last).isSome = true := by
    intro front
    induction front using List.reverseRecOn with
    | nil => exact fun _ hnil => absurd rfl hnil
    | append_singleton front component ih =>
      intro hfront _ last
      rw [walk_concat, List.foldl_append]
      simp only [step_eq_some_iff, List.foldl_cons, List.foldl_nil]
      by_cases hnil : front = []
      · -- The first component starts from the working directory, so it leads to an entry.
        subst hnil
        constructor
        · rintro ⟨place, hplace, hwd, hlast, hname⟩
          obtain rfl := Option.some.inj hplace
          refine ⟨hwd, hlast, ?_⟩
          cases component with
          | name text => exact hname text rfl
          | up =>
            rw [hlast]
            exact isSome_of_isDirectory (h.isDirectory_above (List.dropLast_prefix _) hwd)
          | root =>
            rw [hlast]
            exact isSome_of_isDirectory (h.isDirectory_above (List.nil_prefix) hwd)
          | here => exact hlast ▸ isSome_of_isDirectory hwd
        · rintro ⟨hwd, hlast, hsome⟩
          exact ⟨_, rfl, hwd, hlast, fun _ _ => hsome⟩
      · obtain ⟨name, rfl⟩ := hpath.names hnil hfront
        have ih := ih ((List.prefix_append _ _).trans hfront) hnil
        constructor
        · rintro ⟨place, hplace, -, hlast, hsome⟩
          obtain ⟨hwd, rfl, -⟩ := (ih place).1 hplace
          exact ⟨hwd, hlast, hsome name rfl⟩
        · rintro ⟨hwd, hlast, hsome⟩
          have hplace := h.parent _ name (hlast ▸ hsome)
          exact ⟨_, (ih _).2 ⟨hwd, rfl, isSome_of_isDirectory hplace⟩, hplace, hlast,
            fun _ _ => hsome⟩
  exact hfronts path.components (List.prefix_refl _) hne last

theorem resolve_eq_some_iff (h : fs.IsTree) {path : Path} (hpath : path.IsStraight)
    {place : Location} : fs.resolve path = some place ↔
      isPassable path = true ∧ fs.isDirectory fs.workingDirectory = true ∧
        place = fs.locate path ∧ (fs.find place).isSome = true ∧
          (asksDirectory path = true → fs.isDirectory place = true) := by
  rw [FileSystem.resolve_eq_some_iff]
  refine and_congr_right fun hpassable => ?_
  have htext : path.text ≠ "" := by
    rintro hempty
    rw [isPassable, hempty] at hpassable
    cases hpassable
  rw [h.walk_eq_some_iff hpath (Path.components_ne_nil htext)]
  simp only [and_assoc]

end ReactBridge.FileSystem.IsTree
