import ReactBridge.Proofs.FileSystem.Overlay

/-!
# Directories on the way to a file

Making a file makes the directories that are missing on the way to it, and no others. What was made
stays when the file cannot be made after all.

* `Stays way fs fs' place` : a place is as it was, or a directory that was made on the way;
* `OnWay fs path place` : a walk along the directories above a path comes through a place;
* `MakesWay fs path fs'` : `fs'` is `fs` with more directories on the way to a path;
* `store_eq_error` : a file that cannot be written leaves no more than that;
* `stays_of_store` : a file that is written leaves its text besides.
-/

namespace ReactBridge.FileSystem
open ReactBridge.Java (WriteError)

/-! ## Places that stay as they were -/

/-- What stood at a place stands there still, or else nothing did, and a directory was made there
because it lies on the way. -/
def Stays (way : Location → Prop) (fs fs' : FileSystem) (place : Location) : Prop :=
  fs'.find place = fs.find place ∨
    fs.find place = none ∧ fs'.find place = some .directory ∧ way place

namespace Stays

variable {way way' : Location → Prop} {fs fs' fs'' : FileSystem} {place : Location}

theorem refl (way : Location → Prop) (fs : FileSystem) (place : Location) :
    Stays way fs fs place :=
  .inl rfl

theorem mono (h : Stays way fs fs' place) (hway : way place → way' place) :
    Stays way' fs fs' place := by
  rcases h with hsame | ⟨hnone, hmade, hplace⟩
  · exact .inl hsame
  · exact .inr ⟨hnone, hmade, hway hplace⟩

theorem trans (h : Stays way fs fs' place) (h' : Stays way fs' fs'' place) :
    Stays way fs fs'' place := by
  rcases h with hsame | ⟨hnone, hmade, hplace⟩
  · simpa only [Stays, hsame] using h'
  · rcases h' with hsame' | ⟨hnone', -⟩
    · exact .inr ⟨hnone, hsame'.trans hmade, hplace⟩
    · rw [hmade] at hnone'
      cases hnone'

theorem find_file (h : Stays way fs fs' place) {bytes : List UInt8}
    (hfile : fs.find place = some (.file bytes)) : fs'.find place = some (.file bytes) := by
  rcases h with hsame | ⟨hnone, -⟩
  · exact hsame.trans hfile
  · rw [hfile] at hnone
    cases hnone

end Stays

/-! ## Walks that make directories -/

/-- A step makes a directory at most, and makes it where the step leads. -/
theorem stays_makeStep (fs : FileSystem) (place : Location) (component : Path.Component)
    (location : Location) :
    Stays (· = move place component) fs (fs.makeStep place component).1 location := by
  unfold makeStep
  split
  · next name hstep =>
    split
    · next hmake =>
      simp only [Bool.and_eq_true] at hmake
      have hfree : fs.find (place ++ [name]) = none := by
        simpa [FileSystem.step, hmake.1] using hstep
      by_cases hlocation : location = place ++ [name]
      · subst hlocation
        exact .inr ⟨hfree, by simp, rfl⟩
      · exact .inl (by simp [hlocation])
    · exact .refl _ fs location
  · exact .refl _ fs location

theorem eq_move_of_makeStep {fs : FileSystem} {place next : Location} {component : Path.Component}
    (h : (fs.makeStep place component).2 = some next) : next = move place component := by
  unfold makeStep at h
  split at h
  · split at h
    · exact (Option.some.inj h).symm
    · cases h
  · exact (step_eq_some_iff.1 h).2.1

/-- A walk makes directories at most, and makes them where it comes through. -/
theorem stays_makeDirectories (fs : FileSystem) (place : Location)
    (components : List Path.Component) (location : Location) :
    Stays (fun location => ∃ front, front <+: components ∧ location = front.foldl move place)
      fs (fs.makeDirectories place components).1 location := by
  induction components generalizing fs place with
  | nil => exact .refl _ fs location
  | cons component components ih =>
    have hstep : Stays (fun location => ∃ front, front <+: component :: components ∧
        location = front.foldl move place) fs (fs.makeStep place component).1 location := by
      apply (stays_makeStep fs place component location).mono
      intro hlocation
      exact ⟨[component], by simp, hlocation⟩
    unfold makeDirectories
    rcases hrun : fs.makeStep place component with ⟨made, _ | next⟩
    · rwa [hrun] at hstep
    · rw [hrun] at hstep
      obtain rfl : next = move place component := eq_move_of_makeStep (congrArg Prod.snd hrun)
      apply hstep.trans
      apply (ih made (move place component)).mono
      rintro ⟨front, hfront, hlocation⟩
      exact ⟨component :: front, by simpa using hfront, hlocation⟩

/-! ## Directories above a file -/

/-- Whether a walk along the directories above a path comes through a place. -/
def OnWay (fs : FileSystem) (path : Path) (place : Location) : Prop :=
  ∃ parent front, path.parent? = some parent ∧ front <+: parent.components ∧
    place = front.foldl move fs.workingDirectory

theorem onWay_congr {fs fs' : FileSystem} (h : fs'.workingDirectory = fs.workingDirectory) :
    fs'.OnWay = fs.OnWay := by
  funext path place
  simp only [OnWay, h]

/-- A file system with more directories on the way to a path, and the same otherwise. -/
structure MakesWay (fs : FileSystem) (path : Path) (fs' : FileSystem) : Prop where
  workingDirectory : fs'.workingDirectory = fs.workingDirectory
  stays : ∀ place, Stays (fs.OnWay path) fs fs' place

namespace MakesWay

variable {fs fs' : FileSystem} {path : Path}

theorem keeps (h : MakesWay fs path fs') : Keeps fs fs' := by
  refine ⟨h.workingDirectory, fun place hplace => ?_, fun place hplace => ?_⟩
  · rcases h.stays place with hsame | ⟨-, hmade, -⟩
    · rwa [isDirectory, hsame]
    · rw [isDirectory, hmade]
      rfl
  · rcases h.stays place with hsame | ⟨-, hmade, -⟩
    · rwa [hsame]
    · rw [hmade]
      rfl

theorem entryAt_file (h : MakesWay fs path fs') {other : Path} {bytes : List UInt8}
    (hfile : fs.entryAt other = some (.file bytes)) : fs'.entryAt other = some (.file bytes) := by
  obtain ⟨place, hplace, hfind⟩ := Option.bind_eq_some_iff.1 hfile
  apply Option.bind_eq_some_iff.2
  exact ⟨place, h.keeps.resolve hplace, (h.stays place).find_file hfind⟩

end MakesWay

theorem makesWay_makeParent (fs : FileSystem) (path : Path) :
    MakesWay fs path (fs.makeParent path).1 := by
  refine ⟨(Builds.of_makeParent path).workingDirectory, fun place => ?_⟩
  unfold makeParent
  split
  · exact .refl _ fs place
  · next parent hparent =>
    split
    · apply (stays_makeDirectories fs fs.workingDirectory parent.components place).mono
      rintro ⟨front, hfront, hplace⟩
      exact ⟨parent, front, hparent, hfront, hplace⟩
    · exact .refl _ fs place

/-! ## Files -/

/-- Once the directories above it are made, a file is not made at all, or a device is opened, or an
empty file stands at the place that is opened. -/
theorem create_cases (fs : FileSystem) (path : Path) :
    fs.create path = ((fs.makeParent path).1, none) ∨ ∃ place,
      fs.create path = ((fs.makeParent path).1, some ⟨place, 0⟩) ∧
          (fs.makeParent path).1.find place = some .full ∨
        fs.create path = ((fs.makeParent path).1.put place (.file []), some ⟨place, 0⟩) := by
  unfold create
  rcases fs.makeParent path with ⟨made, _ | parent⟩
  · exact .inl rfl
  dsimp only
  split
  · next name _ =>
    split
    · rcases made.openFile_cases path (parent ++ [name]) with
        ⟨hopen, -⟩ | ⟨hopen, hfull, -⟩ | ⟨hopen, -⟩
      · exact .inl hopen
      · exact .inr ⟨parent ++ [name], .inl ⟨hopen, hfull⟩⟩
      · exact .inr ⟨parent ++ [name], .inr hopen⟩
    · exact .inl rfl
  · exact .inl rfl

/-- Once the directories above it are made, a file is not written at all, or its text is put where
its path leads. -/
theorem store_cases (fs : FileSystem) (draft : Draft) :
    (∃ e, fs.store draft = (.error e, (fs.makeParent draft.path).1)) ∨
      fs.store draft = (.ok (), (fs.makeParent draft.path).1.put (fs.locate draft.path)
        (.file (bytesOf draft.text))) := by
  rcases fs.create_cases draft.path with hcreate | ⟨place, ⟨hcreate, hfull⟩ | hcreate⟩
  · exact .inl ⟨_, store_of_not_created hcreate⟩
  · exact .inl ⟨_, store_of_full hcreate hfull⟩
  · obtain ⟨hkeeps, -, hresolve, -⟩ := create_eq hcreate
    have hplace : place = fs.locate draft.path :=
      (resolve_eq_locate hresolve).trans (by rw [locate_congr hkeeps.workingDirectory])
    subst hplace
    have hempty : ((fs.makeParent draft.path).1.put (fs.locate draft.path) (.file [])).find
        (fs.locate draft.path) = some (.file []) := by simp
    right
    rw [store_of_file hcreate hempty, put_put]

/-- **A file that cannot be written** leaves directories on the way to it, and nothing else. -/
theorem store_eq_error {fs fs' : FileSystem} {draft : Draft} {e : WriteError}
    (h : fs.store draft = (.error e, fs')) : MakesWay fs draft.path fs' := by
  rcases fs.store_cases draft with ⟨e', hstore⟩ | hstore
  · rw [hstore] at h
    obtain rfl := congrArg Prod.snd h
    exact fs.makesWay_makeParent draft.path
  · rw [hstore] at h
    cases h

/-- **A file that is written** leaves its text, and directories on the way to it besides. -/
theorem stays_of_store {fs fs' : FileSystem} {draft : Draft} (h : fs.store draft = (.ok (), fs'))
    {place : Location} (hplace : place ≠ fs.locate draft.path) :
    Stays (fs.OnWay draft.path) fs fs' place := by
  rcases fs.store_cases draft with ⟨e, hstore⟩ | hstore
  · rw [hstore] at h
    cases h
  · rw [hstore] at h
    obtain rfl := congrArg Prod.snd h
    have hway := (fs.makesWay_makeParent draft.path).stays place
    simpa only [Stays, find_put, hplace, if_false] using hway

theorem entryAt_store {fs fs' : FileSystem} {draft : Draft}
    (h : fs.store draft = (.ok (), fs')) :
    fs'.entryAt draft.path = some (.file (bytesOf draft.text)) := by
  obtain ⟨-, hresolve, hfile, -⟩ := store_eq_ok h
  rw [entryAt, hresolve, Option.bind_some, hfile]

/-- A path that leads elsewhere still leads to the file that it led to. -/
theorem entryAt_store_of_ne {fs fs' : FileSystem} {draft : Draft}
    (h : fs.store draft = (.ok (), fs')) {other : Path}
    (hother : fs.locate other ≠ fs.locate draft.path) {bytes : List UInt8}
    (hfile : fs.entryAt other = some (.file bytes)) : fs'.entryAt other = some (.file bytes) := by
  obtain ⟨place, hplace, hfind⟩ := Option.bind_eq_some_iff.1 hfile
  obtain rfl : place = fs.locate other := resolve_eq_locate hplace
  apply Option.bind_eq_some_iff.2
  exact ⟨_, (store_eq_ok h).1.resolve hplace, (stays_of_store h hother).find_file hfind⟩

end ReactBridge.FileSystem
