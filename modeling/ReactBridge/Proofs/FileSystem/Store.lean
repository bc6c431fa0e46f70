import ReactBridge.Java.Writer
import ReactBridge.Proofs.FileSystem.Tree

/-!
# Files written as a whole

* `Builds fs fs'` : `fs'` has some more directories than `fs`, and is the same otherwise;
* `store fs draft` : writes a whole file, `storeAll` several of them up to the first failure;
* `store_eq_ok` : what a file that could be written leaves in place;
* `storeAll_eq_ok` : of several files at one place, the last one is there in the end;
* `SameDevices.storeAll` : no device comes or goes.
-/

namespace ReactBridge.FileSystem
open ReactBridge.Java (WriteError)

/-! ## Entries put twice -/

theorem putAt_putAt (location : Location) (first second : Entry)
    (entries : List (Location × Entry)) :
    putAt location second (putAt location first entries) = putAt location second entries := by
  induction entries with
  | nil => simp [putAt]
  | cons head rest ih =>
    obtain ⟨other, old⟩ := head
    by_cases h : location = other
    · simp [putAt, h]
    · simp [putAt, h, ih]

theorem putAt_of_lookup {location : Location} {entry : Entry} {entries : List (Location × Entry)}
    (h : entries.lookup location = some entry) : putAt location entry entries = entries := by
  induction entries with
  | nil => cases h
  | cons head rest ih =>
    obtain ⟨other, old⟩ := head
    rw [List.lookup_cons] at h
    rw [putAt]
    by_cases hother : location = other
    · rw [if_pos hother]
      rw [hother, beq_self_eq_true] at h
      rw [Option.some.inj h]
    · rw [if_neg hother]
      rw [beq_eq_false_iff_ne.2 hother] at h
      rw [ih h]

theorem put_put (fs : FileSystem) (location : Location) (first second : Entry) :
    (fs.put location first).put location second = fs.put location second := by
  unfold FileSystem.put
  rw [putAt_putAt]

theorem put_of_find {fs : FileSystem} {location : Location} {entry : Entry}
    (h : fs.find location = some entry) : fs.put location entry = fs := by
  unfold FileSystem.put
  rw [putAt_of_lookup h]

/-! ## New directories -/

/-- A file system with more directories, and the same otherwise. -/
structure Builds (fs fs' : FileSystem) : Prop where
  workingDirectory : fs'.workingDirectory = fs.workingDirectory
  find : ∀ location, fs'.find location = fs.find location ∨
    (fs.find location = none ∧ fs'.find location = some .directory)

namespace Builds

variable {fs fs' fs'' : FileSystem}

theorem refl (fs : FileSystem) : Builds fs fs :=
  ⟨rfl, fun _ => .inl rfl⟩

theorem trans (h : Builds fs fs') (h' : Builds fs' fs'') : Builds fs fs'' := by
  refine ⟨h'.workingDirectory.trans h.workingDirectory, fun location => ?_⟩
  rcases h.find location with hsame | ⟨hnone, hmade⟩
  · rw [← hsame]
    exact h'.find location
  · rcases h'.find location with hsame' | ⟨hnone', -⟩
    · exact .inr ⟨hnone, hsame'.trans hmade⟩
    · rw [hmade] at hnone'
      cases hnone'

theorem put {location : Location} (h : fs.find location = none) :
    Builds fs (fs.put location .directory) := by
  refine ⟨rfl, fun other => ?_⟩
  rw [find_put]
  split
  · next heq => exact .inr ⟨heq ▸ h, rfl⟩
  · exact .inl rfl

theorem of_makeStep (place : Location) (component : Path.Component) :
    Builds fs (fs.makeStep place component).1 := by
  unfold makeStep
  split
  · next text hnone =>
    split
    · next hmake =>
      rw [Bool.and_eq_true] at hmake
      refine .put ?_
      unfold FileSystem.step at hnone
      rw [if_pos hmake.1] at hnone
      simpa using hnone
    · exact .refl fs
  · exact .refl fs

theorem of_makeDirectories (place : Location) (components : List Path.Component) :
    Builds fs (fs.makeDirectories place components).1 := by
  induction components generalizing fs place with
  | nil => exact .refl fs
  | cons component components ih =>
    have hmade : Builds fs (fs.makeStep place component).1 := of_makeStep place component
    unfold makeDirectories
    split
    · next made heq =>
      rw [heq] at hmade
      exact hmade
    · next made next heq =>
      rw [heq] at hmade
      exact hmade.trans (ih next)

theorem of_makeParent (path : Path) : Builds fs (fs.makeParent path).1 := by
  unfold makeParent
  split
  · exact .refl fs
  · split
    · exact .of_makeDirectories _ _
    · exact .refl fs

end Builds

theorem find_openFile {fs : FileSystem} {location other : Location} (h : other ≠ location) :
    (fs.openFile location).1.find other = fs.find other := by
  unfold openFile
  split
  · rfl
  · rfl
  · rw [find_put, if_neg h]
  · split
    · rw [find_put, if_neg h]
    · rfl

/-- Creating a file that fails makes directories at most, and otherwise changes one more location
than that. -/
theorem find_create {fs fs' : FileSystem} {path : Path} {handle : Handle}
    (h : fs.create path = (fs', some handle)) {location : Location}
    (hother : location ≠ handle.location) : fs'.find location = fs.find location ∨
      (fs.find location = none ∧ fs'.find location = some .directory) := by
  have hbuilds : Builds fs (fs.makeParent path).1 := .of_makeParent path
  unfold create at h
  split at h
  · cases h
  next made place heq =>
  rw [heq] at hbuilds
  split at h
  · next name _ =>
    split at h
    · have hhandle := (openFile_eq h).2.1
      have hopen : fs' = (made.openFile (place ++ [name])).1 := by rw [h]
      rw [hhandle] at hother
      rw [hopen, find_openFile hother]
      exact hbuilds.find location
    · cases h
  · cases h

/-! ## Whole files -/

structure Draft where
  path : Path
  text : String
deriving DecidableEq, Repr

/-- Writes a whole file. What was made on the way stays when it cannot be written. -/
def store (fs : FileSystem) (draft : Draft) : Except WriteError Unit × FileSystem :=
  match fs.create draft.path with
  | (fs, none) => (.error (.create draft.path), fs)
  | (fs, some handle) =>
    match fs.find handle.location with
    | some (.file _) => (.ok (), fs.put handle.location (.file (bytesOf draft.text)))
    | _ => (.error (.write draft.path), fs)

section
variable {fs made : FileSystem} {draft : Draft} {handle : Handle}

theorem store_of_not_created (h : fs.create draft.path = (made, none)) :
    fs.store draft = (.error (.create draft.path), made) := by
  unfold store
  rw [h]

theorem store_of_full (h : fs.create draft.path = (made, some handle))
    (hfull : made.find handle.location = some .full) :
    fs.store draft = (.error (.write draft.path), made) := by
  unfold store
  rw [h]
  dsimp only
  rw [hfull]

theorem store_of_file (h : fs.create draft.path = (made, some handle)) {bytes : List UInt8}
    (hfile : made.find handle.location = some (.file bytes)) :
    fs.store draft = (.ok (), made.put handle.location (.file (bytesOf draft.text))) := by
  unfold store
  rw [h]
  dsimp only
  rw [hfile]

end

/-- Writes whole files up to the first failure. -/
def storeAll (fs : FileSystem) : List Draft → Except WriteError Unit × FileSystem
  | [] => (.ok (), fs)
  | draft :: drafts =>
    match fs.store draft with
    | (.ok (), fs) => fs.storeAll drafts
    | (.error e, fs) => (.error e, fs)

theorem storeAll_cons (fs : FileSystem) (draft : Draft) (drafts : List Draft) :
    fs.storeAll (draft :: drafts) =
      match fs.store draft with
      | (.ok (), fs) => fs.storeAll drafts
      | (.error e, fs) => (.error e, fs) :=
  rfl

/-- The last of several files that go to a location. -/
def lastAt (fs : FileSystem) (drafts : List Draft) (location : Location) : Option Draft :=
  (drafts.filter fun draft => fs.locate draft.path = location).getLast?

@[simp]
theorem lastAt_append (fs : FileSystem) (first second : List Draft) (location : Location) :
    fs.lastAt (first ++ second) location =
      (fs.lastAt second location).or (fs.lastAt first location) := by
  rw [lastAt, List.filter_append, List.getLast?_append]
  rfl

theorem locate_congr {fs fs' : FileSystem} (h : fs'.workingDirectory = fs.workingDirectory) :
    fs'.locate = fs.locate := by
  funext path
  rw [locate, locate, h]

theorem lastAt_congr {fs fs' : FileSystem} (h : fs'.workingDirectory = fs.workingDirectory) :
    fs'.lastAt = fs.lastAt := by
  funext drafts location
  rw [lastAt, lastAt, locate_congr h]

theorem lastAt_eq_some {fs : FileSystem} {drafts : List Draft} {location : Location} {draft : Draft}
    (h : fs.lastAt drafts location = some draft) :
    draft ∈ drafts ∧ fs.locate draft.path = location := by
  have hmem := List.mem_of_getLast? h
  rwa [List.mem_filter, decide_eq_true_eq] at hmem

theorem lastAt_eq_none {fs : FileSystem} {drafts : List Draft} {location : Location} :
    fs.lastAt drafts location = none ↔ ∀ draft ∈ drafts, fs.locate draft.path ≠ location := by
  simp [lastAt]

/-- What a written file leaves in place: its text where its path leads, and everything else but for
new directories. -/
theorem store_eq_ok {fs fs' : FileSystem} {draft : Draft} (h : fs.store draft = (.ok (), fs')) :
    Keeps fs fs' ∧ fs'.resolve draft.path = some (fs.locate draft.path) ∧
      fs'.find (fs.locate draft.path) = some (.file (bytesOf draft.text)) ∧
        ∀ location, location ≠ fs.locate draft.path → fs'.find location = fs.find location ∨
          (fs.find location = none ∧ fs'.find location = some .directory) := by
  unfold store at h
  split at h
  · cases h
  next made handle hcreate =>
  split at h
  · next bytes hfile =>
    obtain ⟨hkeeps, -, hresolve, -⟩ := create_eq hcreate
    have hlocation : handle.location = fs.locate draft.path := by
      rw [resolve_eq_locate hresolve, locate_congr hkeeps.workingDirectory]
    obtain rfl := (Prod.mk.inj h).2
    have hdirectory : made.isDirectory handle.location = false := by
      rw [isDirectory, hfile]
      rfl
    have hkeeps' := Keeps.put hdirectory (.file (bytesOf draft.text))
    rw [← hlocation]
    refine ⟨hkeeps.trans hkeeps', hkeeps'.resolve hresolve, by simp, fun location hother => ?_⟩
    rw [find_put, if_neg hother]
    exact find_create hcreate hother
  · cases h

theorem storeAll_eq_ok {fs fs' : FileSystem} {drafts : List Draft}
    (h : fs.storeAll drafts = (.ok (), fs')) :
    Keeps fs fs' ∧ (∀ draft ∈ drafts, fs'.resolve draft.path = some (fs.locate draft.path)) ∧
      ∀ location, match fs.lastAt drafts location with
        | some draft => fs'.find location = some (.file (bytesOf draft.text))
        | none => fs'.find location = fs.find location ∨
            (fs.find location = none ∧ fs'.find location = some .directory) := by
  induction drafts generalizing fs with
  | nil =>
    obtain rfl := (Prod.mk.inj h).2
    exact ⟨.refl fs, List.forall_mem_nil _, fun _ => .inl rfl⟩
  | cons draft drafts ih =>
    rw [storeAll_cons] at h
    split at h
    · next mid hstore =>
      obtain ⟨hkeeps, hresolve, hfile, hfind⟩ := store_eq_ok hstore
      obtain ⟨hkeeps', hresolves, hfinds⟩ := ih h
      rw [locate_congr hkeeps.workingDirectory] at hresolves
      refine ⟨hkeeps.trans hkeeps',
        List.forall_mem_cons.2 ⟨hkeeps'.resolve hresolve, hresolves⟩, fun location => ?_⟩
      have hlast := hfinds location
      rw [lastAt_congr hkeeps.workingDirectory] at hlast
      rw [← List.singleton_append, lastAt_append]
      cases hbehind : fs.lastAt drafts location with
      | some last =>
        rw [hbehind] at hlast
        exact hlast
      | none =>
        rw [hbehind] at hlast
        rw [Option.none_or]
        by_cases hlocation : fs.locate draft.path = location
        · have hhere : fs.lastAt [draft] location = some draft := by simp [lastAt, hlocation]
          rw [hhere]
          rw [← hlocation] at hlast ⊢
          rcases hlast with hlast | ⟨hnone, -⟩
          · exact hlast.trans hfile
          · rw [hfile] at hnone
            cases hnone
        · have hnone : fs.lastAt [draft] location = none := by simp [lastAt, hlocation]
          rw [hnone]
          have hstep := hfind location (Ne.symm hlocation)
          rcases hlast with hlast | ⟨hnone, hmade⟩
          · rw [hlast]
            exact hstep
          · rcases hstep with hstep | ⟨-, hstep⟩
            · exact .inr ⟨hstep ▸ hnone, hmade⟩
            · rw [hstep] at hnone
              cases hnone
    · cases h

theorem IsTree.store {fs : FileSystem} (h : fs.IsTree) (draft : Draft) :
    (fs.store draft).2.IsTree := by
  have hcreate := h.create draft.path
  unfold FileSystem.store
  split
  · next made heq =>
    rw [heq] at hcreate
    exact hcreate
  next made handle heq =>
  rw [heq] at hcreate
  split
  · next bytes hfile =>
    have hfree : made.isDirectory handle.location = false := by
      rw [isDirectory, hfile]
      rfl
    exact hcreate.put (hcreate.fits (by rw [hfile]; rfl)) hfree _
  · exact hcreate

/-! ## Devices -/

/-- The same devices, seen from the same directory. -/
structure SameDevices (fs fs' : FileSystem) : Prop where
  workingDirectory : fs'.workingDirectory = fs.workingDirectory
  find : ∀ place, fs'.find place = some .full ↔ fs.find place = some .full

namespace SameDevices

variable {fs fs' fs'' : FileSystem}

theorem refl (fs : FileSystem) : SameDevices fs fs :=
  ⟨rfl, fun _ => Iff.rfl⟩

theorem trans (h : SameDevices fs fs') (h' : SameDevices fs' fs'') : SameDevices fs fs'' :=
  ⟨h'.workingDirectory.trans h.workingDirectory, fun place => (h'.find place).trans (h.find place)⟩

theorem of_builds (h : Builds fs fs') : SameDevices fs fs' := by
  refine ⟨h.workingDirectory, fun place => ?_⟩
  rcases h.find place with hsame | ⟨hnone, hmade⟩
  · rw [hsame]
  · rw [hnone, hmade]
    exact iff_of_false nofun nofun

theorem put {location : Location} (h : fs.find location ≠ some .full) (bytes : List UInt8) :
    SameDevices fs (fs.put location (.file bytes)) := by
  refine ⟨rfl, fun place => ?_⟩
  rw [find_put]
  split
  · next hplace => exact iff_of_false nofun (hplace ▸ h)
  · rfl

theorem openFile (fs : FileSystem) (location : Location) :
    SameDevices fs (fs.openFile location).1 := by
  unfold FileSystem.openFile
  split
  · exact .refl fs
  · exact .refl fs
  · next hfile => exact .put (by rw [hfile]; nofun) _
  · next hnone =>
    split
    · exact .put (by rw [hnone]; nofun) _
    · exact .refl fs

theorem create (fs : FileSystem) (path : Path) : SameDevices fs (fs.create path).1 := by
  have hmade : SameDevices fs (fs.makeParent path).1 := .of_builds (.of_makeParent path)
  unfold FileSystem.create
  split
  · next made heq => rwa [heq] at hmade
  · next made place heq =>
    rw [heq] at hmade
    split
    · next name _ =>
      split
      · exact hmade.trans (.openFile made (place ++ [name]))
      · exact hmade
    · exact hmade

theorem store (fs : FileSystem) (draft : Draft) : SameDevices fs (fs.store draft).2 := by
  have hcreate := SameDevices.create fs draft.path
  unfold FileSystem.store
  split
  · next made heq => rwa [heq] at hcreate
  · next made handle heq =>
    rw [heq] at hcreate
    split
    · next bytes hfile => exact hcreate.trans (.put (by rw [hfile]; nofun) _)
    · exact hcreate

theorem storeAll (fs : FileSystem) (drafts : List Draft) :
    SameDevices fs (fs.storeAll drafts).2 := by
  induction drafts generalizing fs with
  | nil => exact .refl fs
  | cons draft drafts ih =>
    have hstore := SameDevices.store fs draft
    rw [storeAll_cons]
    rcases hrun : fs.store draft with ⟨_ | _, mid⟩
    · rwa [hrun] at hstore
    · rw [hrun] at hstore
      exact hstore.trans (ih mid)

end SameDevices

end ReactBridge.FileSystem
