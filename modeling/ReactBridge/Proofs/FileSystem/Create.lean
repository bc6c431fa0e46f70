import ReactBridge.Proofs.FileSystem.Confined
import ReactBridge.Proofs.FileSystem.Way

/-!
# What making a file changes

A file is made at a path in two walks: one makes the directories above it, the other opens the file.
Neither touches what stands beside the file, however the path is spelled, and neither gets past
something that is no directory.

* `Path.GoesOn` : a path goes on behind another, as it does behind each of its parts;
* `Created` : what is left when a file was made;
* `Blocks` : what stands in the way of a file;
* `create_frame` : a file is made, or directories on the way to it at most.
-/

namespace ReactBridge

namespace Path

/-- Whether a path goes on behind another: it has the components of the other and more, or it asks
for a directory at least. -/
structure GoesOn (front path : Path) : Prop where
  ahead : front.components <+: path.components
  further : front.components ≠ path.components ∨ FileSystem.asksDirectory path = true

end Path

namespace FileSystem

variable {fs fs' : FileSystem} {path : Path}

/-! ## Files that were made -/

/-- What is left when a file was made at a path. It stands where the path leads, and it is empty
unless it is a device. All else stays, but for directories that were made on the way. -/
structure Created (fs : FileSystem) (path : Path) (fs' : FileSystem) (place : Location) : Prop where
  workingDirectory : fs'.workingDirectory = fs.workingDirectory
  leads : fs'.resolve path = some place
  file : fs.find place ≠ some .full → fs'.find place = some (.file [])
  device : fs.find place = some .full → fs'.find place = some .full
  free : fs.find place ≠ some .directory
  others : ∀ other, other ≠ place → Stays (fs.OnWay path) fs fs' other

theorem not_isDirectory_of_create {handle : Handle} (h : fs.create path = (fs', some handle)) :
    fs'.isDirectory handle.location = false := by
  rcases (create_eq h).2.2.2 with hfull | hfile
  · simp [isDirectory, hfull]
  · simp [isDirectory, hfile]

theorem created_of_create {handle : Handle} (h : fs.create path = (fs', some handle)) :
    Created fs path fs' handle.location := by
  obtain ⟨hkeeps, -, hresolve, hentry⟩ := create_eq h
  have hdevice := (SameDevices.create fs path).find handle.location
  rw [h] at hdevice
  refine ⟨hkeeps.workingDirectory, hresolve, fun hfull => ?_, hdevice.2, fun hdirectory => ?_,
    fun other hother => ?_⟩
  · exact hentry.resolve_left (mt hdevice.1 hfull)
  · have hkept := hkeeps.directories handle.location (decide_eq_true hdirectory)
    rw [not_isDirectory_of_create h] at hkept
    cases hkept
  · have hway := (fs.makesWay_makeParent path).stays other
    rcases fs.create_cases path with hcreate | ⟨place, ⟨hcreate, -⟩ | hcreate⟩
    · rw [h] at hcreate
      cases hcreate
    · rw [h] at hcreate
      obtain ⟨rfl, -⟩ := Prod.mk.inj hcreate
      exact hway
    · rw [h] at hcreate
      obtain ⟨rfl, hhandle⟩ := Prod.mk.inj hcreate
      obtain rfl := Option.some.inj hhandle
      simpa only [Stays, find_put, if_neg hother] using hway

/-- A file that could not be made leaves directories on the way to it, and nothing else. -/
theorem makesWay_of_create (h : fs.create path = (fs', none)) : MakesWay fs path fs' := by
  rcases fs.create_cases path with hcreate | ⟨place, ⟨hcreate, -⟩ | hcreate⟩
  · rw [h] at hcreate
    obtain ⟨rfl, -⟩ := Prod.mk.inj hcreate
    exact fs.makesWay_makeParent path
  · rw [h] at hcreate
    cases hcreate
  · rw [h] at hcreate
    cases hcreate

/-! ## What stands in the way -/

/-- Whether a file cannot be made at a path for what stands there: something that is no directory
where the path goes on, or a directory in its place. -/
def Blocks (fs : FileSystem) (path : Path) : Prop :=
  (∃ front entry, Path.GoesOn front path ∧ fs.entryAt front = some entry ∧ entry ≠ .directory) ∨
    fs.entryAt path = some .directory

theorem isDirectory_of_walk {components : List Path.Component} {place last : Location}
    (hne : components ≠ []) (h : components.foldlM fs.step place = some last) :
    fs.isDirectory place = true := by
  cases components with
  | nil => exact absurd rfl hne
  | cons component components =>
    rw [List.foldlM_cons] at h
    obtain ⟨next, hstep, -⟩ := Option.bind_eq_some_iff.1 h
    exact (step_eq_some_iff.1 hstep).1

theorem isDirectory_of_goesOn {front : Path} {place last : Location} (h : Path.GoesOn front path)
    (hfront : fs.resolve front = some place) (hpath : fs.resolve path = some last) :
    fs.isDirectory place = true := by
  obtain ⟨⟨rest, hrest⟩, hfurther⟩ := h
  obtain ⟨-, hwalk, -⟩ := resolve_eq_some_iff.1 hfront
  obtain ⟨-, hwalk', hasks⟩ := resolve_eq_some_iff.1 hpath
  rw [← hrest, List.foldlM_append, hwalk] at hwalk'
  by_cases hnil : rest = []
  · subst hnil
    rw [List.append_nil] at hrest
    obtain rfl : place = last := Option.some.inj hwalk'
    exact hasks (hfurther.resolve_left (not_not_intro hrest))
  · exact isDirectory_of_walk hnil hwalk'

/-- A file is not made past something that is no directory, nor in the place of a directory. -/
theorem Blocks.create_eq_none (h : fs.Blocks path) : (fs.create path).2 = none := by
  rcases hcreate : fs.create path with ⟨fs', _ | handle⟩
  · rfl
  -- Had it been made, its path would lead past what stood in the way, which still stands there.
  exfalso
  have hkeeps := (create_eq hcreate).1
  have hcreated := created_of_create hcreate
  rcases h with ⟨front, entry, hgoes, hentry, hne⟩ | hentry
  · obtain ⟨place, hplace, hfind⟩ := Option.bind_eq_some_iff.1 hentry
    have hdirectory := isDirectory_of_goesOn hgoes (hkeeps.resolve hplace) hcreated.leads
    have hhandle : place ≠ handle.location := by
      rintro rfl
      rw [not_isDirectory_of_create hcreate] at hdirectory
      cases hdirectory
    rw [isDirectory, decide_eq_true_eq] at hdirectory
    rcases hcreated.others place hhandle with hsame | ⟨hnone, -⟩
    · rw [hsame, hfind] at hdirectory
      exact hne (Option.some.inj hdirectory)
    · rw [hfind] at hnone
      cases hnone
  · obtain ⟨place, hplace, hfind⟩ := Option.bind_eq_some_iff.1 hentry
    obtain rfl := Option.some.inj ((hkeeps.resolve hplace).symm.trans hcreated.leads)
    exact hcreated.free hfind

/-- A file is made in a directory that exists, unless it is a directory itself or its name is too
long. -/
theorem Leads.create_eq_some {place : Location} (h : fs.Leads path place)
    (hmay : mayCreate path = true) (hfree : fs.find place ≠ some .directory)
    (hshort : fs.find place = none → isShort place = true) :
    (fs.create path).2 = some ⟨place, 0⟩ := by
  rw [h.create_eq, if_pos hmay, openFile_eq_opening]
  rcases hentry : fs.find place with _ | _ | bytes | _
  · exact congrArg Prod.fst (if_pos (of_decide_eq_true (hshort hentry)))
  · exact absurd hentry hfree
  · rfl
  · rfl

/-- **Making a file** destroys nothing but what stood in its place, for every spelling of its path.
When it is made, an empty file stands where the path leads; when it is not, there are more
directories on the way at most. It is not made past something that is no directory, nor in the place
of a directory; in a directory that exists it is made otherwise. -/
theorem create_frame (fs : FileSystem) (path : Path) :
    (match fs.create path with
      | (fs', some handle) => Created fs path fs' handle.location
      | (fs', none) => MakesWay fs path fs') ∧
      (fs.Blocks path → (fs.create path).2 = none) ∧
        ∀ place, fs.Leads path place → mayCreate path = true → fs.find place ≠ some .directory →
          (fs.find place = none → isShort place = true) → (fs.create path).2 = some ⟨place, 0⟩ := by
  refine ⟨?_, Blocks.create_eq_none, fun place => Leads.create_eq_some⟩
  rcases hcreate : fs.create path with ⟨fs', _ | handle⟩
  · exact makesWay_of_create hcreate
  · exact created_of_create hcreate

end FileSystem

end ReactBridge
