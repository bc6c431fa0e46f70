import ReactBridge.FileSystem
import ReactBridge.Proofs.Path

/-!
# Writing to a file system

* `Keeps fs fs'` : what stands in `fs` still stands in `fs'`, so paths lead where they did;
* `create_eq_some` : a created file stands where its path leads;
* `Holds fs handle text` : the handle stands at the end of a file with this text;
* `Holds.append` : a text written there is put behind it.
-/

namespace ReactBridge

theorem run_bind_of_run {σ α β : Type} {first : StateM σ α} {s s' : σ} {a : α}
    (h : first.run s = (a, s')) (next : α → StateM σ β) :
    (first >>= next).run s = (next a).run s' := by
  rw [StateT.run_bind, h]
  rfl

namespace FileSystem

/-! ## Bytes of texts -/

theorem bytes_loop_eq (bytes : ByteArray) (i : Nat) (read : List UInt8) :
    ByteArray.toList.loop bytes i read = read.reverse ++ bytes.data.toList.drop i := by
  fun_induction ByteArray.toList.loop bytes i read with
  | case1 i read hi ih =>
    have hlength : i < bytes.data.toList.length := hi
    rw [ih, List.reverse_cons, List.append_assoc, List.drop_eq_getElem_cons hlength,
      List.singleton_append]
    congr 2
    exact getElem!_pos bytes.data i hi
  | case2 i read hi =>
    have hlength : bytes.data.toList.length ≤ i := Nat.not_lt.1 hi
    rw [List.drop_eq_nil_of_le hlength, List.append_nil]

theorem bytesOf_eq (text : String) : bytesOf text = text.toByteArray.data.toList :=
  bytes_loop_eq text.toByteArray 0 []

@[simp]
theorem bytesOf_append (text more : String) :
    bytesOf (text ++ more) = bytesOf text ++ bytesOf more := by
  rw [bytesOf_eq, bytesOf_eq, bytesOf_eq, String.toByteArray_append, ByteArray.data_append,
    Array.toList_append]

theorem bytesOf_empty : bytesOf "" = [] := by
  rw [bytesOf_eq]
  rfl

theorem fromUTF8?_bytesOf (text : String) : String.fromUTF8? ⟨(bytesOf text).toArray⟩ = some text := by
  have hvalid : text.toByteArray.IsValidUTF8 := text.isValidUTF8
  rw [bytesOf_eq, Array.toArray_toList]
  exact dif_pos hvalid

theorem bytesOf_injective {text text' : String} (h : bytesOf text = bytesOf text') :
    text = text' := by
  have hread := fromUTF8?_bytesOf text
  rw [h, fromUTF8?_bytesOf] at hread
  exact (Option.some.inj hread).symm

/-! ## What stands stays -/

/-- Directories stay directories, and entries stay entries. -/
structure Keeps (fs fs' : FileSystem) : Prop where
  workingDirectory : fs'.workingDirectory = fs.workingDirectory
  directories : ∀ place, fs.isDirectory place = true → fs'.isDirectory place = true
  entries : ∀ place, (fs.find place).isSome = true → (fs'.find place).isSome = true

namespace Keeps

variable {fs fs' fs'' : FileSystem}

theorem refl (fs : FileSystem) : Keeps fs fs :=
  ⟨rfl, fun _ h => h, fun _ h => h⟩

theorem trans (h : Keeps fs fs') (h' : Keeps fs' fs'') : Keeps fs fs'' :=
  ⟨h'.workingDirectory.trans h.workingDirectory,
    fun place hd => h'.directories place (h.directories place hd),
    fun place he => h'.entries place (h.entries place he)⟩

/-- Something is put where no directory stands. -/
theorem put {location : Location} (h : fs.isDirectory location = false) (entry : Entry) :
    Keeps fs (fs.put location entry) := by
  refine ⟨rfl, fun place hplace => ?_, fun place hplace => ?_⟩
  · have hne : place ≠ location := by
      rintro rfl
      rw [h] at hplace
      cases hplace
    rwa [isDirectory, find_put, if_neg hne]
  · rw [find_put]
    split
    · rfl
    · exact hplace

theorem step (h : Keeps fs fs') {place next : Location} {component : Path.Component}
    (hstep : fs.step place component = some next) : fs'.step place component = some next := by
  unfold FileSystem.step at hstep ⊢
  split at hstep
  · next hplace =>
    rw [if_pos (h.directories place hplace)]
    cases component with
    | name text =>
      dsimp only at hstep ⊢
      split at hstep
      · next hentry => rwa [if_pos (h.entries _ hentry)]
      · cases hstep
    | _ => exact hstep
  · cases hstep

theorem walk (h : Keeps fs fs') {components : List Path.Component} {place last : Location}
    (hwalk : components.foldlM fs.step place = some last) :
    components.foldlM fs'.step place = some last := by
  induction components generalizing place with
  | nil => exact hwalk
  | cons component components ih =>
    rw [List.foldlM_cons] at hwalk ⊢
    obtain ⟨next, hnext, hrest⟩ := Option.bind_eq_some_iff.1 hwalk
    exact Option.bind_eq_some_iff.2 ⟨next, h.step hnext, ih hrest⟩

end Keeps

theorem guard_bind_eq_some_iff {α : Type} {p : Bool} {next : Unit → Option α} {a : α} :
    (guard (p = true) >>= next) = some a ↔ p = true ∧ next () = some a := by
  cases p with
  | false => exact ⟨nofun, fun h => by cases h.1⟩
  | true => exact ⟨fun h => ⟨rfl, h⟩, fun h => h.2⟩

theorem resolve_eq_some_iff {fs : FileSystem} {path : Path} {place : Location} :
    fs.resolve path = some place ↔ isPassable path = true ∧
      path.components.foldlM fs.step fs.workingDirectory = some place ∧
        (asksDirectory path = true → fs.isDirectory place = true) := by
  rw [FileSystem.resolve, guard_bind_eq_some_iff, Option.bind_eq_bind, Option.bind_eq_some_iff]
  refine and_congr_right fun _ => ⟨?_, ?_⟩
  · rintro ⟨last, hwalk, hrest⟩
    obtain ⟨hdirectory, hlast⟩ := guard_bind_eq_some_iff.1 hrest
    obtain rfl := Option.some.inj hlast
    refine ⟨hwalk, fun hasks => ?_⟩
    rwa [hasks] at hdirectory
  · rintro ⟨hwalk, hdirectory⟩
    refine ⟨place, hwalk, guard_bind_eq_some_iff.2 ⟨?_, rfl⟩⟩
    cases hasks : asksDirectory path with
    | true => exact hdirectory hasks
    | false => rfl

theorem Keeps.resolve {fs fs' : FileSystem} (h : Keeps fs fs') {path : Path} {place : Location}
    (hplace : fs.resolve path = some place) : fs'.resolve path = some place := by
  rw [resolve_eq_some_iff] at hplace ⊢
  obtain ⟨hpassable, hwalk, hdirectory⟩ := hplace
  rw [h.workingDirectory]
  exact ⟨hpassable, h.walk hwalk, fun hasks => h.directories place (hdirectory hasks)⟩

/-! ## Making files -/

theorem makeStep_eq {fs fs' : FileSystem} {place next : Location} {component : Path.Component}
    (h : fs.makeStep place component = (fs', some next)) :
    Keeps fs fs' ∧ fs'.step place component = some next := by
  unfold makeStep at h
  split at h
  · next text hnone =>
    split at h
    · next hmake =>
      obtain ⟨rfl, hnext⟩ := Prod.mk.inj h
      obtain rfl := Option.some.inj hnext
      rw [Bool.and_eq_true] at hmake
      have hfree : (fs.find (place ++ [text])).isSome = false := by
        unfold FileSystem.step at hnone
        rw [if_pos hmake.1] at hnone
        simpa using hnone
      have hdirectory : fs.isDirectory (place ++ [text]) = false := by
        rw [Option.isSome_eq_false_iff, Option.isNone_iff_eq_none] at hfree
        rw [isDirectory, hfree]
        rfl
      have hkeeps := Keeps.put hdirectory .directory
      refine ⟨hkeeps, ?_⟩
      unfold FileSystem.step
      rw [if_pos (hkeeps.directories place hmake.1)]
      simp
    · cases h
  · next hstep =>
    obtain ⟨rfl, hnext⟩ := Prod.mk.inj h
    exact ⟨.refl fs, hnext⟩

theorem makeDirectories_eq {fs fs' : FileSystem} {place last : Location}
    {components : List Path.Component}
    (h : fs.makeDirectories place components = (fs', some last)) :
    Keeps fs fs' ∧ components.foldlM fs'.step place = some last ∧ fs'.isDirectory last = true := by
  induction components generalizing fs place with
  | nil =>
    obtain ⟨rfl, hlast⟩ := Prod.mk.inj h
    split at hlast
    · next hdirectory =>
      obtain rfl := Option.some.inj hlast
      exact ⟨.refl fs, rfl, hdirectory⟩
    · cases hlast
  | cons component components ih =>
    rw [makeDirectories] at h
    split at h
    · cases h
    · next made next hmake =>
      obtain ⟨hkeeps, hstep⟩ := makeStep_eq hmake
      obtain ⟨hkeeps', hwalk, hdirectory⟩ := ih h
      refine ⟨hkeeps.trans hkeeps', ?_, hdirectory⟩
      rw [List.foldlM_cons]
      exact Option.bind_eq_some_iff.2 ⟨next, hkeeps'.step hstep, hwalk⟩

theorem makeParent_eq {fs fs' : FileSystem} {path : Path} {place : Location}
    (h : fs.makeParent path = (fs', some place)) :
    ∃ parent, path.parent? = some parent ∧ Keeps fs fs' ∧
      parent.components.foldlM fs'.step fs.workingDirectory = some place ∧
        fs'.isDirectory place = true := by
  unfold makeParent at h
  split at h
  · cases h
  · next parent hparent =>
    split at h
    · exact ⟨parent, hparent, makeDirectories_eq h⟩
    · cases h

theorem openFile_eq {fs fs' : FileSystem} {location : Location} {handle : Handle}
    (h : fs.openFile location = (fs', some handle)) :
    Keeps fs fs' ∧ handle = ⟨location, 0⟩ ∧
      (fs'.find location = some .full ∨ fs'.find location = some (.file [])) := by
  unfold openFile at h
  split at h
  · cases h
  · next hfull =>
    obtain ⟨rfl, hhandle⟩ := Prod.mk.inj h
    exact ⟨.refl fs, (Option.some.inj hhandle).symm, .inl hfull⟩
  · next bytes hfile =>
    obtain ⟨rfl, hhandle⟩ := Prod.mk.inj h
    have hdirectory : fs.isDirectory location = false := by
      rw [isDirectory, hfile]
      rfl
    exact ⟨.put hdirectory _, (Option.some.inj hhandle).symm, .inr (by simp)⟩
  · next hnone =>
    split at h
    · obtain ⟨rfl, hhandle⟩ := Prod.mk.inj h
      have hdirectory : fs.isDirectory location = false := by
        rw [isDirectory, hnone]
        rfl
      exact ⟨.put hdirectory _, (Option.some.inj hhandle).symm, .inr (by simp)⟩
    · cases h

/-- A file that is created at a path stands where the path leads, and is empty unless it is a
device. -/
theorem create_eq {fs fs' : FileSystem} {path : Path} {handle : Handle}
    (h : fs.create path = (fs', some handle)) :
    Keeps fs fs' ∧ handle.offset = 0 ∧ fs'.resolve path = some handle.location ∧
      (fs'.find handle.location = some .full ∨ fs'.find handle.location = some (.file [])) := by
  unfold create at h
  split at h
  · cases h
  next made place hmade =>
  split at h
  · next name hname =>
    split at h
    · next hpassable =>
      obtain ⟨parent, hparent, hkeeps, hwalk, hdirectory⟩ := makeParent_eq hmade
      obtain ⟨hkeeps', rfl, hentry⟩ := openFile_eq h
      refine ⟨hkeeps.trans hkeeps', rfl, resolve_eq_some_iff.2 ⟨hpassable, ?_, ?_⟩, hentry⟩
      · have hentry' : (fs'.find (place ++ [name])).isSome = true := by
          rcases hentry with hentry | hentry <;> rw [hentry] <;> rfl
        rw [Path.components_of_parent? hname hparent, List.foldlM_append, hkeeps'.workingDirectory,
          hkeeps.workingDirectory, hkeeps'.walk hwalk]
        change fs'.step place (.name name) >>= pure = _
        unfold FileSystem.step
        rw [if_pos (hkeeps'.directories place hdirectory)]
        dsimp only
        rw [if_pos hentry']
        rfl
      · intro hasks
        obtain ⟨front, hsegments, hstill, -⟩ := Path.segments_of_lastName? hname
        rw [asksDirectory, hsegments, List.getLast?_concat, Option.any_some, hstill] at hasks
        cases hasks
    · cases h
  · cases h

/-! ## Writing at the end of a file -/

/-- The handle stands at the end of a file with this text. -/
structure Holds (fs : FileSystem) (handle : Handle) (text : String) : Prop where
  file : fs.find handle.location = some (.file (bytesOf text))
  offset : handle.offset = (bytesOf text).length

theorem holds_empty {fs : FileSystem} {handle : Handle}
    (hfile : fs.find handle.location = some (.file [])) (hoffset : handle.offset = 0) :
    Holds fs handle "" := by
  refine ⟨?_, ?_⟩
  · rw [bytesOf_empty, hfile]
  · rw [bytesOf_empty, hoffset, List.length_nil]

theorem overwrite_end (old new : List UInt8) : overwrite old old.length new = old ++ new := by
  rw [overwrite, List.take_length, Nat.sub_self, List.replicate_zero, List.append_nil,
    List.drop_eq_nil_of_le (by omega), List.append_nil]

theorem Holds.append {fs : FileSystem} {handle : Handle} {text : String} (h : Holds fs handle text)
    (more : String) :
    ∃ fs' handle', fs.append handle (bytesOf more) = (fs', some handle') ∧ Keeps fs fs' ∧
      handle'.location = handle.location ∧ Holds fs' handle' (text ++ more) := by
  rw [FileSystem.append, h.file]
  dsimp only
  split
  · next hempty =>
    rw [List.isEmpty_iff] at hempty
    refine ⟨fs, handle, rfl, .refl fs, rfl, ?_, ?_⟩
    · rw [bytesOf_append, hempty, List.append_nil]
      exact h.file
    · rw [bytesOf_append, hempty, List.append_nil]
      exact h.offset
  · have hdirectory : fs.isDirectory handle.location = false := by
      rw [isDirectory, h.file]
      rfl
    refine ⟨_, _, rfl, .put hdirectory _, rfl, ?_, ?_⟩
    · rw [find_put, if_pos rfl, h.offset, overwrite_end, bytesOf_append]
    · rw [bytesOf_append, List.length_append, ← h.offset]

theorem append_full {fs : FileSystem} {handle : Handle} (h : fs.find handle.location = some .full)
    (bytes : List UInt8) : fs.append handle bytes = (fs, none) := by
  rw [FileSystem.append, h]

theorem Holds.textAt {fs : FileSystem} {handle : Handle} {text : String} (h : Holds fs handle text)
    {path : Path} (hpath : fs.resolve path = some handle.location) :
    fs.textAt path = some text := by
  have hentry : fs.entryAt path = some (.file (bytesOf text)) := by
    rw [entryAt, hpath, Option.bind_some, h.file]
  rw [FileSystem.textAt, hentry]
  exact fromUTF8?_bytesOf text

end FileSystem

end ReactBridge
