import ReactBridge.Proofs.FileSystem.Store

/-!
# Actions that are confined to one place

An action on a file system may look at one place only, and change no other. Then what it gives back
and what it puts there are the same wherever the entry at that place is.

* `amend` : another entry at a place, or none;
* `Confined` : what an action sees and changes, with `Confined.bind` to put such actions in a row;
* `Leads` : a path to an entry, or to room for one, in a directory that exists;
* `confined_create`, `confined_append`, `confined_release` : what can be done to files.
-/

namespace ReactBridge.FileSystem

/-! ## Changes at a place -/

/-- The file system with another entry at a location, if there is one to put there. -/
def amend (fs : FileSystem) (place : Location) : Option Entry → FileSystem
  | some entry => fs.put place entry
  | none => fs

theorem find_amend_of_ne (fs : FileSystem) {place other : Location} (h : other ≠ place)
    (change : Option Entry) : (fs.amend place change).find other = fs.find other := by
  cases change with
  | none => rfl
  | some entry => rw [amend, find_put, if_neg h]

theorem find_amend (fs : FileSystem) (place : Location) (change : Option Entry) :
    (fs.amend place change).find place = change.or (fs.find place) := by
  cases change with
  | none => rfl
  | some entry => rw [amend, find_put, if_pos rfl, Option.some_or]

theorem amend_amend (fs : FileSystem) (place : Location) (first second : Option Entry) :
    (fs.amend place first).amend place second = fs.amend place (second.or first) := by
  cases second with
  | none => rw [Option.none_or, amend]
  | some entry =>
    cases first with
    | none => rfl
    | some entry' => exact put_put fs place entry' entry

theorem Keeps.amend {fs : FileSystem} {place : Location} {change : Option Entry}
    (h : change.isSome = true → fs.find place ≠ some .directory) :
    Keeps fs (fs.amend place change) := by
  cases change with
  | none => exact .refl fs
  | some entry => exact .put (decide_eq_false (h rfl)) entry

/-! ## Confined actions -/

/-- Whether an action depends on the entry at a place only, and changes no other, as long as `p`
holds of the file system. What it gives back has `q`, and it puts nothing in the place of a
directory. -/
def Confined {α : Type} (place : Location) (p : FileSystem → Prop) (action : StateM FileSystem α)
    (q : α → Prop) : Prop :=
  ∀ entry : Option Entry, ∃ (a : α) (change : Option Entry), q a ∧
    (change.isSome = true → entry ≠ some .directory) ∧
      ∀ fs, p fs → fs.find place = entry → action.run fs = (a, fs.amend place change)

section

variable {α β : Type} {place : Location} {p : FileSystem → Prop} {q : α → Prop} {r : β → Prop}
  {action : StateM FileSystem α} {next : α → StateM FileSystem β}

theorem Confined.pure {a : α} (h : q a) : Confined place p (Pure.pure a) q :=
  fun _ => ⟨a, none, h, nofun, fun _ _ _ => rfl⟩

/-- Two actions in a row. The second one meets whatever the first one has put at the place. -/
theorem Confined.bind (h : Confined place p action q)
    (hnext : ∀ a, q a → Confined place (fun _ => True) (next a) r) :
    Confined place p (action >>= next) r := by
  intro entry
  obtain ⟨a, change, ha, hchange, hrun⟩ := h entry
  obtain ⟨b, change', hb, hchange', hrun'⟩ := hnext a ha (change.or entry)
  refine ⟨b, change'.or change, hb, fun hsome => ?_, fun fs hfs hentry => ?_⟩
  · cases change with
    | some entry' => exact hchange rfl
    | none =>
      rw [Option.or_none] at hsome
      exact hchange' hsome
  · have hfind : (fs.amend place change).find place = change.or entry := by
      rw [find_amend, hentry]
    rw [StateT.run_bind, hrun fs hfs hentry, ← amend_amend]
    exact hrun' _ trivial hfind

end

/-! ## Files at a place -/

/-- Whether a path ends in a name, in a directory that exists. The place is where that name stands,
or would stand. -/
def Leads (fs : FileSystem) (path : Path) (place : Location) : Prop :=
  ∃ parent directory name, path.parent? = some parent ∧ path.lastName? = some name ∧
    parent.components.foldlM fs.step fs.workingDirectory = some directory ∧
      fs.isDirectory directory = true ∧ place = directory ++ [name]

theorem Leads.keeps {fs fs' : FileSystem} {path : Path} {place : Location}
    (h : fs.Leads path place) (hkeeps : Keeps fs fs') : fs'.Leads path place := by
  obtain ⟨parent, directory, name, hparent, hname, hwalk, hdirectory, hplace⟩ := h
  refine ⟨parent, directory, name, hparent, hname, ?_, hkeeps.directories _ hdirectory, hplace⟩
  rw [hkeeps.workingDirectory]
  exact hkeeps.walk hwalk

theorem makeStep_of_step {fs : FileSystem} {place next : Location} {component : Path.Component}
    (h : fs.step place component = some next) :
    fs.makeStep place component = (fs, some next) := by
  unfold makeStep
  split
  · next hnone =>
    rw [h] at hnone
    cases hnone
  · rw [h]

theorem makeDirectories_of_walk {fs : FileSystem} {components : List Path.Component}
    {place last : Location} (hwalk : components.foldlM fs.step place = some last)
    (hlast : fs.isDirectory last = true) : fs.makeDirectories place components = (fs, some last) := by
  induction components generalizing place with
  | nil =>
    obtain rfl := Option.some.inj hwalk
    rw [makeDirectories, if_pos hlast]
  | cons component components ih =>
    rw [List.foldlM_cons] at hwalk
    obtain ⟨next, hstep, hrest⟩ := Option.bind_eq_some_iff.1 hwalk
    rw [makeDirectories, makeStep_of_step hstep]
    exact ih hrest

/-- Whether the text of the path, and that of the directory it names, can be taken for paths. -/
def mayCreate (path : Path) : Bool :=
  path.parent?.any (fun parent => parent.text.isEmpty || isPassable parent) && isPassable path

theorem Leads.create_eq {fs : FileSystem} {path : Path} {place : Location}
    (h : fs.Leads path place) :
    fs.create path = if mayCreate path then fs.openFile place else (fs, none) := by
  obtain ⟨parent, directory, name, hparent, hname, hwalk, hdirectory, rfl⟩ := h
  rw [create, makeParent, mayCreate, hparent, hname, Option.any_some]
  dsimp only
  cases parent.text.isEmpty || isPassable parent with
  | false => rfl
  | true =>
    rw [if_pos rfl, makeDirectories_of_walk hwalk hdirectory, Bool.true_and]

/-- What an empty file at a place comes to, by what is there: its handle, and the entry put there. -/
def opening (place : Location) : Option Entry → Option Handle × Option Entry
  | some .directory => (none, none)
  | some .full => (some ⟨place, 0⟩, none)
  | some (.file _) => (some ⟨place, 0⟩, some (.file []))
  | none =>
    if (place.getLast?.getD "").utf8ByteSize ≤ maxName then
      (some ⟨place, 0⟩, some (.file []))
    else (none, none)

theorem openFile_eq_opening (fs : FileSystem) (place : Location) :
    fs.openFile place =
      (fs.amend place (opening place (fs.find place)).2, (opening place (fs.find place)).1) := by
  rcases hentry : fs.find place with _ | _ | bytes | _
  · rw [openFile, hentry, opening]
    dsimp only
    split <;> rfl
  · rw [openFile, hentry]
    rfl
  · rw [openFile, hentry]
    rfl
  · rw [openFile, hentry]
    rfl

theorem location_opening {place : Location} {entry : Option Entry} :
    ∀ handle ∈ (opening place entry).1, handle.location = place := by
  have hhere : ∀ handle ∈ some (⟨place, 0⟩ : Handle), handle.location = place := by
    rintro _ ⟨⟩
    rfl
  unfold opening
  split
  · exact nofun
  · exact hhere
  · exact hhere
  · split
    · exact hhere
    · exact nofun

/-- What bytes written at a handle come to, by what is there. -/
def appending (handle : Handle) (bytes : List UInt8) : Option Entry → Option Handle × Option Entry
  | some (.file old) =>
    if bytes.isEmpty then (some handle, none)
    else
      (some { handle with offset := handle.offset + bytes.length },
        some (.file (overwrite old handle.offset bytes)))
  | _ => (none, none)

theorem append_eq_appending (fs : FileSystem) (handle : Handle) (bytes : List UInt8) :
    fs.append handle bytes =
      (fs.amend handle.location (appending handle bytes (fs.find handle.location)).2,
        (appending handle bytes (fs.find handle.location)).1) := by
  rcases hentry : fs.find handle.location with _ | _ | old | _
  · rw [append, hentry]
    rfl
  · rw [append, hentry]
    rfl
  · rw [append, hentry, appending]
    dsimp only
    split <;> rfl
  · rw [append, hentry]
    rfl

theorem location_appending {handle : Handle} {bytes : List UInt8} {entry : Option Entry} :
    ∀ next ∈ (appending handle bytes entry).1, next.location = handle.location := by
  unfold appending
  split
  · split <;> rintro _ ⟨⟩ <;> rfl
  · exact nofun

theorem confined_create (path : Path) (place : Location) :
    Confined place (fun fs => fs.Leads path place) (Files.create path)
      fun opened => ∀ handle ∈ opened, handle.location = place := by
  intro entry
  cases hmay : mayCreate path with
  | false =>
    refine ⟨none, none, nofun, nofun, fun fs hleads _ => ?_⟩
    change (fs.create path).swap = _
    rw [hleads.create_eq, hmay]
    rfl
  | true =>
    refine ⟨(opening place entry).1, (opening place entry).2, location_opening, ?_,
      fun fs hleads hentry => ?_⟩
    · rintro hsome rfl
      cases hsome
    · change (fs.create path).swap = _
      rw [hleads.create_eq, hmay, if_pos rfl, openFile_eq_opening, hentry]
      rfl

theorem confined_append (handle : Handle) (text : String) (p : FileSystem → Prop) :
    Confined handle.location p (Files.append handle text)
      fun opened => ∀ next ∈ opened, next.location = handle.location := by
  intro entry
  refine ⟨(appending handle (bytesOf text) entry).1, (appending handle (bytesOf text) entry).2,
    location_appending, ?_, fun fs _ hentry => ?_⟩
  · rintro hsome rfl
    cases hsome
  · change (fs.append handle (bytesOf text)).swap = _
    rw [append_eq_appending, hentry]
    rfl

theorem confined_release (handle : Handle) (p : FileSystem → Prop) :
    Confined handle.location p (Files.release handle) fun _ => True := by
  have hrun : ∀ fs : FileSystem, (Files.release handle : StateM FileSystem Bool).run fs =
      (match fs.find handle.location with
        | some (.file _) => true
        | _ => false, fs) := fun fs => rfl
  intro entry
  refine ⟨match entry with
    | some (.file _) => true
    | _ => false, none, trivial, nofun, fun fs _ hentry => ?_⟩
  rw [hrun, hentry]
  rfl

end ReactBridge.FileSystem
