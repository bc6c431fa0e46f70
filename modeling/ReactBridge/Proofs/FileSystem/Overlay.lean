import ReactBridge.Proofs.FileSystem.Store

/-!
# What files leave in a tree

In a tree, all that becomes of a file with a straight path can be told beforehand: whether it is
written, and which directories are made for it.

* `verdict fs path`, `makes fs path location` : what becomes of a file, and of the places above it;
* `IsTree.store_eq` : the tree that a file leaves, entry by entry;
* `after base drafts` : the tree that several files leave, as an overlay over the one before;
* `Overlays.storeAll` : files of one family leave that overlay, whatever was written of them before.
-/

namespace ReactBridge.FileSystem
open ReactBridge.Java (WriteError)

/-! ## Places that a walk can go through -/

/-- Whether the name of a place is short enough for an entry. -/
def isShort (location : Location) : Bool :=
  (location.getLast?.getD "").utf8ByteSize ≤ maxName

/-- Whether a walk that makes directories can go through a place, once it stands above it. -/
def isClear (fs : FileSystem) (location : Location) : Bool :=
  match fs.find location with
  | some entry => entry = .directory
  | none => isShort location

/-- Whether such a walk can go all the way down to a place. -/
def isOpen (fs : FileSystem) (location : Location) : Bool :=
  location.inits.all fs.isClear

theorem isOpen_iff {fs : FileSystem} {location : Location} :
    fs.isOpen location = true ↔ ∀ above, above <+: location → fs.isClear above = true := by
  simp [isOpen]

theorem isOpen_concat (fs : FileSystem) (place : Location) (name : String) :
    fs.isOpen (place ++ [name]) = (fs.isOpen place && fs.isClear (place ++ [name])) := by
  rw [Bool.eq_iff_iff, Bool.and_eq_true, isOpen_iff, isOpen_iff]
  constructor
  · intro h
    exact ⟨fun above hunder => h above (hunder.trans (List.prefix_append _ _)),
      h _ (List.prefix_refl _)⟩
  · rintro ⟨hplace, hhere⟩ above hunder
    rcases List.prefix_concat_iff.1 hunder with rfl | hunder
    · exact hhere
    · exact hplace above hunder

theorem isClear_of_isDirectory {fs : FileSystem} {place : Location}
    (h : fs.isDirectory place = true) : fs.isClear place = true := by
  rw [isDirectory, decide_eq_true_eq] at h
  rw [isClear, h]
  rfl

theorem IsTree.isOpen_of_isDirectory {fs : FileSystem} (h : fs.IsTree) {place : Location}
    (hplace : fs.isDirectory place = true) : fs.isOpen place = true :=
  isOpen_iff.2 fun _ hunder => isClear_of_isDirectory (h.isDirectory_above hunder hplace)

/-! ## Directories made on the way -/

theorem makeDirectories_of_not_isDirectory {fs : FileSystem} {place : Location}
    (h : fs.isDirectory place = false) (components : List Path.Component) :
    fs.makeDirectories place components = (fs, none) := by
  cases components with
  | nil => rw [makeDirectories, h, if_neg Bool.false_ne_true]
  | cons component components =>
    have hstep : fs.makeStep place component = (fs, none) := by
      unfold makeStep FileSystem.step
      rw [if_neg (by rw [h]; exact Bool.false_ne_true)]
      cases component <;> simp [h]
    rw [makeDirectories, hstep]

theorem makeDirectories_concat (fs : FileSystem) (place : Location) (front : List Path.Component)
    (component : Path.Component) : fs.makeDirectories place (front ++ [component]) =
      match fs.makeDirectories place front with
      | (fs, none) => (fs, none)
      | (fs, some next) => fs.makeDirectories next [component] := by
  induction front generalizing fs place with
  | nil =>
    rw [List.nil_append]
    by_cases h : fs.isDirectory place = true
    · rw [makeDirectories.eq_1, if_pos h]
    · rw [Bool.not_eq_true] at h
      rw [makeDirectories_of_not_isDirectory h, makeDirectories_of_not_isDirectory h]
  | cons first front ih =>
    rw [List.cons_append, makeDirectories, makeDirectories]
    rcases fs.makeStep place first with ⟨made, next | next⟩
    · rfl
    · exact ih made next

theorem makeDirectories_name {fs : FileSystem} {place : Location}
    (h : fs.isDirectory place = true) (name : String) :
    fs.makeDirectories place [.name name] =
      if fs.isClear (place ++ [name]) then
        (if fs.find (place ++ [name]) = none then fs.put (place ++ [name]) .directory else fs,
          some (place ++ [name]))
      else (fs, none) := by
  have hstep : fs.step place (.name name) =
      if (fs.find (place ++ [name])).isSome then some (place ++ [name]) else none := by
    unfold FileSystem.step
    rw [if_pos h]
  unfold makeDirectories makeStep isClear
  rw [hstep]
  cases hfind : fs.find (place ++ [name]) with
  | none =>
    have hmade : (fs.put (place ++ [name]) .directory).isDirectory (place ++ [name]) = true := by
      simp [isDirectory]
    by_cases hshort : name.utf8ByteSize ≤ maxName <;>
      simp [hshort, h, makeDirectories, hmade, isShort]
  | some entry => by_cases hentry : entry = .directory <;> simp [hentry, makeDirectories,
      isDirectory, hfind]

/-- What a walk does that makes the directories down to a place, or down to the first one above it
that it cannot go through. -/
structure Digs (fs : FileSystem) (place : Location) (made : FileSystem)
    (reached : Option Location) : Prop where
  reached : reached = if fs.isOpen place then some place else none
  find : ∀ location, made.find location = (fs.find location).or
    (if location.isPrefixOf place && fs.isOpen location then some .directory else none)

namespace Digs

variable {fs made : FileSystem} {place : Location} {reached : Option Location}

theorem eq_of_some {last : Location} (h : Digs fs place made (some last)) :
    last = place ∧ fs.isOpen place = true := by
  have hreached := h.reached
  split at hreached
  · next hopen => exact ⟨Option.some.inj hreached, hopen⟩
  · cases hreached

theorem isOpen_of_none (h : Digs fs place made none) : fs.isOpen place = false := by
  have hreached := h.reached
  split at hreached
  · cases hreached
  · next hclosed => exact Bool.eq_false_iff.2 hclosed

/-- In a tree, all is there already down to a directory. -/
theorem of_isDirectory (h : fs.IsTree) (hplace : fs.isDirectory place = true) :
    Digs fs place fs (some place) := by
  refine ⟨by rw [if_pos (h.isOpen_of_isDirectory hplace)], fun location => ?_⟩
  by_cases hunder : location <+: place
  · have habove := h.isDirectory_above hunder hplace
    rw [isDirectory, decide_eq_true_eq] at habove
    rw [habove]
    rfl
  · rw [← List.isPrefixOf_iff_prefix, Bool.not_eq_true] at hunder
    simp [hunder]

theorem stop (h : Digs fs place made reached) {name : String}
    (hclosed : fs.isOpen (place ++ [name]) = false) : Digs fs (place ++ [name]) made none := by
  refine ⟨by rw [hclosed, if_neg Bool.false_ne_true], fun location => (h.find location).trans ?_⟩
  have hsame : (location.isPrefixOf (place ++ [name]) && fs.isOpen location) =
      (location.isPrefixOf place && fs.isOpen location) := by
    rw [Bool.eq_iff_iff, Bool.and_eq_true, Bool.and_eq_true, List.isPrefixOf_iff_prefix,
      List.isPrefixOf_iff_prefix, List.prefix_concat_iff]
    refine ⟨?_, fun ⟨hunder, hopen⟩ => ⟨.inr hunder, hopen⟩⟩
    rintro ⟨rfl | hunder, hopen⟩
    · rw [hclosed] at hopen
      cases hopen
    · exact ⟨hunder, hopen⟩
  rw [hsame]

theorem find_concat (h : Digs fs place made reached) (name : String) :
    made.find (place ++ [name]) = fs.find (place ++ [name]) := by
  have hbelow : (place ++ [name]).isPrefixOf place = false := by
    rw [Bool.eq_false_iff, ne_eq, List.isPrefixOf_iff_prefix]
    intro hunder
    have hlength := hunder.length_le
    rw [List.length_append, List.length_singleton] at hlength
    omega
  rw [h.find, hbelow, Bool.false_and, if_neg Bool.false_ne_true, Option.or_none]

theorem name (h : Digs fs place made (some place)) (hplace : made.isDirectory place = true)
    (name : String) : Digs fs (place ++ [name]) (made.makeDirectories place [.name name]).1
      (made.makeDirectories place [.name name]).2 := by
  have hopen := h.eq_of_some.2
  have hclear : made.isClear (place ++ [name]) = fs.isClear (place ++ [name]) := by
    rw [isClear, isClear, h.find_concat]
  have hstep : fs.isOpen (place ++ [name]) = fs.isClear (place ++ [name]) := by
    rw [isOpen_concat, hopen, Bool.true_and]
  rw [makeDirectories_name hplace, hclear, h.find_concat, ← hstep]
  by_cases hhere : fs.isOpen (place ++ [name]) = true
  swap
  · rw [Bool.not_eq_true] at hhere
    rw [hhere, if_neg Bool.false_ne_true]
    exact h.stop hhere
  rw [if_pos hhere]
  refine ⟨by rw [if_pos hhere], fun location => ?_⟩
  by_cases hlocation : location = place ++ [name]
  · subst hlocation
    have hself : (place ++ [name]).isPrefixOf (place ++ [name]) = true :=
      List.isPrefixOf_iff_prefix.2 (List.prefix_refl _)
    rw [hself, hhere]
    dsimp only
    cases hfind : fs.find (place ++ [name]) with
    | none => simp
    | some entry => simp [h.find_concat, hfind]
  · have hunder : location.isPrefixOf (place ++ [name]) = location.isPrefixOf place := by
      rw [Bool.eq_iff_iff, List.isPrefixOf_iff_prefix, List.isPrefixOf_iff_prefix,
        List.prefix_concat_iff, or_iff_right hlocation]
    rw [hunder, ← h.find]
    dsimp only
    split
    · rw [find_put, if_neg hlocation]
    · rfl

end Digs

theorem IsTree.digs_start {fs : FileSystem} (h : fs.IsTree)
    (hwd : fs.isDirectory fs.workingDirectory = true) {component : Path.Component}
    (hup : component ≠ .up) (hname : ∀ name, component ≠ .name name) :
    Digs fs (move fs.workingDirectory component)
      (fs.makeDirectories fs.workingDirectory [component]).1
      (fs.makeDirectories fs.workingDirectory [component]).2 := by
  have hroot := h.isDirectory_above List.nil_prefix hwd
  cases component with
  | name name => exact absurd rfl (hname name)
  | up => exact absurd rfl hup
  | root =>
    have hmake : fs.makeDirectories fs.workingDirectory [.root] = (fs, some []) := by
      simp [FileSystem.makeDirectories, FileSystem.makeStep, FileSystem.step, hwd, hroot]
    rw [hmake]
    exact .of_isDirectory h hroot
  | here =>
    have hmake : fs.makeDirectories fs.workingDirectory [.here] =
        (fs, some fs.workingDirectory) := by
      simp [FileSystem.makeDirectories, FileSystem.makeStep, FileSystem.step, hwd]
    rw [hmake]
    exact .of_isDirectory h hwd

/-- In a tree, a walk along a straight path makes the directories that are missing on it. -/
theorem IsTree.digs {fs : FileSystem} (h : fs.IsTree) {path : Path} (hpath : path.IsStraight)
    (hwd : fs.isDirectory fs.workingDirectory = true) :
    Digs fs (fs.locate path) (fs.makeDirectories fs.workingDirectory path.components).1
      (fs.makeDirectories fs.workingDirectory path.components).2 := by
  have hfronts : ∀ front, front <+: path.components →
      Digs fs (front.foldl move fs.workingDirectory)
        (fs.makeDirectories fs.workingDirectory front).1
        (fs.makeDirectories fs.workingDirectory front).2 := by
    intro front
    induction front using List.reverseRecOn with
    | nil =>
      intro _
      rw [FileSystem.makeDirectories, if_pos hwd]
      exact .of_isDirectory h hwd
    | append_singleton front component ih =>
      intro hfront
      have hplace := ih ((List.prefix_append _ _).trans hfront)
      by_cases hstart : front = [] ∧ ∀ name, component ≠ .name name
      · obtain ⟨rfl, hname⟩ := hstart
        have hup : component ≠ .up := by
          rintro rfl
          exact hpath (hfront.subset List.mem_cons_self)
        exact h.digs_start hwd hup hname
      · have hname : ∃ name, component = .name name := by
          by_cases hnil : front = []
          · simpa [hnil] using hstart
          · exact hpath.names hnil hfront
        obtain ⟨name, rfl⟩ := hname
        rw [makeDirectories_concat, List.foldl_append]
        rcases hmade : fs.makeDirectories fs.workingDirectory front with ⟨made, reached⟩
        rw [hmade] at hplace
        cases reached with
        | none => exact hplace.stop (by rw [isOpen_concat, hplace.isOpen_of_none, Bool.false_and])
        | some place =>
          obtain rfl := hplace.eq_of_some.1
          exact hplace.name (makeDirectories_eq hmade).2.2 name
  exact hfronts path.components (List.prefix_refl _)

/-! ## One file -/

/-- Whether a walk along the directories above a path starts at all. -/
def mayEnter (fs : FileSystem) (path : Path) : Bool :=
  fs.isDirectory fs.workingDirectory &&
    path.parent?.any fun parent => parent.text.isEmpty || isPassable parent

/-- Whether a place is a directory once a file was written, if nothing stood there before. -/
def makes (fs : FileSystem) (path : Path) (location : Location) : Bool :=
  fs.mayEnter path && location.isPrefixOf (fs.locate path).dropLast && fs.isOpen location

/-- What becomes of an entry when a file is written in its place. -/
def fate (path : Path) (location : Location) : Option Entry → Except WriteError Unit
  | some .directory => .error (.create path)
  | some .full => .error (.write path)
  | some (.file _) => .ok ()
  | none => if isShort location then .ok () else .error (.create path)

/-- What becomes of a file that is written to a path. -/
def verdict (fs : FileSystem) (path : Path) : Except WriteError Unit :=
  if fs.mayEnter path && fs.isOpen (fs.locate path).dropLast && isPassable path then
    fate path (fs.locate path) (fs.find (fs.locate path))
  else .error (.create path)

/-- The file that stands at a location after a draft was written. -/
def fileOf (fs : FileSystem) (draft : Draft) (location : Location) : Option Entry :=
  if fs.verdict draft.path = .ok () ∧ location = fs.locate draft.path then
    some (.file (bytesOf draft.text))
  else none

/-- The directory that stands at a location after a file was written, if nothing stood there
before. -/
def directoryOf (fs : FileSystem) (path : Path) (location : Location) : Option Entry :=
  if fs.makes path location then some .directory else none

/-- A path that ends in a name in a directory. -/
structure IsFilePath (path : Path) : Prop where
  straight : path.IsStraight
  lastName : path.lastName?.isSome = true
  parent : path.parent?.isSome = true

theorem IsFilePath.locate_eq {path parent : Path} {name : String}
    (hname : path.lastName? = some name) (hparent : path.parent? = some parent) (fs : FileSystem) :
    fs.locate path = fs.locate parent ++ [name] := by
  rw [locate, Path.components_of_parent? hname hparent, List.foldl_append]
  rfl

/-- In a tree, the directories above a file are made down to its place, or down to the first one
that is closed. -/
theorem IsTree.makeParent_eq {fs : FileSystem} (h : fs.IsTree) {path : Path}
    (hpath : IsFilePath path) :
    (fs.makeParent path).2 = (if fs.mayEnter path && fs.isOpen (fs.locate path).dropLast then
        some (fs.locate path).dropLast else none) ∧
      ∀ location, (fs.makeParent path).1.find location =
        (fs.find location).or (fs.directoryOf path location) := by
  obtain ⟨name, hname⟩ := Option.isSome_iff_exists.1 hpath.lastName
  obtain ⟨parent, hparent⟩ := Option.isSome_iff_exists.1 hpath.parent
  have hlocate := IsFilePath.locate_eq hname hparent fs
  have hclosed : fs.mayEnter path = false → fs.makeParent path = (fs, none) := by
    intro hmay
    rw [mayEnter, hparent, Option.any_some, Bool.and_eq_false_iff] at hmay
    unfold FileSystem.makeParent
    rw [hparent]
    rcases hmay with hwd | htext
    · simp [makeDirectories_of_not_isDirectory hwd]
    · dsimp only
      rw [htext, if_neg Bool.false_ne_true]
  by_cases hmay : fs.mayEnter path = true
  swap
  · rw [Bool.not_eq_true] at hmay
    rw [hclosed hmay, hmay]
    refine ⟨rfl, fun location => ?_⟩
    simp [directoryOf, makes, hmay]
  have hdigs : Digs fs (fs.locate path).dropLast (fs.makeParent path).1 (fs.makeParent path).2 := by
    have hstraight : parent.IsStraight := by
      have hpath := hpath.straight
      rw [Path.IsStraight, Path.components_of_parent? hname hparent, List.mem_append, not_or] at hpath
      exact hpath.1
    rw [mayEnter, hparent, Option.any_some, Bool.and_eq_true] at hmay
    rw [hlocate, List.dropLast_concat]
    unfold FileSystem.makeParent
    rw [hparent]
    dsimp only
    rw [if_pos hmay.2]
    exact h.digs hstraight hmay.1
  rw [hmay, Bool.true_and]
  refine ⟨hdigs.reached, fun location => ?_⟩
  rw [directoryOf, makes, hmay, Bool.true_and]
  exact hdigs.find location

/-- A file is opened as its fate says. -/
theorem openFile_cases (fs : FileSystem) (path : Path) (location : Location) :
    (fs.openFile location = (fs, none) ∧
      fate path location (fs.find location) = .error (.create path)) ∨
    (fs.openFile location = (fs, some ⟨location, 0⟩) ∧ fs.find location = some .full ∧
      fate path location (fs.find location) = .error (.write path)) ∨
    (fs.openFile location = (fs.put location (.file []), some ⟨location, 0⟩) ∧
      fate path location (fs.find location) = .ok ()) := by
  unfold openFile fate
  cases hfind : fs.find location with
  | none =>
    by_cases hshort : (location.getLast?.getD "").utf8ByteSize ≤ maxName <;> simp [hshort, isShort]
  | some entry => cases entry <;> simp

theorem isPrefixOf_dropLast {location : Location} (h : location ≠ []) :
    location.isPrefixOf location.dropLast = false := by
  rw [Bool.eq_false_iff, ne_eq, List.isPrefixOf_iff_prefix]
  intro hunder
  have hlength := hunder.length_le
  have hpos := List.length_pos_iff.2 h
  rw [List.length_dropLast] at hlength
  omega

theorem IsTree.find_makeParent {fs : FileSystem} (h : fs.IsTree) {path : Path}
    (hpath : IsFilePath path) :
    (fs.makeParent path).1.find (fs.locate path) = fs.find (fs.locate path) := by
  obtain ⟨name, hname⟩ := Option.isSome_iff_exists.1 hpath.lastName
  obtain ⟨parent, hparent⟩ := Option.isSome_iff_exists.1 hpath.parent
  have hne : fs.locate path ≠ [] := by
    rw [IsFilePath.locate_eq hname hparent fs]
    simp
  rw [(h.makeParent_eq hpath).2, directoryOf, makes, isPrefixOf_dropLast hne]
  simp

/-- In a tree, a file is created as its verdict says, once the directories above it are made. -/
theorem IsTree.create_cases {fs : FileSystem} (h : fs.IsTree) {path : Path}
    (hpath : IsFilePath path) :
    (fs.create path = ((fs.makeParent path).1, none) ∧
      fs.verdict path = .error (.create path)) ∨
    (fs.create path = ((fs.makeParent path).1, some ⟨fs.locate path, 0⟩) ∧
      (fs.makeParent path).1.find (fs.locate path) = some .full ∧
        fs.verdict path = .error (.write path)) ∨
    (fs.create path =
        ((fs.makeParent path).1.put (fs.locate path) (.file []), some ⟨fs.locate path, 0⟩) ∧
      fs.verdict path = .ok ()) := by
  obtain ⟨name, hname⟩ := Option.isSome_iff_exists.1 hpath.lastName
  obtain ⟨parent, hparent⟩ := Option.isSome_iff_exists.1 hpath.parent
  have hlocate := IsFilePath.locate_eq hname hparent fs
  have hreached := (h.makeParent_eq hpath).1
  have hhere := h.find_makeParent hpath
  rcases hmade : fs.makeParent path with ⟨made, reached⟩
  rw [hmade] at hreached hhere
  dsimp only at hreached hhere ⊢
  by_cases henter : (fs.mayEnter path && fs.isOpen (fs.locate path).dropLast) = true
  swap
  · refine .inl ⟨?_, ?_⟩
    · unfold FileSystem.create
      rw [hmade, hreached, if_neg henter]
    · rw [verdict, Bool.not_eq_true _ |>.mp henter]
      rfl
  rw [if_pos henter] at hreached
  subst hreached
  by_cases hpassable : isPassable path = true
  swap
  · refine .inl ⟨?_, ?_⟩
    · unfold FileSystem.create
      rw [hmade]
      dsimp only
      rw [hname]
      dsimp only
      rw [if_neg hpassable]
    · rw [verdict, Bool.not_eq_true _ |>.mp hpassable, Bool.and_false]
      rfl
  have hcreate : fs.create path = made.openFile (fs.locate path) := by
    unfold FileSystem.create
    rw [hmade]
    dsimp only
    rw [hname]
    dsimp only
    rw [if_pos hpassable, hlocate, List.dropLast_concat]
  have hverdict : fs.verdict path = fate path (fs.locate path) (made.find (fs.locate path)) := by
    rw [verdict, henter, hpassable, hhere]
    rfl
  rw [hcreate, hverdict]
  exact made.openFile_cases path (fs.locate path)

theorem fileOf_of_verdict_ne {fs : FileSystem} {draft : Draft} (h : fs.verdict draft.path ≠ .ok ())
    (location : Location) : fs.fileOf draft location = none :=
  if_neg fun hboth => h hboth.1

/-- **A file in a tree.** Whether it is written is told by its verdict, and the tree that it leaves
has the file, the directories above it, and otherwise what it had. -/
theorem IsTree.store_eq {fs : FileSystem} (h : fs.IsTree) {draft : Draft}
    (hpath : IsFilePath draft.path) :
    (fs.store draft).1 = fs.verdict draft.path ∧
      (fs.store draft).2.workingDirectory = fs.workingDirectory ∧
        ∀ location, (fs.store draft).2.find location =
          (fs.fileOf draft location).or
            ((fs.find location).or (fs.directoryOf draft.path location)) := by
  have hfind := (h.makeParent_eq hpath).2
  have hwd : (fs.makeParent draft.path).1.workingDirectory = fs.workingDirectory :=
    (Builds.of_makeParent draft.path).workingDirectory
  rcases h.create_cases hpath with
    ⟨hcreate, hverdict⟩ | ⟨hcreate, hfull, hverdict⟩ | ⟨hcreate, hverdict⟩
  · rw [store_of_not_created hcreate, hverdict]
    refine ⟨rfl, hwd, fun location => ?_⟩
    rw [fileOf_of_verdict_ne (by rw [hverdict]; nofun), Option.none_or]
    exact hfind location
  · rw [store_of_full hcreate hfull, hverdict]
    refine ⟨rfl, hwd, fun location => ?_⟩
    rw [fileOf_of_verdict_ne (by rw [hverdict]; nofun), Option.none_or]
    exact hfind location
  · have hempty : ((fs.makeParent draft.path).1.put (fs.locate draft.path) (.file [])).find
        (fs.locate draft.path) = some (.file []) := by
      rw [find_put, if_pos rfl]
    rw [store_of_file hcreate hempty, put_put, hverdict]
    refine ⟨rfl, hwd, fun location => ?_⟩
    rw [find_put, fileOf, hverdict]
    by_cases hlocation : location = fs.locate draft.path
    · simp [hlocation]
    · simp [hlocation, hfind]

/-! ## Several files -/

/-- The file that stands at a location after drafts were written: the last one that is put there. -/
def filesAfter (fs : FileSystem) (drafts : List Draft) (location : Location) : Option Entry :=
  (fs.lastAt (drafts.filter fun draft => fs.verdict draft.path = .ok ()) location).map fun draft =>
    .file (bytesOf draft.text)

/-- The directory that stands at a location after drafts were written, if nothing stood there
before. -/
def directoriesAfter (fs : FileSystem) (drafts : List Draft) (location : Location) : Option Entry :=
  if drafts.any fun draft => fs.makes draft.path location then some .directory else none

/-- What stands at a location after drafts were written: a file among them, or else what stood there
before, or else a directory that they were put in. -/
def after (fs : FileSystem) (drafts : List Draft) (location : Location) : Option Entry :=
  (fs.filesAfter drafts location).or ((fs.find location).or (fs.directoriesAfter drafts location))

@[simp]
theorem filesAfter_append (fs : FileSystem) (first second : List Draft) (location : Location) :
    fs.filesAfter (first ++ second) location =
      (fs.filesAfter second location).or (fs.filesAfter first location) := by
  rw [filesAfter, List.filter_append, lastAt_append, Option.map_or]
  rfl

@[simp]
theorem directoriesAfter_append (fs : FileSystem) (first second : List Draft)
    (location : Location) : fs.directoriesAfter (first ++ second) location =
      (fs.directoriesAfter first location).or (fs.directoriesAfter second location) := by
  unfold directoriesAfter
  rw [List.any_append]
  cases first.any fun draft => fs.makes draft.path location <;> simp

@[simp]
theorem filesAfter_singleton (fs : FileSystem) (draft : Draft) (location : Location) :
    fs.filesAfter [draft] location = fs.fileOf draft location := by
  by_cases hverdict : fs.verdict draft.path = .ok () <;>
    by_cases hlocation : fs.locate draft.path = location <;>
      simp [filesAfter, fileOf, lastAt, hverdict, hlocation, eq_comm (a := location)]

@[simp]
theorem directoriesAfter_singleton (fs : FileSystem) (draft : Draft) (location : Location) :
    fs.directoriesAfter [draft] location = fs.directoryOf draft.path location := by
  simp [directoriesAfter, directoryOf]

theorem filesAfter_eq_some {fs : FileSystem} {drafts : List Draft} {location : Location}
    {entry : Entry} (h : fs.filesAfter drafts location = some entry) :
    ∃ draft ∈ drafts, fs.verdict draft.path = .ok () ∧ fs.locate draft.path = location ∧
      entry = .file (bytesOf draft.text) := by
  obtain ⟨draft, hlast, rfl⟩ := Option.map_eq_some_iff.1 h
  obtain ⟨hmem, hlocation⟩ := lastAt_eq_some hlast
  rw [List.mem_filter, decide_eq_true_eq] at hmem
  exact ⟨draft, hmem.1, hmem.2, hlocation, rfl⟩

theorem directoriesAfter_eq_some {fs : FileSystem} {drafts : List Draft} {location : Location}
    {entry : Entry} (h : fs.directoriesAfter drafts location = some entry) :
    entry = .directory ∧ ∃ draft ∈ drafts, fs.makes draft.path location = true := by
  unfold directoriesAfter at h
  split at h
  · next hany =>
    obtain ⟨draft, hmem, hmakes⟩ := List.any_eq_true.1 hany
    exact ⟨(Option.some.inj h).symm, draft, hmem, hmakes⟩
  · cases h

/-- A file system that is what drafts leave of the one before. -/
structure Overlays (base : FileSystem) (drafts : List Draft) (fs : FileSystem) : Prop where
  workingDirectory : fs.workingDirectory = base.workingDirectory
  find : ∀ location, fs.find location = base.after drafts location

/-- Two directory trees with the same entries. -/
structure SameTree (fs fs' : FileSystem) : Prop where
  workingDirectory : fs'.workingDirectory = fs.workingDirectory
  find : ∀ location, fs'.find location = fs.find location

/-- Paths that lie two names below one directory. -/
def IsFamily (root path : Path) : Prop :=
  ∃ dir file, Path.IsName dir ∧ Path.IsName file ∧ path = root.below [dir, file]

namespace IsFamily

variable {root path : Path}

theorem locate_eq (h : IsFamily root path) (fs : FileSystem) :
    ∃ dir file, path = root.below [dir, file] ∧ fs.locate path = fs.locate root ++ [dir, file] := by
  obtain ⟨dir, file, hdir, hfile, rfl⟩ := h
  exact ⟨dir, file, rfl, fs.locate_below root (by simp [hdir, hfile])⟩

/-- The members of a family lie in different places. -/
theorem eq_of_locate_eq {other : Path} (h : IsFamily root path) (h' : IsFamily root other)
    {fs : FileSystem} (heq : fs.locate path = fs.locate other) : path = other := by
  obtain ⟨dir, file, hpath, hlocate⟩ := h.locate_eq fs
  obtain ⟨dir', file', hother, hlocate'⟩ := h'.locate_eq fs
  rw [hlocate, hlocate'] at heq
  rw [hpath, hother, List.append_cancel_left heq]

theorem isFilePath (h : IsFamily root path) (hroot : root.IsStraight) : IsFilePath path := by
  obtain ⟨dir, file, hdir, hfile, rfl⟩ := h
  obtain ⟨parent, hparent, -⟩ := Path.parent?_join (root.join ⟨dir⟩) hfile
  have hnames : ∀ name ∈ [dir, file], Path.IsName name := by simp [hdir, hfile]
  have hcomponents := Path.components_below root hnames
  refine ⟨?_, ?_, ?_⟩
  · rw [Path.IsStraight, hcomponents, List.mem_append, not_or]
    exact ⟨hroot, by simp⟩
  · exact Option.isSome_iff_exists.2 ⟨file, Path.lastName?_join (root.join ⟨dir⟩) hfile⟩
  · exact Option.isSome_iff_exists.2 ⟨parent, hparent⟩

end IsFamily

namespace Overlays

variable {base fs : FileSystem} {drafts : List Draft}

theorem refl (base : FileSystem) : Overlays base [] base :=
  ⟨rfl, fun location => by simp [after, filesAfter, directoriesAfter, lastAt]⟩

/-- A file is written where no directory stands. -/
theorem filesAfter_of_isDirectory {location : Location} (h : base.isDirectory location = true) :
    base.filesAfter drafts location = none := by
  cases hfile : base.filesAfter drafts location with
  | none => rfl
  | some entry =>
    obtain ⟨draft, -, hverdict, rfl, -⟩ := filesAfter_eq_some hfile
    rw [isDirectory, decide_eq_true_eq] at h
    rw [verdict, h] at hverdict
    split at hverdict <;> cases hverdict

theorem keeps (h : Overlays base drafts fs) : Keeps base fs := by
  refine ⟨h.workingDirectory, fun place hplace => ?_, fun place hplace => ?_⟩
  · have hfile : base.filesAfter drafts place = none := filesAfter_of_isDirectory hplace
    rw [isDirectory, decide_eq_true_eq] at hplace ⊢
    rw [h.find, after, hfile, hplace]
    rfl
  · rw [h.find, after, Option.isSome_or, Option.isSome_or, hplace]
    simp

theorem isDirectory_workingDirectory (h : Overlays base drafts fs) :
    fs.isDirectory fs.workingDirectory = base.isDirectory base.workingDirectory := by
  rw [h.workingDirectory]
  by_cases hwd : base.isDirectory base.workingDirectory = true
  · rw [hwd]
    exact h.keeps.directories _ hwd
  · -- Without a working directory, no path leads anywhere, and nothing is written.
    rw [Bool.not_eq_true] at hwd
    have hfile : base.filesAfter drafts base.workingDirectory = none := by
      cases hfile : base.filesAfter drafts base.workingDirectory with
      | none => rfl
      | some entry =>
        obtain ⟨draft, -, hverdict, -, -⟩ := filesAfter_eq_some hfile
        rw [verdict, mayEnter, hwd] at hverdict
        cases hverdict
    have hmade : base.directoriesAfter drafts base.workingDirectory = none := by
      cases hmade : base.directoriesAfter drafts base.workingDirectory with
      | none => rfl
      | some entry =>
        obtain ⟨-, draft, -, hmakes⟩ := directoriesAfter_eq_some hmade
        rw [makes, mayEnter, hwd] at hmakes
        cases hmakes
    rw [hwd, isDirectory, h.find, after, hfile, hmade, Option.none_or, Option.or_none]
    exact hwd

theorem mayEnter_eq (h : Overlays base drafts fs) (path : Path) :
    fs.mayEnter path = base.mayEnter path := by
  rw [mayEnter, mayEnter, h.isDirectory_workingDirectory]

variable {root : Path}

/-- The files of a family lie below all places of directories above them. -/
theorem filesAfter_of_length_le (hdrafts : ∀ draft ∈ drafts, IsFamily root draft.path)
    {location : Location} (hlength : location.length ≤ (base.locate root).length + 1) :
    base.filesAfter drafts location = none := by
  cases hfile : base.filesAfter drafts location with
  | none => rfl
  | some entry =>
    obtain ⟨draft, hmem, -, rfl, -⟩ := filesAfter_eq_some hfile
    obtain ⟨dir, file, -, hlocate⟩ := (hdrafts draft hmem).locate_eq base
    rw [hlocate, List.length_append, List.length_cons, List.length_singleton] at hlength
    omega

theorem isClear_eq (h : Overlays base drafts fs)
    (hdrafts : ∀ draft ∈ drafts, IsFamily root draft.path)
    {location : Location} (hlength : location.length ≤ (base.locate root).length + 1) :
    fs.isClear location = base.isClear location := by
  have hfind := h.find location
  rw [after, filesAfter_of_length_le hdrafts hlength, Option.none_or] at hfind
  cases hbase : base.find location with
  | some entry => rw [isClear, isClear, hfind, hbase, Option.some_or]
  | none =>
    rw [hbase, Option.none_or] at hfind
    cases hmade : base.directoriesAfter drafts location with
    | none => rw [isClear, isClear, hfind, hbase, hmade]
    | some entry =>
      -- A directory that was made is one that could be made.
      obtain ⟨rfl, draft, -, hmakes⟩ := directoriesAfter_eq_some hmade
      rw [makes, Bool.and_eq_true] at hmakes
      rw [isOpen_iff.1 hmakes.2 location (List.prefix_refl _), isClear, hfind, hmade]
      rfl

theorem isOpen_eq (h : Overlays base drafts fs)
    (hdrafts : ∀ draft ∈ drafts, IsFamily root draft.path)
    {location : Location} (hlength : location.length ≤ (base.locate root).length + 1) :
    fs.isOpen location = base.isOpen location := by
  have hclear : ∀ above, above <+: location → fs.isClear above = base.isClear above :=
    fun above hunder => h.isClear_eq hdrafts (hunder.length_le.trans hlength)
  rw [Bool.eq_iff_iff, isOpen_iff, isOpen_iff]
  exact forall₂_congr fun above hunder => by rw [hclear above hunder]

theorem length_dropLast_locate {path : Path} (hpath : IsFamily root path) (fs : FileSystem) :
    (fs.locate path).dropLast.length = (fs.locate root).length + 1 := by
  obtain ⟨dir, file, -, hlocate⟩ := hpath.locate_eq fs
  rw [hlocate, List.length_dropLast, List.length_append, List.length_cons, List.length_singleton]
  omega

/-- The directories for a file of the family are the same at any time. -/
theorem makes_eq (h : Overlays base drafts fs)
    (hdrafts : ∀ draft ∈ drafts, IsFamily root draft.path) {path : Path}
    (hpath : IsFamily root path) (location : Location) :
    fs.makes path location = base.makes path location := by
  rw [makes, makes, h.mayEnter_eq, locate_congr h.workingDirectory]
  by_cases hunder : location <+: (base.locate path).dropLast
  · have hlength := hunder.length_le
    rw [length_dropLast_locate hpath] at hlength
    rw [h.isOpen_eq hdrafts hlength]
  · rw [← List.isPrefixOf_iff_prefix, Bool.not_eq_true] at hunder
    rw [hunder, Bool.and_false, Bool.false_and, Bool.false_and]

/-- What becomes of a file of the family is the same at any time. -/
theorem verdict_eq (h : Overlays base drafts fs)
    (hdrafts : ∀ draft ∈ drafts, IsFamily root draft.path) {path : Path}
    (hpath : IsFamily root path) : fs.verdict path = base.verdict path := by
  have hopen : fs.isOpen (base.locate path).dropLast = base.isOpen (base.locate path).dropLast :=
    h.isOpen_eq hdrafts (length_dropLast_locate hpath base).le
  have hfind := h.find (base.locate path)
  have hmade : base.directoriesAfter drafts (base.locate path) = none := by
    cases hmade : base.directoriesAfter drafts (base.locate path) with
    | none => rfl
    | some entry =>
      obtain ⟨-, draft, hmem, hmakes⟩ := directoriesAfter_eq_some hmade
      rw [makes, Bool.and_eq_true, Bool.and_eq_true, List.isPrefixOf_iff_prefix] at hmakes
      have hlength := hmakes.1.2.length_le
      rw [length_dropLast_locate (hdrafts draft hmem)] at hlength
      obtain ⟨dir, file, -, hlocate⟩ := hpath.locate_eq base
      rw [hlocate, List.length_append, List.length_cons, List.length_singleton] at hlength
      omega
  rw [after, hmade, Option.or_none] at hfind
  cases hfile : base.filesAfter drafts (base.locate path) with
  | none =>
    rw [hfile, Option.none_or] at hfind
    rw [verdict, verdict, h.mayEnter_eq, locate_congr h.workingDirectory, hopen, hfind]
  | some entry =>
    -- The file that is there was written to the same path.
    obtain ⟨draft, hmem, hverdict, hlocation, rfl⟩ := filesAfter_eq_some hfile
    obtain rfl := (hdrafts draft hmem).eq_of_locate_eq hpath hlocation
    rw [hfile, Option.some_or] at hfind
    rw [hverdict]
    rw [verdict, locate_congr h.workingDirectory, hfind, h.mayEnter_eq, hopen]
    rw [verdict] at hverdict
    split at hverdict
    · next hwritten => rw [if_pos hwritten]; rfl
    · cases hverdict

/-- One more file of the family is one more draft of the overlay. -/
theorem store (h : Overlays base drafts fs)
    (hdrafts : ∀ draft ∈ drafts, IsFamily root draft.path) (hroot : root.IsStraight)
    (htree : fs.IsTree) {draft : Draft} (hdraft : IsFamily root draft.path) :
    (fs.store draft).1 = base.verdict draft.path ∧
      Overlays base (drafts ++ [draft]) (fs.store draft).2 := by
  obtain ⟨hresult, hwd, hfind⟩ := htree.store_eq (hdraft.isFilePath hroot)
  have hverdict := h.verdict_eq hdrafts hdraft
  refine ⟨hresult.trans hverdict, hwd.trans h.workingDirectory, fun location => ?_⟩
  have hfile : fs.fileOf draft location = base.fileOf draft location := by
    rw [fileOf, fileOf, hverdict, locate_congr h.workingDirectory]
  have hmade : fs.directoryOf draft.path location = base.directoryOf draft.path location := by
    rw [directoryOf, directoryOf, h.makes_eq hdrafts hdraft]
  rw [hfind, hfile, hmade, h.find, after, after, filesAfter_append, directoriesAfter_append,
    filesAfter_singleton, directoriesAfter_singleton]
  simp only [Option.or_assoc]

end Overlays

/-- The drafts up to the first one that is not written. -/
def attempted (fs : FileSystem) : List Draft → List Draft
  | [] => []
  | draft :: drafts =>
    if fs.verdict draft.path = .ok () then draft :: fs.attempted drafts else [draft]

/-- What becomes of drafts up to the first one that is not written. -/
def verdicts (fs : FileSystem) : List Draft → Except WriteError Unit
  | [] => .ok ()
  | draft :: drafts =>
    match fs.verdict draft.path with
    | .ok () => fs.verdicts drafts
    | .error e => .error e

theorem attempted_subset (fs : FileSystem) (drafts : List Draft) : fs.attempted drafts ⊆ drafts := by
  induction drafts with
  | nil => exact List.Subset.refl _
  | cons draft drafts ih =>
    rw [attempted]
    split
    · exact List.cons_subset_cons draft ih
    · exact List.cons_subset_cons draft (List.nil_subset _)

theorem IsTree.storeAll {fs : FileSystem} (h : fs.IsTree) (drafts : List Draft) :
    (fs.storeAll drafts).2.IsTree := by
  induction drafts generalizing fs with
  | nil => exact h
  | cons draft drafts ih =>
    have hstore := h.store draft
    rw [storeAll_cons]
    split
    · next heq =>
      rw [heq] at hstore
      exact ih hstore
    · next heq =>
      rw [heq] at hstore
      exact hstore

/-- **Files of one family** fare as they would in the first file system, whatever was written of the
family before, and are put over what was. -/
theorem Overlays.storeAll {base fs : FileSystem} {drafts : List Draft} {root : Path}
    (h : Overlays base drafts fs) (hdrafts : ∀ draft ∈ drafts, IsFamily root draft.path)
    (hroot : root.IsStraight) (htree : fs.IsTree) {more : List Draft}
    (hmore : ∀ draft ∈ more, IsFamily root draft.path) :
    (fs.storeAll more).1 = base.verdicts more ∧
      Overlays base (drafts ++ base.attempted more) (fs.storeAll more).2 := by
  induction more generalizing fs drafts with
  | nil =>
    rw [attempted, List.append_nil]
    exact ⟨rfl, h⟩
  | cons draft more ih =>
    rw [List.forall_mem_cons] at hmore
    obtain ⟨hresult, hoverlays⟩ := h.store hdrafts hroot htree hmore.1
    have htree' := htree.store draft
    rw [storeAll_cons, attempted, verdicts, ← hresult]
    rcases hstore : fs.store draft with ⟨result, fs'⟩
    rw [hstore] at hoverlays htree'
    cases result with
    | error e => exact ⟨rfl, hoverlays⟩
    | ok =>
      have hdrafts' : ∀ other ∈ drafts ++ [draft], IsFamily root other.path :=
        List.forall_mem_append.2 ⟨hdrafts, List.forall_mem_singleton.2 hmore.1⟩
      have hrest := ih hoverlays hdrafts' htree' hmore.2
      rw [List.append_assoc] at hrest
      exact hrest

end ReactBridge.FileSystem
