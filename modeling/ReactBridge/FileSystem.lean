import ReactBridge.Files

/-!
# File systems

A file system is a value: what stands at each location, and the directory that relative paths
start from. There are no links, so an entry has one location, and no permissions. The names in it are
texts, as are all paths that are written down; a `Disk` has entries with other names as well.

* `FileSystem.find`, `FileSystem.put`: the entry at a location (`find_put`);
* `FileSystem.resolve`: where a path leads, if every step of it exists;
* `FileSystem.makeDirectories`: a walk along a path that makes what is missing;
* `FileSystem.create`: an empty file at a path, below directories made on the way;
* `FileSystem.Handle`: a place in a file that texts are written at;
* `Disk`: a file system with the entries whose names are no texts.
-/

namespace ReactBridge

/-- Where an entry lies: the names from the root to it. -/
abbrev Location := List String

/-- What stands at a location. -/
inductive Entry where
  | directory
  | file (bytes : List UInt8)
  /-- A device that can be opened, but takes no text. -/
  | full
deriving DecidableEq, Repr

/-- Directories and files, with the directory that relative paths start from. -/
structure FileSystem where
  entries : List (Location × Entry)
  workingDirectory : Location
deriving DecidableEq, Repr

namespace FileSystem

/-! ## Entries -/

def find (fs : FileSystem) (location : Location) : Option Entry :=
  fs.entries.lookup location

/-- Puts an entry in the place of the first one of its location, or at the end. -/
def putAt (location : Location) (entry : Entry) : List (Location × Entry) → List (Location × Entry)
  | [] => [(location, entry)]
  | (other, old) :: rest =>
    if location = other then (other, entry) :: rest
    else (other, old) :: putAt location entry rest

def put (fs : FileSystem) (location : Location) (entry : Entry) : FileSystem :=
  { fs with entries := putAt location entry fs.entries }

theorem lookup_putAt (location other : Location) (entry : Entry)
    (entries : List (Location × Entry)) :
    (putAt location entry entries).lookup other =
      if other = location then some entry else entries.lookup other := by
  induction entries with
  | nil =>
    rw [putAt, List.lookup_cons, List.lookup_nil]
    by_cases h : other = location <;> simp [h, beq_eq_false_iff_ne.2]
  | cons head rest ih =>
    obtain ⟨key, old⟩ := head
    rw [putAt]
    by_cases hkey : location = key
    · subst hkey
      rw [if_pos rfl, List.lookup_cons, List.lookup_cons]
      by_cases h : other = location <;> simp [h, beq_eq_false_iff_ne.2]
    · rw [if_neg hkey, List.lookup_cons, List.lookup_cons, ih]
      by_cases h : other = key
      · simp [h, Ne.symm hkey]
      · simp [beq_eq_false_iff_ne.2 h]

/-- Putting an entry changes what is found at its location, and nothing else. -/
@[simp, grind =]
theorem find_put (fs : FileSystem) (location other : Location) (entry : Entry) :
    (fs.put location entry).find other =
      if other = location then some entry else fs.find other :=
  lookup_putAt location other entry fs.entries

@[simp, grind =]
theorem workingDirectory_put (fs : FileSystem) (location : Location) (entry : Entry) :
    (fs.put location entry).workingDirectory = fs.workingDirectory :=
  rfl

def isDirectory (fs : FileSystem) (location : Location) : Bool :=
  fs.find location = some .directory

def namesBelow (fs : FileSystem) (location : Location) : List String :=
  (fs.entries.filterMap fun (other, _) =>
    other.getLast?.filter fun name => other = location ++ [name]).eraseDups

/-! ## Walks -/

/-- The longest name that an entry can have, in bytes. -/
def maxName : Nat :=
  255

/-- The longest text of a path, in bytes. -/
def maxPath : Nat :=
  4095

/-- Whether the text can be taken for a path at all. -/
def isPassable (path : Path) : Bool :=
  !path.text.isEmpty && path.text.utf8ByteSize ≤ maxPath && !path.text.toList.contains '\x00'

/-- One step of a walk. It starts from a directory, and ends at an entry of any kind. -/
def step (fs : FileSystem) (place : Location) (component : Path.Component) : Option Location :=
  if fs.isDirectory place then
    match component with
    | .root => some []
    | .here => some place
    | .up => some place.dropLast
    | .name text => if (fs.find (place ++ [text])).isSome then some (place ++ [text]) else none
  else none

/-- Whether the text asks for a directory: it ends in a separator or in `.`. -/
def asksDirectory (path : Path) : Bool :=
  path.segments.getLast?.any Path.isStill

def resolve (fs : FileSystem) (path : Path) : Option Location := do
  guard (isPassable path)
  let place ← path.components.foldlM fs.step fs.workingDirectory
  guard (!asksDirectory path || fs.isDirectory place)
  return place

def entryAt (fs : FileSystem) (path : Path) : Option Entry :=
  (fs.resolve path).bind fs.find

/-- The step of `step`, with the directory made where a name leads nowhere. -/
def makeStep (fs : FileSystem) (place : Location) (component : Path.Component) :
    FileSystem × Option Location :=
  match fs.step place component, component with
  | none, .name text =>
    if fs.isDirectory place && text.utf8ByteSize ≤ maxName then
      (fs.put (place ++ [text]) .directory, some (place ++ [text]))
    else (fs, none)
  | next, _ => (fs, next)

/-- A walk that makes missing directories. What it made stays when it fails later on. -/
def makeDirectories (fs : FileSystem) (place : Location) :
    List Path.Component → FileSystem × Option Location
  | [] => (fs, if fs.isDirectory place then some place else none)
  | component :: components =>
    match fs.makeStep place component with
    | (fs, none) => (fs, none)
    | (fs, some next) => makeDirectories fs next components

/-! ## Reading -/

def textAt (fs : FileSystem) (path : Path) : Option String :=
  match fs.entryAt path with
  | some (.file bytes) => String.fromUTF8? ⟨bytes.toArray⟩
  | _ => none

def isFileAt (fs : FileSystem) (path : Path) : Bool :=
  match fs.entryAt path with
  | some (.file _) => true
  | _ => false

/-! ## Writing -/

/-- A place that texts are written at: an entry, and an offset in it. -/
structure Handle where
  location : Location
  offset : Nat
deriving DecidableEq, Repr

/-- An empty file at a location whose directory exists. The device is opened as it is. -/
def openFile (fs : FileSystem) (location : Location) : FileSystem × Option Handle :=
  match fs.find location with
  | some .directory => (fs, none)
  | some .full => (fs, some ⟨location, 0⟩)
  | some (.file _) => (fs.put location (.file []), some ⟨location, 0⟩)
  | none =>
    if (location.getLast?.getD "").utf8ByteSize ≤ maxName then
      (fs.put location (.file []), some ⟨location, 0⟩)
    else (fs, none)

/-- The directories above a path, made where they are missing. -/
def makeParent (fs : FileSystem) (path : Path) : FileSystem × Option Location :=
  match path.parent? with
  | none => (fs, none)
  | some parent =>
    if parent.text.isEmpty || isPassable parent then
      fs.makeDirectories fs.workingDirectory parent.components
    else (fs, none)

/-- An empty file at a path, below directories that are made where they are missing. The path has
to end in a name. -/
def create (fs : FileSystem) (path : Path) : FileSystem × Option Handle :=
  match fs.makeParent path with
  | (fs, none) => (fs, none)
  | (fs, some place) =>
    match path.lastName? with
    | some name => if isPassable path then fs.openFile (place ++ [name]) else (fs, none)
    | none => (fs, none)

/-- The bytes with `new` written at `offset`. A gap before it is filled with zeros. -/
def overwrite (bytes : List UInt8) (offset : Nat) (new : List UInt8) : List UInt8 :=
  bytes.take offset ++ List.replicate (offset - bytes.length) 0 ++ new ++
    bytes.drop (offset + new.length)

def bytesOf (text : String) : List UInt8 :=
  text.toUTF8.toList

/-- The file system with bytes written at a handle, and the handle behind them. Writing nothing
changes no file, but still fails on the device. -/
def append (fs : FileSystem) (handle : Handle) (bytes : List UInt8) :
    FileSystem × Option Handle :=
  match fs.find handle.location with
  | some (.file old) =>
    if bytes.isEmpty then (fs, some handle)
    else
      (fs.put handle.location (.file (overwrite old handle.offset bytes)),
        some { handle with offset := handle.offset + bytes.length })
  | _ => (fs, none)

/-- Whether a handle can be given back without a loss. -/
def isSafe (fs : FileSystem) (handle : Handle) : Bool :=
  match fs.find handle.location with
  | some (.file _) => true
  | _ => false

end FileSystem

/-! ## Names that are no texts -/

/-- A file system with the entries whose names are no texts, each in its directory. No path that is
written down leads to these. -/
structure Disk where
  files : FileSystem
  odd : List ((Location × ByteName) × Entry)
deriving DecidableEq, Repr

namespace Disk

instance : Coe FileSystem Disk :=
  ⟨fun fs => ⟨fs, []⟩⟩

def find (disk : Disk) (place : Location) : EntryName → Option Entry
  | .text name => disk.files.find (place ++ [name])
  | .bytes name => disk.odd.lookup (place, name)

def namesBelow (disk : Disk) (place : Location) : List EntryName :=
  (disk.files.namesBelow place).map .text ++
    (disk.odd.filterMap fun ((other, name), _) =>
      if other = place then some (.bytes name) else none).eraseDups

def namesAt (disk : Disk) (dir : Path) : Option (List EntryName) :=
  match disk.files.resolve dir with
  | some place => if disk.files.isDirectory place then some (disk.namesBelow place) else none
  | none => none

def entryAt (disk : Disk) : EntryPath → Option Entry
  | .plain path => disk.files.entryAt path
  | .odd dir name => do
    guard ((EntryPath.odd dir name).size ≤ FileSystem.maxPath && !dir.text.toList.contains '\x00')
    let place ← dir.components.foldlM disk.files.step disk.files.workingDirectory
    guard (disk.files.isDirectory place)
    disk.find place (.bytes name)

def textAt (disk : Disk) (path : EntryPath) : Option String :=
  match disk.entryAt path with
  | some (.file bytes) => String.fromUTF8? ⟨bytes.toArray⟩
  | _ => none

def isFileAt (disk : Disk) (path : EntryPath) : Bool :=
  match disk.entryAt path with
  | some (.file _) => true
  | _ => false

end Disk

open FileSystem (Handle bytesOf)

instance : Files (StateM FileSystem) Handle where
  readText path := fun fs => ((fs : Disk).textAt path, fs)
  names path := fun fs => ((fs : Disk).namesAt path, fs)
  isFile path := fun fs => ((fs : Disk).isFileAt path, fs)
  create path := fun fs => (fs.create path).swap
  append handle text := fun fs => (fs.append handle (bytesOf text)).swap
  release handle := fun fs => (fs.isSafe handle, fs)

instance : Files (StateM Disk) Handle where
  readText path := fun disk => (disk.textAt path, disk)
  names path := fun disk => (disk.namesAt path, disk)
  isFile path := fun disk => (disk.isFileAt path, disk)
  create path := fun disk =>
    let (fs, handle) := disk.files.create path
    (handle, { disk with files := fs })
  append handle text := fun disk =>
    let (fs, written) := disk.files.append handle (bytesOf text)
    (written, { disk with files := fs })
  release handle := fun disk => (disk.files.isSafe handle, disk)

end ReactBridge
