import Mathlib.Data.List.Sort
import ReactBridge.Go.Package
import ReactBridge.Proofs.FileSystem.Disk
import ReactBridge.Proofs.Go.Image
import ReactBridge.Proofs.Text

/-!
# What a package is read from

* `packageAt disk dir` : the files of a package as a function of the disk (`Shows.readPackage_run`);
* `HoldsSource disk dir file` : the source files in a directory, which are those of the package
  (`mem_rawFilesAt_iff_holdsSource`);
* `packageAt_congr` : it depends on nothing but the Go files in the directory;
* `isIdentifier_of_packageAt` : packages have proper names, without dots and slashes.
-/

namespace ReactBridge.Go
open FileSystem

/-! ## Reading as a function -/

def sourceAt (disk : Disk) (path : EntryPath) : Except PackageError SourceFile :=
  match disk.textAt path with
  | none => .error (.unreadable path)
  | some text => (SourceFile.ofText text).mapError (.invalid path)

def sourcesAt (disk : Disk) : List EntryPath → Except PackageError (List PackageFile)
  | [] => .ok []
  | path :: paths =>
    match sourceAt disk path with
    | .error e => .error e
    | .ok source => (sourcesAt disk paths).map fun files => ⟨path, source⟩ :: files

/-- The files that make up the package in a directory, in the order of their names. -/
def pathsAt (disk : Disk) (dir : Path) (names : List EntryName) : List EntryPath :=
  (((sortNames names).map dir.entry).filter isPackageFile).filter disk.isFileAt

def packageAt (disk : Disk) (dir : Path) : Except PackageError (List PackageFile) :=
  match disk.namesAt dir with
  | none => .error (.unreadable dir)
  | some names => sourcesAt disk (pathsAt disk dir names)

/-- Files that are read as those of a disk are. -/
structure Shows {σ Handle : Type} [Files (StateM σ) Handle] (disk : σ → Disk) : Prop where
  readText : ∀ path s, (Files.readText path : StateM σ _).run s = ((disk s).textAt path, s)
  names : ∀ dir s, (Files.names dir : StateM σ _).run s = ((disk s).namesAt dir, s)
  isFile : ∀ path s, (Files.isFile path : StateM σ _).run s = ((disk s).isFileAt path, s)

theorem shows_fileSystem : Shows fun fs : FileSystem => (fs : Disk) :=
  ⟨fun _ _ => rfl, fun _ _ => rfl, fun _ _ => rfl⟩

theorem shows_disk : Shows fun disk : Disk => disk :=
  ⟨fun _ _ => rfl, fun _ _ => rfl, fun _ _ => rfl⟩

namespace Shows

variable {σ Handle : Type} [Files (StateM σ) Handle] {disk : σ → Disk}

theorem readAt_run (h : Shows disk) (path : EntryPath) (s : σ) :
    (readAt path : StateM σ _).run s = (sourceAt (disk s) path, s) := by
  unfold readAt sourceAt
  rw [run_bind_of_run (h.readText path s)]
  cases (disk s).textAt path <;> rfl

theorem regularFiles_run (h : Shows disk) (paths : List EntryPath) (s : σ) :
    (regularFiles paths : StateM σ _).run s = (paths.filter (disk s).isFileAt, s) := by
  induction paths with
  | nil => rfl
  | cons path paths ih =>
    unfold regularFiles
    rw [run_bind_of_run (h.isFile path s), run_bind_of_run ih, List.filter_cons]
    rfl

theorem readSources_run (h : Shows disk) (paths : List EntryPath) (s : σ) :
    (readSources paths : StateM σ _).run s = (sourcesAt (disk s) paths, s) := by
  induction paths with
  | nil => rfl
  | cons path paths ih =>
    unfold readSources sourcesAt
    rw [run_bind_of_run (h.readAt_run path s)]
    cases sourceAt (disk s) path with
    | error e => rfl
    | ok source => exact run_bind_of_run ih _

theorem readPackage_run (h : Shows disk) (dir : Path) (s : σ) :
    (readPackage dir : StateM σ _).run s = (packageAt (disk s) dir, s) := by
  unfold readPackage packageAt
  rw [run_bind_of_run (h.names dir s)]
  cases (disk s).namesAt dir with
  | none => rfl
  | some names =>
    refine (run_bind_of_run (h.regularFiles_run _ s) _).trans ?_
    exact h.readSources_run _ s

end Shows

/-! ## Files of a directory -/

theorem isFileAt_iff {disk : Disk} {path : EntryPath} :
    disk.isFileAt path = true ↔ ∃ bytes, disk.entryAt path = some (.file bytes) := by
  unfold Disk.isFileAt
  split
  · next bytes h => exact ⟨fun _ => ⟨bytes, h⟩, fun _ => rfl⟩
  · next h => exact ⟨nofun, fun ⟨bytes, hbytes⟩ => absurd hbytes (h bytes)⟩

theorem sourcesAt_congr {disk disk' : Disk} {paths : List EntryPath}
    (h : ∀ path ∈ paths, disk'.textAt path = disk.textAt path) :
    sourcesAt disk' paths = sourcesAt disk paths := by
  induction paths with
  | nil => rfl
  | cons path paths ih =>
    rw [List.forall_mem_cons] at h
    rw [sourcesAt, sourcesAt, sourceAt, sourceAt, h.1, ih h.2]

theorem pairwise_sortNames (names : List EntryName) :
    (sortNames names).Pairwise fun a b => a.toBytes ≤ b.toBytes := by
  have htrans : ∀ a b c : EntryName, decide (a.toBytes ≤ b.toBytes) = true →
      decide (b.toBytes ≤ c.toBytes) = true → decide (a.toBytes ≤ c.toBytes) = true := by
    intro a b c hab hbc
    rw [decide_eq_true_eq] at *
    exact List.le_trans hab hbc
  have htotal : ∀ a b : EntryName,
      (decide (a.toBytes ≤ b.toBytes) || decide (b.toBytes ≤ a.toBytes)) = true := by
    intro a b
    simpa using List.le_total a.toBytes b.toBytes
  exact (List.pairwise_mergeSort htrans htotal names).imp fun h => of_decide_eq_true h

/-! ## Sources in a directory -/

/-- What a source file of a package is called, as a text. Tests are no sources of the package, and a
name needs something in front of its extension. -/
structure IsSourceText (name : String) : Prop where
  isGo : ".go".toList <:+ name.toList
  ne_extension : name ≠ ".go"
  notTest : ¬ "_test.go".toList <:+ name.toList

/-- What a source file of a package is called. Only a name that is a text can be the name of a test. -/
def IsSourceName : EntryName → Prop
  | .text name => IsSourceText name
  | .bytes name => bytesOf ".go" <:+ name.bytes

theorem isGoFile_join (dir : Path) {name : String} (h : Path.IsName name) :
    isGoFile (dir.join ⟨name⟩) = true ↔ ".go".toList <:+ name.toList ∧ name ≠ ".go" := by
  have hgo : ∀ stem : String, stem ++ "." ++ "go" = stem ++ ".go" := fun stem =>
    String.append_assoc
  rw [isGoFile, decide_eq_true_eq, Path.extension_join dir h]
  constructor
  · intro hext
    obtain ⟨stem, hstem, rfl⟩ := Path.eq_append_of_cutExtension hext
    rw [hgo, String.toList_append, ne_eq, String.append_eq_right_iff]
    exact ⟨List.suffix_append _ _, hstem⟩
  · rintro ⟨⟨cs, hcs⟩, hne⟩
    have hname : name = String.ofList cs ++ ".go" := by
      rw [← String.toList_inj, String.toList_append, String.toList_ofList, hcs]
    rw [hname, ← hgo]
    refine Path.cutExtension_append ?_ (by decide)
    intro hempty
    rw [hempty, String.empty_append] at hname
    exact hne hname

theorem isGoFile_odd (dir : Path) (name : ByteName) :
    isGoFile (.odd dir name) = true ↔ bytesOf ".go" <:+ name.bytes := by
  have hbytes : bytesOf ".go" = 0x2E :: "go".toUTF8.toList := by decide +kernel
  rw [isGoFile, decide_eq_true_eq, ByteName.extension, Option.map_eq_some_iff, hbytes]
  constructor
  · rintro ⟨⟨front, back⟩, hcut, rfl⟩
    exact ⟨front, (Text.cutLast_eq_some_iff.1 hcut).2.2.symm⟩
  · rintro ⟨front, hfront⟩
    refine ⟨(front, _), Text.cutLast_eq_some_iff.2 ⟨?_, by decide +kernel, hfront.symm⟩, rfl⟩
    rintro rfl
    exact name.ne_bytesOf ".go" (hfront.symm.trans hbytes.symm)

theorem isPackageFile_join (dir : Path) {name : String} (h : Path.IsName name) :
    isPackageFile (dir.join ⟨name⟩) = true ↔ IsSourceText name := by
  have htest : isTestEntry (dir.join ⟨name⟩) = "_test.go".toList.isSuffixOf name.toList := by
    rw [isTestEntry, EntryPath.fileName, Path.fileName_join dir h]
    rfl
  rw [isPackageFile, Bool.and_eq_true, isGoFile_join dir h, htest, Bool.not_eq_true',
    ← Bool.not_eq_true, List.isSuffixOf_iff_suffix]
  exact ⟨fun ⟨⟨isGo, hne⟩, htest⟩ => ⟨isGo, hne, htest⟩,
    fun ⟨isGo, hne, htest⟩ => ⟨⟨isGo, hne⟩, htest⟩⟩

structure RawFile where
  name : EntryName
  bytes : List UInt8
deriving DecidableEq, Repr

def RawFile.path (dir : Path) (file : RawFile) : EntryPath :=
  dir.entry file.name

/-- A regular file of these bytes lies in the directory, under the name of a source, and its path is
no longer than paths can be. -/
structure HoldsSource (disk : Disk) (dir : Path) (file : RawFile) : Prop where
  lies : ∃ place, disk.files.resolve dir = some place ∧ disk.files.isDirectory place = true ∧
    disk.find place file.name = some (.file file.bytes)
  isSource : IsSourceName file.name
  short : (file.path dir).size ≤ maxPath

/-- The file behind a name, if it belongs to the package. -/
def rawFile? (disk : Disk) (dir : Path) (name : EntryName) : Option RawFile :=
  match disk.entryAt (dir.entry name) with
  | some (.file bytes) => if isPackageFile (dir.entry name) then some ⟨name, bytes⟩ else none
  | _ => none

theorem rawFile?_eq_some_iff {disk : Disk} {dir : Path} {name : EntryName} {file : RawFile} :
    rawFile? disk dir name = some file ↔ file.name = name ∧ isPackageFile (file.path dir) = true ∧
      disk.entryAt (file.path dir) = some (.file file.bytes) := by
  obtain ⟨name', bytes'⟩ := file
  unfold rawFile? RawFile.path
  dsimp only
  split
  · next bytes hentry =>
    split
    · next hpackage =>
      constructor
      · rintro ⟨⟩
        exact ⟨rfl, hpackage, hentry⟩
      · rintro ⟨rfl, -, hentry'⟩
        rw [hentry] at hentry'
        cases hentry'
        rfl
    · next hpackage =>
      refine ⟨nofun, ?_⟩
      rintro ⟨rfl, hpackage', -⟩
      exact absurd hpackage' hpackage
  · next hnone =>
    refine ⟨nofun, ?_⟩
    rintro ⟨rfl, -, hentry⟩
    exact absurd hentry (hnone bytes')

/-- The files that make up the package in a directory, unread and in the order of their names. -/
def rawFilesAt (disk : Disk) (dir : Path) (names : List EntryName) : List RawFile :=
  (sortNames names).filterMap (rawFile? disk dir)

theorem pathsAt_eq (disk : Disk) (dir : Path) (names : List EntryName) :
    pathsAt disk dir names = (rawFilesAt disk dir names).map (RawFile.path dir) := by
  unfold pathsAt rawFilesAt
  induction sortNames names with
  | nil => rfl
  | cons name names ih =>
    rw [List.map_cons, List.filter_cons, List.filterMap_cons]
    cases hraw : rawFile? disk dir name with
    | some file =>
      obtain ⟨rfl, hpackage, hentry⟩ := rawFile?_eq_some_iff.1 hraw
      have hfile : disk.isFileAt (file.path dir) = true := isFileAt_iff.2 ⟨_, hentry⟩
      rw [List.map_cons, ← ih]
      exact (congrArg _ (if_pos hpackage)).trans (List.filter_cons_of_pos hfile)
    | none =>
      rw [← ih]
      split
      · next hpackage =>
        refine List.filter_cons_of_neg fun hfile => ?_
        obtain ⟨bytes, hentry⟩ := isFileAt_iff.1 hfile
        have hsome : rawFile? disk dir name = some ⟨name, bytes⟩ :=
          rawFile?_eq_some_iff.2 ⟨rfl, hpackage, hentry⟩
        rw [hsome] at hraw
        cases hraw
      · rfl

theorem pairwise_rawFilesAt {disk : Disk} {dir : Path} {names : List EntryName}
    (hnodup : names.Nodup) :
    (rawFilesAt disk dir names).Pairwise fun file other =>
      file.name.toBytes < other.name.toBytes := by
  have hsorted : (sortNames names).Pairwise fun a b => a.toBytes < b.toBytes := by
    have hne : (sortNames names).Pairwise (· ≠ ·) := (List.mergeSort_perm _ _).nodup_iff.2 hnodup
    refine ((pairwise_sortNames names).and hne).imp ?_
    rintro a b ⟨hle, hne⟩
    exact List.not_le.1 fun hge => hne (EntryName.toBytes_injective (List.le_antisymm hle hge))
  refine hsorted.filterMap _ fun a b hlt file hfile other hother => ?_
  rw [(rawFile?_eq_some_iff.1 hfile).1, (rawFile?_eq_some_iff.1 hother).1]
  exact hlt

/-- Ascending files that are the same in any order are the same. -/
theorem eq_of_ascending {files files' : List RawFile}
    (h : files.Pairwise fun file other => file.name.toBytes < other.name.toBytes)
    (h' : files'.Pairwise fun file other => file.name.toBytes < other.name.toBytes)
    (hmem : ∀ file, file ∈ files' ↔ file ∈ files) : files' = files := by
  have : Std.Irrefl fun file other : RawFile => file.name.toBytes < other.name.toBytes :=
    ⟨fun file => List.lt_irrefl file.name.toBytes⟩
  have : Std.Antisymm fun file other : RawFile => file.name.toBytes < other.name.toBytes :=
    ⟨fun _ _ hlt hgt => absurd hgt (List.lt_asymm hlt)⟩
  exact h'.eq_of_mem_iff h hmem

section
variable {disk disk' : Disk} {dir : Path}

theorem mem_rawFilesAt_iff_mem_filterMap {names : List EntryName} {file : RawFile} :
    file ∈ rawFilesAt disk dir names ↔ file ∈ names.filterMap (rawFile? disk dir) :=
  ((List.mergeSort_perm _ _).filterMap _).mem_iff

theorem mem_rawFilesAt {names : List EntryName} {file : RawFile} :
    file ∈ rawFilesAt disk dir names ↔ file.name ∈ names ∧ isPackageFile (file.path dir) = true ∧
      disk.entryAt (file.path dir) = some (.file file.bytes) := by
  rw [mem_rawFilesAt_iff_mem_filterMap, List.mem_filterMap]
  constructor
  · rintro ⟨name, hname, hraw⟩
    obtain ⟨rfl, hpackage, hentry⟩ := rawFile?_eq_some_iff.1 hraw
    exact ⟨hname, hpackage, hentry⟩
  · rintro ⟨hname, hpackage, hentry⟩
    exact ⟨file.name, hname, rawFile?_eq_some_iff.2 ⟨rfl, hpackage, hentry⟩⟩

theorem packageAt_eq {names : List EntryName} (hnames : disk.namesAt dir = some names) :
    packageAt disk dir = sourcesAt disk ((rawFilesAt disk dir names).map (RawFile.path dir)) := by
  rw [packageAt, hnames, ← pathsAt_eq]

theorem packageAt_of_mem_rawFilesAt {names names' : List EntryName}
    (hnames : disk.namesAt dir = some names) (hnames' : disk'.namesAt dir = some names')
    (h : ∀ file, file ∈ rawFilesAt disk' dir names' ↔ file ∈ rawFilesAt disk dir names) :
    packageAt disk' dir = packageAt disk dir := by
  have hfiles : rawFilesAt disk' dir names' = rawFilesAt disk dir names :=
    eq_of_ascending (pairwise_rawFilesAt (Disk.nodup_of_namesAt hnames))
      (pairwise_rawFilesAt (Disk.nodup_of_namesAt hnames')) h
  rw [packageAt_eq hnames', packageAt_eq hnames, hfiles]
  refine sourcesAt_congr fun path hpath => ?_
  obtain ⟨file, hfile, rfl⟩ := List.mem_map.1 hpath
  obtain ⟨-, -, hentry⟩ := mem_rawFilesAt.1 hfile
  obtain ⟨-, -, hentry'⟩ := mem_rawFilesAt.1 ((h file).2 hfile)
  rw [Disk.textAt, Disk.textAt, hentry, hentry']

/-- In a tree, a name says by itself whether it is that of a source. -/
theorem isPackageFile_entry (htree : disk.IsTree) {place : Location} {name : EntryName}
    (hname : name ∈ disk.namesBelow place) :
    isPackageFile (dir.entry name) = true ↔ IsSourceName name := by
  cases name with
  | text name =>
    have hproper := htree.files.names place name (Disk.mem_namesBelow.1 hname)
    exact isPackageFile_join dir hproper
  | bytes name =>
    have htest : isTestEntry (.odd dir name) = false := rfl
    change isPackageFile (.odd dir name) = true ↔ _
    rw [isPackageFile, htest, Bool.not_false, Bool.and_true]
    exact isGoFile_odd dir name

/-- **The files of a package** are the sources that its directory holds. -/
theorem mem_rawFilesAt_iff_holdsSource (htree : disk.IsTree) {names : List EntryName}
    (hnames : disk.namesAt dir = some names) {file : RawFile} :
    file ∈ rawFilesAt disk dir names ↔ HoldsSource disk dir file := by
  obtain ⟨place, hdir, hplace, rfl⟩ := Disk.namesAt_eq_some_iff.1 hnames
  rw [mem_rawFilesAt]
  constructor
  · rintro ⟨hname, hpackage, hentry⟩
    rw [RawFile.path, htree.entryAt_entry hdir hplace hname] at hentry
    split at hentry
    · next hshort =>
      exact ⟨⟨place, hdir, hplace, hentry⟩, (isPackageFile_entry htree hname).1 hpackage, hshort⟩
    · cases hentry
  · rintro ⟨⟨other, hdir', -, hfind⟩, hsource, hshort⟩
    obtain rfl := Option.some.inj (hdir.symm.trans hdir')
    have hname : file.name ∈ disk.namesBelow place := by
      rw [Disk.mem_namesBelow, hfind]
      rfl
    refine ⟨hname, (isPackageFile_entry htree hname).2 hsource, ?_⟩
    rw [RawFile.path, htree.entryAt_entry hdir hplace hname]
    exact (if_pos hshort).trans hfind

end

/-! ## Packages of two file systems -/

section
variable {fs fs' : FileSystem} {dir : Path} {place : Location}

/-- In a tree, the files of a package are entries right below its directory. -/
theorem mem_rawFilesAt_iff_find (htree : fs.IsTree) (hdir : fs.resolve dir = some place)
    (hplace : fs.isDirectory place = true) {file : RawFile} :
    file ∈ rawFilesAt fs dir ((fs : Disk).namesBelow place) ↔ ∃ name, file.name = .text name ∧
      Path.IsName name ∧ isPackageFile (dir.join ⟨name⟩) = true ∧
        isPassable (dir.join ⟨name⟩) = true ∧
          fs.find (place ++ [name]) = some (.file file.bytes) := by
  obtain ⟨name, bytes⟩ := file
  rw [mem_rawFilesAt, Disk.mem_namesBelow]
  cases name with
  | text name =>
    constructor
    · rintro ⟨hsome, hpackage, hentry⟩
      have hname := htree.names place name hsome
      change fs.entryAt (dir.join ⟨name⟩) = _ at hentry
      rw [entryAt_join hdir hplace hname] at hentry
      split at hentry
      · next hpassable => exact ⟨name, rfl, hname, hpackage, hpassable, hentry⟩
      · cases hentry
    · rintro ⟨_, ⟨⟩, hname, hpackage, hpassable, hfind⟩
      have hsome : (fs.find (place ++ [name])).isSome = true := by
        rw [hfind]
        rfl
      refine ⟨hsome, hpackage, ?_⟩
      change fs.entryAt (dir.join ⟨name⟩) = _
      rw [entryAt_join hdir hplace hname]
      exact (if_pos hpassable).trans hfind
  | bytes name =>
    constructor
    · rintro ⟨hsome, -⟩
      cases hsome
    · rintro ⟨_, ⟨⟩, -⟩

/-- **A package depends on its directory only**, and on the Go files in it: if these are the same in
two trees, so is the package. -/
theorem packageAt_congr (htree : fs.IsTree) (htree' : fs'.IsTree)
    (hresolve : fs'.resolve dir = fs.resolve dir)
    (h : ∀ place, fs.resolve dir = some place → fs'.isDirectory place = fs.isDirectory place ∧
      ∀ name bytes, isPackageFile (dir.join ⟨name⟩) = true →
        (fs'.find (place ++ [name]) = some (.file bytes) ↔
          fs.find (place ++ [name]) = some (.file bytes))) :
    packageAt fs' dir = packageAt fs dir := by
  have hnone : ∀ {disk : Disk}, (∀ place, disk.files.resolve dir = some place →
      ¬ disk.files.isDirectory place = true) → packageAt disk dir = .error (.unreadable dir) := by
    intro disk hplaces
    have hunlisted : disk.namesAt dir = none := by
      rw [Option.eq_none_iff_forall_ne_some]
      intro names hnames
      obtain ⟨place, hplace, hdir, -⟩ := Disk.namesAt_eq_some_iff.1 hnames
      exact hplaces place hplace hdir
    rw [packageAt, hunlisted]
  by_cases hdir : ∃ place, fs.resolve dir = some place ∧ fs.isDirectory place = true
  · obtain ⟨place, hplace, hdir⟩ := hdir
    obtain ⟨hdirectory, hfiles⟩ := h place hplace
    have hplace' : fs'.resolve dir = some place := hresolve.trans hplace
    have hdir' : fs'.isDirectory place = true := hdirectory.trans hdir
    refine packageAt_of_mem_rawFilesAt (Disk.namesAt_eq_some_iff.2 ⟨place, hplace, hdir, rfl⟩)
      (Disk.namesAt_eq_some_iff.2 ⟨place, hplace', hdir', rfl⟩) fun file => ?_
    rw [mem_rawFilesAt_iff_find htree' hplace' hdir', mem_rawFilesAt_iff_find htree hplace hdir]
    refine exists_congr fun name => and_congr_right fun _ => and_congr_right fun _ =>
      and_congr_right fun hpackage => and_congr_right fun _ => ?_
    exact hfiles name file.bytes hpackage
  · have hdir' : ∀ place, fs'.resolve dir = some place → ¬ fs'.isDirectory place = true := by
      intro place hplace hhere
      rw [hresolve] at hplace
      exact hdir ⟨place, hplace, (h place hplace).1.symm.trans hhere⟩
    rw [hnone hdir', hnone fun place hplace hhere => hdir ⟨place, hplace, hhere⟩]

end

/-! ## Names of packages -/

theorem not_isMark_of_isNamePart {c : Char} (h : isNamePart c = true) : ¬ Text.IsMark c := by
  rintro (rfl | rfl) <;> exact absurd h (by decide +kernel)

theorem IsIdentifier.not_isMark {name : String} (h : IsIdentifier name) :
    ∀ c ∈ name.toList, ¬ Text.IsMark c :=
  fun c hc => not_isMark_of_isNamePart (h.isNamePart c hc)

theorem isIdentifier_of_packageAt {disk : Disk} {dir : Path} {files : List PackageFile}
    (h : packageAt disk dir = .ok files) : ∀ file ∈ files, IsIdentifier file.source.package := by
  have hsources : ∀ paths files, sourcesAt disk paths = .ok files →
      ∀ file ∈ files, IsIdentifier file.source.package := by
    intro paths
    induction paths with
    | nil =>
      intro files h
      obtain rfl := Except.ok.inj h
      nofun
    | cons path paths ih =>
      intro files h
      unfold sourcesAt at h
      split at h
      · cases h
      next source hsource =>
      cases hrest : sourcesAt disk paths with
      | error e =>
        rw [hrest] at h
        cases h
      | ok rest =>
        rw [hrest] at h
        obtain rfl := Except.ok.inj h
        refine List.forall_mem_cons.2 ⟨?_, ih rest hrest⟩
        unfold sourceAt at hsource
        split at hsource
        · cases hsource
        next text _ =>
        cases htext : SourceFile.ofText text with
        | error e =>
          rw [htext] at hsource
          cases hsource
        | ok file =>
          rw [htext] at hsource
          obtain rfl := Except.ok.inj hsource
          exact (wellFormed_of_ofText htext).package
  unfold packageAt at h
  split at h
  · cases h
  · exact hsources _ files h

end ReactBridge.Go
