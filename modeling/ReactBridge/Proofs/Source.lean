import ReactBridge.Proofs.Bridge.Name
import ReactBridge.Proofs.Go.Package
import ReactBridge.Proofs.Java.Append
import ReactBridge.Source

/-!
# What a source is read from

The files of a package are read as a whole and in one order, whatever else its directory holds and
however the directory is listed.

* `Parses`, `Fails` : what the bytes of one source file come to;
* `ReadsAs` : files in order, read as a whole;
* `readPackage_sources` : a package is read from the source files that its directory holds, but for
  those whose paths are too long (`readPackage_slashed`);
* `Source.declared` : the declarations of a source (`declarations_run`), under proper names.
-/

namespace ReactBridge

namespace Source

/-- The declarations of the files of the package, as a function of the disk. -/
def declared (gopath : Option String) (disk : Disk) (source : Source) :
    Except Go.PackageError (List Declaration) :=
  match source.dir gopath with
  | .error e => .error e
  | .ok dir => (Go.packageAt disk dir).map packageDeclarations

theorem run_declarations {σ Handle : Type} [Files (StateM σ) Handle] {disk : σ → Disk}
    (h : Go.Shows disk) (gopath : Option String) (s : σ) (source : Source) :
    (source.declarations gopath : StateM σ _).run s = (source.declared gopath (disk s), s) := by
  unfold declarations declared
  cases source.dir gopath with
  | error e => rfl
  | ok dir => exact run_bind_of_run (h.readPackage_run dir s) _

theorem declarations_run (gopath : Option String) (fs : FileSystem) (source : Source) :
    (source.declarations gopath : StateM FileSystem _).run fs = (source.declared gopath fs, fs) :=
  run_declarations Go.shows_fileSystem gopath fs source

theorem isPackageName_of_declared {gopath : Option String} {disk : Disk} {source : Source}
    {decls : List Declaration} (h : source.declared gopath disk = .ok decls) :
    ∀ decl ∈ decls, Bridge.IsPackageName decl.packageName := by
  unfold declared at h
  split at h
  · cases h
  next dir _ =>
  cases hfiles : Go.packageAt disk dir with
  | error e =>
    rw [hfiles] at h
    cases h
  | ok files =>
    rw [hfiles] at h
    obtain rfl := Except.ok.inj h
    intro decl hdecl
    obtain ⟨file, hfile, rfl⟩ := List.mem_map.1 hdecl
    have hname := Go.isIdentifier_of_packageAt hfiles file hfile
    exact ⟨hname.ne_empty, hname.not_isMark⟩

end Source

namespace Go
open FileSystem

/-! ## One file -/

/-- The bytes of the file are those of a text, and this is what the text parses to. -/
def Parses (dir : Path) (file : RawFile) (parsed : PackageFile) : Prop :=
  parsed.path = file.path dir ∧
    ∃ text, file.bytes = bytesOf text ∧ SourceFile.ofText text = .ok parsed.source

/-- Why the file cannot be read: its bytes are those of no text, or the text is no source file. -/
def Fails (dir : Path) (file : RawFile) : PackageError → Prop
  | .unreadable path => path = file.path dir ∧ ∀ text, file.bytes ≠ bytesOf text
  | .invalid path e =>
    path = file.path dir ∧ ∃ text, file.bytes = bytesOf text ∧ SourceFile.ofText text = .error e
  | .noGopath => False

theorem Fails.not_parses {dir : Path} {file : RawFile} {e : PackageError}
    (h : Fails dir file e) (parsed : PackageFile) : ¬ Parses dir file parsed := by
  rintro ⟨-, text, htext, hparsed⟩
  cases e with
  | unreadable path => exact h.2 text htext
  | invalid path e =>
    obtain ⟨-, text', htext', hfails⟩ := h
    obtain rfl := bytesOf_injective (htext.symm.trans htext')
    rw [hparsed] at hfails
    cases hfails
  | noGopath => exact h

theorem eq_bytesOf_of_fromUTF8? {bytes : List UInt8} {text : String}
    (h : String.fromUTF8? ⟨bytes.toArray⟩ = some text) : bytes = bytesOf text := by
  unfold String.fromUTF8? at h
  split at h
  · obtain rfl := Option.some.inj h
    rw [bytesOf_eq]
    rfl
  · cases h

theorem sourceAt_cases {disk : Disk} {dir : Path} {file : RawFile}
    (h : disk.entryAt (file.path dir) = some (.file file.bytes)) :
    (∃ source, sourceAt disk (file.path dir) = .ok source ∧ Parses dir file ⟨file.path dir, source⟩) ∨
      ∃ e, sourceAt disk (file.path dir) = .error e ∧ Fails dir file e := by
  have htextAt : disk.textAt (file.path dir) = String.fromUTF8? ⟨file.bytes.toArray⟩ := by
    rw [Disk.textAt, h]
  rw [sourceAt, htextAt]
  cases htext : String.fromUTF8? ⟨file.bytes.toArray⟩ with
  | none =>
    refine .inr ⟨_, rfl, rfl, fun text hbytes => ?_⟩
    rw [hbytes, fromUTF8?_bytesOf] at htext
    cases htext
  | some text =>
    have hbytes := eq_bytesOf_of_fromUTF8? htext
    dsimp only
    cases hparsed : SourceFile.ofText text with
    | error e => exact .inr ⟨.invalid (file.path dir) e, rfl, rfl, text, hbytes, hparsed⟩
    | ok source => exact .inl ⟨source, rfl, rfl, text, hbytes, hparsed⟩

/-! ## Files in order -/

/-- The files are read as a whole: all of them if each parses, and otherwise not one. Then the error
is that of the first one that fails. -/
structure ReadsAs (dir : Path) (files : List RawFile)
    (result : Except PackageError (List PackageFile)) : Prop where
  whole : (∀ file ∈ files, ∃ parsed, Parses dir file parsed) →
    ∃ package, result = .ok package ∧ List.Forall₂ (Parses dir) files package
  failed : (¬ ∀ file ∈ files, ∃ parsed, Parses dir file parsed) →
    ∃ before file after e, files = before ++ file :: after ∧
      (∀ other ∈ before, ∃ parsed, Parses dir other parsed) ∧ Fails dir file e ∧ result = .error e

namespace ReadsAs

variable {dir : Path} {file : RawFile} {files : List RawFile}

theorem nil : ReadsAs dir [] (.ok []) :=
  ⟨fun _ => ⟨[], rfl, .nil⟩, fun h => absurd (by simp) h⟩

theorem fail {e : PackageError} (h : Fails dir file e) : ReadsAs dir (file :: files) (.error e) := by
  refine ⟨fun hall => ?_, fun _ => ⟨[], file, files, e, rfl, by simp, h, rfl⟩⟩
  obtain ⟨parsed, hparsed⟩ := hall file List.mem_cons_self
  exact absurd hparsed (h.not_parses parsed)

theorem cons {parsed : PackageFile} {result : Except PackageError (List PackageFile)}
    (h : Parses dir file parsed) (hrest : ReadsAs dir files result) :
    ReadsAs dir (file :: files) (result.map fun package => parsed :: package) := by
  refine ⟨fun hall => ?_, fun hnot => ?_⟩
  · obtain ⟨package, rfl, hpackage⟩ := hrest.whole (List.forall_mem_cons.1 hall).2
    exact ⟨parsed :: package, rfl, .cons h hpackage⟩
  · have hnot' : ¬ ∀ other ∈ files, ∃ parsed, Parses dir other parsed := fun hall =>
      hnot (List.forall_mem_cons.2 ⟨⟨parsed, h⟩, hall⟩)
    obtain ⟨before, failing, after, e, rfl, hbefore, hfails, rfl⟩ := hrest.failed hnot'
    exact ⟨file :: before, failing, after, e, rfl, List.forall_mem_cons.2 ⟨⟨parsed, h⟩, hbefore⟩,
      hfails, rfl⟩

end ReadsAs

theorem readsAs_sourcesAt {disk : Disk} {dir : Path} {files : List RawFile}
    (h : ∀ file ∈ files, disk.entryAt (file.path dir) = some (.file file.bytes)) :
    ReadsAs dir files (sourcesAt disk (files.map (RawFile.path dir))) := by
  induction files with
  | nil => exact .nil
  | cons file files ih =>
    rw [List.forall_mem_cons] at h
    rw [List.map_cons, sourcesAt]
    rcases sourceAt_cases h.1 with ⟨source, hsource, hparses⟩ | ⟨e, hsource, hfails⟩
    · rw [hsource]
      exact .cons hparses (ih h.2)
    · rw [hsource]
      exact .fail hfails

/-! ## Directories -/

/-- **A package is read from the source files of its directory.** These are the regular files with
the extension of a Go file whose names are not those of tests, as far as their paths are short enough
to be passed on; in the ascending order of the bytes of their names, each once, they are all parsed, or
else the error of the first one that fails is all there is. Each gives one declaration, under the
package name of its own. On any other disk whose directory holds the same source files, whatever else
is there and in whichever order it is listed, the package is the same. -/
theorem readPackage_sources {disk : Disk} (htree : disk.IsTree) {dir : Path}
    (hdir : (disk.namesAt dir).isSome = true) :
    ∃ (files : List RawFile) (result : Except PackageError (List PackageFile)),
      files.Pairwise (fun file other => file.name.toBytes < other.name.toBytes) ∧
      (∀ file, file ∈ files ↔ HoldsSource disk dir file) ∧
      ReadsAs dir files result ∧
      (readPackage dir : StateM Disk _).run disk = (result, disk) ∧
      (∀ gopath (source : Source), source.dir gopath = .ok dir →
        (source.declarations gopath : StateM Disk _).run disk =
          (result.map fun package => package.map fun file =>
            Declaration.ofFile isExported file.source file.source.package, disk)) ∧
      ∀ disk' : Disk, disk'.IsTree → (disk'.namesAt dir).isSome = true →
        (∀ file, HoldsSource disk' dir file ↔ HoldsSource disk dir file) →
          (readPackage dir : StateM Disk _).run disk' = (result, disk') := by
  obtain ⟨names, hnames⟩ := Option.isSome_iff_exists.1 hdir
  have hmem : ∀ file, file ∈ rawFilesAt disk dir names ↔ HoldsSource disk dir file := fun file =>
    mem_rawFilesAt_iff_holdsSource htree hnames
  refine ⟨rawFilesAt disk dir names, packageAt disk dir, ?_, hmem, ?_,
    shows_disk.readPackage_run dir disk, ?_, ?_⟩
  · exact pairwise_rawFilesAt (Disk.nodup_of_namesAt hnames)
  · rw [packageAt_eq hnames]
    exact readsAs_sourcesAt fun file hfile => (mem_rawFilesAt.1 hfile).2.2
  · intro gopath source hsource
    rw [Source.run_declarations shows_disk, Source.declared, hsource]
    rfl
  · intro disk' htree' hdir' hsame
    obtain ⟨names', hnames'⟩ := Option.isSome_iff_exists.1 hdir'
    have hpackage := packageAt_of_mem_rawFilesAt hnames hnames' fun file => by
      rw [mem_rawFilesAt_iff_holdsSource htree' hnames', hmem, hsame]
    rw [shows_disk.readPackage_run, hpackage]

/-- A name of a test, were it a text. -/
def testName : ByteName :=
  ⟨0xFF :: bytesOf "_test.go", by decide +kernel, by decide +kernel⟩

/-- Two source files and one that only looks like a test, among entries that are none. -/
def mixedDisk : Disk :=
  ⟨⟨[([], .directory), (["p"], .directory), (["p", "b.go"], .file (bytesOf "package b\n")),
    (["p", "a_test.go"], .file []), (["p", ".go"], .file []), (["p", "c.go"], .directory),
    (["p", "a.go"], .file (bytesOf "package a\n")), (["p", "a.txt"], .file [])], []⟩,
    [((["p"], testName), .file (bytesOf "package c\n"))]⟩

/-- The same source files by themselves, in another order. -/
def plainDisk : Disk :=
  ⟨⟨[([], .directory), (["p"], .directory), (["p", "a.go"], .file (bytesOf "package a\n")),
    (["p", "b.go"], .file (bytesOf "package b\n"))], []⟩,
    [((["p"], testName), .file (bytesOf "package c\n"))]⟩

theorem readPackage_mixedDisk : mixedDisk.IsTree ∧ (mixedDisk.namesAt ⟨"p"⟩).isSome = true ∧
    ∃ files result,
      (∀ file, file ∈ files ↔ file = ⟨.text "b.go", bytesOf "package b\n"⟩ ∨
        file = ⟨.text "a.go", bytesOf "package a\n"⟩ ∨
          file = ⟨.bytes testName, bytesOf "package c\n"⟩) ∧
      ReadsAs ⟨"p"⟩ files result ∧
      (readPackage ⟨"p"⟩ : StateM Disk _).run mixedDisk = (result, mixedDisk) ∧
      (readPackage ⟨"p"⟩ : StateM Disk _).run plainDisk = (result, plainDisk) := by
  have htree : mixedDisk.IsTree := .of_entries (by decide +kernel) (by decide +kernel)
  have htree' : plainDisk.IsTree := .of_entries (by decide +kernel) (by decide +kernel)
  have hnames : mixedDisk.namesAt ⟨"p"⟩ = some [.text "b.go", .text "a_test.go", .text ".go",
      .text "c.go", .text "a.go", .text "a.txt", .bytes testName] := by decide +kernel
  have hnames' : plainDisk.namesAt ⟨"p"⟩ =
      some [.text "a.go", .text "b.go", .bytes testName] := by decide +kernel
  have hraw : [EntryName.text "b.go", .text "a_test.go", .text ".go", .text "c.go", .text "a.go",
      .text "a.txt", .bytes testName].filterMap (rawFile? mixedDisk ⟨"p"⟩) =
        [⟨.text "b.go", bytesOf "package b\n"⟩, ⟨.text "a.go", bytesOf "package a\n"⟩,
          ⟨.bytes testName, bytesOf "package c\n"⟩] := by decide +kernel
  have hraw' : [EntryName.text "a.go", .text "b.go", .bytes testName].filterMap
      (rawFile? plainDisk ⟨"p"⟩) =
        [⟨.text "a.go", bytesOf "package a\n"⟩, ⟨.text "b.go", bytesOf "package b\n"⟩,
          ⟨.bytes testName, bytesOf "package c\n"⟩] := by decide +kernel
  have hdir : (mixedDisk.namesAt ⟨"p"⟩).isSome = true := by rw [hnames]; rfl
  have hdir' : (plainDisk.namesAt ⟨"p"⟩).isSome = true := by rw [hnames']; rfl
  have hholds : ∀ {disk : Disk} {names : List EntryName}, disk.IsTree →
      disk.namesAt ⟨"p"⟩ = some names → ∀ {file : RawFile}, HoldsSource disk ⟨"p"⟩ file ↔
        file ∈ names.filterMap (rawFile? disk ⟨"p"⟩) := by
    intro disk names htree hnames file
    rw [← mem_rawFilesAt_iff_holdsSource htree hnames, mem_rawFilesAt_iff_mem_filterMap]
  obtain ⟨files, result, -, hmem, hreads, hrun, -, hother⟩ := readPackage_sources htree hdir
  refine ⟨htree, hdir, files, result, fun file => ?_, hreads, hrun, hother _ htree' hdir' ?_⟩
  · rw [hmem, hholds htree hnames, hraw, List.mem_cons, List.mem_pair]
  · intro file
    rw [hholds htree hnames, hraw, hholds htree' hnames', hraw']
    exact (List.Perm.swap _ _ _).mem_iff

/-! ## Paths without room -/

/-- The directory `p`, with more separators than are needed. -/
def slashed : Nat → String
  | 0 => "p"
  | n + 1 => slashed n ++ "/"

theorem utf8ByteSize_slashed (n : Nat) : (slashed n).utf8ByteSize = n + 1 := by
  induction n with
  | zero => decide +kernel
  | succ n ih =>
    rw [slashed, String.utf8ByteSize_append, ih]
    rfl

theorem slashed_ne_empty (n : Nat) : slashed n ≠ "" := by
  intro h
  have hsize := utf8ByteSize_slashed n
  rw [h] at hsize
  cases hsize

theorem components_slashed (n : Nat) : (Path.mk (slashed n)).components = [.name "p"] := by
  induction n with
  | zero => decide +kernel
  | succ n ih => rw [slashed, Path.components_slash (slashed_ne_empty n), ih]

theorem zero_notMem_slashed (n : Nat) : '\x00' ∉ (slashed n).toList := by
  induction n with
  | zero => decide +kernel
  | succ n ih => simp [slashed, ih]

/-- Behind a separator, a name is put as it is. -/
theorem size_slashed (n : Nat) {name : String} (hname : Path.IsName name) :
    ((Path.mk (slashed (n + 1))).entry (.text name)).size = n + 2 + name.utf8ByteSize := by
  have hgap : (Path.mk (slashed (n + 1))).gap = "" := by
    rw [Path.gap, slashed]
    simp
  change ((Path.mk (slashed (n + 1))).join ⟨name⟩).text.utf8ByteSize = _
  rw [Path.join_relative _ hname.isAbsolute, hgap, String.append_empty, String.utf8ByteSize_append,
    utf8ByteSize_slashed]

/-- Two source files, the names of which differ in length. -/
def pairDisk : Disk :=
  ⟨⟨[([], .directory), (["p"], .directory), (["p", "a.go"], .file (bytesOf "package a\n")),
    (["p", "bb.go"], .file (bytesOf "package b\n"))], []⟩, []⟩

theorem namesAt_slashed {n : Nat} (h : n < maxPath) :
    pairDisk.files.resolve ⟨slashed n⟩ = some ["p"] ∧
      pairDisk.namesAt ⟨slashed n⟩ = some [.text "a.go", .text "bb.go"] := by
  have hle : n + 1 ≤ maxPath := h
  have hpassable : isPassable ⟨slashed n⟩ = true := by
    simp [isPassable, slashed_ne_empty, utf8ByteSize_slashed, zero_notMem_slashed, hle]
  have hdir : pairDisk.files.isDirectory ["p"] = true := by decide +kernel
  have hresolve : pairDisk.files.resolve ⟨slashed n⟩ = some ["p"] := by
    rw [resolve_eq_some_iff, components_slashed]
    exact ⟨hpassable, by decide +kernel, fun _ => hdir⟩
  exact ⟨hresolve, Disk.namesAt_eq_some_iff.2 ⟨_, hresolve, hdir, by decide +kernel⟩⟩

/-- If there is just enough room for `a.go` behind a path, `bb.go` is not read. -/
theorem packageAt_slashed {n : Nat} (h : n + 6 = maxPath) :
    packageAt pairDisk ⟨slashed (n + 1)⟩ =
      sourcesAt pairDisk [(Path.mk (slashed (n + 1))).entry (.text "a.go")] ∧
    pairDisk.textAt ((Path.mk (slashed (n + 1))).entry (.text "a.go")) = some "package a\n" := by
  have htree : pairDisk.IsTree := .of_entries (by decide +kernel) (by decide +kernel)
  have hdir : pairDisk.files.isDirectory ["p"] = true := by decide +kernel
  have ha : Path.IsName "a.go" := by decide +kernel
  have hb : Path.IsName "bb.go" := by decide +kernel
  have hroom : n + 1 < maxPath := by omega
  obtain ⟨hresolve, hnames⟩ := namesAt_slashed hroom
  have hsizeA : n + 2 + "a.go".utf8ByteSize ≤ maxPath := h.le
  have hsizeB : ¬ n + 2 + "bb.go".utf8ByteSize ≤ maxPath := fun hle => by
    have hle' : n + 7 ≤ maxPath := hle
    omega
  have hentryA : pairDisk.entryAt ((Path.mk (slashed (n + 1))).entry (.text "a.go")) =
      some (.file (bytesOf "package a\n")) := by
    rw [htree.entryAt_entry hresolve hdir (by decide +kernel), size_slashed n ha, if_pos hsizeA]
    decide +kernel
  have hentryB : pairDisk.entryAt ((Path.mk (slashed (n + 1))).entry (.text "bb.go")) = none := by
    rw [htree.entryAt_entry hresolve hdir (by decide +kernel), size_slashed n hb, if_neg hsizeB]
  have hsource : IsSourceText "a.go" := (isPackageFile_join ⟨"p"⟩ ha).1 (by decide +kernel)
  have hrawA : rawFile? pairDisk ⟨slashed (n + 1)⟩ (.text "a.go") =
      some ⟨.text "a.go", bytesOf "package a\n"⟩ :=
    rawFile?_eq_some_iff.2 ⟨rfl, (isPackageFile_join _ ha).2 hsource, hentryA⟩
  have hrawB : rawFile? pairDisk ⟨slashed (n + 1)⟩ (.text "bb.go") = none := by
    rw [rawFile?, hentryB]
  have hraw : rawFilesAt pairDisk ⟨slashed (n + 1)⟩ [.text "a.go", .text "bb.go"] =
      [⟨.text "a.go", bytesOf "package a\n"⟩] := by
    rw [rawFilesAt, sortNames, List.mergeSort_of_pairwise (by decide +kernel)]
    simp only [List.filterMap_cons, hrawA, hrawB, List.filterMap_nil]
  refine ⟨?_, ?_⟩
  · rw [packageAt_eq hnames, hraw]
    rfl
  · rw [Disk.textAt, hentryA]
    exact fromUTF8?_bytesOf _

/-- A directory whose path leaves no room for `bb.go` is read without it, though this is a source file
and has a text that is parsed. -/
theorem readPackage_slashed :
    IsSourceName (.text "bb.go") ∧
    pairDisk.files.resolve ⟨slashed 4090⟩ = some ["p"] ∧
    pairDisk.files.isDirectory ["p"] = true ∧
    pairDisk.find ["p"] (.text "bb.go") = some (.file (bytesOf "package b\n")) ∧
    (SourceFile.ofText "package b\n").map SourceFile.package = .ok "b" ∧
    ∃ file, SourceFile.ofText "package a\n" = .ok file ∧
      (readPackage ⟨slashed 4090⟩ : StateM Disk _).run pairDisk =
        (.ok [⟨(Path.mk (slashed 4090)).entry (.text "a.go"), file⟩], pairDisk) := by
  have hsource : IsSourceText "bb.go" :=
    (isPackageFile_join ⟨"p"⟩ (by decide +kernel)).1 (by decide +kernel)
  have hresolve := (namesAt_slashed (show 4090 < maxPath by decide)).1
  have hfile : (SourceFile.ofText "package a\n").toOption.map SourceFile.package = some "a" := by
    decide +kernel
  obtain ⟨file, hfile, -⟩ := exists_of_toOption hfile
  obtain ⟨hpackage, htext⟩ := packageAt_slashed (show 4089 + 6 = maxPath by decide)
  refine ⟨hsource, hresolve, by decide +kernel, by decide +kernel, by decide +kernel, file, hfile, ?_⟩
  rw [shows_disk.readPackage_run, hpackage, sourcesAt, sourceAt, htext]
  dsimp only
  rw [hfile]
  rfl

end Go

end ReactBridge
