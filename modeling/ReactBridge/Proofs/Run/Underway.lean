import ReactBridge.Proofs.FileSystem.Overlay
import ReactBridge.Proofs.Run.Generate

/-!
# Runs under way

What a run has written is a family of files below one directory, none of which is a Go file. So
packages are read as they would be before the run, and each fares as it would alone.

* `Separate` : nothing that is read depends on what is written;
* `Underway` : a file system that a run has come to, as an overlay over the one that it started from;
* `Underway.declared_eq` : the declarations of a package are those before the run;
* `Underway.writePackages` : what a run goes on to write.
-/

namespace ReactBridge

namespace Bridge

def Config.root (config : Config) : Path :=
  config.output.below (rootNames config.packageRoot)

theorem Config.isStraight_root {config : Config} (hroot : '/' ∉ config.packageRoot.toList)
    (houtput : config.output.IsStraight) : config.root.IsStraight := by
  rw [Path.IsStraight, Config.root, Path.components_below _ (isName_rootNames hroot), List.mem_append,
    not_or]
  exact ⟨houtput, by simp⟩

theorem Config.locate_root {config : Config} (hroot : '/' ∉ config.packageRoot.toList)
    (fs : FileSystem) :
    fs.locate config.root = fs.locate config.output ++ rootNames config.packageRoot :=
  fs.locate_below _ (isName_rootNames hroot)

theorem Kind.target_eq_root (kind : Kind) {config : Config}
    (hroot : '/' ∉ config.packageRoot.toList) {packageName : String} (h : IsPackageName packageName) :
    kind.target config packageName =
      config.root.below [Text.lowercase packageName, kind.fileName packageName] := by
  rw [kind.target_eq hroot h, targetNames, Path.below_append]
  rfl

theorem IsClassFile.isFamily {root path : Path} (h : IsClassFile root path) :
    FileSystem.IsFamily root path := by
  obtain ⟨dir, file, hdir, hfile, -, rfl⟩ := h
  exact ⟨dir, file, hdir, hfile, rfl⟩

theorem path_of_mem_drafts {config : Config} (hroot : '/' ∉ config.packageRoot.toList)
    {decl : Declaration} (hname : IsPackageName decl.packageName) {draft : FileSystem.Draft}
    (h : draft ∈ drafts config decl) : ∃ file, Path.IsName file ∧
      (Path.cutExtension file).2 = some "java" ∧
        draft.path = config.root.below [Text.lowercase decl.packageName, file] := by
  obtain ⟨-, kind, -, rfl⟩ := mem_drafts_iff.1 h
  exact ⟨kind.fileName decl.packageName, kind.isName_fileName hname,
    kind.cutExtension_fileName decl.packageName, kind.target_eq_root hroot hname⟩

theorem isClassFile_of_mem_drafts {config : Config} (hroot : '/' ∉ config.packageRoot.toList)
    {decls : List Declaration} (hnames : ∀ decl ∈ decls, IsPackageName decl.packageName) :
    ∀ draft ∈ decls.flatMap (drafts config), IsClassFile config.root draft.path := by
  intro draft hdraft
  obtain ⟨decl, hdecl, hdraft⟩ := List.mem_flatMap.1 hdraft
  obtain ⟨file, hfile, hjava, hpath⟩ := path_of_mem_drafts hroot (hnames decl hdecl) hdraft
  exact ⟨_, file, isName_lowercase (hnames decl hdecl), hfile, hjava, hpath⟩

end Bridge

namespace Run
open Bridge Java
open FileSystem (Draft Overlays IsTree)

/-! ## What is read apart from what is written -/

/-- Two paths lead to places neither of which lies in the other. -/
def Unrelated (fs : FileSystem) (path other : Path) : Prop :=
  ¬ fs.locate path <+: fs.locate other ∧ ¬ fs.locate other <+: fs.locate path

/-- Something stands where a directory lies, or else the directory has nothing to do with where
bridges are written. -/
def Settled (config : Config) (fs : FileSystem) (dir : Path) : Prop :=
  (fs.find (fs.locate dir)).isSome = true ∨ Unrelated fs dir config.output

/-- A source whose directory is there before anything is written, or lies where nothing is written.
Its path never goes up. -/
def Apart (config : Config) (gopath : Option String) (fs : FileSystem) (source : Source) : Prop :=
  ∀ dir, source.dir gopath = .ok dir → dir.IsStraight ∧ Settled config fs dir

/-- A run on a tree whose paths never go up, and in which what is read is apart from what is
written. -/
structure Separate (config : Config) (gopath : Option String) (fs : FileSystem)
    (sources : List Source) : Prop where
  tree : fs.IsTree
  output : config.output.IsStraight
  packageRoot : '/' ∉ config.packageRoot.toList
  sources : ∀ source ∈ sources, Apart config gopath fs source

/-! ## Runs under way -/

/-- A file system that a run has come to, which has attempted to write these files. -/
structure Underway (base : FileSystem) (config : Config) (attempts : List Draft) (fs : FileSystem) :
    Prop where
  overlays : Overlays base attempts fs
  tree : fs.IsTree
  classFiles : ∀ draft ∈ attempts, IsClassFile config.root draft.path

namespace Underway

variable {base fs : FileSystem} {config : Config} {attempts : List Draft}

theorem start (h : base.IsTree) : Underway base config [] base :=
  ⟨.refl base, h, nofun⟩

theorem isFamily (h : Underway base config attempts fs) :
    ∀ draft ∈ attempts, FileSystem.IsFamily config.root draft.path :=
  fun draft hdraft => (h.classFiles draft hdraft).isFamily

/-- What stands at a place is a file after the run if it was before, unless a class goes there. -/
theorem find_eq_file_iff (h : Underway base config attempts fs) {location : Location}
    (hlocation : base.filesAfter attempts location = none) {bytes : List UInt8} :
    fs.find location = some (.file bytes) ↔ base.find location = some (.file bytes) := by
  rw [h.overlays.find, FileSystem.after, hlocation, Option.none_or]
  cases base.find location with
  | some entry => rw [Option.some_or]
  | none =>
    rw [Option.none_or]
    constructor
    · intro hmade
      cases (FileSystem.directoriesAfter_eq_some hmade).1
    · intro hnone
      cases hnone

theorem isDirectory_eq (h : Underway base config attempts fs) {location : Location}
    (hsome : (base.find location).isSome = true) :
    fs.isDirectory location = base.isDirectory location := by
  by_cases hdirectory : base.isDirectory location = true
  · rw [hdirectory]
    exact h.overlays.keeps.directories location hdirectory
  · obtain ⟨entry, hentry⟩ := Option.isSome_iff_exists.1 hsome
    rw [FileSystem.isDirectory, FileSystem.isDirectory, h.overlays.find, FileSystem.after, hentry,
      Option.some_or]
    cases hfile : base.filesAfter attempts location with
    | none => rw [Option.none_or]
    | some file =>
      obtain ⟨-, -, -, -, rfl⟩ := FileSystem.filesAfter_eq_some hfile
      rw [FileSystem.isDirectory, hentry] at hdirectory
      simpa using hdirectory

theorem filesAfter_of_isPackageFile (h : Underway base config attempts fs) {place : Location}
    {dir : Path} {name : String} (hname : Path.IsName name)
    (hfile : Go.isPackageFile (dir.join ⟨name⟩) = true) :
    base.filesAfter attempts (place ++ [name]) = none := by
  cases hsome : base.filesAfter attempts (place ++ [name]) with
  | none => rfl
  | some entry =>
    obtain ⟨draft, hdraft, -, hlocate, -⟩ := FileSystem.filesAfter_eq_some hsome
    obtain ⟨package, file, hpackage, hclass, hjava, hpath⟩ := h.classFiles draft hdraft
    have hnames : ∀ other ∈ [package, file], Path.IsName other :=
      List.forall_mem_cons.2 ⟨hpackage, List.forall_mem_singleton.2 hclass⟩
    rw [hpath, base.locate_below _ hnames] at hlocate
    have hlast : file = name := by simpa using congrArg List.getLast? hlocate
    have hgo : (dir.join ⟨name⟩).extension = some "go" := by
      rw [Go.isPackageFile, Bool.and_eq_true, Go.isGoFile, decide_eq_true_eq] at hfile
      exact hfile.1
    rw [Path.extension_join dir hname, ← hlast, hjava] at hgo
    exact absurd hgo (by decide)

/-- The place of a directory that has nothing to do with the bridges is left alone. -/
theorem find_eq_of_unrelated (h : Underway base config attempts fs)
    (hroot : '/' ∉ config.packageRoot.toList) {dir : Path}
    (hdir : Unrelated base dir config.output) :
    fs.find (base.locate dir) = base.find (base.locate dir) := by
  have hapart : ∀ draft ∈ attempts, ∀ place, place <+: base.locate draft.path →
      place ≠ base.locate dir := by
    rintro draft hdraft place hplace rfl
    obtain ⟨package, file, -, hlocate⟩ := (h.isFamily draft hdraft).locate_eq base
    rw [hlocate, Config.locate_root hroot, List.append_assoc] at hplace
    rcases List.prefix_or_prefix_of_prefix hplace (List.prefix_append _ _) with hunder | hunder
    · exact hdir.1 hunder
    · exact hdir.2 hunder
  have hfile : base.filesAfter attempts (base.locate dir) = none := by
    cases hsome : base.filesAfter attempts (base.locate dir) with
    | none => rfl
    | some entry =>
      obtain ⟨draft, hdraft, -, hlocate, -⟩ := FileSystem.filesAfter_eq_some hsome
      exact absurd hlocate (hapart draft hdraft _ (List.prefix_refl _))
  have hmade : base.directoriesAfter attempts (base.locate dir) = none := by
    cases hsome : base.directoriesAfter attempts (base.locate dir) with
    | none => rfl
    | some entry =>
      obtain ⟨-, draft, hdraft, hmakes⟩ := FileSystem.directoriesAfter_eq_some hsome
      rw [FileSystem.makes, Bool.and_eq_true, Bool.and_eq_true, List.isPrefixOf_iff_prefix] at hmakes
      exact absurd rfl (hapart draft hdraft _ (hmakes.1.2.trans (List.dropLast_prefix _)))
  rw [h.overlays.find, FileSystem.after, hfile, hmade, Option.none_or, Option.or_none]

/-- A directory that is read leads where it did before the run. -/
theorem resolve_eq (h : Underway base config attempts fs) (hbase : base.IsTree)
    (hroot : '/' ∉ config.packageRoot.toList) {dir : Path} (hstraight : dir.IsStraight)
    (hdir : Settled config base dir) : fs.resolve dir = base.resolve dir := by
  -- A straight path leads to its place or nowhere, so only what stands there matters.
  have hplace : (fs.find (base.locate dir)).isSome = (base.find (base.locate dir)).isSome ∧
      fs.isDirectory (base.locate dir) = base.isDirectory (base.locate dir) := by
    rcases hdir with hsome | hunrelated
    · exact ⟨(h.overlays.keeps.entries _ hsome).trans hsome.symm, h.isDirectory_eq hsome⟩
    · rw [FileSystem.isDirectory, FileSystem.isDirectory, h.find_eq_of_unrelated hroot hunrelated]
      exact ⟨rfl, rfl⟩
  have hlocate : fs.locate dir = base.locate dir := by
    rw [FileSystem.locate_congr h.overlays.workingDirectory]
  refine Option.ext fun place => ?_
  rw [h.tree.resolve_eq_some_iff hstraight, hbase.resolve_eq_some_iff hstraight,
    h.overlays.isDirectory_workingDirectory, hlocate]
  refine and_congr_right fun _ => and_congr_right fun _ => and_congr_right ?_
  rintro rfl
  rw [hplace.1, hplace.2]

/-- **A package is read** as it would be before the run. -/
theorem declared_eq (h : Underway base config attempts fs) (hbase : base.IsTree)
    (hroot : '/' ∉ config.packageRoot.toList) {gopath : Option String} {source : Source}
    (hsource : Apart config gopath base source) :
    source.declared gopath fs = source.declared gopath base := by
  unfold Source.declared
  cases hdir : source.dir gopath with
  | error e => rfl
  | ok dir =>
    obtain ⟨hstraight, happart⟩ := hsource dir hdir
    have hresolve := h.resolve_eq hbase hroot hstraight happart
    dsimp only
    rw [Go.packageAt_congr hbase h.tree hresolve]
    intro place hplace
    have hsome := ((hbase.resolve_eq_some_iff hstraight).1 hplace).2.2.2.1
    refine ⟨h.isDirectory_eq hsome, fun name bytes hfile => ?_⟩
    by_cases hname : Path.IsName name
    · exact h.find_eq_file_iff (h.filesAfter_of_isPackageFile hname hfile)
    · -- Without a proper name, there is no entry in either tree.
      have hnone : ∀ {fs : FileSystem}, fs.IsTree → fs.find (place ++ [name]) ≠ some (.file bytes) :=
        fun htree hfound => hname (htree.names place name (by rw [hfound]; rfl))
      exact ⟨fun hfound => absurd hfound (hnone h.tree), fun hfound => absurd hfound (hnone hbase)⟩

end Underway

def attemptsOf (base : FileSystem) (config : Config) (gopath : Option String) (source : Source) :
    List Draft :=
  match source.declared gopath base with
  | .error _ => []
  | .ok decls => base.attempted (decls.flatMap (drafts config))

def resultOf (base : FileSystem) (config : Config) (gopath : Option String) (source : Source) :
    Except Failure (List BridgeFiles) :=
  match source.declared gopath base with
  | .error e => .error (.read e)
  | .ok decls =>
    ((base.verdicts (decls.flatMap (drafts config))).map fun _ =>
      collect config [] decls).mapError .write

namespace Underway

variable {base fs : FileSystem} {config : Config} {attempts : List Draft} {gopath : Option String}

theorem writePackage (h : Underway base config attempts fs) (hbase : base.IsTree)
    (hroot : '/' ∉ config.packageRoot.toList) (houtput : config.output.IsStraight) {source : Source}
    (hsource : Apart config gopath base source) :
    ∃ mid, (writePackage config gopath source : StateM FileSystem _).run fs =
        (resultOf base config gopath source, mid) ∧
      Underway base config (attempts ++ attemptsOf base config gopath source) mid := by
  rw [writePackage_run, h.declared_eq hbase hroot hsource, resultOf, attemptsOf]
  cases hdecls : source.declared gopath base with
  | error e => exact ⟨fs, rfl, by rwa [List.append_nil]⟩
  | ok decls =>
    have hclass := isClassFile_of_mem_drafts hroot (Source.isPackageName_of_declared hdecls)
    obtain ⟨hresult, hoverlays⟩ := h.overlays.storeAll h.isFamily
      (Config.isStraight_root hroot houtput) h.tree fun draft hdraft => (hclass draft hdraft).isFamily
    dsimp only
    rw [hresult]
    refine ⟨_, rfl, hoverlays, h.tree.storeAll _, ?_⟩
    refine List.forall_mem_append.2 ⟨h.classFiles, fun draft hdraft => ?_⟩
    exact hclass draft (base.attempted_subset _ hdraft)

/-- **A run on the way** comes, package by package, to what each would come to before it. -/
theorem writePackages (h : Underway base config attempts fs) (hbase : base.IsTree)
    (hroot : '/' ∉ config.packageRoot.toList) (houtput : config.output.IsStraight)
    {sources : List Source} (hsources : ∀ source ∈ sources, Apart config gopath base source) :
    ∃ final, (writePackages config gopath sources : StateM FileSystem _).run fs =
        (sources.map fun source => ⟨source.label, resultOf base config gopath source⟩, final) ∧
      Underway base config (attempts ++ sources.flatMap (attemptsOf base config gopath)) final := by
  induction sources generalizing fs attempts with
  | nil => exact ⟨fs, rfl, by rwa [List.flatMap_nil, List.append_nil]⟩
  | cons source sources ih =>
    rw [List.forall_mem_cons] at hsources
    obtain ⟨mid, hfirst, hmid⟩ := h.writePackage hbase hroot houtput hsources.1
    obtain ⟨final, hrest, hfinal⟩ := ih hmid hsources.2
    refine ⟨final, writePackages_cons config gopath source sources hfirst hrest, ?_⟩
    rw [List.flatMap_cons, ← List.append_assoc]
    exact hfinal

end Underway

end Run

end ReactBridge
