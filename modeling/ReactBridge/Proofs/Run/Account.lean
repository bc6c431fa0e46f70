import Mathlib.Data.Finset.Card
import Mathlib.Data.Finset.Image
import ReactBridge.Proofs.Bridge.Lifecycle
import ReactBridge.Proofs.Run.Generate

/-!
# What a run makes, and what it counts

The number in a report is found from what the packages tell of after the run. Here it is compared
with the files that are made during the run, which is watched for that: a package that fails may
have made files, but tells of none.

* `Watched.Makes` : the paths of the files that were made from one moment to another;
* `writePackages_watched` : watching a run changes nothing;
* `writeFile_makes`, `writeBridge_makes`, `writeBridges_makes` : what is made for a class, for a
  bridge, for several of them;
* `Account`, `accounts` : what became of each package, and what it made;
* `generatedFiles_accounts` : a run counts the files that packages made without a failure.
-/

namespace ReactBridge

/-! ## Files that are made -/

namespace Watched

variable {σ Handle : Type} {files files' files'' : Watched σ Handle} {made more : List Path}

/-- The paths of the files that were made from one moment to another. -/
def Makes (files files' : Watched σ Handle) (made : List Path) : Prop :=
  files'.created = files.created ++ made

theorem makes_nothing (h : files'.created = files.created) : files.Makes files' [] := by
  rw [Makes, h, List.append_nil]

theorem Makes.trans (h : files.Makes files' made) (h' : files'.Makes files'' more) :
    files.Makes files'' (made ++ more) := by
  rw [Makes, h', h, List.append_assoc]

end Watched

namespace Go

variable {σ Handle : Type} [Files (StateM σ) Handle]

/-! ## Watching changes nothing -/

theorem readAt_watched (path : EntryPath) :
    (readAt path : StateM (Watched σ Handle) _) = Watched.lift (readAt path) := by
  unfold readAt
  rw [Watched.lift_bind]
  refine congrArg _ (funext fun text => ?_)
  cases text <;> rfl

theorem regularFiles_watched (paths : List EntryPath) :
    (regularFiles paths : StateM (Watched σ Handle) _) = Watched.lift (regularFiles paths) := by
  induction paths with
  | nil => rfl
  | cons path paths ih =>
    unfold regularFiles
    rw [ih, Watched.lift_bind]
    rfl

theorem readSources_watched (paths : List EntryPath) :
    (readSources paths : StateM (Watched σ Handle) _) = Watched.lift (readSources paths) := by
  induction paths with
  | nil => rfl
  | cons path paths ih =>
    unfold readSources
    rw [readAt_watched, ih, Watched.lift_bind]
    refine congrArg _ (funext fun source => ?_)
    cases source <;> rfl

theorem readPackage_watched (dir : Path) :
    (readPackage dir : StateM (Watched σ Handle) _) = Watched.lift (readPackage dir) := by
  unfold readPackage
  rw [Watched.lift_bind]
  refine congrArg _ (funext fun names => ?_)
  cases names with
  | none => rfl
  | some names =>
    dsimp only
    rw [Watched.lift_bind, sourcePaths, regularFiles_watched]
    exact congrArg _ (funext readSources_watched)

end Go

section
variable {σ Handle : Type} [Files (StateM σ) Handle]

theorem Source.declarations_watched (gopath : Option String) (source : Source) :
    (source.declarations gopath : StateM (Watched σ Handle) _) =
      Watched.lift (source.declarations gopath) := by
  unfold declarations
  cases source.dir gopath with
  | error e => rfl
  | ok dir =>
    dsimp only
    rw [Go.readPackage_watched]
    rfl

namespace Bridge

theorem writeFile_watched (kind : Kind) (config : Config) (decl : Declaration) :
    Watched.Same (writeFile kind config decl : StateM (Watched σ Handle) _)
      (writeFile kind config decl) := by
  refine (Builder.build_watched _ decl).bind ?_
  rintro ⟨built, builder⟩
  exact (Builder.close_watched builder).bind fun _ => Watched.same_pure _

theorem writeBridge_watched (config : Config) (decl : Declaration) :
    Watched.Same (writeBridge config decl : StateM (Watched σ Handle) _)
      (writeBridge config decl) := by
  unfold writeBridge
  split
  · exact Watched.same_pure _
  refine (writeFile_watched _ config decl).bind fun moduleFile => ?_
  cases moduleFile with
  | error e => exact Watched.same_pure _
  | ok moduleFile =>
    refine (writeFile_watched _ config decl).bind fun packageFile => ?_
    cases packageFile <;> exact Watched.same_pure _

end Bridge

namespace Run
open Bridge

theorem writeBridges_watched (config : Config) (bridges : List BridgeFiles)
    (decls : List Declaration) :
    Watched.Same (writeBridges config bridges decls : StateM (Watched σ Handle) _)
      (writeBridges config bridges decls) := by
  induction decls generalizing bridges with
  | nil => exact Watched.same_pure _
  | cons decl decls ih =>
    refine (writeBridge_watched config decl).bind fun result => ?_
    match result with
    | .error e => exact Watched.same_pure _
    | .ok none => exact ih bridges
    | .ok (some bridge) => exact ih _

theorem writePackage_watched (config : Config) (gopath : Option String) (source : Source) :
    Watched.Same (writePackage config gopath source : StateM (Watched σ Handle) _)
      (writePackage config gopath source) := by
  unfold writePackage
  rw [Source.declarations_watched]
  refine (Watched.same_lift _).bind fun decls => ?_
  cases decls with
  | error e => exact Watched.same_pure _
  | ok decls => exact writeBridges_watched config [] decls

theorem writePackages_watched (config : Config) (gopath : Option String) (sources : List Source) :
    Watched.Same (writePackages config gopath sources : StateM (Watched σ Handle) _)
      (writePackages config gopath sources) := by
  induction sources with
  | nil => exact Watched.same_pure _
  | cons source sources ih =>
    exact (writePackage_watched config gopath source).bind fun _ =>
      ih.bind fun _ => Watched.same_pure _

end Run

/-! ## What is made -/

namespace Bridge
open Java

/-- **For a class** its file is made, also if the class cannot be written then; or nothing is, and
that is the failure that is told. -/
theorem writeFile_makes (kind : Kind) (config : Config) (decl : Declaration)
    (files : Watched σ Handle) : ∃ (result : Except WriteError Path) (files' : Watched σ Handle),
      (writeFile kind config decl : StateM (Watched σ Handle) _).run files = (result, files') ∧
        (files.Makes files' [] ∧ result = .error (.create (kind.target config decl.packageName)) ∨
          files.Makes files' [kind.target config decl.packageName] ∧
            ∀ path, result = .ok path → path = kind.target config decl.packageName) := by
  have hpath : (Builder.create kind config : Builder Handle).target decl.packageName =
      kind.target config decl.packageName := Builder.target_eq _ _
  rcases hcreate : (Files.create (kind.target config decl.packageName) :
    StateM σ (Option Handle)).run files.state with ⟨_ | handle, s⟩
  · have hrun := writeFile_of_build (Builder.build_of_no_file ⟨""⟩ hpath hcreate) rfl
    exact ⟨_, _, hrun, .inl ⟨Watched.makes_nothing rfl, rfl⟩⟩
  · obtain ⟨built, writer, s', hbuild, -, hopen, -⟩ := Builder.build_of_file ⟨""⟩ hpath hcreate
    obtain ⟨safe, files', hclose, hcreated, -⟩ := Builder.close_of_emitting hopen
      { files with state := s', created := files.created ++ [kind.target config decl.packageName] }
    refine ⟨_, files', writeFile_of_build hbuild hclose, .inr ⟨hcreated, fun path hok => ?_⟩⟩
    cases built with
    | error e => cases hok
    | ok =>
      cases safe with
      | error e => cases hok
      | ok => exact (Except.ok.inj hok).symm

def pathsOf (bridges : List BridgeFiles) : List Path :=
  bridges.flatMap fun bridge => [bridge.moduleFile, bridge.packageFile]

/-- **For a bridge** no files are made but its own, and both of them if it is told of. -/
theorem writeBridge_makes (config : Config) (decl : Declaration) (files : Watched σ Handle) :
    ∃ (result : Except WriteError (Option BridgeFiles)) (files' : Watched σ Handle)
        (made : List Path),
      (writeBridge config decl : StateM (Watched σ Handle) _).run files = (result, files') ∧
        files.Makes files' made ∧ made ⊆ pathsOf [bridgeOf config decl] ∧
          match result with
          | .error _ => True
          | .ok none => made = []
          | .ok (some bridge) => made = pathsOf [bridge] := by
  unfold writeBridge
  split
  · exact ⟨_, _, _, rfl, Watched.makes_nothing rfl, List.nil_subset _, rfl⟩
  obtain ⟨result, files', hrun, hmakes⟩ :=
    writeFile_makes (.module goTypes.apply) config decl files
  rw [run_bind_of_run hrun]
  cases result with
  | error e =>
    rcases hmakes with ⟨hmade, -⟩ | ⟨hmade, -⟩
    · exact ⟨_, _, _, rfl, hmade, List.nil_subset _, trivial⟩
    · exact ⟨_, _, _, rfl, hmade, by simp [pathsOf, bridgeOf], trivial⟩
  | ok moduleFile =>
    obtain ⟨hmade, hpath⟩ := hmakes.resolve_left fun h => by cases h.2
    obtain rfl := hpath _ rfl
    obtain ⟨result', files'', hrun', hmakes'⟩ := writeFile_makes .package config decl files'
    dsimp only
    rw [run_bind_of_run hrun']
    cases result' with
    | error e =>
      rcases hmakes' with ⟨hmade', -⟩ | ⟨hmade', -⟩
      · exact ⟨_, _, _, rfl, hmade.trans hmade', by simp [pathsOf, bridgeOf], trivial⟩
      · exact ⟨_, _, _, rfl, hmade.trans hmade', by simp [pathsOf, bridgeOf], trivial⟩
    | ok packageFile =>
      obtain ⟨hmade', hpath'⟩ := hmakes'.resolve_left fun h => by cases h.2
      obtain rfl := hpath' _ rfl
      exact ⟨_, _, _, rfl, hmade.trans hmade', by simp [pathsOf, bridgeOf], rfl⟩

end Bridge

namespace Run
open Bridge

/-- Files as they are told apart in a report: by the components of their paths. -/
def componentsOf (paths : List Path) : Finset (List Path.Component) :=
  (paths.map Path.components).toFinset

theorem mem_componentsOf {paths : List Path} {components : List Path.Component} :
    components ∈ componentsOf paths ↔ ∃ path ∈ paths, path.components = components := by
  rw [componentsOf, List.mem_toFinset, List.mem_map]

@[simp]
theorem componentsOf_append (paths more : List Path) :
    componentsOf (paths ++ more) = componentsOf paths ∪ componentsOf more := by
  rw [componentsOf, List.map_append, List.toFinset_append]
  rfl

theorem componentsOf_addBridge (bridges : List BridgeFiles) (bridge : BridgeFiles) :
    componentsOf (pathsOf (addBridge bridges bridge)) =
      componentsOf (pathsOf bridges) ∪ componentsOf (pathsOf [bridge]) := by
  unfold addBridge
  split
  · next hsame =>
    obtain ⟨other, hother, hsame⟩ := List.any_eq_true.1 hsame
    rw [sameFiles, Bool.and_eq_true, Path.same, Path.same, decide_eq_true_eq,
      decide_eq_true_eq] at hsame
    refine (Finset.union_eq_left.2 fun components hmem => ?_).symm
    obtain ⟨path, hpath, rfl⟩ := mem_componentsOf.1 hmem
    have hfiles : ∀ path ∈ [other.moduleFile, other.packageFile], path ∈ pathsOf bridges :=
      fun path hpath => List.mem_flatMap.2 ⟨other, hother, hpath⟩
    rw [mem_componentsOf]
    rcases List.mem_pair.1 hpath with rfl | rfl
    · exact ⟨_, hfiles _ List.mem_cons_self, hsame.1.symm⟩
    · exact ⟨_, hfiles _ (List.mem_pair.2 (.inr rfl)), hsame.2.symm⟩
  · rw [pathsOf, List.flatMap_append, componentsOf_append]
    rfl

/-- **For bridges** no files are made but theirs. Those that are told of in the end are the ones that
were before, and the ones that were made. -/
theorem writeBridges_makes (config : Config) (bridges : List BridgeFiles) (decls : List Declaration)
    (files : Watched σ Handle) :
    ∃ (result : Except Failure (List BridgeFiles)) (files' : Watched σ Handle) (made : List Path),
      (writeBridges config bridges decls : StateM (Watched σ Handle) _).run files =
          (result, files') ∧
        files.Makes files' made ∧
          (∀ path ∈ made, ∃ decl ∈ decls, path ∈ pathsOf [bridgeOf config decl]) ∧
            match result with
            | .error _ => True
            | .ok all =>
              componentsOf (pathsOf all) = componentsOf (pathsOf bridges) ∪ componentsOf made := by
  induction decls generalizing bridges files with
  | nil =>
    exact ⟨.ok bridges, files, [], rfl, Watched.makes_nothing rfl, by simp,
      (Finset.union_empty _).symm⟩
  | cons decl decls ih =>
    obtain ⟨result, files', made, hrun, hmakes, hmade, htold⟩ := writeBridge_makes config decl files
    have hfirst : ∀ path ∈ made, ∃ other ∈ decl :: decls, path ∈ pathsOf [bridgeOf config other] :=
      fun path hpath => ⟨decl, List.mem_cons_self, hmade hpath⟩
    have hmore : ∀ {more : List Path},
        (∀ path ∈ more, ∃ other ∈ decls, path ∈ pathsOf [bridgeOf config other]) →
          ∀ path ∈ made ++ more, ∃ other ∈ decl :: decls, path ∈ pathsOf [bridgeOf config other] := by
      intro more h path hpath
      rcases List.mem_append.1 hpath with hpath | hpath
      · exact hfirst path hpath
      · obtain ⟨other, hother, hpath⟩ := h path hpath
        exact ⟨other, List.mem_cons_of_mem _ hother, hpath⟩
    rw [writeBridges, run_bind_of_run hrun]
    rcases result with e | _ | bridge
    · exact ⟨_, _, _, rfl, hmakes, hfirst, trivial⟩
    · -- Nothing was made for a declaration with nothing to bridge.
      obtain rfl : made = [] := htold
      obtain ⟨result', files'', more, hrun', hmakes', hmade', hall⟩ := ih bridges files'
      exact ⟨_, _, _, hrun', hmakes.trans hmakes', hmore hmade', hall⟩
    · obtain rfl : made = pathsOf [bridge] := htold
      obtain ⟨result', files'', more, hrun', hmakes', hmade', hall⟩ :=
        ih (addBridge bridges bridge) files'
      refine ⟨_, _, _, hrun', hmakes.trans hmakes', hmore hmade', ?_⟩
      cases result' with
      | error e => trivial
      | ok all =>
        refine hall.trans ?_
        rw [componentsOf_addBridge, componentsOf_append, Finset.union_assoc]

/-! ## Packages in order -/

/-- What became of a package, and the paths of the files that it made. -/
structure Account where
  outcome : Outcome
  made : List Path

def Account.succeeded (account : Account) : Bool :=
  account.outcome.result.isOk

/-- The accounts of packages, each written from what the ones before it have left. -/
def accounts (config : Config) (gopath : Option String) :
    List Source → Watched σ Handle → List Account
  | [], _ => []
  | source :: sources, files =>
    let (result, files') :=
      (writePackage config gopath source : StateM (Watched σ Handle) _).run files
    ⟨⟨source.label, result⟩, files'.created.drop files.created.length⟩ ::
      accounts config gopath sources files'

theorem accounts_cons {config : Config} {gopath : Option String} {source : Source}
    {sources : List Source} {files files' : Watched σ Handle}
    {result : Except Failure (List BridgeFiles)} {made : List Path}
    (hrun : (writePackage config gopath source : StateM (Watched σ Handle) _).run files =
      (result, files')) (hmakes : files.Makes files' made) :
    accounts config gopath (source :: sources) files =
      ⟨⟨source.label, result⟩, made⟩ :: accounts config gopath sources files' := by
  rw [accounts, hrun]
  dsimp only
  rw [hmakes, List.drop_left]

end Run

end

namespace Bridge

/-! ## In a file system -/

theorem isClassFile_of_mem_pathsOf {config : Config} {decl : Declaration}
    (h : IsPackageName decl.packageName) {path : Path}
    (hpath : path ∈ pathsOf [bridgeOf config decl]) : IsClassFile (bridgeRoot config) path := by
  rcases List.mem_pair.1 hpath with rfl | rfl
  · exact Kind.isClassFile_target _ config h
  · exact Kind.isClassFile_target _ config h

/-- Classes with one place have one path, as it is told apart in a report. -/
theorem IsClassFile.components_eq {root path other : Path} (h : IsClassFile root path)
    (h' : IsClassFile root other) {place : Location}
    (hplace : path.components.foldl FileSystem.move place =
      other.components.foldl FileSystem.move place) : path.components = other.components := by
  obtain ⟨dir, file, hdir, hfile, -, rfl⟩ := h
  obtain ⟨dir', file', hdir', hfile', -, rfl⟩ := h'
  have hnames : ∀ name ∈ [dir, file], Path.IsName name := by simp [hdir, hfile]
  have hnames' : ∀ name ∈ [dir', file'], Path.IsName name := by simp [hdir', hfile']
  have hlocate := FileSystem.locate_below ⟨[], place⟩ root hnames
  have hlocate' := FileSystem.locate_below ⟨[], place⟩ root hnames'
  rw [Path.components_below _ hnames, Path.components_below _ hnames',
    List.append_cancel_left (hlocate.symm.trans (hplace.trans hlocate'))]

end Bridge

namespace Run
open Bridge
open FileSystem (Handle SameDevices bytesOf)

/-- What holds of the account of a package: it has made classes; and unless it has failed, it tells
of what it made, and none of that is a device. -/
structure Account.Sound (config : Config) (fs : FileSystem) (account : Account) : Prop where
  classes : ∀ path ∈ account.made, IsClassFile (bridgeRoot config) path
  told : account.succeeded = true →
    componentsOf (pathsOf (Report.bridgesOf account.outcome)) = componentsOf account.made
  files : account.succeeded = true → ∀ path ∈ account.made, fs.find (fs.locate path) ≠ some .full

theorem Account.Sound.of_sameDevices {config : Config} {fs fs' : FileSystem} {account : Account}
    (h : account.Sound config fs') (hdevices : SameDevices fs fs') : account.Sound config fs := by
  refine ⟨h.classes, h.told, fun hok path hpath hfull => ?_⟩
  refine h.files hok path hpath ?_
  rw [FileSystem.locate_congr hdevices.workingDirectory]
  exact (hdevices.find _).2 hfull

theorem find_ne_full_of_stored {config : Config} {fs fs' : FileSystem} {decls : List Declaration}
    (hstored : fs.storeAll (decls.flatMap (drafts config)) = (.ok (), fs')) {path : Path}
    (hpath : path.components ∈ componentsOf (pathsOf (collect config [] decls))) :
    fs.find (fs.locate path) ≠ some .full := by
  obtain ⟨other, hother, hcomponents⟩ := mem_componentsOf.1 hpath
  obtain ⟨bridge, hbridge, hother⟩ := List.mem_flatMap.1 hother
  obtain ⟨decl, hdecl, hvalid, rfl⟩ := (exists_of_mem_collect hbridge).resolve_left (by simp)
  obtain ⟨draft, hdraft, rfl⟩ : ∃ draft ∈ drafts config decl, draft.path = other := by
    rcases List.mem_pair.1 hother with rfl | rfl
    · exact ⟨_, mem_drafts_iff.2 ⟨hvalid, _, .inl rfl, rfl⟩, rfl⟩
    · exact ⟨_, mem_drafts_iff.2 ⟨hvalid, _, .inr rfl, rfl⟩, rfl⟩
  have hplace : fs.locate path = fs.locate draft.path := by
    rw [FileSystem.locate, FileSystem.locate, hcomponents]
  have hdevices := SameDevices.storeAll fs (decls.flatMap (drafts config))
  rw [hstored] at hdevices
  have hlast := (FileSystem.storeAll_eq_ok hstored).2.2 (fs.locate path)
  rw [ne_eq, ← hdevices.find]
  cases hlastAt : fs.lastAt (decls.flatMap (drafts config)) (fs.locate path) with
  | none =>
    have hmem := List.mem_flatMap.2 ⟨decl, hdecl, hdraft⟩
    exact absurd hplace.symm (FileSystem.lastAt_eq_none.1 hlastAt draft hmem)
  | some last =>
    rw [hlastAt] at hlast
    rw [hlast]
    intro hfull
    cases hfull

/-- **One package** makes classes only, and tells of those that it made unless it fails. -/
theorem writePackage_makes (config : Config) (gopath : Option String) (source : Source)
    (files : Watched FileSystem Handle) :
    ∃ (result : Except Failure (List BridgeFiles)) (files' : Watched FileSystem Handle)
        (made : List Path),
      (writePackage config gopath source : StateM (Watched FileSystem Handle) _).run files =
          (result, files') ∧
        files.Makes files' made ∧ SameDevices files.state files'.state ∧
          Account.Sound config files.state ⟨⟨source.label, result⟩, made⟩ := by
  have hread : (source.declarations gopath : StateM (Watched FileSystem Handle) _).run files =
      (source.declared gopath files.state, files) := by
    rw [source.declarations_watched]
    exact Watched.lift_run (source.declarations_run gopath files.state)
  have hplain := writePackage_run config gopath source files.state
  have hsame := writePackage_watched config gopath source files
  rw [hplain, writePackage, run_bind_of_run hread] at hsame
  rw [writePackage, run_bind_of_run hread]
  cases hdecls : source.declared gopath files.state with
  | error e =>
    have hfails : ∀ {p : Prop}, false = true → p := fun h => absurd h Bool.false_ne_true
    exact ⟨_, files, [], rfl, Watched.makes_nothing rfl, .refl _, by simp, hfails, hfails⟩
  | ok decls =>
    obtain ⟨result, files', made, hrun, hmakes, hmade, hall⟩ :=
      writeBridges_makes config [] decls files
    rw [hdecls] at hsame
    dsimp only at hsame ⊢
    rw [hrun] at hsame ⊢
    have hdevices := SameDevices.storeAll files.state (decls.flatMap (drafts config))
    rcases hstored : files.state.storeAll (decls.flatMap (drafts config)) with ⟨stored, last⟩
    rw [hstored] at hsame hdevices
    obtain ⟨rfl, hlast⟩ := Prod.mk.inj hsame
    obtain rfl : files'.state = last := hlast
    refine ⟨_, _, _, rfl, hmakes, hdevices, ?_, ?_, ?_⟩
    · intro path hpath
      obtain ⟨decl, hdecl, hpath⟩ := hmade path hpath
      exact isClassFile_of_mem_pathsOf (source.isPackageName_of_declared hdecls decl hdecl) hpath
    · intro hok
      cases stored with
      | error e => cases hok
      | ok => exact hall.trans (Finset.empty_union _)
    · intro hok path hpath
      cases stored with
      | error e => cases hok
      | ok =>
        refine find_ne_full_of_stored hstored ?_
        have hfiles : componentsOf (pathsOf (collect config [] decls)) = componentsOf made :=
          hall.trans (Finset.empty_union _)
        rw [hfiles]
        exact mem_componentsOf.2 ⟨path, hpath, rfl⟩

theorem writePackages_makes (config : Config) (gopath : Option String) (sources : List Source)
    (files : Watched FileSystem Handle) : ∃ files' : Watched FileSystem Handle,
      (writePackages config gopath sources : StateM (Watched FileSystem Handle) _).run files =
          ((accounts config gopath sources files).map Account.outcome, files') ∧
        files.Makes files' ((accounts config gopath sources files).flatMap Account.made) ∧
          ∀ account ∈ accounts config gopath sources files, account.Sound config files.state := by
  induction sources generalizing files with
  | nil => exact ⟨files, rfl, Watched.makes_nothing rfl, by simp [accounts]⟩
  | cons source sources ih =>
    obtain ⟨result, mid, made, hrun, hmakes, hdevices, hsound⟩ :=
      writePackage_makes config gopath source files
    obtain ⟨last, hrest, hmakes', hsounds⟩ := ih mid
    refine ⟨last, ?_⟩
    rw [accounts_cons hrun hmakes]
    refine ⟨writePackages_cons config gopath source sources hrun hrest, hmakes.trans hmakes',
      List.forall_mem_cons.2 ⟨hsound, fun account haccount => ?_⟩⟩
    exact (hsounds account haccount).of_sameDevices hdevices

/-! ## Counting -/

/-- The places of the files at paths. A device is no file. -/
def filesIn (fs : FileSystem) (paths : List Path) : Finset Location :=
  (paths.map fs.locate).toFinset.filter fun place => fs.find place ≠ some .full

/-- The paths of the files that packages made without a failure. -/
def madeWhole (packages : List Account) : List Path :=
  (packages.filter Account.succeeded).flatMap Account.made

theorem generatedFiles_eq_card (outcomes : List Outcome) :
    Report.generatedFiles outcomes = (componentsOf (Report.filesOf outcomes)).card := by
  rw [Report.generatedFiles, ← List.toFinset_card_of_nodup (FileSystem.nodup_eraseDups _),
    componentsOf]
  congr 1
  ext components
  rw [List.mem_toFinset, List.mem_toFinset, List.mem_eraseDups]

/-- A report tells of the files that packages made without a failure. -/
theorem componentsOf_filesOf {config : Config} {fs : FileSystem} {packages : List Account}
    (h : ∀ account ∈ packages, account.Sound config fs) :
    componentsOf (Report.filesOf (packages.map Account.outcome)) =
      componentsOf (madeWhole packages) := by
  induction packages with
  | nil => rfl
  | cons account packages ih =>
    rw [List.forall_mem_cons] at h
    have hsplit : Report.filesOf ((account :: packages).map Account.outcome) =
        pathsOf (Report.bridgesOf account.outcome) ++
          Report.filesOf (packages.map Account.outcome) := by
      rw [Report.filesOf, List.map_cons, List.flatMap_cons, List.flatMap_append]
      rfl
    rw [hsplit, componentsOf_append, ih h.2]
    cases hok : account.succeeded with
    | true =>
      have hwhole : madeWhole (account :: packages) = account.made ++ madeWhole packages := by
        rw [madeWhole, List.filter_cons_of_pos hok]
        rfl
      rw [hwhole, componentsOf_append, h.1.told hok]
    | false =>
      have hwhole : madeWhole (account :: packages) = madeWhole packages := by
        rw [madeWhole, List.filter_cons_of_neg (by rw [hok]; exact Bool.false_ne_true)]
        rfl
      have hnothing : Report.bridgesOf account.outcome = [] := by
        unfold Report.bridgesOf
        split
        · next bridges hbridges =>
          rw [Account.succeeded, hbridges] at hok
          cases hok
        · rfl
      rw [hwhole, hnothing]
      exact Finset.empty_union _

/-- Classes that are no devices are told apart by their places as they are by their paths. -/
theorem card_filesIn {root : Path} {fs : FileSystem} {paths : List Path}
    (hclasses : ∀ path ∈ paths, IsClassFile root path)
    (hfiles : ∀ path ∈ paths, fs.find (fs.locate path) ≠ some .full) :
    (filesIn fs paths).card = (componentsOf paths).card := by
  have himage : filesIn fs paths = (componentsOf paths).image fun components =>
      components.foldl FileSystem.move fs.workingDirectory := by
    ext place
    rw [filesIn, Finset.mem_filter, List.mem_toFinset, List.mem_map, Finset.mem_image]
    constructor
    · rintro ⟨⟨path, hpath, rfl⟩, -⟩
      exact ⟨path.components, mem_componentsOf.2 ⟨path, hpath, rfl⟩, rfl⟩
    · rintro ⟨components, hcomponents, rfl⟩
      obtain ⟨path, hpath, rfl⟩ := mem_componentsOf.1 hcomponents
      exact ⟨⟨path, hpath, rfl⟩, hfiles path hpath⟩
  rw [himage]
  refine Finset.card_image_of_injOn fun components hcomponents components' hcomponents' hplace => ?_
  obtain ⟨path, hpath, rfl⟩ := mem_componentsOf.1 (Finset.mem_coe.1 hcomponents)
  obtain ⟨path', hpath', rfl⟩ := mem_componentsOf.1 (Finset.mem_coe.1 hcomponents')
  exact (hclasses path hpath).components_eq (hclasses path' hpath') hplace

theorem mem_madeWhole {packages : List Account} {path : Path} :
    path ∈ madeWhole packages ↔
      ∃ account ∈ packages, account.succeeded = true ∧ path ∈ account.made := by
  simp only [madeWhole, List.mem_flatMap, List.mem_filter, and_assoc]

theorem filesIn_madeWhole_subset (fs : FileSystem) (packages : List Account) :
    filesIn fs (madeWhole packages) ⊆ filesIn fs (packages.flatMap Account.made) := by
  refine Finset.filter_subset_filter _ fun place hplace => ?_
  rw [List.mem_toFinset, List.mem_map] at hplace ⊢
  obtain ⟨path, hpath, rfl⟩ := hplace
  obtain ⟨account, haccount, -, hpath⟩ := mem_madeWhole.1 hpath
  exact ⟨path, List.mem_flatMap.2 ⟨account, haccount, hpath⟩, rfl⟩

theorem generatedFiles_of_sound {config : Config} {fs : FileSystem} {packages : List Account}
    (h : ∀ account ∈ packages, account.Sound config fs) :
    Report.generatedFiles (packages.map Account.outcome) =
      (filesIn fs (madeWhole packages)).card := by
  have hclasses : ∀ path ∈ madeWhole packages, IsClassFile (bridgeRoot config) path := by
    intro path hpath
    obtain ⟨account, haccount, -, hpath⟩ := mem_madeWhole.1 hpath
    exact (h account haccount).classes path hpath
  have hfiles : ∀ path ∈ madeWhole packages, fs.find (fs.locate path) ≠ some .full := by
    intro path hpath
    obtain ⟨account, haccount, hok, hpath⟩ := mem_madeWhole.1 hpath
    exact (h account haccount).files hok path hpath
  rw [generatedFiles_eq_card, componentsOf_filesOf h, card_filesIn hclasses hfiles]

/-- The accounts of the packages of a run on a file system, which is watched from the start. -/
def accountsOf (gopath : Option String) (settings : Settings) (fs : FileSystem) : List Account :=
  accounts settings.bridge gopath settings.sources (⟨fs, [], []⟩ : Watched FileSystem Handle)

/-- **The number in a report** is that of the files that packages made without a failure, each
counted once. So it is the number of all files that the run made exactly if those of the packages
that failed were made by others too. -/
theorem generatedFiles_accounts (gopath : Option String) (settings : Settings) (fs : FileSystem) :
    ((generate gopath settings : StateM FileSystem _).run fs).1 =
        (accountsOf gopath settings fs).map Account.outcome ∧
      ((generate gopath settings : StateM (Watched FileSystem Handle) _).run ⟨fs, [], []⟩).2.created =
        (accountsOf gopath settings fs).flatMap Account.made ∧
      (∀ account ∈ accountsOf gopath settings fs, ∀ path ∈ account.made,
        path.extension = some "java") ∧
      Report.generatedFiles ((accountsOf gopath settings fs).map Account.outcome) =
        (filesIn fs (madeWhole (accountsOf gopath settings fs))).card ∧
      (Report.generatedFiles ((accountsOf gopath settings fs).map Account.outcome) =
          (filesIn fs ((accountsOf gopath settings fs).flatMap Account.made)).card ↔
        filesIn fs ((accountsOf gopath settings fs).flatMap Account.made) ⊆
          filesIn fs (madeWhole (accountsOf gopath settings fs))) := by
  obtain ⟨last, hrun, hmakes, hsound⟩ := writePackages_makes settings.bridge gopath settings.sources
    (⟨fs, [], []⟩ : Watched FileSystem Handle)
  have hsame := writePackages_watched settings.bridge gopath settings.sources
    (⟨fs, [], []⟩ : Watched FileSystem Handle)
  rw [hrun] at hsame
  have hcount := generatedFiles_of_sound hsound
  have hsubset := filesIn_madeWhole_subset fs (accountsOf gopath settings fs)
  refine ⟨(congrArg Prod.fst hsame).symm, ?_, ?_, hcount, ?_⟩
  · rw [generate, hrun]
    exact hmakes
  · exact fun account haccount path hpath => ((hsound account haccount).classes path hpath).extension
  · refine (Eq.congr_left hcount).trans ⟨fun hcard => ?_, fun hall => ?_⟩
    · exact (Finset.eq_of_subset_of_card_le hsubset hcard.ge).ge
    · exact congrArg Finset.card (hsubset.antisymm hall)

/-- A package, and a directory where its package class would go. -/
def blocked : FileSystem :=
  ⟨[([], .directory),
    (["hello"], .directory), (["hello", "a.go"], .file (bytesOf "package hello\nfunc Greet()\n")),
    (["out"], .directory), (["out", "bridge"], .directory), (["out", "bridge", "hello"], .directory),
    (["out", "bridge", "hello", "HelloPackage.java"], .directory)], []⟩

/-- A run on this package. -/
def blockedSettings : Settings :=
  ⟨{ output := ⟨"out"⟩, packageRoot := "" }, [.directory ⟨"hello"⟩]⟩

/-- The module class is written before the package class fails, but does not count. -/
theorem generatedFiles_blocked :
    Report.generatedFiles ((generate none blockedSettings : StateM FileSystem _).run blocked).1 = 0 ∧
      (filesIn blocked ((generate none blockedSettings :
        StateM (Watched FileSystem Handle) _).run ⟨blocked, [], []⟩).2.created).card = 1 := by
  decide +kernel

end Run

end ReactBridge
