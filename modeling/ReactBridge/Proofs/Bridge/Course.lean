import ReactBridge.Proofs.Bridge.Write
import ReactBridge.Proofs.FileSystem.Way

/-!
# The course of a bridge

Two builders write a bridge, one after the other, and each of them builds before it is closed. What
comes of this is told twice: for files of any kind, by what each builder did, and for a file system,
by what stands there afterwards.

* `Finishes`, `Fails` : a builder writes its class and gives the file back, or one of both fails;
* `Course` : how far the two builders come, for files of any kind;
* `Leaves` : what a file system is left with;
* `writeBridge_course` : every bridge runs such a course, and leaves no more than that.
-/

namespace ReactBridge.Bridge
open Java
open FileSystem (MakesWay Stays OnWay bytesOf)

/-! ## One class -/

section

variable {σ Handle : Type} [Files (StateM σ) Handle]

/-- A new builder builds the class, gives its target, and can be closed. -/
def Finishes (kind : Kind) (config : Config) (decl : Declaration) (s s' : σ) : Prop :=
  ∃ (built closed : Builder Handle) (mid : σ),
    ((Builder.create kind config : Builder Handle).build decl : StateM σ _).run s =
        ((.ok (kind.target config decl.packageName), built), mid) ∧
      (built.close : StateM σ _).run mid = ((.ok (), closed), s')

/-- A new builder builds the class and is closed, with an error of the build, or else of the
close. -/
def Fails (kind : Kind) (config : Config) (decl : Declaration) (s : σ) (e : WriteError) (s' : σ) :
    Prop :=
  ∃ (result : Except WriteError Path) (built : Builder Handle) (safe : Except WriteError Unit)
      (closed : Builder Handle) (mid : σ),
    ((Builder.create kind config : Builder Handle).build decl : StateM σ _).run s =
        ((result, built), mid) ∧
      (built.close : StateM σ _).run mid = ((safe, closed), s') ∧
        (result = .error e ∨ (∃ path, result = .ok path) ∧ safe = .error e)

theorem path_of_build {builder built : Builder Handle} {decl : Declaration} {path : Path} {s s' : σ}
    (h : (builder.build decl : StateM σ _).run s = ((.ok path, built), s')) :
    path = builder.kind.target builder.config decl.packageName := by
  rw [Builder.build] at h
  rcases hstart : (builder.start (builder.target decl.packageName) : StateM σ _).run s with
    ⟨⟨started, opened⟩, mid⟩
  rw [run_bind_of_run hstart] at h
  cases started with
  | error e => cases h
  | ok =>
    rcases hwrite : (opened.writer.writeAll (opened.kind.pieces opened.config decl) :
      StateM σ _).run mid with ⟨⟨written, writer⟩, last⟩
    rw [run_bind_of_run hwrite] at h
    cases written with
    | error e => cases h
    | ok =>
      rw [← Builder.target_eq]
      exact (Except.ok.inj (congrArg (fun run => run.1.1) h)).symm

/-- One class is written and given back, or else the failure to build it or to close it is told. -/
theorem writeFile_cases (kind : Kind) (config : Config) (decl : Declaration) (s : σ) :
    (∃ s', Finishes kind config decl s s' ∧ (writeFile kind config decl : StateM σ _).run s =
        (.ok (kind.target config decl.packageName), s')) ∨
      ∃ e s', Fails kind config decl s e s' ∧
        (writeFile kind config decl : StateM σ _).run s = (.error e, s') := by
  rcases hbuild : ((Builder.create kind config : Builder Handle).build decl : StateM σ _).run s with
    ⟨⟨result, built⟩, mid⟩
  rcases hclose : (built.close : StateM σ _).run mid with ⟨⟨safe, closed⟩, s'⟩
  have hrun := writeFile_of_build hbuild hclose
  cases result with
  | error e => exact .inr ⟨e, s', ⟨_, _, _, _, _, hbuild, hclose, .inl rfl⟩, hrun⟩
  | ok path =>
    cases safe with
    | error e => exact .inr ⟨e, s', ⟨_, _, _, _, _, hbuild, hclose, .inr ⟨⟨path, rfl⟩, rfl⟩⟩, hrun⟩
    | ok =>
      obtain rfl := path_of_build hbuild
      exact .inl ⟨s', ⟨_, _, _, hbuild, hclose⟩, hrun⟩

/-! ## Both classes -/

/-- How far the two builders come, the one of the module class first. -/
inductive Course (config : Config) (decl : Declaration) (s : σ) :
    Except WriteError (Option BridgeFiles) → σ → Prop
  /-- There is nothing to bridge, and nothing is done. -/
  | nothing (hnothing : decl.packageName = "" ∨ decl.callables = []) :
    Course config decl s (.ok none) s
  | moduleFails {e : WriteError} {s' : σ} (hname : decl.packageName ≠ "")
    (hcallables : decl.callables ≠ []) (hmodule : Fails (.module goTypes.apply) config decl s e s') :
    Course config decl s (.error e) s'
  | packageFails {e : WriteError} {mid s' : σ} (hname : decl.packageName ≠ "")
    (hcallables : decl.callables ≠ []) (hmodule : Finishes (.module goTypes.apply) config decl s mid)
    (hpackage : Fails .package config decl mid e s') :
    Course config decl s (.error e) s'
  | written {mid s' : σ} (hname : decl.packageName ≠ "") (hcallables : decl.callables ≠ [])
    (hmodule : Finishes (.module goTypes.apply) config decl s mid)
    (hpackage : Finishes .package config decl mid s') :
    Course config decl s (.ok (some (bridgeOf config decl))) s'

theorem isValid_iff {decl : Declaration} :
    decl.isValid = true ↔ decl.packageName ≠ "" ∧ decl.callables ≠ [] := by
  simp [Declaration.isValid, Declaration.callables]

theorem course_writeBridge (config : Config) (decl : Declaration) (s : σ) :
    Course config decl s ((writeBridge config decl : StateM σ _).run s).1
      ((writeBridge config decl : StateM σ _).run s).2 := by
  rw [writeBridge]
  by_cases hvalid : decl.isValid = true
  · obtain ⟨hname, hcallables⟩ := isValid_iff.1 hvalid
    rw [if_neg (by rw [hvalid]; decide)]
    rcases writeFile_cases (.module goTypes.apply) config decl s with
      ⟨mid, hmodule, hrun⟩ | ⟨e, s', hmodule, hrun⟩
    · rw [run_bind_of_run hrun]
      rcases writeFile_cases .package config decl mid with
        ⟨s', hpackage, hrun'⟩ | ⟨e, s', hpackage, hrun'⟩
      · rw [run_bind_of_run hrun']
        exact .written hname hcallables hmodule hpackage
      · rw [run_bind_of_run hrun']
        exact .packageFails hname hcallables hmodule hpackage
    · rw [run_bind_of_run hrun]
      exact .moduleFails hname hcallables hmodule
  · have hnothing : decl.packageName = "" ∨ decl.callables = [] := by
      simpa only [isValid_iff, not_and_or, not_not] using hvalid
    rw [if_pos (by simpa using hvalid)]
    exact .nothing hnothing

end

/-! ## In a file system -/

section

variable {kind : Kind} {config : Config} {decl : Declaration} {fs fs' : FileSystem}

def Complete (kind : Kind) (config : Config) (decl : Declaration) (fs : FileSystem) : Prop :=
  fs.entryAt (kind.target config decl.packageName) = some (.file (bytesOf (kind.text config decl)))

theorem Finishes.store (h : Finishes kind config decl fs fs') :
    fs.store (kind.draft config decl) = (.ok (), fs') := by
  obtain ⟨built, closed, mid, hbuild, hclose⟩ := h
  have hrun := (writeFile_of_build hbuild hclose).symm.trans (writeFile_run kind config decl fs)
  obtain ⟨hresult, hfs⟩ := Prod.mk.inj hrun
  rcases hstore : fs.store (kind.draft config decl) with ⟨_ | _, last⟩
  · rw [hstore] at hresult
    cases hresult
  · rw [hfs, hstore]

theorem Fails.store {e : WriteError} (h : Fails kind config decl fs e fs') :
    fs.store (kind.draft config decl) = (.error e, fs') := by
  obtain ⟨result, built, safe, closed, mid, hbuild, hclose, herror⟩ := h
  have hrun := (writeFile_of_build hbuild hclose).symm.trans (writeFile_run kind config decl fs)
  have hfails : (do let path ← result; safe; return path : Except WriteError Path) = .error e := by
    rcases herror with rfl | ⟨⟨path, rfl⟩, rfl⟩ <;> rfl
  obtain ⟨hresult, hfs⟩ := Prod.mk.inj hrun
  rcases hstore : fs.store (kind.draft config decl) with ⟨e' | _, last⟩
  · rw [hstore] at hresult
    rw [hfs, hstore]
    exact congrArg (fun e => (Except.error e, last)) (Except.error.inj (hresult.symm.trans hfails))
  · rw [hstore] at hresult
    cases hresult.symm.trans hfails

theorem Finishes.complete (h : Finishes kind config decl fs fs') :
    Complete kind config decl fs' := by
  have hentry := FileSystem.entryAt_store h.store
  exact hentry

theorem Fails.makesWay {e : WriteError} (h : Fails kind config decl fs e fs') :
    MakesWay fs (kind.target config decl.packageName) fs' :=
  FileSystem.store_eq_error h.store

/-- A builder that finishes changes its target, and makes directories on the way to it. -/
theorem Finishes.stays (h : Finishes kind config decl fs fs') (place : Location) :
    Stays (fs.OnWay (kind.target config decl.packageName)) fs fs' place ∨
      place = fs.locate (kind.target config decl.packageName) ∧
        fs'.find place = some (.file (bytesOf (kind.text config decl))) := by
  by_cases hplace : place = fs.locate (kind.target config decl.packageName)
  · subst hplace
    exact .inr ⟨rfl, (FileSystem.store_eq_ok h.store).2.2.1⟩
  · exact .inl (FileSystem.stays_of_store h.store hplace)

theorem Finishes.workingDirectory (h : Finishes kind config decl fs fs') :
    fs'.workingDirectory = fs.workingDirectory :=
  (FileSystem.store_eq_ok h.store).1.workingDirectory

/-- On the way to one of the two files of a bridge. -/
def OnBridgeWay (config : Config) (decl : Declaration) (fs : FileSystem) (place : Location) : Prop :=
  fs.OnWay (bridgeOf config decl).moduleFile place ∨ fs.OnWay (bridgeOf config decl).packageFile place

/-- What a bridge leaves in a file system. -/
structure Leaves (config : Config) (decl : Declaration) (fs : FileSystem)
    (result : Except WriteError (Option BridgeFiles)) (fs' : FileSystem) : Prop where
  nothing : result = .ok none ↔ decl.packageName = "" ∨ decl.callables = []
  unchanged : result = .ok none → fs' = fs
  /-- Both classes are written, the package class last. -/
  written : ∀ files, result = .ok (some files) → files = bridgeOf config decl ∧ ∃ mid,
    Finishes (.module goTypes.apply) config decl fs mid ∧
      Complete (.module goTypes.apply) config decl mid ∧
    Finishes .package config decl mid fs' ∧ Complete .package config decl fs' ∧
      (fs.locate (bridgeOf config decl).moduleFile ≠ fs.locate (bridgeOf config decl).packageFile →
        Complete (.module goTypes.apply) config decl fs')
  /-- Before the module class is written no file changes, and then none but its own. -/
  failed : ∀ e, result = .error e →
    Fails (.module goTypes.apply) config decl fs e fs' ∧
        MakesWay fs (bridgeOf config decl).moduleFile fs' ∨
      ∃ mid, Finishes (.module goTypes.apply) config decl fs mid ∧
        Fails .package config decl mid e fs' ∧
          MakesWay mid (bridgeOf config decl).packageFile fs' ∧
            Complete (.module goTypes.apply) config decl fs'
  /-- No other file changes, and no other entry is new but directories on the way. -/
  elsewhere : ∀ place, Stays (OnBridgeWay config decl fs) fs fs' place ∨
    ∃ kind : Kind, (kind = .module goTypes.apply ∨ kind = .package) ∧
      place = fs.locate (kind.target config decl.packageName) ∧
        fs'.find place = some (.file (bytesOf (kind.text config decl)))

theorem Course.leaves {result : Except WriteError (Option BridgeFiles)}
    (h : Course config decl fs result fs') : Leaves config decl fs result fs' := by
  cases h with
  | nothing hnothing =>
    exact ⟨iff_of_true rfl hnothing, fun _ => rfl, nofun, nofun, fun place => .inl (.refl _ fs place)⟩
  | moduleFails hname hcallables hmodule =>
    refine ⟨iff_of_false nofun (not_or.2 ⟨hname, hcallables⟩), nofun, nofun, ?_, ?_⟩
    · intro e he
      obtain rfl := Except.error.inj he
      exact .inl ⟨hmodule, hmodule.makesWay⟩
    · intro place
      exact .inl ((hmodule.makesWay.stays place).mono .inl)
  | @packageFails _ mid _ hname hcallables hmodule hpackage =>
    have hway := FileSystem.onWay_congr hmodule.workingDirectory
    refine ⟨iff_of_false nofun (not_or.2 ⟨hname, hcallables⟩), nofun, nofun, ?_, ?_⟩
    · intro e he
      obtain rfl := Except.error.inj he
      exact .inr ⟨mid, hmodule, hpackage, hpackage.makesWay,
        hpackage.makesWay.entryAt_file hmodule.complete⟩
    · intro place
      have hlast := hpackage.makesWay.stays place
      rw [hway] at hlast
      rcases hmodule.stays place with hplace | ⟨hplace, hfile⟩
      · exact .inl ((hplace.mono .inl).trans (hlast.mono .inr))
      · exact .inr ⟨_, .inl rfl, hplace, hlast.find_file hfile⟩
  | @written mid _ hname hcallables hmodule hpackage =>
    have hway := FileSystem.onWay_congr hmodule.workingDirectory
    have hlocate := FileSystem.locate_congr hmodule.workingDirectory
    refine ⟨iff_of_false nofun (not_or.2 ⟨hname, hcallables⟩), nofun, ?_, nofun, ?_⟩
    · intro files hfiles
      obtain rfl := Option.some.inj (Except.ok.inj hfiles)
      refine ⟨rfl, mid, hmodule, hmodule.complete, hpackage, hpackage.complete, fun hne => ?_⟩
      apply FileSystem.entryAt_store_of_ne hpackage.store
      · rwa [hlocate]
      · exact hmodule.complete
    · intro place
      rcases hpackage.stays place with hlast | ⟨hplace, hfile⟩
      · rw [hway] at hlast
        rcases hmodule.stays place with hfirst | ⟨hplace, hfile⟩
        · exact .inl ((hfirst.mono .inl).trans (hlast.mono .inr))
        · exact .inr ⟨_, .inl rfl, hplace, hlast.find_file hfile⟩
      · rw [hlocate] at hplace
        exact .inr ⟨_, .inr rfl, hplace, hfile⟩

/-- **Every bridge** runs its course, with files of any kind: nothing is done for a declaration with
nothing to bridge, the module class comes first, and the first failure is told. In a file system
the course leaves the whole classes that were written, directories on the way to them, and
everything else as it was. -/
theorem writeBridge_course (config : Config) (decl : Declaration) :
    (∀ {σ Handle : Type} [Files (StateM σ) Handle] (s : σ),
      Course config decl s ((writeBridge config decl : StateM σ _).run s).1
        ((writeBridge config decl : StateM σ _).run s).2) ∧
    ∀ fs : FileSystem,
      Leaves config decl fs ((writeBridge config decl : StateM FileSystem _).run fs).1
        ((writeBridge config decl : StateM FileSystem _).run fs).2 :=
  ⟨course_writeBridge config decl, fun fs => (course_writeBridge config decl fs).leaves⟩

end

end ReactBridge.Bridge
