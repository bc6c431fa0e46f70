import ReactBridge.Proofs.Bridge.Write
import ReactBridge.Proofs.Source
import ReactBridge.Report.Generate

/-!
# Runs as files stored in order

A run reads a package and writes its bridges, one package after the other. Reading is a function of
the file system, and writing comes to a list of whole files that are stored up to the first failure.

* `collect` : the bridges that a package tells of;
* `writeBridges_run`, `writePackage_run` : a package as files stored in order;
* `writePackages_cons` : a run, one package at a time.
-/

namespace ReactBridge

namespace FileSystem

theorem storeAll_append (fs : FileSystem) (first second : List Draft) :
    fs.storeAll (first ++ second) =
      match fs.storeAll first with
      | (.ok (), fs) => fs.storeAll second
      | (.error e, fs) => (.error e, fs) := by
  induction first generalizing fs with
  | nil => rfl
  | cons draft first ih =>
    rw [List.cons_append, storeAll_cons, storeAll_cons]
    rcases fs.store draft with ⟨result, mid⟩
    cases result with
    | error e => rfl
    | ok => exact ih mid

end FileSystem

namespace Run
open Bridge Java
open FileSystem (Draft)

/-! ## The bridges of a package -/

/-- The bridges of declarations, behind those of earlier ones, each once. -/
def collect (config : Config) (bridges : List BridgeFiles) (decls : List Declaration) :
    List BridgeFiles :=
  ((decls.filter Declaration.isValid).map (bridgeOf config)).foldl addBridge bridges

theorem mem_addBridge {bridges : List BridgeFiles} {bridge other : BridgeFiles}
    (h : other ∈ addBridge bridges bridge) : other ∈ bridges ∨ other = bridge := by
  unfold addBridge at h
  split at h
  · exact .inl h
  · exact (List.mem_append.1 h).imp id List.mem_singleton.1

theorem subset_addBridge (bridges : List BridgeFiles) (bridge : BridgeFiles) :
    bridges ⊆ addBridge bridges bridge := by
  unfold addBridge
  split
  · exact List.Subset.refl _
  · exact List.subset_append_left _ _

theorem sameFiles_refl (bridge : BridgeFiles) : sameFiles bridge bridge = true := by
  simp [sameFiles, Path.same]

theorem exists_sameFiles_addBridge (bridges : List BridgeFiles) (bridge : BridgeFiles) :
    ∃ other ∈ addBridge bridges bridge, sameFiles bridge other = true := by
  unfold addBridge
  split
  · next hsame => exact List.any_eq_true.1 hsame
  · exact ⟨bridge, by simp, sameFiles_refl bridge⟩

/-- A bridge that is told of is that of a declaration. -/
theorem exists_of_mem_collect {config : Config} {bridges : List BridgeFiles}
    {decls : List Declaration} {bridge : BridgeFiles} (h : bridge ∈ collect config bridges decls) :
    bridge ∈ bridges ∨ ∃ decl ∈ decls, decl.isValid = true ∧ bridge = bridgeOf config decl := by
  unfold collect at h
  induction decls generalizing bridges with
  | nil => exact .inl h
  | cons decl decls ih =>
    have hmore : (∃ other ∈ decls, other.isValid = true ∧ bridge = bridgeOf config other) →
        ∃ other ∈ decl :: decls, other.isValid = true ∧ bridge = bridgeOf config other :=
      fun ⟨other, hmem, hother⟩ => ⟨other, List.mem_cons_of_mem _ hmem, hother⟩
    by_cases hvalid : decl.isValid = true
    · rw [List.filter_cons_of_pos hvalid, List.map_cons, List.foldl_cons] at h
      rcases ih h with h | h
      · rcases mem_addBridge h with h | rfl
        · exact .inl h
        · exact .inr ⟨decl, List.mem_cons_self, hvalid, rfl⟩
      · exact .inr (hmore h)
    · rw [List.filter_cons_of_neg hvalid] at h
      exact (ih h).imp id hmore

theorem subset_collect (config : Config) (bridges : List BridgeFiles) (decls : List Declaration) :
    bridges ⊆ collect config bridges decls := by
  unfold collect
  induction (decls.filter Declaration.isValid).map (bridgeOf config) generalizing bridges with
  | nil => exact List.Subset.refl _
  | cons bridge more ih => exact List.Subset.trans (subset_addBridge bridges bridge) (ih _)

/-- Each declaration with something to bridge is told of, by a bridge with the same files. -/
theorem exists_mem_collect {config : Config} {bridges : List BridgeFiles} {decls : List Declaration}
    {decl : Declaration} (hdecl : decl ∈ decls) (hvalid : decl.isValid = true) :
    ∃ bridge ∈ collect config bridges decls, sameFiles (bridgeOf config decl) bridge = true := by
  obtain ⟨front, back, rfl⟩ := List.append_of_mem hdecl
  have hsplit : collect config bridges (front ++ decl :: back) =
      collect config (addBridge (collect config bridges front) (bridgeOf config decl)) back := by
    simp [collect, hvalid]
  obtain ⟨bridge, hbridge, hsame⟩ :=
    exists_sameFiles_addBridge (collect config bridges front) (bridgeOf config decl)
  exact ⟨bridge, hsplit ▸ subset_collect config _ back hbridge, hsame⟩

/-! ## Packages in order -/

/-- **The bridges of declarations** are whole files that are stored in order, up to the first one
that cannot be written. -/
theorem writeBridges_run (config : Config) (bridges : List BridgeFiles) (decls : List Declaration)
    (fs : FileSystem) :
    (writeBridges config bridges decls : StateM FileSystem _).run fs =
      (((fs.storeAll (decls.flatMap (drafts config))).1.map fun _ =>
          collect config bridges decls).mapError .write,
        (fs.storeAll (decls.flatMap (drafts config))).2) := by
  induction decls generalizing fs bridges with
  | nil => rfl
  | cons decl decls ih =>
    rw [writeBridges, run_bind_of_run (writeBridge_run config decl fs), List.flatMap_cons,
      FileSystem.storeAll_append]
    rcases fs.storeAll (drafts config decl) with ⟨result, mid⟩
    cases result with
    | error e => rfl
    | ok =>
      dsimp only [Except.map]
      cases hvalid : decl.isValid with
      | false =>
        rw [if_neg Bool.false_ne_true]
        dsimp only
        rw [ih, collect, collect, List.filter_cons_of_neg (by rw [hvalid]; exact Bool.false_ne_true)]
        rfl
      | true =>
        rw [if_pos rfl]
        dsimp only
        rw [ih, collect, collect, List.filter_cons_of_pos hvalid]
        rfl

/-- **A package** that cannot be read changes nothing; otherwise the files of its bridges are stored
in order. -/
theorem writePackage_run (config : Config) (gopath : Option String) (source : Source)
    (fs : FileSystem) :
    (writePackage config gopath source : StateM FileSystem _).run fs =
      match source.declared gopath fs with
      | .error e => (.error (.read e), fs)
      | .ok decls =>
        (((fs.storeAll (decls.flatMap (drafts config))).1.map fun _ =>
            collect config [] decls).mapError .write,
          (fs.storeAll (decls.flatMap (drafts config))).2) := by
  rw [writePackage, run_bind_of_run (source.declarations_run gopath fs)]
  cases source.declared gopath fs with
  | error e => rfl
  | ok decls => exact writeBridges_run config [] decls fs

theorem writePackage_of_stored {config : Config} {gopath : Option String} {source : Source}
    {fs mid : FileSystem} {decls : List Declaration}
    (hdecls : source.declared gopath fs = .ok decls)
    (hstored : fs.storeAll (decls.flatMap (drafts config)) = (.ok (), mid)) :
    (writePackage config gopath source : StateM FileSystem _).run fs =
      (.ok (collect config [] decls), mid) := by
  rw [writePackage_run, hdecls]
  dsimp only
  rw [hstored]
  rfl

theorem writePackages_cons {σ Handle : Type} [Files (StateM σ) Handle] (config : Config)
    (gopath : Option String) (source : Source) (sources : List Source) {s mid final : σ}
    {result : Except Failure (List BridgeFiles)} {outcomes : List Outcome}
    (hfirst : (writePackage config gopath source : StateM σ _).run s = (result, mid))
    (hrest : (writePackages config gopath sources : StateM σ _).run mid = (outcomes, final)) :
    (writePackages config gopath (source :: sources) : StateM σ _).run s =
      (⟨source.label, result⟩ :: outcomes, final) := by
  rw [writePackages, run_bind_of_run hfirst, run_bind_of_run hrest]
  rfl

end Run

end ReactBridge
