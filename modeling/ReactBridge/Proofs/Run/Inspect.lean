import ReactBridge.Proofs.Run.Generate
import ReactBridge.Report.Inspect

/-!
# Inspecting and generating

A package is inspected without a word on its bridges, and its report flags the declarations that
have none. Both commands read the package by themselves, and they agree on it.

* `inspect_run` : inspecting reads the package, and changes nothing;
* `distinct` : bridges, without those that have the files of an earlier one;
* `collect_eq_distinct` : the bridges that a package tells of are those;
* `generate_agrees` : a package that is inspected and one that is generated.
-/

namespace ReactBridge.Run
open Bridge Java

/-! ## Reading -/

theorem inspect_run (gopath : Option String) (source : Source) (fs : FileSystem) :
    (inspect gopath source : StateM FileSystem _).run fs =
      ((source.declared gopath fs).map fun decls => ⟨source.label, decls⟩, fs) := by
  rw [inspect, run_bind_of_run (source.declarations_run gopath fs)]
  rfl

theorem generate_singleton (config : Config) (gopath : Option String) (source : Source)
    {fs fs' : FileSystem} {result : Except Failure (List BridgeFiles)}
    (h : (writePackage config gopath source : StateM FileSystem _).run fs = (result, fs')) :
    (generate gopath ⟨config, [source]⟩ : StateM FileSystem _).run fs =
      ([⟨source.label, result⟩], fs') :=
  writePackages_cons config gopath source [] h rfl

/-! ## Declarations with something to bridge -/

/-- Whether the report on a declaration says that there is nothing to bridge. -/
def isFlagged (decl : Declaration) : Bool :=
  (Report.ofDeclaration decl).contains (.warning (decl.packageName ++ ": nothing to bridge"))

theorem isFlagged_eq (decl : Declaration) : isFlagged decl = !decl.isValid := by
  unfold isFlagged Report.ofDeclaration
  cases decl.isValid with
  | true => simp
  | false => simp

/-! ## Bridges with the same files -/

theorem sameFiles_iff {a b : BridgeFiles} : sameFiles a b = true ↔
    a.moduleFile.components = b.moduleFile.components ∧
      a.packageFile.components = b.packageFile.components := by
  simp [sameFiles, Path.same]

theorem sameFiles_comm (a b : BridgeFiles) : sameFiles a b = sameFiles b a := by
  rw [Bool.eq_iff_iff, sameFiles_iff, sameFiles_iff, eq_comm (b := b.moduleFile.components),
    eq_comm (b := b.packageFile.components)]

/-- A bridge with the files of another has the same files as that one has. -/
theorem sameFiles_congr {a b : BridgeFiles} (h : sameFiles a b = true) :
    sameFiles a = sameFiles b := by
  obtain ⟨hmodule, hpackage⟩ := sameFiles_iff.1 h
  funext c
  simp only [sameFiles, Path.same, hmodule, hpackage]

/-- The bridges in order, each without the later ones that have its files. -/
def distinct : List BridgeFiles → List BridgeFiles
  | [] => []
  | bridge :: bridges => bridge :: (distinct bridges).filter fun other => !sameFiles bridge other

theorem foldl_addBridge (earlier bridges : List BridgeFiles) :
    bridges.foldl addBridge earlier =
      earlier ++ (distinct bridges).filter fun bridge => !earlier.any (sameFiles bridge) := by
  induction bridges generalizing earlier with
  | nil => simp [distinct]
  | cons bridge bridges ih =>
    rw [List.foldl_cons, ih, distinct, addBridge]
    by_cases hany : earlier.any (sameFiles bridge) = true
    · rw [if_pos hany, List.filter_cons_of_neg (by simp [hany]), List.filter_filter]
      congr 1
      apply List.filter_congr
      intro other _
      cases hsame : sameFiles bridge other with
      | true =>
        rw [← sameFiles_congr hsame, hany]
        rfl
      | false => simp
    · rw [if_neg hany, List.filter_cons_of_pos (by simpa using hany), List.filter_filter,
        List.append_assoc, List.singleton_append]
      congr 2
      apply List.filter_congr
      intro other _
      rw [List.any_append, Bool.not_or, sameFiles_comm bridge other]
      simp

/-- The bridges that a package tells of, each once, as they first appear. -/
theorem collect_eq_distinct (config : Config) (decls : List Declaration) :
    collect config [] decls =
      distinct ((decls.filter fun decl => !isFlagged decl).map (bridgeOf config)) := by
  have hflagged : (fun decl => !isFlagged decl) = Declaration.isValid := by
    funext decl
    rw [isFlagged_eq, Bool.not_not]
  rw [collect, foldl_addBridge, hflagged]
  simp

/-! ## Both commands -/

/-- **Inspecting and generating agree.** A package that cannot be inspected has the same failure
when it is generated, and nothing is written then. Otherwise the bridges of the declarations that
the report does not flag are told of, each once and as they first appear, unless a file of them
cannot be written. -/
theorem generate_agrees (config : Config) (gopath : Option String) (source : Source)
    (fs : FileSystem) :
    ((inspect gopath source : StateM FileSystem _).run fs).2 = fs ∧
    match ((inspect gopath source : StateM FileSystem _).run fs).1 with
    | .error e =>
      (generate gopath ⟨config, [source]⟩ : StateM FileSystem _).run fs =
        ([⟨source.label, .error (.read e)⟩], fs)
    | .ok inspection => ∃ result fs',
      (generate gopath ⟨config, [source]⟩ : StateM FileSystem _).run fs =
          ([⟨inspection.label, result⟩], fs') ∧
        ((∃ e, result = .error (.write e)) ∨
          result = .ok (distinct ((inspection.declarations.filter fun decl => !isFlagged decl).map
            (bridgeOf config)))) := by
  have hpackage := writePackage_run config gopath source fs
  rw [inspect_run]
  refine ⟨rfl, ?_⟩
  cases hdecls : source.declared gopath fs with
  | error e =>
    rw [hdecls] at hpackage
    exact generate_singleton config gopath source hpackage
  | ok decls =>
    rw [hdecls] at hpackage
    refine ⟨_, _, generate_singleton config gopath source hpackage, ?_⟩
    rcases fs.storeAll (decls.flatMap (drafts config)) with ⟨e | _, last⟩
    · exact .inl ⟨e, rfl⟩
    · exact .inr (congrArg Except.ok (collect_eq_distinct config decls))

end ReactBridge.Run
