import ReactBridge.Proofs.Run.Generate

/-!
# The files that a report shows

A report shows a file relative to the output directory if it lies in it, and its whole path
otherwise. A file of a class can lie elsewhere: a part of its path that is absolute replaces the
output directory. What is shown leads back to the file in either case.

* `Shows` : a text that leads from the output directory to a path;
* `shows_shownPath` : what is shown of a path that lies in the output directory, or is absolute;
* `Kind.target_reached` : the file of a class is one of the two;
* `run_shows` : the files of a run, in the order of its report.
-/

namespace ReactBridge

namespace Path

/-- Whether a path lies below a base, or does not depend on it. -/
def Reached (base path : Path) : Prop :=
  path.isAbsolute = true ∨ base.components <+: path.components

theorem Reached.join {base path : Path} (h : Reached base path) (more : Path) :
    Reached base (path.join more) := by
  cases hmore : more.isAbsolute with
  | true =>
    rw [join_of_isAbsolute path hmore]
    exact .inl hmore
  | false =>
    rcases h with habsolute | hbelow
    · exact .inl (isAbsolute_join habsolute more)
    · exact .inr (hbelow.trans (components_prefix_join path hmore))

theorem reached_refl (base : Path) : Reached base base :=
  .inr (List.prefix_refl _)

end Path

namespace Bridge

/-- A class is called something behind all separators, whatever its package is called. -/
theorem Kind.lastName?_className (kind : Kind) (packageName : String) :
    ∃ name, (Path.mk (kind.className packageName)).lastName? = some name := by
  obtain ⟨stem, ending, hclass, hslash, hlong⟩ : ∃ stem ending : String,
      kind.className packageName = stem ++ ending ∧ '/' ∉ ending.toList ∧ 2 < ending.length := by
    cases kind with
    | module javaType => exact ⟨_, "Module", rfl, by decide, by decide⟩
    | package => exact ⟨_, "Package", rfl, by decide, by decide⟩
  obtain ⟨front, last, -, hsplit⟩ := Text.split_append_of_notMem hslash stem.toList
  have hsegments : (Path.mk (kind.className packageName)).segments =
      front.map String.ofList ++ [String.ofList (last ++ ending.toList)] := by
    rw [Path.segments, hclass, String.toList_append, hsplit, List.map_append, List.map_singleton]
  -- A segment of three characters or more is none of `.` and `..`.
  have hshort : ∀ other : String, other.length ≤ 2 → String.ofList (last ++ ending.toList) ≠ other := by
    rintro _ hother rfl
    rw [String.length_ofList, List.length_append, String.length_toList] at hother
    omega
  refine ⟨String.ofList (last ++ ending.toList), ?_⟩
  rw [Path.lastName?, hsegments, List.getLast?_concat]
  simp only [Path.isStill, hshort "" (by decide), hshort "." (by decide), hshort ".." (by decide),
    decide_false, Bool.or_self, Bool.false_eq_true, if_false]

/-- **The file of a class** lies below the output directory, unless it does not depend on it. -/
theorem Kind.target_reached (kind : Kind) (config : Config) (packageName : String) :
    Path.Reached config.output (kind.target config packageName) := by
  obtain ⟨name, hname⟩ := kind.lastName?_className packageName
  unfold Kind.target
  -- The extension is that of the class alone, so that two joins are all that is left.
  rw [javaFile, Path.withExtension_join _ hname (by decide)]
  exact ((Path.reached_refl config.output).join _).join _

end Bridge

namespace Report
open Bridge Run

/-- Whether a text leads from the output directory to a path. -/
def Shows (output : Path) (text : String) (path : Path) : Prop :=
  (output.join ⟨text⟩).same path = true

/-- **What is shown of a path** leads back to it. -/
theorem shows_shownPath {output path : Path} (h : Path.Reached output path) :
    Shows output (shownPath output path) path := by
  rw [Shows, Path.same, decide_eq_true_eq, shownPath]
  cases hstrip : path.stripBase output with
  | some rest => exact Path.components_join_stripBase hstrip
  | none =>
    rcases h with habsolute | hbelow
    · exact congrArg Path.components (Path.join_of_isAbsolute output habsolute)
    · rw [Path.stripBase, if_pos (List.isPrefixOf_iff_prefix.2 hbelow)] at hstrip
      split at hstrip <;> cases hstrip

/-! ## Reports of runs -/

def Event.added? : Event → Option String
  | .added text => some text
  | _ => none

theorem added_ofOutcome (output : Path) (outcome : Outcome) :
    (ofOutcome output outcome).filterMap Event.added? =
      (filesOf [outcome]).map (shownPath output) := by
  have hbridges : ∀ bridges : List BridgeFiles,
      (bridges.flatMap fun bridge => [Event.added (shownPath output bridge.moduleFile),
        Event.added (shownPath output bridge.packageFile)]).filterMap Event.added? =
      (bridges.flatMap fun bridge => [bridge.moduleFile, bridge.packageFile]).map
        (shownPath output) := by
    intro bridges
    rw [List.filterMap_flatMap, List.map_flatMap]
    rfl
  rw [filesOf, List.flatMap_singleton, bridgesOf, ofOutcome]
  rcases outcome with ⟨label, result⟩
  cases result with
  | error e => rfl
  | ok bridges =>
    cases bridges with
    | nil => rfl
    | cons bridge bridges => exact hbridges (bridge :: bridges)

theorem added_ofOutcomes (output : Path) (outcomes : List Outcome) :
    (ofOutcomes output outcomes).filterMap Event.added? =
      (filesOf outcomes).map (shownPath output) := by
  have hpackages : (outcomes.flatMap (ofOutcome output)).filterMap Event.added? =
      (filesOf outcomes).map (shownPath output) := by
    induction outcomes with
    | nil => rfl
    | cons outcome outcomes ih =>
      have hsplit : filesOf (outcome :: outcomes) = filesOf [outcome] ++ filesOf outcomes := by
        simp [filesOf]
      rw [List.flatMap_cons, List.filterMap_append, added_ofOutcome, ih, hsplit, List.map_append]
  rw [ofOutcomes, List.filterMap_append, hpackages]
  exact List.append_nil _

/-- The bridges that a package tells of are those of declarations. -/
theorem exists_of_mem_bridgesOf {config : Config} {gopath : Option String} {source : Source}
    {fs mid : FileSystem} {result : Except Failure (List BridgeFiles)}
    (h : (writePackage config gopath source : StateM FileSystem _).run fs = (result, mid)) :
    ∀ bridge ∈ bridgesOf ⟨source.label, result⟩, ∃ decl, bridge = bridgeOf config decl := by
  intro bridge hbridge
  cases result with
  | error e => cases hbridge
  | ok bridges =>
    rw [writePackage_run] at h
    split at h
    · cases h
    next decls _ =>
    rcases hstored : fs.storeAll (decls.flatMap (drafts config)) with ⟨stored, last⟩
    rw [hstored] at h
    cases stored with
    | error e => cases h
    | ok =>
      obtain rfl := Except.ok.inj (Prod.mk.inj h).1
      obtain ⟨decl, -, -, heq⟩ := (exists_of_mem_collect hbridge).resolve_left List.not_mem_nil
      exact ⟨decl, heq⟩

/-- The files that a run tells of are those of classes. -/
theorem exists_target_of_mem_filesOf {config : Config} {gopath : Option String}
    (sources : List Source) (fs : FileSystem) :
    ∀ path ∈ filesOf ((writePackages config gopath sources : StateM FileSystem _).run fs).1,
      ∃ kind packageName, path = Kind.target kind config packageName := by
  induction sources generalizing fs with
  | nil => exact List.forall_mem_nil _
  | cons source sources ih =>
    rcases hfirst : (writePackage config gopath source : StateM FileSystem _).run fs with
      ⟨result, mid⟩
    rw [writePackages_cons config gopath source sources hfirst rfl]
    intro path hpath
    obtain ⟨bridge, hbridge, hfile⟩ := List.mem_flatMap.1 hpath
    rw [List.flatMap_cons, List.mem_append] at hbridge
    rcases hbridge with hbridge | hbridge
    · obtain ⟨decl, rfl⟩ := exists_of_mem_bridgesOf hfirst bridge hbridge
      rcases List.mem_pair.1 hfile with rfl | rfl
      · exact ⟨_, _, rfl⟩
      · exact ⟨_, _, rfl⟩
    · exact ih mid path (List.mem_flatMap.2 ⟨bridge, hbridge, hfile⟩)

/-- **The files of a run, as its report shows them.** For every builder and every package, the text
that is shown of the file that the builder writes leads from the output directory to that file. So
do the texts of the report on a run, one for each file in order. -/
theorem run_shows :
    (∀ (builder : Builder FileSystem.Handle) (packageName : String),
      Shows builder.config.output (shownPath builder.config.output (builder.target packageName))
        (builder.target packageName)) ∧
      ∀ (gopath : Option String) (settings : Settings) (fs : FileSystem),
        let outcomes := ((generate gopath settings : StateM FileSystem _).run fs).1
        List.Forall₂ (Shows settings.bridge.output)
          ((ofOutcomes settings.bridge.output outcomes).filterMap Event.added?)
          (filesOf outcomes) := by
  constructor
  · intro builder packageName
    rw [builder.target_eq]
    exact shows_shownPath (builder.kind.target_reached builder.config packageName)
  · intro gopath settings fs outcomes
    rw [added_ofOutcomes, List.forall₂_map_left_iff, List.forall₂_same]
    intro path hpath
    obtain ⟨kind, packageName, rfl⟩ := exists_target_of_mem_filesOf settings.sources fs path hpath
    exact shows_shownPath (kind.target_reached settings.bridge packageName)

end Report

end ReactBridge
