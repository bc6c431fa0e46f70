import ReactBridge.Bridge.Builder
import ReactBridge.Proofs.Path.Extension
import ReactBridge.Proofs.Text

/-!
# Where the files of a bridge lie

The files of all bridges of a run lie two names below one directory: the name of the package in
lowercase, and the name of the file.

* `IsPackageName` : names of packages that are names of directories too;
* `segmentsOf_bridgePackage` : the Java package of a bridge, name by name;
* `bridgeRoot` : the directory of all bridges (`Kind.target_eq_join`);
* `Kind.target` : the file of a class, and the names below the output directory (`Kind.target_eq`);
* `IsClassFile` : files that lie where those of classes do (`Kind.isClassFile_target`);
* `Kind.target_same_iff` : two classes have the same file if their names agree.
-/

namespace ReactBridge.Bridge
open ReactBridge (Path)

/-- A name of a package that is no path: no dot and no slash stand in it. -/
structure IsPackageName (packageName : String) : Prop where
  ne_empty : packageName ≠ ""
  unmarked : ∀ c ∈ packageName.toList, ¬ Text.IsMark c

instance : DecidablePred IsPackageName := fun packageName =>
  decidable_of_iff (packageName ≠ "" ∧ (packageName.toList.all fun c => ¬ Text.IsMark c) = true)
    ⟨fun ⟨hne, hall⟩ => ⟨hne, fun c hc => of_decide_eq_true (List.all_eq_true.1 hall c hc)⟩,
      fun ⟨hne, hmark⟩ => ⟨hne, List.all_eq_true.2 fun c hc => decide_eq_true (hmark c hc)⟩⟩

/-- The directories of the Java package that bridges are nested in. -/
def rootNames (packageRoot : String) : List String :=
  packageNames packageRoot ++ ["bridge"]

def Kind.fileName (kind : Kind) (packageName : String) : String :=
  kind.className packageName ++ ".java"

@[irreducible]
def Kind.target (kind : Kind) (config : Config) (packageName : String) : Path :=
  javaFile config.output (bridgePackage config.packageRoot packageName)
    (kind.className packageName)

theorem Builder.target_eq {Handle : Type} (builder : Builder Handle) (packageName : String) :
    builder.target packageName = builder.kind.target builder.config packageName := by
  unfold Kind.target
  rfl

/-! ## Names -/

def segmentsOf (javaPackage : String) : List String :=
  (Text.split '.' javaPackage.toList).map String.ofList

theorem segmentsOf_append (package more : String) :
    segmentsOf (package ++ "." ++ more) = segmentsOf package ++ segmentsOf more := by
  have hdot : ".".toList = ['.'] := rfl
  rw [segmentsOf, String.toList_append, String.toList_append, hdot, List.append_assoc,
    List.singleton_append, Text.split_append_sep, List.map_append]
  rfl

theorem segmentsOf_of_notMem {name : String} (hdot : '.' ∉ name.toList) :
    segmentsOf name = [name] := by
  rw [segmentsOf, Text.split_of_notMem hdot, List.map_singleton, String.ofList_toList]

/-- The texts between the dots of a root. An empty root has none. -/
def rootSegments (root : String) : List String :=
  if root = "" then [] else segmentsOf root

theorem packageNames_root (root : String) :
    packageNames root = (rootSegments root).filter fun name => !name.isEmpty := by
  unfold rootSegments
  split
  · next hempty =>
    rw [hempty]
    rfl
  · rfl

theorem segmentsOf_bridgePackage (root : String) {packageName : String}
    (h : IsPackageName packageName) :
    segmentsOf (bridgePackage root packageName) =
      rootSegments root ++ ["bridge", Text.lowercase packageName] := by
  have hdot : '.' ∉ (Text.lowercase packageName).toList := fun hmem =>
    h.unmarked '.' (Text.mem_of_mem_lowercase hmem (.inl rfl)) (.inl rfl)
  have hbridge : segmentsOf ("bridge." ++ Text.lowercase packageName) =
      ["bridge", Text.lowercase packageName] := by
    have hfirst : segmentsOf "bridge" = ["bridge"] := by decide
    have happend := segmentsOf_append "bridge" (Text.lowercase packageName)
    rw [segmentsOf_of_notMem hdot, hfirst] at happend
    exact happend
  rw [bridgePackage, rootSegments]
  by_cases hempty : root = ""
  · rw [if_pos hempty, if_pos (String.isEmpty_iff.2 hempty), hbridge]
    rfl
  · rw [if_neg hempty, if_neg (mt String.isEmpty_iff.1 hempty)]
    have happend := segmentsOf_append root ("bridge." ++ Text.lowercase packageName)
    rw [hbridge] at happend
    rw [← happend]
    simp only [String.append_assoc]
    rfl

theorem packageNames_bridgePackage (root : String) {packageName : String}
    (h : IsPackageName packageName) :
    packageNames (bridgePackage root packageName) =
      rootNames root ++ [Text.lowercase packageName] := by
  have hnames : packageNames (bridgePackage root packageName) =
      (segmentsOf (bridgePackage root packageName)).filter fun name => !name.isEmpty := rfl
  rw [hnames, segmentsOf_bridgePackage root h, List.filter_append, ← packageNames_root, rootNames]
  simp [Text.lowercase_ne_empty h.ne_empty]

theorem isName_of_unmarked {name : String} (hne : name ≠ "")
    (h : ∀ c ∈ name.toList, ¬ Text.IsMark c) : Path.IsName name := by
  have hdots : name ≠ "." ∧ name ≠ ".." := by
    constructor <;> rintro rfl <;> exact h '.' (by decide) (.inl rfl)
  exact ⟨by simp [Path.isStill, hne, hdots.1], hdots.2, fun hslash => h '/' hslash (.inr rfl)⟩

theorem isName_rootNames {root : String} (h : '/' ∉ root.toList) :
    ∀ name ∈ rootNames root, Path.IsName name := by
  rw [rootNames, List.forall_mem_append, List.forall_mem_singleton]
  refine ⟨fun name hname => ?_, by decide⟩
  obtain ⟨hmem, hne⟩ := List.mem_filter.1 hname
  obtain ⟨piece, hpiece, rfl⟩ := List.mem_map.1 hmem
  refine isName_of_unmarked ?_ fun c hc => ?_
  · simpa using hne
  · rw [String.toList_ofList] at hc
    rintro (rfl | rfl)
    · exact Text.notMem_of_mem_split piece hpiece hc
    · exact h (Text.mem_of_mem_split hpiece hc)

theorem isName_lowercase {packageName : String} (h : IsPackageName packageName) :
    Path.IsName (Text.lowercase packageName) :=
  isName_of_unmarked (Text.lowercase_ne_empty h.ne_empty) fun c hc hmark =>
    h.unmarked c (Text.mem_of_mem_lowercase hc hmark) hmark

theorem Kind.unmarked_className (kind : Kind) {packageName : String} (h : IsPackageName packageName) :
    ∀ c ∈ (kind.className packageName).toList, ¬ Text.IsMark c := by
  have htype : ∀ c ∈ (typeName packageName).toList, ¬ Text.IsMark c := fun c hc hmark =>
    h.unmarked c (Text.mem_of_mem_lowerTitleCase hc hmark) hmark
  cases kind with
  | module javaType =>
    have hclass : ("Module".toList.all fun c => ¬ Text.IsMark c) = true := by decide
    rw [Kind.className, moduleClass, String.toList_append, List.forall_mem_append]
    exact ⟨htype, fun c hc => of_decide_eq_true (List.all_eq_true.1 hclass c hc)⟩
  | package =>
    have hclass : ("Package".toList.all fun c => ¬ Text.IsMark c) = true := by decide
    rw [Kind.className, packageClass, String.toList_append, List.forall_mem_append]
    exact ⟨htype, fun c hc => of_decide_eq_true (List.all_eq_true.1 hclass c hc)⟩

theorem Kind.isName_className (kind : Kind) {packageName : String} (h : IsPackageName packageName) :
    Path.IsName (kind.className packageName) := by
  refine isName_of_unmarked ?_ (kind.unmarked_className h)
  cases kind with
  | module javaType => simp [Kind.className, moduleClass]
  | package => simp [Kind.className, packageClass]

theorem Kind.isName_fileName (kind : Kind) {packageName : String} (h : IsPackageName packageName) :
    Path.IsName (kind.fileName packageName) := by
  have hlong : 5 ≤ (kind.fileName packageName).length := by
    rw [fileName, String.length_append]
    exact Nat.le_add_left 5 _
  refine ⟨?_, ?_, ?_⟩
  · rw [Path.isStill, Bool.or_eq_false_iff, decide_eq_false_iff_not, decide_eq_false_iff_not]
    constructor <;> intro heq <;> rw [heq] at hlong <;> exact absurd hlong (by decide)
  · intro heq
    rw [heq] at hlong
    exact absurd hlong (by decide)
  · rw [fileName, String.toList_append, List.mem_append, not_or]
    exact ⟨(kind.isName_className h).inSegment, by decide⟩

theorem Kind.cutExtension_fileName (kind : Kind) (packageName : String) :
    (Path.cutExtension (kind.fileName packageName)).2 = some "java" := by
  have hne : kind.className packageName ≠ "" := by
    cases kind <;> simp [className, moduleClass, packageClass]
  have hfile : kind.fileName packageName = kind.className packageName ++ "." ++ "java" := by
    rw [fileName, String.append_assoc]
    rfl
  rw [hfile]
  exact Path.cutExtension_append hne (by decide)

/-! ## Targets -/

/-- The names below the output directory that lead to the file of a class. -/
def Kind.targetNames (kind : Kind) (config : Config) (packageName : String) : List String :=
  rootNames config.packageRoot ++ [Text.lowercase packageName, kind.fileName packageName]

theorem Kind.isName_targetNames (kind : Kind) {config : Config}
    (hroot : '/' ∉ config.packageRoot.toList) {packageName : String} (h : IsPackageName packageName) :
    ∀ name ∈ kind.targetNames config packageName, Path.IsName name := by
  rw [targetNames, List.forall_mem_append, List.forall_mem_cons, List.forall_mem_singleton]
  exact ⟨isName_rootNames hroot, isName_lowercase h, kind.isName_fileName h⟩

/-- The directory that the directories of all bridges lie in. -/
def bridgeRoot (config : Config) : Path :=
  config.output.join (Path.ofNames (rootNames config.packageRoot))

/-- The file of a class lies two names below the directory of all bridges, whatever that is. -/
theorem Kind.target_eq_join (kind : Kind) (config : Config) {packageName : String}
    (h : IsPackageName packageName) :
    kind.target config packageName =
      ((bridgeRoot config).join ⟨Text.lowercase packageName⟩).join ⟨kind.fileName packageName⟩ := by
  have hdot : '.' ∉ (kind.className packageName).toList := fun hmem =>
    kind.unmarked_className h '.' hmem (.inl rfl)
  have hfile : kind.className packageName ++ "." ++ "java" = kind.fileName packageName := by
    rw [String.append_assoc]
    rfl
  unfold Kind.target
  rw [javaFile, packagePath, packageNames_bridgePackage _ h, Path.ofNames_concat,
    Path.join_join _ _ (isName_lowercase h),
    Path.withExtension_name _ (kind.isName_className h) hdot (by decide), hfile, bridgeRoot]

/-- A path two names below a directory, with the name of a Java file. -/
def IsClassFile (root path : Path) : Prop :=
  ∃ dir file, Path.IsName dir ∧ Path.IsName file ∧ (Path.cutExtension file).2 = some "java" ∧
    path = root.below [dir, file]

theorem IsClassFile.extension {root path : Path} (h : IsClassFile root path) :
    path.extension = some "java" := by
  obtain ⟨dir, file, -, hfile, hjava, rfl⟩ := h
  exact (Path.extension_join _ hfile).trans hjava

theorem Kind.isClassFile_target (kind : Kind) (config : Config) {packageName : String}
    (h : IsPackageName packageName) :
    IsClassFile (bridgeRoot config) (kind.target config packageName) :=
  ⟨_, _, isName_lowercase h, kind.isName_fileName h, kind.cutExtension_fileName packageName,
    kind.target_eq_join config h⟩

theorem Kind.target_eq (kind : Kind) {config : Config} (hroot : '/' ∉ config.packageRoot.toList)
    {packageName : String} (h : IsPackageName packageName) :
    kind.target config packageName = config.output.below (kind.targetNames config packageName) := by
  rw [kind.target_eq_join config h, bridgeRoot,
    Path.join_ofNames _ (by simp [rootNames]) (isName_rootNames hroot), targetNames,
    Path.below_append]
  rfl

theorem Kind.components_target (kind : Kind) {config : Config}
    (hroot : ∀ name ∈ rootNames config.packageRoot, Path.IsName name) {packageName : String}
    (h : IsPackageName packageName) :
    (kind.target config packageName).components =
      config.output.components ++ (kind.targetNames config packageName).map .name := by
  rw [kind.target_eq_join config h, Path.components_join _ (kind.isName_fileName h),
    Path.components_join _ (isName_lowercase h), bridgeRoot,
    Path.join_ofNames _ (by simp [rootNames]) hroot, Path.components_below _ hroot, targetNames]
  simp

/-- Two classes have the same file if they have the same names below the directory of all bridges. -/
theorem Kind.target_same_iff (kind kind' : Kind) (config : Config)
    {packageName packageName' : String} (h : IsPackageName packageName)
    (h' : IsPackageName packageName') :
    (kind.target config packageName).same (kind'.target config packageName') = true ↔
      kind.targetNames config packageName = kind'.targetNames config packageName' := by
  rw [Path.same, decide_eq_true_eq, kind.target_eq_join config h, kind'.target_eq_join config h',
    Path.components_join _ (kind.isName_fileName h), Path.components_join _ (isName_lowercase h),
    Path.components_join _ (kind'.isName_fileName h'), Path.components_join _ (isName_lowercase h'),
    targetNames, targetNames, List.append_cancel_left_eq]
  simp

/-- A module class and a package class never have the same file. -/
theorem module_targetNames_ne (javaType : String → String) (config : Config)
    (packageName packageName' : String) :
    (Kind.module javaType).targetNames config packageName ≠
      Kind.package.targetNames config packageName' := by
  intro heq
  have hfile : (Kind.module javaType).fileName packageName = Kind.package.fileName packageName' := by
    have hnames := List.append_cancel_left heq
    exact (List.cons.inj (List.cons.inj hnames).2).1
  have hreverse := congrArg (fun name => name.toList.reverse.take 7) hfile
  simp only [Kind.fileName, Kind.className, moduleClass, packageClass, String.toList_append,
    List.reverse_append] at hreverse
  exact absurd (show ['a', 'v', 'a', 'j', '.', 'e', 'l'] = ['a', 'v', 'a', 'j', '.', 'e', 'g'] from
    hreverse) (by decide)

end ReactBridge.Bridge
