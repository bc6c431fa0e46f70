import ReactBridge.Proofs.Bridge.Write

/-!
# Names that agree

The name of a Go package comes into a bridge in several ways: into the Java package, into the names
of both classes and into the paths of their files.

* `Piece.namedPackage?`, `Piece.declaredClass?`, `methodBody` : what the pieces of a class say;
* `Builder.Spells` : the file of a class is called after the class, and lies where its package is;
* `target_spells` : so it is for both classes, and the package class makes the module class;
* `target_collisions` : the bridges of two packages have a file in common if the names of the
  packages agree in lowercase, and never otherwise.
-/

namespace ReactBridge

/-! ## What pieces say -/

namespace Java

def Piece.namedPackage? : Piece → Option String
  | packageLine package => some package
  | _ => none

def Piece.declaredClass? : Piece → Option String
  | classHeader name _ _ => some name
  | _ => none

def Piece.heads (name : String) : Piece → Bool
  | methodHeader _ other _ => other = name
  | _ => false

/-- The pieces of a method without inner blocks, up to its end. -/
def methodBody (name : String) (pieces : List Piece) : List Piece :=
  ((pieces.dropWhile fun piece => !piece.heads name).drop 1).takeWhile (· ≠ .close)

theorem classClause_cases (keyword : String) (name : Option String) :
    classClause keyword name = "" ∨ ∃ rest, classClause keyword name = " " ++ rest := by
  unfold classClause
  split
  · split
    · exact .inl rfl
    · right
      simp only [String.append_assoc]
      exact ⟨_, rfl⟩
  · exact .inl rfl

/-- A blank stands behind the name in the head of a class. -/
theorem exists_classLine (name : String) (superclass interface : Option String) :
    ∃ rest, "public class " ++ name ++ classClause "extends" superclass ++
      classClause "implements" interface ++ " \x7b" = "public class " ++ name ++ " " ++ rest := by
  rcases classClause_cases "extends" superclass with hextends | ⟨rest, hextends⟩
  · rcases classClause_cases "implements" interface with himplements | ⟨rest, himplements⟩
    · refine ⟨"\x7b", ?_⟩
      rw [hextends, himplements]
      simp only [String.append_empty, String.append_assoc]
      rfl
    · rw [hextends, himplements]
      simp only [String.append_empty, String.append_assoc]
      exact ⟨_, rfl⟩
  · rw [hextends]
    simp only [String.append_assoc]
    exact ⟨_, rfl⟩

/-- A package line and the head of a class behind it are written into the file. -/
theorem exists_written (package : String) {name : String} {superclass interface : Option String}
    {pieces : List Piece} (h : .classHeader name superclass interface ∈ pieces) :
    ∃ front back, Margin.start.written (pieceLines (.packageLine package :: pieces)) =
      "package " ++ package ++ ";\n" ++ front ++ ("public class " ++ name ++ " " ++ back) := by
  obtain ⟨middle, rest, rfl⟩ := List.append_of_mem h
  obtain ⟨clauses, hline⟩ := exists_classLine name superclass interface
  have hbetween : ∀ front behind : String, ∃ back,
      front ++ ("public class " ++ name ++ " " ++ clauses) ++ "\n" ++ behind =
        front ++ ("public class " ++ name ++ " " ++ back) := by
    intro front behind
    refine ⟨clauses ++ "\n" ++ behind, ?_⟩
    simp only [String.append_assoc]
  have hhead : ∀ margin : Margin, ∃ front back,
      margin.written (pieceLines (.classHeader name superclass interface :: rest)) =
        front ++ ("public class " ++ name ++ " " ++ back) := by
    intro margin
    simp only [pieceLines_cons, Piece.lines, hline, List.singleton_append, Margin.written_placed,
      Margin.place]
    exact ⟨_, hbetween _ _⟩
  have hlines : pieceLines
      (.packageLine package :: (middle ++ .classHeader name superclass interface :: rest)) =
        .verbatim ("package " ++ package ++ ";\n") :: (pieceLines middle ++
          pieceLines (.classHeader name superclass interface :: rest)) := by
    simp [Piece.lines]
  obtain ⟨front, back, hwritten⟩ := hhead (Margin.start.behind (pieceLines middle))
  rw [hlines, Margin.written_verbatim, Margin.written_append, hwritten]
  refine ⟨Margin.start.written (pieceLines middle) ++ front, back, ?_⟩
  simp only [String.append_assoc]

end Java

namespace Bridge
open Java

/-! ## Dotted names -/

/-- Names with dots between them, or nothing. -/
def IsDotted (root : String) : Prop :=
  ∃ segments : List String, root.toList = Text.join '.' (segments.map String.toList) ∧
    ∀ segment ∈ segments, IsPackageName segment

/-- What stands between the dots is what the dots were put between. -/
theorem IsDotted.isPackageName {root : String} (h : IsDotted root) :
    ∀ segment ∈ rootSegments root, IsPackageName segment := by
  obtain ⟨segments, hroot, hsegments⟩ := h
  rw [rootSegments]
  split
  · exact List.forall_mem_nil _
  next hempty =>
  have hnil : segments ≠ [] := by
    rintro rfl
    exact hempty (String.toList_eq_nil_iff.1 hroot)
  have hdot : ∀ piece ∈ segments.map String.toList, '.' ∉ piece := by
    intro piece hpiece
    obtain ⟨segment, hsegment, rfl⟩ := List.mem_map.1 hpiece
    intro hdot
    exact (hsegments segment hsegment).unmarked '.' hdot (.inl rfl)
  have hof : segmentsOf root = segments := by
    rw [segmentsOf, hroot, Text.split_join (by simpa using hnil) hdot, List.map_map]
    refine (List.map_congr_left fun segment _ => ?_).trans (List.map_id segments)
    exact String.ofList_toList
  rw [hof]
  exact hsegments

theorem IsDotted.rootNames_eq {root : String} (h : IsDotted root) :
    rootNames root = rootSegments root ++ ["bridge"] := by
  rw [rootNames, packageNames_root, List.filter_eq_self.2]
  intro segment hsegment
  simpa using (h.isPackageName segment hsegment).ne_empty

theorem IsDotted.isName_rootNames {root : String} (h : IsDotted root) :
    ∀ name ∈ rootNames root, Path.IsName name := by
  rw [h.rootNames_eq, List.forall_mem_append, List.forall_mem_singleton]
  refine ⟨fun segment hsegment => ?_, by decide⟩
  obtain ⟨hne, hmark⟩ := h.isPackageName segment hsegment
  exact isName_of_unmarked hne hmark

/-- A text is the name of a package if its lowercase form is one. -/
theorem isPackageName_of_lowercase {packageName : String}
    (h : IsPackageName (Text.lowercase packageName)) : IsPackageName packageName := by
  refine ⟨?_, ?_⟩
  · rintro rfl
    exact h.ne_empty rfl
  · intro c hc hmark
    exact h.unmarked c (Text.mem_lowercase hc hmark) hmark

/-! ## The names of one file -/

/-- The methods of a module class neither name a package nor declare a class. -/
theorem silent_methodPieces (javaType : String → String) (target : String)
    (entry : Callable × Parameter) : ∀ piece ∈ methodPieces javaType target entry,
      piece.namedPackage? = none ∧ piece.declaredClass? = none := by
  rw [methodPieces, callPieces]
  split
  · simp [Piece.namedPackage?, Piece.declaredClass?]
  · simp [Piece.namedPackage?, Piece.declaredClass?]

theorem filterMap_flatMap_eq_nil {f : Piece → Option String} {entries : List (Callable × Parameter)}
    {pieces : Callable × Parameter → List Piece}
    (h : ∀ entry, ∀ piece ∈ pieces entry, f piece = none) :
    (entries.flatMap pieces).filterMap f = [] := by
  apply List.filterMap_eq_nil_iff.2
  intro piece hpiece
  obtain ⟨entry, -, hmem⟩ := List.mem_flatMap.1 hpiece
  exact h entry piece hmem

theorem Kind.filterMap_namedPackage? (kind : Kind) (config : Config) (decl : Declaration) :
    (kind.pieces config decl).filterMap Piece.namedPackage? =
      [bridgePackage config.packageRoot decl.packageName] := by
  cases kind with
  | module javaType =>
    have hmethods := fun entry piece hpiece =>
      (silent_methodPieces javaType (typeName decl.packageName) entry piece hpiece).1
    simp only [Kind.pieces, modulePieces, List.filterMap_append, filterMap_flatMap_eq_nil hmethods]
    rfl
  | package => rfl

theorem Kind.filterMap_declaredClass? (kind : Kind) (config : Config) (decl : Declaration) :
    (kind.pieces config decl).filterMap Piece.declaredClass? = [kind.className decl.packageName] := by
  cases kind with
  | module javaType =>
    have hmethods := fun entry piece hpiece =>
      (silent_methodPieces javaType (typeName decl.packageName) entry piece hpiece).2
    simp only [Kind.pieces, modulePieces, List.filterMap_append, filterMap_flatMap_eq_nil hmethods]
    rfl
  | package => rfl

/-- A class starts with the line of its package, and its head follows. -/
theorem Kind.pieces_cons (kind : Kind) (config : Config) (decl : Declaration) :
    ∃ superclass interface pieces, kind.pieces config decl =
        .packageLine (bridgePackage config.packageRoot decl.packageName) :: pieces ∧
      .classHeader (kind.className decl.packageName) superclass interface ∈ pieces := by
  cases kind with
  | module javaType =>
    refine ⟨some "ReactContextBaseJavaModule", none, _, rfl, ?_⟩
    simp [Kind.className]
  | package =>
    refine ⟨none, some "ReactPackage", _, rfl, ?_⟩
    simp [Kind.className]

/-- The file that a builder writes is called after the class that it declares, and lies where the
names of the package lead that it says it is of. -/
structure Builder.Spells {Handle : Type} (builder : Builder Handle) (decl : Declaration)
    (javaPackage className : String) : Prop where
  namesPackage : (builder.kind.pieces builder.config decl).filterMap Piece.namedPackage? = [javaPackage]
  declaresClass : (builder.kind.pieces builder.config decl).filterMap Piece.declaredClass? = [className]
  text : ∃ front back, builder.kind.text builder.config decl =
    "package " ++ javaPackage ++ ";\n" ++ front ++
      ("public class " ++ className ++ " " ++ back)
  components : (builder.target decl.packageName).components =
    builder.config.output.components ++ (segmentsOf javaPackage).map .name ++
      [.name (className ++ ".java")]

theorem Builder.spells {Handle : Type} (builder : Builder Handle)
    (hroot : IsDotted builder.config.packageRoot) {decl : Declaration}
    (h : IsPackageName decl.packageName) :
    builder.Spells decl (bridgePackage builder.config.packageRoot decl.packageName)
      (builder.kind.className decl.packageName) where
  namesPackage := builder.kind.filterMap_namedPackage? _ decl
  declaresClass := builder.kind.filterMap_declaredClass? _ decl
  text := by
    obtain ⟨superclass, interface, pieces, hpieces, hmem⟩ :=
      builder.kind.pieces_cons builder.config decl
    unfold Kind.text
    rw [hpieces]
    exact exists_written _ hmem
  components := by
    rw [builder.target_eq, Kind.components_target _ hroot.isName_rootNames h,
      segmentsOf_bridgePackage _ h, Kind.targetNames, hroot.rootNames_eq]
    simp [Kind.fileName]

/-! ## The names of both files -/

/-- Two files spell names of one Java package, and lie in one directory. The second class makes a
module of the class that the first file declares. -/
def NamesAgree {Handle : Type} (module package : Builder Handle) (decl decl' : Declaration) : Prop :=
  ∃ javaPackage moduleName packageName,
    module.Spells decl javaPackage moduleName ∧ package.Spells decl' javaPackage packageName ∧
    (∃ dir, (module.target decl.packageName).parent? = some dir ∧
      (package.target decl'.packageName).parent? = some dir) ∧
    methodBody "createNativeModules" (package.kind.pieces package.config decl') =
      [.statement "List<NativeModule> modules = new ArrayList<>()",
        .statement ("modules.add(new " ++ moduleName ++ "(" ++ package.config.contextParam ++ "))"),
        .returnLine "modules"]

/-- **The names of a bridge agree**, also between classes that were written for two files of one
package. Only the lowercase form of the name is asked to be a name, since title case adds no mark
to it. -/
theorem target_spells {Handle : Type} (javaType : String → String) {config : Config}
    (hroot : IsDotted config.packageRoot) {decl decl' : Declaration}
    (hsame : decl'.packageName = decl.packageName)
    (h : IsPackageName (Text.lowercase decl.packageName)) :
    NamesAgree (Builder.create (.module javaType) config : Builder Handle)
      (Builder.create .package config) decl decl' := by
  have hname : IsPackageName decl.packageName := isPackageName_of_lowercase h
  have hmodule := (Builder.create (.module javaType) config : Builder Handle).spells hroot hname
  have hpackage := (Builder.create .package config : Builder Handle).spells hroot (hsame ▸ hname)
  rw [hsame] at hpackage
  refine ⟨bridgePackage config.packageRoot decl.packageName, moduleClass decl.packageName,
    packageClass decl.packageName, hmodule, hpackage, ?_, ?_⟩
  · obtain ⟨dir, hdir, -⟩ := Path.parent?_join
      ((bridgeRoot config).join ⟨Text.lowercase decl.packageName⟩)
      ((Kind.module javaType).isName_fileName hname)
    refine ⟨dir, ?_, ?_⟩
    · rw [Builder.target_eq, Builder.create, Kind.target_eq_join _ _ hname]
      exact hdir
    · rw [Builder.target_eq, Builder.create, hsame, Kind.target_eq_join _ _ hname, ← hdir]
      exact Path.parent?_join_congr _ (Kind.isName_fileName _ hname) (Kind.isName_fileName _ hname)
  · rw [← hsame]
    rfl

theorem target_spells_hello :
    NamesAgree (Builder.create (.module goTypes.apply) ⟨⟨"out"⟩, "com.acme", "context"⟩ :
        Builder FileSystem.Handle) (Builder.create .package ⟨⟨"out"⟩, "com.acme", "context"⟩)
      ⟨"Hello", []⟩ ⟨"Hello", [(⟨"Greet", []⟩, .empty)]⟩ :=
  target_spells goTypes.apply ⟨["com", "acme"], by decide, by decide⟩ rfl (by decide)

/-! ## Two packages -/

theorem Kind.fileName_congr (kind : Kind) {packageName packageName' : String}
    (h : Text.lowercase packageName = Text.lowercase packageName') :
    kind.fileName packageName = kind.fileName packageName' := by
  cases kind with
  | module javaType =>
    simp only [fileName, className, moduleClass, typeName, Text.lowerTitleCase, h]
  | package =>
    simp only [fileName, className, packageClass, typeName, Text.lowerTitleCase, h]

/-- Two packages have one file for a class exactly if their names agree in lowercase. -/
theorem Kind.target_same_iff_lowercase (kind : Kind) (config : Config)
    {packageName packageName' : String} (h : IsPackageName packageName)
    (h' : IsPackageName packageName') :
    (kind.target config packageName).same (kind.target config packageName') = true ↔
      Text.lowercase packageName = Text.lowercase packageName' := by
  rw [kind.target_same_iff kind config h h', targetNames, targetNames, List.append_cancel_left_eq]
  constructor
  · intro hnames
    exact (List.cons.inj hnames).1
  · intro hlower
    rw [hlower, kind.fileName_congr hlower]

/-- **Bridges collide** exactly if the names of their packages agree in lowercase: then the module
classes have one file, and so have the package classes. A module class and a package class never
have one. -/
theorem target_collisions {Handle : Type} (config : Config) (javaType : String → String)
    {packageName packageName' : String} (h : IsPackageName (Text.lowercase packageName))
    (h' : IsPackageName (Text.lowercase packageName')) :
    (((Builder.create (.module javaType) config : Builder Handle).target packageName).same
        ((Builder.create (.module javaType) config : Builder Handle).target packageName') = true ↔
      Text.lowercase packageName = Text.lowercase packageName') ∧
    (((Builder.create .package config : Builder Handle).target packageName).same
        ((Builder.create .package config : Builder Handle).target packageName') = true ↔
      Text.lowercase packageName = Text.lowercase packageName') ∧
    ((Builder.create (.module javaType) config : Builder Handle).target packageName).same
      ((Builder.create .package config : Builder Handle).target packageName') = false := by
  have hname := isPackageName_of_lowercase h
  have hname' := isPackageName_of_lowercase h'
  simp only [Builder.target_eq, Builder.create]
  refine ⟨Kind.target_same_iff_lowercase _ config hname hname',
    Kind.target_same_iff_lowercase _ config hname hname', ?_⟩
  rw [Bool.eq_false_iff, ne_eq, Kind.target_same_iff _ _ config hname hname']
  exact module_targetNames_ne javaType config packageName packageName'

theorem target_collisions_hi :
    ((Builder.create .package ⟨⟨"out"⟩, "a//b/", "context"⟩ : Builder FileSystem.Handle).target
      "Hi").same ((Builder.create .package ⟨⟨"out"⟩, "a//b/", "context"⟩ :
        Builder FileSystem.Handle).target "HI") = true :=
  (target_collisions ⟨⟨"out"⟩, "a//b/", "context"⟩ goTypes.apply (by decide)
    (by decide)).2.1.2 (by decide)

end Bridge

end ReactBridge
