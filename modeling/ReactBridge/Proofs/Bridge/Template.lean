import ReactBridge.Bridge.Builder
import ReactBridge.Proofs.Java.Document

/-!
# Templates of the generated files

Each class of a bridge as a tree of blocks, beside the flat list of pieces that its builder writes.

* `Template` : a package line, imports and a class, with its text;
* `moduleTemplate`, `packageTemplate` : the two files of a bridge;
* `Kind.pieces_eq` : the pieces of a class are those of its template;
* `Kind.traces_pieces` : they write the text of the template.
-/

namespace ReactBridge.Bridge
open ReactBridge.Java

/-! ## Files as trees -/

structure Template where
  package : String
  imports : List String
  head : Head
  body : Body

def Template.text (template : Template) : String :=
  "package " ++ template.package ++ ";\n\n" ++
    String.join (template.imports.map fun name => "import " ++ name ++ ";\n") ++ "\n" ++
      renderItems 0 [.block template.head template.body]

def Template.pieces (template : Template) : List Piece :=
  [.packageLine template.package, .blank 1] ++ template.imports.map .importLine ++ [.blank 1] ++
    itemsPieces [.block template.head template.body]

/-- The call of a function, with its parameters in their order. -/
def callText (target : String) (callable : Callable) : String :=
  target ++ "." ++ methodName callable.name ++ "(" ++
    ", ".intercalate (callable.parameters.map fun parameter => parameter.name) ++ ")"

/-- The statements of a call. Its result is bound and resolved if it has a type that the Java side
has too. -/
def callItems (javaType : String → String) (call : String) (result : Parameter) : List Item :=
  if result.typeName ≠ "" ∧ javaType result.typeName ≠ "" then
    [.statement (javaType result.typeName ++ " returnParam1 = " ++ call),
      .statement "promise.resolve(returnParam1)"]
  else [.statement call]

/-- The method for a function. It has the parameters of the function in their order, and a promise. -/
def methodItems (javaType : String → String) (target : String) (entry : Callable × Parameter) :
    List Item :=
  [.annotate "ReactMethod",
    .block
      (.methodHead "void" (methodName entry.1.name)
        ((entry.1.parameters.map fun parameter => ⟨javaType parameter.typeName, parameter.name⟩) ++
          [⟨"Promise", "promise"⟩]))
      ⟨[.attempt ⟨callItems javaType (callText target entry.1) entry.2, none⟩
        "promise.reject(\"Error\", e)"], none⟩,
    .blank 1]

def moduleTemplate (config : Config) (javaType : String → String) (decl : Declaration) : Template where
  package := bridgePackage config.packageRoot decl.packageName
  imports :=
    ["com.facebook.react.bridge.ReactApplicationContext",
      "com.facebook.react.bridge.Promise",
      "com.facebook.react.bridge.ReactContextBaseJavaModule",
      "com.facebook.react.bridge.ReactMethod",
      goImport decl.packageName]
  head := .classHead (moduleClass decl.packageName) (some "ReactContextBaseJavaModule") none
  body :=
    ⟨[.blank 1,
      .block (.constructorHead (moduleClass decl.packageName)
          [⟨"ReactApplicationContext", config.contextParam⟩])
        ⟨[], some (.superCall config.contextParam, [])⟩,
      .blank 1,
      .annotate "Override",
      .block (.methodHead "String" "getName" [])
        ⟨[], some (.returnText (moduleClass decl.packageName), [])⟩,
      .blank 1] ++
      decl.entries.flatMap (methodItems javaType (typeName decl.packageName)), none⟩

def overrideItems (returnType name : String) (params : List Param) (items : List Item)
    (expression : String) : List Item :=
  [.annotate "Override",
    .block (.methodHead returnType name params) ⟨items, some (.returnLine expression, [])⟩,
    .blank 1]

def packageTemplate (config : Config) (decl : Declaration) : Template where
  package := bridgePackage config.packageRoot decl.packageName
  imports :=
    ["com.facebook.react.ReactPackage",
      "com.facebook.react.bridge.JavaScriptModule",
      "com.facebook.react.bridge.NativeModule",
      "com.facebook.react.bridge.ReactApplicationContext",
      "com.facebook.react.uimanager.ViewManager",
      "java.util.ArrayList",
      "java.util.Collections",
      "java.util.List"]
  head := .classHead (packageClass decl.packageName) none (some "ReactPackage")
  body :=
    ⟨[.blank 1] ++
      overrideItems "List<NativeModule>" "createNativeModules"
        [⟨"ReactApplicationContext", config.contextParam⟩]
        [.statement "List<NativeModule> modules = new ArrayList<>()",
          .statement
            ("modules.add(new " ++ moduleClass decl.packageName ++ "(" ++ config.contextParam ++ "))")]
        "modules" ++
      overrideItems "List<Class<? extends JavaScriptModule>>" "createJSModules" [] []
        "Collections.emptyList()" ++
      overrideItems "List<ViewManager>" "createViewManagers"
        [⟨"ReactApplicationContext", config.contextParam⟩] []
        "Collections.emptyList()", none⟩

def Kind.template : Kind → Config → Declaration → Template
  | module javaType, config, decl => moduleTemplate config javaType decl
  | package, config, decl => packageTemplate config decl

/-! ## Names without braces -/

/-- Whether no name that a declaration gives to the method for an entry has a brace. -/
def EntryBraceFree (javaType : String → String) (entry : Callable × Parameter) : Prop :=
  BraceFree (methodName entry.1.name) ∧
    (∀ parameter ∈ entry.1.parameters,
      BraceFree parameter.name ∧ BraceFree (javaType parameter.typeName)) ∧
    (entry.2.typeName ≠ "" → BraceFree (javaType entry.2.typeName))

/-- Whether no name inside the class for a declaration has a brace. The package line and the imports
may hold braces. -/
def Kind.NamesBraceFree (kind : Kind) (config : Config) (decl : Declaration) : Prop :=
  BraceFree (moduleClass decl.packageName) ∧ BraceFree (packageClass decl.packageName) ∧
    BraceFree config.contextParam ∧
    match kind with
    | module javaType => ∀ entry ∈ decl.entries, EntryBraceFree javaType entry
    | package => True

instance (javaType : String → String) : DecidablePred (EntryBraceFree javaType) := fun entry =>
  inferInstanceAs (Decidable (BraceFree (methodName entry.1.name) ∧
    (∀ parameter ∈ entry.1.parameters,
      BraceFree parameter.name ∧ BraceFree (javaType parameter.typeName)) ∧
    (entry.2.typeName ≠ "" → BraceFree (javaType entry.2.typeName))))

instance : (kind : Kind) → (config : Config) → (decl : Declaration) →
    Decidable (kind.NamesBraceFree config decl)
  | .module javaType, config, decl =>
    inferInstanceAs (Decidable (BraceFree (moduleClass decl.packageName) ∧
      BraceFree (packageClass decl.packageName) ∧ BraceFree config.contextParam ∧
      ∀ entry ∈ decl.entries, EntryBraceFree javaType entry))
  | .package, config, decl =>
    inferInstanceAs (Decidable (BraceFree (moduleClass decl.packageName) ∧
      BraceFree (packageClass decl.packageName) ∧ BraceFree config.contextParam ∧ True))

/-! ## Pieces -/

theorem callPieces_eq (javaType : String → String) (call : String) (result : Parameter) :
    callPieces javaType call result = (callItems javaType call result).flatMap Item.pieces := by
  have hmapped : (result.hasType && !(javaType result.typeName).isEmpty) = true ↔
      result.typeName ≠ "" ∧ javaType result.typeName ≠ "" := by
    simp [Parameter.hasType]
  rw [callPieces, resultType, callItems]
  by_cases h : result.typeName ≠ "" ∧ javaType result.typeName ≠ ""
  · rw [if_pos (hmapped.2 h), if_pos h]
    rfl
  · rw [if_neg (mt hmapped.1 h), if_neg h]
    rfl

theorem methodPieces_eq (javaType : String → String) (target : String)
    (entry : Callable × Parameter) :
    methodPieces javaType target entry =
      (methodItems javaType target entry).flatMap Item.pieces := by
  rw [methodPieces, callPieces_eq, ← itemsPieces_eq_flatMap]
  simp [methodItems, methodParams, callExpression, callText, Item.pieces, bodyPieces, itemsPieces,
    itemsPieces_eq_flatMap, endingPieces, Head.piece]

/-- The pieces that a builder writes are those of the tree. -/
theorem Kind.pieces_eq (kind : Kind) (config : Config) (decl : Declaration) :
    kind.pieces config decl = (kind.template config decl).pieces := by
  cases kind with
  | module javaType =>
    have hmethods : decl.entries.flatMap (methodPieces javaType (typeName decl.packageName)) =
        itemsPieces (decl.entries.flatMap (methodItems javaType (typeName decl.packageName))) := by
      rw [itemsPieces_eq_flatMap, List.flatMap_assoc]
      exact congrArg decl.entries.flatMap
        (funext (methodPieces_eq javaType (typeName decl.packageName)))
    simp [Kind.pieces, Kind.template, modulePieces, moduleTemplate, Template.pieces, hmethods,
      moduleImports, constructorPieces, namePieces, contextParam, itemsPieces,
      Item.pieces, bodyPieces, endingPieces, Head.piece, Ending.piece]
  | package =>
    simp [Kind.pieces, Kind.template, packagePieces, packageTemplate, Template.pieces,
      packageImports, overridePieces, overrideItems, contextParam, itemsPieces,
      Item.pieces, bodyPieces, endingPieces, Head.piece, Ending.piece]

/-! ## Texts -/

theorem braceFree_contextParam {name : String} (h : BraceFree name) :
    ∀ param ∈ [(⟨"ReactApplicationContext", name⟩ : Param)], param.BraceFree := by
  have htype : BraceFree "ReactApplicationContext" := by decide
  exact List.forall_mem_singleton.2 ⟨htype, h⟩

theorem braceFree_callText {javaType : String → String} {target : String}
    {entry : Callable × Parameter} (htarget : BraceFree target)
    (hentry : EntryBraceFree javaType entry) : BraceFree (callText target entry.1) := by
  obtain ⟨hmethod, hparams, -⟩ := hentry
  have harguments : BraceFree
      (", ".intercalate (entry.1.parameters.map fun parameter => parameter.name)) :=
    braceFree_intercalate (by decide) (List.forall_mem_map.2 fun parameter hmem =>
      (hparams parameter hmem).1)
  have hfunction : BraceFree (target ++ "." ++ methodName entry.1.name) :=
    .append (.append htarget (by decide)) hmethod
  exact .append (.append (.append hfunction (by decide)) harguments) (by decide)

theorem settles_callItems {javaType : String → String} {call : String} {result : Parameter}
    (hcall : BraceFree call)
    (hresult : result.typeName ≠ "" → BraceFree (javaType result.typeName)) :
    (⟨callItems javaType call result, none⟩ : Body).Settles := by
  rw [callItems]
  split
  · next hmapped =>
    have hbind : BraceFree (javaType result.typeName ++ " returnParam1 = " ++ call) :=
      .append (.append (hresult hmapped.1) (by decide)) hcall
    refine .of_items (List.forall_mem_cons.2 ⟨.statement hbind, ?_⟩) _ List.mem_cons_self rfl
    exact List.forall_mem_singleton.2 (.statement (by decide))
  · exact .of_items (List.forall_mem_singleton.2 (.statement hcall)) _ List.mem_cons_self rfl

theorem settles_methodItems {javaType : String → String} {target : String}
    {entry : Callable × Parameter} (htarget : BraceFree target)
    (hentry : EntryBraceFree javaType entry) :
    ∀ item ∈ methodItems javaType target entry, item.Settles := by
  have hcall := settles_callItems (braceFree_callText htarget hentry) hentry.2.2
  have hreject : BraceFree "promise.reject(\"Error\", e)" := by decide
  have hbody := List.forall_mem_singleton.2 (Item.Settles.attempt hcall hreject)
  obtain ⟨hmethod, hparams, -⟩ := hentry
  have hhead : ∀ param ∈ (entry.1.parameters.map fun parameter =>
      (⟨javaType parameter.typeName, parameter.name⟩ : Param)) ++ [⟨"Promise", "promise"⟩],
      param.BraceFree := by
    rw [List.forall_mem_append, List.forall_mem_map]
    exact ⟨fun parameter hmem => (hparams parameter hmem).symm, by decide⟩
  rw [methodItems, List.forall_mem_cons, List.forall_mem_cons, List.forall_mem_singleton]
  exact ⟨.annotate (by decide),
    .block ⟨by decide, hmethod, hhead⟩ (.of_items hbody _ List.mem_cons_self rfl), .blank 1⟩

theorem settles_moduleTemplate {config : Config} {javaType : String → String} {decl : Declaration}
    (h : (Kind.module javaType).NamesBraceFree config decl) :
    (moduleTemplate config javaType decl).body.Settles := by
  obtain ⟨hclass, -, hcontext, hentries⟩ := h
  have hmethods : ∀ item ∈ decl.entries.flatMap (methodItems javaType (typeName decl.packageName)),
      item.Settles := by
    intro item hitem
    obtain ⟨entry, hentry, hitem⟩ := List.mem_flatMap.1 hitem
    exact settles_methodItems hclass.of_append (hentries entry hentry) item hitem
  refine .of_items ?_ (.annotate "Override") (by simp) rfl
  simp only [List.cons_append, List.nil_append, List.forall_mem_cons]
  exact ⟨.blank 1, .block ⟨hclass, braceFree_contextParam hcontext⟩ (.of_ending nofun hcontext),
    .blank 1, .annotate (by decide), .block (by decide) (.of_ending nofun hclass), .blank 1, hmethods⟩

theorem settles_overrideItems {returnType name expression : String} {params : List Param}
    {items : List Item} (hhead : (Head.methodHead returnType name params).piece.BraceFree)
    (hitems : ∀ item ∈ items, item.Settles) (hexpression : BraceFree expression) :
    ∀ item ∈ overrideItems returnType name params items expression, item.Settles := by
  rw [overrideItems, List.forall_mem_cons, List.forall_mem_cons, List.forall_mem_singleton]
  exact ⟨.annotate (by decide), .block hhead (.of_ending hitems hexpression), .blank 1⟩

theorem settles_packageTemplate {config : Config} {decl : Declaration}
    (h : Kind.package.NamesBraceFree config decl) :
    (packageTemplate config decl).body.Settles := by
  obtain ⟨hmodule, hclass, hcontext, -⟩ := h
  have hadd : BraceFree
      ("modules.add(new " ++ moduleClass decl.packageName ++ "(" ++ config.contextParam ++ "))") :=
    .append (.append (.append (.append (by decide) hmodule) (by decide)) hcontext) (by decide)
  refine .of_items ?_ (.annotate "Override") (by simp [overrideItems]) rfl
  simp only [List.forall_mem_append]
  refine ⟨⟨⟨List.forall_mem_singleton.2 (.blank 1), ?_⟩, ?_⟩, ?_⟩
  · refine settles_overrideItems ⟨by decide, by decide, braceFree_contextParam hcontext⟩ ?_ (by decide)
    exact List.forall_mem_cons.2 ⟨.statement (by decide),
      List.forall_mem_singleton.2 (.statement hadd)⟩
  · exact settles_overrideItems (by decide) nofun (by decide)
  · exact settles_overrideItems ⟨by decide, by decide, braceFree_contextParam hcontext⟩ nofun
      (by decide)

theorem braceFree_templateHead {kind : Kind} {config : Config} {decl : Declaration}
    (h : kind.NamesBraceFree config decl) : (kind.template config decl).head.piece.BraceFree := by
  obtain ⟨hmodule, hpackage, -⟩ := h
  cases kind with
  | module javaType => exact ⟨hmodule, by decide, nofun⟩
  | package => exact ⟨hpackage, nofun, by decide⟩

theorem settles_templateBody {kind : Kind} {config : Config} {decl : Declaration}
    (h : kind.NamesBraceFree config decl) : (kind.template config decl).body.Settles := by
  cases kind with
  | module javaType => exact settles_moduleTemplate h
  | package => exact settles_packageTemplate h

theorem traces_imports (names : List String) :
    Traces 0 0 .start .start (names.map .importLine)
      (String.join (names.map fun name => "import " ++ name ++ ";\n")) := by
  induction names with
  | nil => exact .nil 0 .start
  | cons name names ih =>
    rw [List.map_cons, List.map_cons, String.join_cons]
    exact Traces.append (.verbatim rfl rfl rfl .start) ih

theorem Template.traces {template : Template} (hhead : template.head.piece.BraceFree)
    (hbody : template.body.Settles) :
    Traces 0 0 .start .start template.pieces template.text := by
  have hpackage : Traces 0 0 .start .start [.packageLine template.package, .blank 1]
      ("package " ++ template.package ++ ";\n\n") := by
    have hbreak : ";\n\n" = ";\n" ++ "\n" := rfl
    rw [hbreak, ← String.append_assoc]
    exact Traces.append (.verbatim rfl rfl rfl .start) (.verbatim rfl rfl rfl .start)
  have hblank : Traces 0 0 .start .start [.blank 1] "\n" := .verbatim rfl rfl rfl .start
  have hclass := traces_start (List.forall_mem_singleton.2 (Item.Settles.block hhead hbody))
  exact ((hpackage.append (traces_imports template.imports)).append hblank).append hclass

/-- **The pieces of a class** write the text of its template, and end at the left margin. -/
theorem Kind.traces_pieces {kind : Kind} {config : Config} {decl : Declaration}
    (h : kind.NamesBraceFree config decl) :
    Traces 0 0 .start .start (kind.pieces config decl) (kind.template config decl).text := by
  rw [kind.pieces_eq]
  exact Template.traces (braceFree_templateHead h) (settles_templateBody h)

end ReactBridge.Bridge
