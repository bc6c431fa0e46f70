import ReactBridge.Declaration.Extract
import ReactBridge.Proofs.Go.Image
import ReactBridge.Proofs.Text

/-!
# Names in declarations

Templates and paths take the texts of a declaration as they are. Those texts are names, or empty.

* `Text.IsDelimiter` : the characters that mean something around a name;
* `Parameter.WellNamed`, `Callable.WellNamed`, `Declaration.WellNamed` : which texts are names;
* `Declaration.WellNamed.ofFile` : the declaration of a well-formed file is well-named;
* `Declaration.ofText_wellNamed` : so is that of any source that can be read.
-/

namespace ReactBridge

open Go (IsIdentifier)

/-! ## Delimiters -/

/-- The brackets, the quotes, the comma, the semicolon, the dot and the slashes. -/
def Text.delimiters : List Char :=
  ['{', '}', '(', ')', '[', ']', '"', '\'', Go.rawQuote, ',', ';', '.', '/', '\\']

/-- Whether `c` means something around a name, as a mark or as white space, line ends included. -/
def Text.IsDelimiter (c : Char) : Prop :=
  c ∈ delimiters ∨ isBlank c = true

theorem Go.isNamePart_eq_of_ascii {c : Char} (h : c.toNat < 0x80) :
    isNamePart c = (c = '_' || c.isAlphanum) := by
  rw [isNamePart, Text.isAlphabetic, if_pos h, Text.isNumeric, if_pos h, Char.isAlphanum]

/-- The marks among the delimiters are not letters or digits. -/
theorem Text.delimiters_ascii :
    delimiters.all (fun c => c.toNat < 0x80 && !(c = '_' || c.isAlphanum)) = true := by
  decide

theorem Text.not_isDelimiter_of_isNamePart {c : Char} (h : Go.isNamePart c = true) :
    ¬ IsDelimiter c := by
  rintro (hmember | hblank)
  · have hmark := List.all_eq_true.1 delimiters_ascii c hmember
    obtain ⟨hascii, hother⟩ := Bool.and_eq_true_iff.1 hmark
    rw [← Go.isNamePart_eq_of_ascii (of_decide_eq_true hascii), h] at hother
    cases hother
  · have hline : c ≠ '_' := by
      rintro rfl
      exact absurd hblank (by decide)
    rw [Go.isNamePart, isAlphabetic_eq_false_of_isBlank hblank,
      isNumeric_eq_false_of_isBlank hblank, decide_eq_false hline] at h
    cases h

theorem Go.IsIdentifier.not_isDelimiter {name : String} (h : IsIdentifier name) :
    ∀ c ∈ name.toList, ¬ Text.IsDelimiter c :=
  fun c hc => Text.not_isDelimiter_of_isNamePart (h.isNamePart c hc)

/-! ## Well-named declarations -/

/-- The texts of a parameter or a return slot are names where there are any. -/
structure Parameter.WellNamed (parameter : Parameter) : Prop where
  name : parameter.name = "" ∨ IsIdentifier parameter.name
  typeName : parameter.typeName = "" ∨ IsIdentifier parameter.typeName

/-- A callable has a name that starts with an uppercase letter, and each parameter has a type. -/
structure Callable.WellNamed (callable : Callable) : Prop where
  name : IsIdentifier callable.name
  initial : ∃ c ∈ callable.name.toList.head?, Text.isUppercase c = true
  parameters : ∀ parameter ∈ callable.parameters, parameter.WellNamed
  types : ∀ parameter ∈ callable.parameters, IsIdentifier parameter.typeName

namespace Declaration

/-- The package and all callables have names. -/
structure WellNamed (decl : Declaration) : Prop where
  package : IsIdentifier decl.packageName
  callables : ∀ callable ∈ decl.callables, callable.WellNamed
  returns : ∀ result ∈ decl.returns, result.WellNamed

def textsOf (entry : Callable × Parameter) : List String :=
  entry.1.name :: (entry.2 :: entry.1.parameters).flatMap fun parameter =>
    [parameter.name, parameter.typeName]

def texts (decl : Declaration) : List String :=
  decl.packageName :: decl.entries.flatMap textsOf

theorem WellNamed.texts {decl : Declaration} (h : decl.WellNamed) :
    ∀ text ∈ decl.texts, text = "" ∨ IsIdentifier text := by
  have hslot : ∀ parameter : Parameter, parameter.WellNamed →
      ∀ text ∈ [parameter.name, parameter.typeName], text = "" ∨ IsIdentifier text :=
    fun parameter hparameter => List.forall_mem_cons.2
      ⟨hparameter.name, List.forall_mem_singleton.2 hparameter.typeName⟩
  refine List.forall_mem_cons.2 ⟨.inr h.package, List.forall_mem_flatMap.2 fun entry hentry => ?_⟩
  have hcallable := h.callables entry.1 (List.mem_map_of_mem hentry)
  have hresult := h.returns entry.2 (List.mem_map_of_mem hentry)
  refine List.forall_mem_cons.2 ⟨.inr hcallable.name, List.forall_mem_flatMap.2 ?_⟩
  exact List.forall_mem_cons.2 ⟨hslot _ hresult, fun parameter hparameter =>
    hslot parameter (hcallable.parameters parameter hparameter)⟩

theorem WellNamed.isValid_iff {decl : Declaration} (h : decl.WellNamed) :
    decl.isValid = true ↔ decl.callables ≠ [] := by
  have hpackage : decl.packageName.isEmpty = false := by
    simpa using h.package.ne_empty
  rw [isValid, hpackage, Declaration.callables, ne_eq, List.map_eq_nil_iff]
  simp

/-! ## Declarations of files -/

theorem isIdentifier_of_simpleName? {type : Go.TypeExpr} (h : type.item.WellFormed) {name : String}
    (hname : type.simpleName? = some name) : IsIdentifier name := by
  cases type with
  | named found =>
    obtain rfl := Option.some.inj hname
    cases h with
    | named hfound => exact hfound
  | _ => cases hname

theorem wellNamed_parametersOf {field : Go.Field} (hnames : ∀ name ∈ field.names, IsIdentifier name)
    (htype : field.type.item.WellFormed) :
    ∀ parameter ∈ parametersOf field, parameter.WellNamed ∧ IsIdentifier parameter.typeName := by
  rw [parametersOf]
  split
  · nofun
  next typeName htypeName =>
  have htypeName := isIdentifier_of_simpleName? htype htypeName
  split
  · exact List.forall_mem_singleton.2 ⟨⟨.inl rfl, .inr htypeName⟩, htypeName⟩
  · refine List.forall_mem_map.2 fun name hname => ⟨⟨.inr ?_, .inr htypeName⟩, htypeName⟩
    exact hnames name hname

theorem wellNamed_callableOf {func : Go.FuncDecl} (h : func.WellFormed)
    (hexported : isExported func.name = true) : (callableOf func).WellNamed := by
  have hparameters : ∀ parameter ∈ (callableOf func).parameters,
      parameter.WellNamed ∧ IsIdentifier parameter.typeName :=
    List.forall_mem_flatMap.2 fun field hfield =>
      wellNamed_parametersOf (h.params.identifiers field hfield) (h.params.types field hfield)
  exact ⟨h.name, (Option.any_eq_true _ _).1 hexported, fun parameter hparameter =>
    (hparameters parameter hparameter).1, fun parameter hparameter =>
    (hparameters parameter hparameter).2⟩

theorem wellNamed_returnOf {func : Go.FuncDecl} (h : func.WellFormed) :
    (returnOf func).WellNamed := by
  rw [returnOf]
  split
  · exact ⟨.inl rfl, .inl rfl⟩
  next field fields hresults =>
  have hfield : field ∈ func.results := hresults ▸ List.mem_cons_self
  constructor
  · cases hnames : field.names with
    | nil => exact .inl rfl
    | cons name names =>
      exact .inr (h.results.identifiers field hfield name (hnames ▸ List.mem_cons_self))
  · cases hname : field.type.simpleName? with
    | none => exact .inl rfl
    | some name => exact .inr (isIdentifier_of_simpleName? (h.results.types field hfield) hname)

theorem WellNamed.ofFile {file : Go.SourceFile} (h : file.WellFormed) :
    (ofFile isExported file file.package).WellNamed := by
  have hfuncs : ∀ func ∈ exportedFuncs isExported file, func.WellFormed ∧ isExported func.name = true := by
    intro func hfunc
    obtain ⟨hmember, hkept⟩ := List.mem_filter.1 hfunc
    exact ⟨h.funcs func hmember, (Bool.and_eq_true_iff.1 hkept).2⟩
  refine ⟨h.package, ?_, ?_⟩
  · rw [Declaration.callables, Declaration.ofFile, List.map_map, List.forall_mem_map]
    exact fun func hfunc => wellNamed_callableOf (hfuncs func hfunc).1 (hfuncs func hfunc).2
  · rw [Declaration.returns, Declaration.ofFile, List.map_map, List.forall_mem_map]
    exact fun func hfunc => wellNamed_returnOf (hfuncs func hfunc).1

/-- **The declaration of a source that can be read is well-named.** It is valid as soon as anything is
exported, and no text of it holds a delimiter. -/
theorem ofText_wellNamed {source : String} {file : Go.SourceFile}
    (h : Go.SourceFile.ofText source = .ok file) :
    (ofFile isExported file file.package).WellNamed ∧
      ((ofFile isExported file file.package).isValid = true ↔
        (ofFile isExported file file.package).callables ≠ []) ∧
      ∀ text ∈ (ofFile isExported file file.package).texts,
        ∀ c ∈ text.toList, ¬ Text.IsDelimiter c := by
  have hnamed := WellNamed.ofFile (Go.wellFormed_of_ofText h)
  refine ⟨hnamed, hnamed.isValid_iff, fun text htext => ?_⟩
  rcases hnamed.texts text htext with rfl | hname
  · nofun
  · exact hname.not_isDelimiter

/-- Brackets in a comment and a literal, a type that is no name, and two results. -/
theorem ofText_wellNamed_sample :
    ∃ file, Go.SourceFile.ofText ("package greet // \x7d\x7b\n" ++
        "func Hi(name string, _ []byte) (text string, err error) \x7b '\x7d' \x7d") = .ok file ∧
      ofFile isExported file file.package =
        ⟨"greet", [(⟨"Hi", [⟨"name", "string"⟩]⟩, ⟨"text", "string"⟩)]⟩ ∧
      (ofFile isExported file file.package).WellNamed := by
  refine (Go.exists_of_toOption ?_).imp fun file ⟨hfile, hdecl⟩ =>
    ⟨hfile, hdecl, (ofText_wellNamed hfile).1⟩
  decide +kernel

end Declaration

end ReactBridge
