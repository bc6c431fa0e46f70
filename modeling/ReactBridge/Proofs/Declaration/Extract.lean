import Mathlib.Data.List.Forall2
import Mathlib.Data.List.Sort
import ReactBridge.Declaration.Extract

/-!
# What a declaration takes from its file

An entry is made for each function without a receiver whose name a rule lets through, whatever the
rule, and its texts are those of the signature, as far as an entry can hold them.

* `FieldGives`, `CallableGives`, `ReturnGives` : what a field, a function and its results give;
* `Extracts` : the contract between a file and its declaration;
* `Columns` : callables and return slots kept apart, one function at a time;
* `eq_ofFile_iff_extracts` : one declaration keeps the contract, and the two columns show it.
-/

namespace ReactBridge.Declaration

open Go (Field FuncDecl SourceFile TypeExpr)

/-! ## What a signature gives -/

/-- Whether the type is anything but a plain name. -/
def IsComposite (type : TypeExpr) : Prop :=
  ∀ typeName, type ≠ .named typeName

/-- The parameters that a field gives: with a composite type none, whatever its names; otherwise one
without a name, or one for each of its names. -/
inductive FieldGives : Field → List Parameter → Prop
  | composite {names : List String} {type : TypeExpr} (htype : IsComposite type) :
      FieldGives ⟨names, type⟩ []
  | unnamed (typeName : String) : FieldGives ⟨[], .named typeName⟩ [⟨"", typeName⟩]
  | named {names : List String} (hnames : names ≠ []) (typeName : String) :
      FieldGives ⟨names, .named typeName⟩ (names.map fun name => ⟨name, typeName⟩)

/-- The callable that a function gives: its name, and what its fields give in their order. -/
structure CallableGives (func : FuncDecl) (callable : Callable) : Prop where
  name : callable.name = func.name
  parameters : ∃ parts, List.Forall₂ FieldGives func.params parts ∧
    callable.parameters = parts.flatten

/-- The return slot that results give. Only the first field counts, and its first name. -/
inductive ReturnGives : List Field → Parameter → Prop
  | nothing : ReturnGives [] ⟨"", ""⟩
  | plain (names : List String) (typeName : String) (others : List Field) :
      ReturnGives (⟨names, .named typeName⟩ :: others) ⟨names.headD "", typeName⟩
  | composite (names : List String) {type : TypeExpr} (htype : IsComposite type)
      (others : List Field) : ReturnGives (⟨names, type⟩ :: others) ⟨names.headD "", ""⟩

/-- Whether a function has an entry. -/
structure IsKept (exported : String → Bool) (func : FuncDecl) : Prop where
  free : func.receiver = none
  exported : exported func.name = true

/-- What a function gives, seen at its place in the file. -/
def EntryAt (file : SourceFile) (place : Nat) (entry : Callable × Parameter) : Prop :=
  ∃ func, file.funcs[place]? = some func ∧ CallableGives func entry.1 ∧
    ReturnGives func.results entry.2

/-- The contract of an extraction. The places of the functions that are kept, in ascending order, are
those of the entries, and an entry is a callable and the return slot in the same position. -/
structure Extracts (exported : String → Bool) (file : SourceFile) (packageName : String)
    (decl : Declaration) : Prop where
  package : decl.packageName = packageName
  aligned : decl.callables.length = decl.returns.length
  entries : decl.entries = decl.callables.zip decl.returns
  places : ∃ places : List Nat, places.Pairwise (· < ·) ∧
    (∀ place, place ∈ places ↔ ∃ func, file.funcs[place]? = some func ∧ IsKept exported func) ∧
    List.Forall₂ (EntryAt file) places (decl.callables.zip decl.returns)

theorem simpleName?_eq_none_iff {type : TypeExpr} : type.simpleName? = none ↔ IsComposite type := by
  cases type with
  | named name => exact ⟨nofun, fun h => absurd rfl (h name)⟩
  | _ => exact ⟨fun _ => nofun, fun _ => rfl⟩

theorem eq_named_of_simpleName? {type : TypeExpr} {typeName : String}
    (h : type.simpleName? = some typeName) : type = .named typeName := by
  cases type with
  | named name => exact congrArg TypeExpr.named (Option.some.inj h)
  | _ => cases h

theorem fieldGives_iff {field : Field} {parameters : List Parameter} :
    FieldGives field parameters ↔ parametersOf field = parameters := by
  obtain ⟨names, type⟩ := field
  constructor
  · intro h
    cases h with
    | composite htype => rw [parametersOf, simpleName?_eq_none_iff.2 htype]
    | unnamed typeName => rfl
    | named hnames typeName =>
      obtain ⟨name, names, rfl⟩ := List.exists_cons_of_ne_nil hnames
      rfl
  · rintro rfl
    cases htype : type.simpleName? with
    | none =>
      rw [parametersOf, htype]
      exact .composite (simpleName?_eq_none_iff.1 htype)
    | some typeName =>
      obtain rfl := eq_named_of_simpleName? htype
      cases names with
      | nil => exact .unnamed typeName
      | cons name names => exact .named (List.cons_ne_nil name names) typeName

theorem forall₂_iff_map_eq {α β : Type} {R : α → β → Prop} {f : α → β}
    (h : ∀ a b, R a b ↔ f a = b) {xs : List α} {ys : List β} :
    List.Forall₂ R xs ys ↔ xs.map f = ys := by
  have hR : R = fun a b => f a = b := funext fun a => funext fun b => propext (h a b)
  rw [hR, ← List.forall₂_map_left_iff, List.forall₂_eq_eq_eq]

theorem callableGives_iff {func : FuncDecl} {callable : Callable} :
    CallableGives func callable ↔ callableOf func = callable := by
  constructor
  · rintro ⟨hname, parts, hparts, hparameters⟩
    rw [forall₂_iff_map_eq fun field parameters => @fieldGives_iff field parameters] at hparts
    rw [callableOf, List.flatMap_def, hparts, ← hparameters, ← hname]
  · rintro rfl
    exact ⟨rfl, _, (forall₂_iff_map_eq fun field parameters =>
      @fieldGives_iff field parameters).2 rfl, List.flatMap_def⟩

theorem returnGives_iff {func : FuncDecl} {slot : Parameter} :
    ReturnGives func.results slot ↔ returnOf func = slot := by
  rw [returnOf]
  generalize func.results = results
  constructor
  · intro h
    cases h with
    | nothing => rfl
    | plain names typeName others => rfl
    | composite names htype others =>
      dsimp only
      rw [simpleName?_eq_none_iff.2 htype]
      rfl
  · rintro rfl
    cases results with
    | nil => exact .nothing
    | cons field others =>
      obtain ⟨names, type⟩ := field
      dsimp only
      cases htype : type.simpleName? with
      | none => exact .composite names (simpleName?_eq_none_iff.1 htype) others
      | some typeName =>
        obtain rfl := eq_named_of_simpleName? htype
        exact .plain names typeName others

/-! ## Places -/

/-- What a filter keeps of a list stands at ascending places, each taken once. -/
theorem exists_places {α : Type} (p : α → Bool) (xs : List α) :
    ∃ places : List Nat, places.Pairwise (· < ·) ∧
      (∀ place, place ∈ places ↔ ∃ x, xs[place]? = some x ∧ p x = true) ∧
      List.Forall₂ (fun place x => xs[place]? = some x) places (xs.filter p) := by
  induction xs with
  | nil => exact ⟨[], .nil, by simp, .nil⟩
  | cons x xs ih =>
    obtain ⟨places, hascending, hmem, hplaces⟩ := ih
    have hbehind : (places.map Nat.succ).Pairwise (· < ·) :=
      List.pairwise_map.2 (hascending.imp Nat.succ_lt_succ)
    have hmemBehind : ∀ place, place ∈ places.map Nat.succ ↔
        ∃ before, before + 1 = place ∧ ∃ y, xs[before]? = some y ∧ p y = true := by
      intro place
      rw [List.mem_map]
      exact ⟨fun ⟨before, hbefore, heq⟩ => ⟨before, heq, (hmem before).1 hbefore⟩,
        fun ⟨before, heq, hbefore⟩ => ⟨before, (hmem before).2 hbefore, heq⟩⟩
    have hplacesBehind : List.Forall₂ (fun place y => (x :: xs)[place]? = some y)
        (places.map Nat.succ) (xs.filter p) :=
      List.forall₂_map_left_iff.2 (hplaces.imp fun _ _ h => h)
    by_cases hx : p x = true
    · refine ⟨0 :: places.map Nat.succ, .cons ?_ hbehind, fun place => ?_, ?_⟩
      · exact List.forall_mem_map.2 fun place _ => place.succ_pos
      · rw [List.mem_cons, hmemBehind]
        cases place with
        | zero => simp [hx]
        | succ before => simp
      · rw [List.filter_cons_of_pos hx]
        exact .cons rfl hplacesBehind
    · refine ⟨places.map Nat.succ, hbehind, fun place => ?_, ?_⟩
      · rw [hmemBehind]
        cases place with
        | zero => simp [hx]
        | succ before => simp
      · rw [List.filter_cons_of_neg hx]
        exact hplacesBehind

theorem eq_of_entryAt {file : SourceFile} {place : Nat} {entry entry' : Callable × Parameter}
    (h : EntryAt file place entry) (h' : EntryAt file place entry') : entry = entry' := by
  obtain ⟨func, hfunc, hcallable, hreturn⟩ := h
  obtain ⟨func', hfunc', hcallable', hreturn'⟩ := h'
  obtain rfl : func = func' := Option.some.inj (hfunc.symm.trans hfunc')
  exact Prod.ext ((callableGives_iff.1 hcallable).symm.trans (callableGives_iff.1 hcallable'))
    ((returnGives_iff.1 hreturn).symm.trans (returnGives_iff.1 hreturn'))

variable {exported : String → Bool} {file : SourceFile} {packageName : String}
  {decl decl' : Declaration}

/-- The contract leaves nothing open. -/
theorem Extracts.unique (h : Extracts exported file packageName decl)
    (h' : Extracts exported file packageName decl') : decl = decl' := by
  obtain ⟨hpackage, -, hentries, places, hascending, hmem, hplaces⟩ := h
  obtain ⟨hpackage', -, hentries', places', hascending', hmem', hplaces'⟩ := h'
  obtain rfl : places = places' :=
    hascending.eq_of_mem_iff hascending' fun place => (hmem place).trans (hmem' place).symm
  rw [← hentries] at hplaces
  rw [← hentries'] at hplaces'
  have hsame : decl.entries = decl'.entries :=
    List.right_unique_forall₂' (R := EntryAt file) (fun _ _ _ => eq_of_entryAt) hplaces hplaces'
  calc decl = ⟨decl.packageName, decl.entries⟩ := rfl
    _ = ⟨decl'.packageName, decl'.entries⟩ := by rw [hpackage, hpackage', hsame]

theorem isKept_iff {func : FuncDecl} :
    IsKept exported func ↔ (!func.isMethod && exported func.name) = true := by
  rw [Bool.and_eq_true, Bool.not_eq_true', FuncDecl.isMethod, Option.isSome_eq_false_iff,
    Option.isNone_iff_eq_none]
  exact ⟨fun ⟨hfree, hname⟩ => ⟨hfree, hname⟩, fun ⟨hfree, hname⟩ => ⟨hfree, hname⟩⟩

theorem extracts_ofFile (exported : String → Bool) (file : SourceFile) (packageName : String) :
    Extracts exported file packageName (ofFile exported file packageName) := by
  have hzip : ∀ decl : Declaration, decl.callables.zip decl.returns = decl.entries :=
    fun decl => (List.zip_of_prod rfl rfl).symm
  refine ⟨rfl, by rw [callables, returns, List.length_map, List.length_map], (hzip _).symm, ?_⟩
  obtain ⟨places, hascending, hmem, hplaces⟩ :=
    exists_places (fun func : FuncDecl => !func.isMethod && exported func.name) file.funcs
  refine ⟨places, hascending, fun place => ?_, ?_⟩
  · simp only [hmem, isKept_iff]
  · rw [hzip, ofFile, List.forall₂_map_right_iff]
    exact hplaces.imp fun place func hfunc =>
      ⟨func, hfunc, callableGives_iff.2 rfl, returnGives_iff.2 rfl⟩

/-! ## Function by function -/

/-- The declaration when one more function has been looked at: methods, and names that the rule does
not let through, are passed by. -/
def visited (exported : String → Bool) (decl : Declaration) (func : FuncDecl) : Declaration :=
  if func.isMethod then decl
  else if !exported func.name then decl
  else decl.push (callableOf func) (returnOf func)

theorem foldl_visited (exported : String → Bool) (funcs : List FuncDecl) (decl : Declaration) :
    funcs.foldl (visited exported) decl =
      ⟨decl.packageName, decl.entries ++
        (funcs.filter fun func => !func.isMethod && exported func.name).map
          fun func => (callableOf func, returnOf func)⟩ := by
  induction funcs generalizing decl with
  | nil => rw [List.foldl_nil, List.filter_nil, List.map_nil, List.append_nil]
  | cons func funcs ih =>
    rw [List.foldl_cons, ih, visited]
    cases hmethod : func.isMethod with
    | true => simp [hmethod]
    | false =>
      cases hname : exported func.name with
      | false => simp [hmethod, hname]
      | true => simp [hmethod, hname, push]

/-- A declaration whose callables and return slots are kept apart. -/
structure Columns where
  packageName : String
  callables : List Callable
  returns : List Parameter
deriving DecidableEq, Repr

namespace Columns

def ofDeclaration (decl : Declaration) : Columns :=
  ⟨decl.packageName, decl.callables, decl.returns⟩

def push (columns : Columns) (callable : Callable) (result : Parameter) : Columns :=
  { columns with
    callables := columns.callables ++ [callable]
    returns := columns.returns ++ [result] }

def visit (exported : String → Bool) (columns : Columns) (func : FuncDecl) : Columns :=
  if func.isMethod then columns
  else if !exported func.name then columns
  else columns.push (callableOf func) (returnOf func)

theorem push_ofDeclaration (decl : Declaration) (callable : Callable) (result : Parameter) :
    (ofDeclaration decl).push callable result = ofDeclaration (decl.push callable result) := by
  simp [ofDeclaration, push, Declaration.push, Declaration.callables, Declaration.returns]

/-- One function adds to both columns or to none. -/
theorem visit_ofDeclaration (exported : String → Bool) (decl : Declaration) (func : FuncDecl) :
    visit exported (ofDeclaration decl) func = ofDeclaration (decl.visited exported func) := by
  rw [visit, visited, push_ofDeclaration]
  split
  · rfl
  · split <;> rfl

end Columns

/-- **The declaration of a file keeps the contract, and it is the only one that does**, whatever
rule tells which names are exported. Looking at the functions one by one, with a column for the
callables and one for the return slots, comes to the same. -/
theorem eq_ofFile_iff_extracts (exported : String → Bool) (file : SourceFile)
    (packageName : String) :
    (∀ decl, decl = ofFile exported file packageName ↔
      Extracts exported file packageName decl) ∧
    file.funcs.foldl (Columns.visit exported) ⟨packageName, [], []⟩ =
      Columns.ofDeclaration (ofFile exported file packageName) := by
  have hfile := extracts_ofFile exported file packageName
  refine ⟨fun decl => ⟨?_, fun h => h.unique hfile⟩, ?_⟩
  · rintro rfl
    exact hfile
  · calc file.funcs.foldl (Columns.visit exported) (Columns.ofDeclaration (empty packageName))
      _ = Columns.ofDeclaration (file.funcs.foldl (visited exported) (empty packageName)) :=
        List.foldl_hom _ fun decl func => Columns.visit_ofDeclaration exported decl func
      _ = Columns.ofDeclaration (ofFile exported file packageName) :=
        congrArg _ (foldl_visited exported file.funcs (empty packageName))

/-- A method, a name that is not let through, a group of names with a composite type, a parameter
without a name, and results of which only the first name counts. -/
example :
    ofFile (fun name => name.startsWith "pub") ⟨"p",
      [⟨"pubM", some ⟨["t"], .named "T"⟩, false, [], []⟩, ⟨"Two", none, false, [], []⟩,
        ⟨"pubF", none, true, [⟨["a", "b"], .slice (.named "int")⟩, ⟨[], .named "T"⟩,
          ⟨["c", "d"], .named "int"⟩], [⟨["x", "y"], .named "int"⟩, ⟨["e"], .named "error"⟩]⟩]⟩ "q" =
    ⟨"q", [(⟨"pubF", [⟨"", "T"⟩, ⟨"c", "int"⟩, ⟨"d", "int"⟩]⟩, ⟨"x", "int"⟩)]⟩ := by
  decide +kernel

end ReactBridge.Declaration
