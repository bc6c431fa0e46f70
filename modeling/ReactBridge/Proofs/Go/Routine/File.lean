import ReactBridge.Proofs.Go.Routine.Type
import ReactBridge.Proofs.Go.Simulation

/-!
# The routine of the reader of files

* `Routine.func`, `Routine.declarations`, `Routine.file` : the routines of declarations and files;
* `runs_func`, `comes_declarations`, `comes_file` : the readers run them.
-/

namespace ReactBridge.Go

namespace Routine

def ending : Routine Unit :=
  look fun kind =>
    if kind = .semicolon then move (done ())
    else if kind = .endOfFile then done () else fail

def importPath : Routine Unit :=
  look fun
    | .literal .string | .literal .rawString => move (done ())
    | _ => fail

def importSpec : Routine Unit :=
  look fun
    | .ident _ | .dot => move importPath
    | _ => importPath

def imports : (bound : Nat) → Routine Unit
  | 0 => fail
  | bound + 1 => look fun kind =>
    if kind = .closing .paren then move (done ())
    else if kind = .semicolon then move (imports bound)
    else importSpec.bind fun _ => look fun kind =>
      if kind = .closing .paren then imports bound
      else ending.bind fun _ => imports bound

def importDeclaration (bound : Nat) : Routine Unit :=
  look fun kind =>
    if kind = .opening .paren then move ((imports bound).bind fun _ => ending)
    else importSpec.bind fun _ => ending

def receiver (bound : Nat) : Routine (Option Field) :=
  look fun kind =>
    if kind = .opening .paren then
      (parameters bound).bind fun
        | [] => fail
        | field :: _ => done (some field)
    else done none

def optional (shape : Bracket) (site : Site) : Routine Bool :=
  look fun kind => if kind = .opening shape then skip site (done true) else done false

def func (bound : Nat) : Routine FuncDecl :=
  (receiver bound).bind fun receiver => name.bind fun name =>
    (optional .square .typeParameters).bind fun generic => (parameters bound).bind fun params =>
      (results bound).bind fun results => (optional .brace .body).bind fun _ =>
        ending.map fun _ => ⟨name, receiver, generic, params, results⟩

def declaration : (bound : Nat) → Routine Unit
  | 0 => fail
  | bound + 1 => look fun
    | .semicolon => move (done ())
    | .endOfFile => done ()
    | .opening _ => skip .declaration (declaration bound)
    | .closing _ => fail
    | _ => move (declaration bound)

def declarations : (bound : Nat) → Routine (List FuncDecl)
  | 0 => fail
  | bound + 1 => look fun
    | .endOfFile => done []
    | .semicolon => move (declarations bound)
    | .keyword .importDecl => move ((importDeclaration bound).bind fun _ => declarations bound)
    | .keyword .func => move ((func bound).bind fun func =>
      (declarations bound).map (func :: ·))
    | .keyword .typeDecl | .keyword .varDecl | .keyword .constDecl =>
      move ((declaration bound).bind fun _ => declarations bound)
    | _ => fail

def semicolons : (bound : Nat) → Routine Unit
  | 0 => fail
  | bound + 1 => look fun kind => if kind = .semicolon then move (semicolons bound) else done ()

/-- A file of fewer tokens than `bound`. -/
def file (bound : Nat) : Routine SourceFile :=
  (semicolons bound).bind fun _ => (token (.keyword .package)).bind fun _ => name.bind fun package =>
    ending.bind fun _ => (declarations bound).map fun funcs => ⟨package, funcs⟩

end Routine

section Declarations

variable {loose : Prop} {bound : Nat} {ts : List Token}

theorem runs_ending (ts : List Token) : Runs loose .ending ts left (takeEnd ts) := by
  cases ts with
  | nil => exact .look (.done rfl)
  | cons t ts =>
    exact .look (.ite (fun _ => .move (.done rfl)) fun _ => .ite (fun _ => .done rfl) fun _ => .fail _)

theorem runs_importPath (ts : List Token) : Runs loose .importPath ts left (takeImportPath ts) := by
  cases ts with
  | nil => exact .look (.fail _)
  | cons t ts =>
    refine .look ?_
    rw [takeImportPath, current, List.headD_cons]
    cases t.kind with
    | literal kind =>
      cases kind with
      | string | rawString => exact .move (.done rfl)
      | number | rune => exact .fail _
    | _ => exact .fail _

theorem runs_importSpec (ts : List Token) : Runs loose .importSpec ts left (skipImport ts) := by
  cases ts with
  | nil => exact .look (.look (.fail _))
  | cons t ts =>
    refine .look ?_
    rw [skipImport, current, List.headD_cons]
    cases t.kind with
    | ident | dot => exact .move ((runs_importPath ts).seenAs fun _ => rfl)
    | _ => exact runs_importPath (t :: ts)

theorem runs_imports (hbound : ¬loose → ts.length < bound) :
    Runs loose (.imports bound) ts left (skipImports ts) := by
  induction bound generalizing ts with
  | zero => exact runs_unbounded hbound
  | succ bound ih =>
    cases ts with
    | nil =>
      rw [skipImports]
      exact .look (.look (.look (.fail _)))
    | cons t ts =>
      have hbehind : ¬loose → ts.length < bound := fun h => Nat.lt_of_succ_lt_succ (hbound h)
      rw [Simulation.skipImports_cons]
      refine .look (.ite (fun _ => .move (.done rfl)) fun _ => .ite (fun _ => ?_) fun _ => ?_)
      · exact .move ((ih hbehind).seenAs fun _ => rfl)
      refine (runs_importSpec (t :: ts)).bind_of_eq fun rest hrest => ?_
      have hlength : ¬loose → rest.items.length < bound := fun h => by
        have hlt := hbound h
        have hread := skipImport_length hrest
        omega
      refine .look (.ite (fun _ => (ih hlength).seenAs fun _ => rfl) fun _ => ?_)
      refine (runs_ending rest.items).bind fun ended => ?_
      exact (ih fun h => Nat.lt_of_le_of_lt ended.length_le (hlength h)).seenAs fun _ => rfl

theorem runs_importDeclaration (hbound : ¬loose → ts.length < bound) :
    Runs loose (.importDeclaration bound) ts left (skipImportDeclaration ts) := by
  cases ts with
  | nil => exact .look (.look (.look (.fail _)))
  | cons t ts =>
    refine .look (.ite (fun _ => .move ?_) fun _ => ?_)
    · refine (runs_imports fun h => Nat.lt_of_succ_lt (hbound h)).bind fun rest => ?_
      exact (runs_ending rest.items).seenAs fun _ => rfl
    · refine (runs_importSpec (t :: ts)).bind fun rest => ?_
      exact (runs_ending rest.items).seenAs fun _ => rfl

theorem runs_receiver (hbound : ¬loose → ts.length < bound) (start : Nat) :
    Runs loose (.receiver bound) ts seen (readReceiver start ts) := by
  refine .look (.ite (fun _ => (runs_parameters hbound).bind ?_) fun _ => .done rfl)
  rintro ⟨fields, rest⟩
  cases fields with
  | nil => exact .fail _
  | cons field fields => exact .done rfl

theorem runs_optional (shape : Bracket) (site : Site) (ts : List Token) :
    Runs loose (.optional shape site) ts seen (skipOptional shape ts) := by
  cases ts with
  | nil => exact .look (.done rfl)
  | cons t ts =>
    refine .look (.ite (fun hkind => .skip site ?_ fun _ => .done rfl) fun _ => .done rfl)
    exact congrArg Token.Kind.isOpener hkind

theorem runs_func (hbound : ¬loose → ts.length < bound) (start : Nat) :
    Runs loose (.func bound) ts seen (readFunc start ts) := by
  have hlt : ∀ rest : Rest ts, ¬loose → rest.items.length < bound := fun rest h =>
    Nat.lt_of_le_of_lt rest.length_le (hbound h)
  refine (runs_receiver hbound start).bind fun receiver => ?_
  refine (runs_name receiver.2.items).bind fun name => ?_
  refine (runs_optional .square .typeParameters name.2.items).bind fun generic => ?_
  have hgeneric := hlt (receiver.2.within (name.2.within generic.2))
  refine (runs_parameters hgeneric).bind fun params => ?_
  refine (runs_results fun h => Nat.lt_of_le_of_lt params.2.length_le (hgeneric h)).bind
    fun results => ?_
  refine (runs_optional .brace .body results.2.items).bind fun body => ?_
  exact (runs_ending body.2.items).map fun _ => rfl

theorem runs_declaration (hbound : ¬loose → ts.length < bound) :
    Runs loose (.declaration bound) ts left (skipDeclaration ts) := by
  induction bound generalizing ts with
  | zero => exact runs_unbounded hbound
  | succ bound ih =>
    cases ts with
    | nil =>
      rw [skipDeclaration]
      exact .look (.done rfl)
    | cons t ts =>
      have hbehind : ¬loose → ts.length < bound := fun h => Nat.lt_of_succ_lt_succ (hbound h)
      have hmore : Runs loose (.move (.declaration bound)) (t :: ts) left
          (skipDeclaration ts >>= fun rest => .ok (rest.behind t)) :=
        .move ((ih hbehind).seenAs fun _ => rfl)
      rw [skipDeclaration]
      refine .look ?_
      rw [current, List.headD_cons]
      cases hkind : t.kind with
      | semicolon => exact .move (.done rfl)
      | endOfFile => exact .done rfl
      | opening shape =>
        refine .skip .declaration (congrArg Token.Kind.isOpener hkind) fun rest => ?_
        exact (ih fun h => Nat.lt_of_le_of_lt rest.length_le (hbehind h)).seenAs fun _ => rfl
      | closing shape => exact .fail _
      | _ => exact hmore

end Declarations

/-! ## Files -/

/-- Whether a reader that leaves no tokens comes to what a routine comes to. -/
def Comes {α : Type} (loose : Prop) (routine : Routine α) (ts : List Token)
    (result : Except SyntaxError α) : Prop :=
  (routine.run ts).map Prod.fst = result.toOption ∨ loose ∧ routine.run ts = none

section Files

variable {loose : Prop} {bound : Nat} {t : Token} {ts : List Token}

theorem Comes.look {α : Type} {next : Token.Kind → Routine α} {result : Except SyntaxError α}
    (h : Comes loose (next (current ts).kind) ts result) : Comes loose (.look next) ts result :=
  h

theorem Comes.move {α : Type} {routine : Routine α} {result : Except SyntaxError α}
    (h : Comes loose routine ts result) : Comes loose (.move routine) (t :: ts) result :=
  h

theorem Comes.map {α β : Type} {routine : Routine α} {result : Except SyntaxError α}
    (h : Comes loose routine ts result) (f : α → β) :
    Comes loose (routine.map f) ts (result >>= fun value => .ok (f value)) := by
  rw [Comes, Routine.map, Routine.run_bind]
  rcases h with h | ⟨hloose, h⟩
  · refine .inl ?_
    cases result with
    | error e =>
      rw [Option.map_eq_none_iff.1 h]
      rfl
    | ok value =>
      obtain ⟨read, hread, rfl⟩ := Option.map_eq_some_iff.1 h
      rw [hread]
      rfl
  · rw [h]
    exact .inr ⟨hloose, rfl⟩

theorem Runs.comes {α β γ : Type} {routine : Routine α} {view : γ → α × List Token}
    {result : Except SyntaxError γ} {f : α → Routine β} {next : γ → Except SyntaxError β}
    (h : Runs loose routine ts view result)
    (hnext : ∀ c, result = .ok c → Comes loose (f (view c).1) (view c).2 (next c)) :
    Comes loose (routine.bind f) ts (result >>= next) := by
  rw [Comes, Routine.run_bind]
  rcases h with h | ⟨hloose, h⟩
  · rw [h]
    cases result with
    | error e => exact .inl rfl
    | ok c => exact hnext c rfl
  · rw [h]
    exact .inr ⟨hloose, rfl⟩

theorem comes_declarations (hbound : ¬loose → ts.length < bound) :
    Comes loose (.declarations bound) ts (readDeclarations ts) := by
  induction bound generalizing ts with
  | zero => exact .inr ⟨Classical.byContradiction fun h => Nat.not_lt_zero _ (hbound h), rfl⟩
  | succ bound ih =>
    cases ts with
    | nil =>
      rw [readDeclarations]
      exact .inl rfl
    | cons t ts =>
      have hbehind : ¬loose → ts.length < bound := fun h => Nat.lt_of_succ_lt_succ (hbound h)
      have hrest : ∀ rest : Rest ts, ¬loose → rest.items.length < bound := fun rest h =>
        Nat.lt_of_le_of_lt rest.length_le (hbehind h)
      have hskipped : Comes loose
          (.move ((Routine.declaration bound).bind fun _ => .declarations bound)) (t :: ts)
          (skipDeclaration ts >>= fun rest => readDeclarations rest.items) :=
        .move ((runs_declaration hbehind).comes fun rest _ => ih (hrest rest))
      rw [readDeclarations]
      refine .look ?_
      rw [current, List.headD_cons]
      cases t.kind with
      | endOfFile => exact .inl rfl
      | semicolon => exact .move (ih hbehind)
      | keyword word =>
        cases word with
        | importDecl =>
          exact .move ((runs_importDeclaration hbehind).comes fun rest _ => ih (hrest rest))
        | func =>
          refine .move ((runs_func hbehind t.span.start).comes fun func _ => ?_)
          exact (ih (hrest func.2)).map _
        | typeDecl | varDecl | constDecl => exact hskipped
        | _ => exact .inl rfl
      | _ => exact .inl rfl

theorem runs_semicolons (hbound : ¬loose → ts.length < bound) :
    Runs loose (.semicolons bound) ts (fun rest => ((), rest))
      (.ok (ts.dropWhile fun t => t.kind = .semicolon)) := by
  induction bound generalizing ts with
  | zero => exact runs_unbounded hbound
  | succ bound ih =>
    cases ts with
    | nil => exact .look (.done rfl)
    | cons t ts =>
      rw [List.dropWhile_cons, apply_ite Except.ok]
      simp only [decide_eq_true_iff]
      exact .look (.ite (fun _ => .move (ih fun h => Nat.lt_of_succ_lt_succ (hbound h)))
        fun _ => .done rfl)

/-- **The reader of files** runs its routine. -/
theorem comes_file (hbound : ¬loose → ts.length < bound) :
    Comes loose (.file bound) ts (SourceFile.ofTokens ts) := by
  have hread : ∀ us : List Token, us.length ≤ ts.length →
      Comes loose ((Routine.token (.keyword .package)).bind fun _ => Routine.name.bind fun package =>
        Routine.ending.bind fun _ => (Routine.declarations bound).map fun funcs => ⟨package, funcs⟩)
          us (readSourceFile us) := by
    intro us hus
    refine (runs_token (.keyword .package) us).comes fun keyword _ => ?_
    refine (runs_name keyword.2.items).comes fun name _ => ?_
    refine (runs_ending name.2.items).comes fun clause _ => ?_
    refine Comes.map (comes_declarations fun h => ?_) _
    have hrest := (keyword.2.within (name.2.within clause)).length_le
    exact Nat.lt_of_le_of_lt (hrest.trans hus) (hbound h)
  have hfile : SourceFile.ofTokens ts =
      Except.ok (ts.dropWhile fun t => t.kind = .semicolon) >>= readSourceFile := rfl
  rw [hfile]
  refine (runs_semicolons hbound).comes fun us hus => hread us ?_
  obtain rfl := Except.ok.inj hus
  exact (List.dropWhile_suffix _).length_le

end Files

end ReactBridge.Go
