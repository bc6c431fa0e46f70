import ReactBridge.Proofs.Go.ReadBack
import ReactBridge.Proofs.Go.Routine

/-!
# The routines of the readers of types

Each reader is a routine. Where types nest, the routine is bounded by a number of tokens; on fewer
tokens than that the reader comes to what its routine comes to, and on more the routine may give up.

* `Runs` : a reader that comes to what a routine comes to;
* `Routine.type`, `Routine.parameters`, `Routine.results` : the routines;
* `runs_type`, `runs_parameters`, `runs_results` : the readers run them.
-/

namespace ReactBridge.Go

/-! ## Readers that run a routine -/

def Routine.ofOption {α : Type} : Option α → Routine α
  | some value => done value
  | none => fail

/-- Whether the result of a reader is what a routine comes to on the tokens: a value and the tokens
that are left, as `view` shows them, or a failure. Where the comparison is `loose`, the routine may
fail by itself. -/
def Runs {α γ : Type} (loose : Prop) (routine : Routine α) (ts : List Token)
    (view : γ → α × List Token) (result : Except SyntaxError γ) : Prop :=
  routine.run ts = result.toOption.map view ∨ loose ∧ routine.run ts = none

/-- What a reader gives back, without the proof that the tokens left are an end of the others. -/
def seen {α : Type} {ts : List Token} (read : α × Rest ts) : α × List Token :=
  (read.1, read.2.items)

/-- The same for a reader that gives back no more than the tokens left. -/
def left {ts : List Token} (rest : Rest ts) : Unit × List Token :=
  ((), rest.items)

section Runs

variable {α β γ δ : Type} {loose : Prop} {routine : Routine α} {t : Token} {ts : List Token}
  {view : γ → α × List Token} {view' : δ → β × List Token} {result : Except SyntaxError γ}

theorem Runs.done {value : α} {c : γ} (h : view c = (value, ts)) :
    Runs loose (.done value) ts view (.ok c) :=
  .inl (congrArg some h.symm)

theorem Runs.fail (e : SyntaxError) : Runs loose .fail ts view (.error e) :=
  .inl rfl

theorem Runs.look {next : Token.Kind → Routine α}
    (h : Runs loose (next (current ts).kind) ts view result) :
    Runs loose (.look next) ts view result :=
  h

theorem Runs.move (h : Runs loose routine ts view result) :
    Runs loose (.move routine) (t :: ts) view result :=
  h

theorem Runs.ite {p : Prop} [Decidable p] {other : Routine α} {result' : Except SyntaxError γ}
    (hpos : p → Runs loose routine ts view result)
    (hneg : ¬p → Runs loose other ts view result') :
    Runs loose (if p then routine else other) ts view (if p then result else result') := by
  split
  · next h => exact hpos h
  · next h => exact hneg h

theorem Runs.bind_of_eq {f : α → Routine β} {next : γ → Except SyntaxError δ}
    (h : Runs loose routine ts view result)
    (hnext : ∀ c, result = .ok c → Runs loose (f (view c).1) (view c).2 view' (next c)) :
    Runs loose (routine.bind f) ts view' (result >>= next) := by
  rw [Runs, Routine.run_bind]
  rcases h with h | ⟨hloose, h⟩
  · rw [h]
    cases result with
    | error e => exact .inl rfl
    | ok c => exact hnext c rfl
  · rw [h]
    exact .inr ⟨hloose, rfl⟩

theorem Runs.bind {f : α → Routine β} {next : γ → Except SyntaxError δ}
    (h : Runs loose routine ts view result)
    (hnext : ∀ c, Runs loose (f (view c).1) (view c).2 view' (next c)) :
    Runs loose (routine.bind f) ts view' (result >>= next) :=
  h.bind_of_eq fun c _ => hnext c

theorem Runs.map {f : α → β} {next : γ → δ} (h : Runs loose routine ts view result)
    (hnext : ∀ c, view' (next c) = (f (view c).1, (view c).2)) :
    Runs loose (routine.map f) ts view' (result >>= fun c => Except.ok (next c)) :=
  h.bind fun c => .done (hnext c)

theorem Runs.seenAs {view' : δ → α × List Token} {next : γ → δ} (h : Runs loose routine ts view result)
    (hnext : ∀ c, view' (next c) = view c) :
    Runs loose routine ts view' (result >>= fun c => Except.ok (next c)) := by
  rcases h with h | h
  · refine .inl (h.trans ?_)
    cases result with
    | error e => rfl
    | ok c => exact congrArg some (hnext c).symm
  · exact .inr h

theorem Runs.ofOption {result : Except SyntaxError α} {view : δ → α × List Token} {next : α → δ}
    (hnext : ∀ value, view (next value) = (value, ts)) :
    Runs loose (.ofOption result.toOption) ts view (result >>= fun value => .ok (next value)) := by
  cases result with
  | error e => exact .fail e
  | ok value => exact .done (hnext value)

theorem Runs.skip (site : Site) (hopener : t.kind.isOpener = true)
    {next : Rest ts → Except SyntaxError γ}
    (h : ∀ rest : Rest ts, Runs loose routine rest.items view (next rest)) :
    Runs loose (.skip site routine) (t :: ts) view (skipGroup t ts >>= next) := by
  rw [Runs, Routine.run, skipGroup, behindGroup, if_pos hopener, behindBrackets]
  cases afterGroup 0 ts with
  | none => exact .inl rfl
  | some rest => exact h rest

theorem Runs.measure {slice array : Routine α} (hopener : t.kind.isOpener = true) {u : Token}
    {us : List Token} {next : Rest (u :: us) → Except SyntaxError γ}
    (hslice : Runs loose slice us view result)
    (harray : ∀ rest : Rest (u :: us), Runs loose array rest.items view (next rest)) :
    Runs loose (.measure slice array) (t :: u :: us) view
      (if u.kind = .closing .square then result else skipGroup t (u :: us) >>= next) := by
  have hskip : Runs loose (.skip .arrayLength array) (t :: u :: us) view
      (skipGroup t (u :: us) >>= next) := .skip .arrayLength hopener harray
  rw [Runs, Routine.run]
  split
  · exact hslice
  · exact hskip

end Runs

namespace Routine

variable {α : Type}

/-! ## Single tokens -/

def token (kind : Token.Kind) : Routine Unit :=
  look fun found => if found = kind then move (done ()) else fail

def name : Routine String :=
  look fun
    | .ident name => move (done name)
    | _ => fail

def member (base : String) : Routine TypeExpr :=
  look fun kind =>
    if kind = .dot then move (name.map (.qualified base)) else done (.named base)

def block : Routine Unit :=
  look fun kind => if kind = .opening .brace then skip .members (done ()) else fail

def direction : Routine ChanDir :=
  look fun kind => if kind = .arrow then move (done .send) else done .both

/-! ## Where types nest -/

section

variable (type : Routine TypeExpr) (bound : Nat)

def arguments : Nat → Routine (List TypeExpr)
  | 0 => fail
  | bound + 1 => look fun kind =>
    if kind = .closing .square then done []
    else type.bind fun arg => look fun kind =>
      if kind = .comma then move ((arguments bound).map (arg :: ·)) else done [arg]

def instantiated (base : TypeExpr) : Routine TypeExpr :=
  look fun kind =>
    if kind = .opening .square then
      move ((arguments type bound).bind fun args =>
        (token (.closing .square)).map fun _ => .generic base args)
    else done base

def named (base : String) : Routine TypeExpr :=
  (member base).bind (instantiated type bound)

def entry : Routine Entry :=
  look fun
    | .ident base => move (look fun
      | .dot => (named type bound base).map .unnamed
      | .comma | .closing .paren => done (.bare base ⟨0, 0⟩)
      | .ellipsis => (token .ellipsis).bind fun _ => type.map fun elem => .named base (.variadic elem)
      | _ => type.map (.named base))
    | .ellipsis => move (type.map fun elem => .unnamed (.variadic elem))
    | _ => type.map .unnamed

def entries : Nat → Routine (List Entry)
  | 0 => fail
  | bound' + 1 => look fun kind =>
    if kind = .closing .paren then done []
    else (entry type bound).bind fun entry => look fun kind =>
      if kind = .comma then move ((entries bound').map (entry :: ·)) else done [entry]

def parametersOf : Routine (List Field) :=
  (token (.opening .paren)).bind fun _ => (entries type bound bound).bind fun entries =>
    (token (.closing .paren)).bind fun _ => ofOption (fieldsOfEntries entries ⟨0, 0⟩).toOption

def resultsOf : Routine (List Field) :=
  look fun kind =>
    if kind = .opening .paren then parametersOf type bound
    else if beginsType kind then type.map fun type => [⟨[], type⟩]
    else done []

end

/-- A type, among fewer tokens than `bound`. -/
def type : (bound : Nat) → Routine TypeExpr
  | 0 => fail
  | bound + 1 => look fun
    | .ident base => move (named (type bound) bound base)
    | .star => move ((type bound).map .pointer)
    | .opening .square => measure ((type bound).map .slice) ((type bound).map .array)
    | .keyword .map => move ((token (.opening .square)).bind fun _ => (type bound).bind fun key =>
      (token (.closing .square)).bind fun _ => (type bound).map (.map key))
    | .keyword .chan => move (direction.bind fun dir => (type bound).map (.chan dir))
    | .arrow => move ((token (.keyword .chan)).bind fun _ => (type bound).map (.chan .receive))
    | .keyword .func => move ((parametersOf (type bound) bound).bind fun params =>
      (resultsOf (type bound) bound).map (.func params))
    | .keyword .struct => move (block.map fun _ => .struct)
    | .keyword .interface => move (block.map fun _ => .interface)
    | .opening .paren => move ((type bound).bind fun inner =>
      (token (.closing .paren)).map fun _ => .paren inner)
    | _ => fail

/-- A parameter list, among fewer tokens than `bound`. -/
def parameters (bound : Nat) : Routine (List Field) :=
  parametersOf (type bound) bound

/-- Results, among fewer tokens than `bound`. -/
def results (bound : Nat) : Routine (List Field) :=
  resultsOf (type bound) bound

end Routine

/-! ## Readers of single tokens -/

section Tokens

variable {loose : Prop}

theorem runs_token (kind : Token.Kind) (ts : List Token) :
    Runs loose (.token kind) ts (fun read => ((), read.2.items)) (takeToken kind ts) := by
  cases ts with
  | nil =>
    refine .look ?_
    split
    · exact .inl rfl
    · exact .fail _
  | cons t ts => exact .look (.ite (fun _ => .move (.done rfl)) fun _ => .fail _)

theorem runs_name (ts : List Token) : Runs loose .name ts seen (takeName ts) := by
  cases ts with
  | nil => exact .look (.fail _)
  | cons t ts =>
    refine .look ?_
    rw [takeName, current, List.headD_cons]
    cases t.kind with
    | ident name => exact .move (.done rfl)
    | _ => exact .fail _

theorem runs_member (base : String) (ts : List Token) :
    Runs loose (.member base) ts seen (readMember base ts) := by
  cases ts with
  | nil => exact .look (.done rfl)
  | cons t ts =>
    refine .look (.ite (fun _ => .move ?_) fun _ => .done rfl)
    exact (runs_name ts).map fun _ => rfl

theorem runs_block (ts : List Token) : Runs loose .block ts left (skipBlock ts) := by
  cases ts with
  | nil => exact .look (.fail _)
  | cons t ts =>
    refine .look (.ite (fun hkind => .skip .members ?_ fun _ => .done rfl) fun _ => .fail _)
    exact congrArg Token.Kind.isOpener hkind

theorem run_direction (ts : List Token) :
    Routine.direction.run ts = some (seen (readDirection ts)) := by
  cases ts with
  | nil => rfl
  | cons t ts =>
    rw [Routine.direction, Routine.run, readDirection, current, List.headD_cons]
    split <;> rfl

theorem runs_direction {α γ : Type} {view : γ → α × List Token} {result : Except SyntaxError γ}
    {f : ChanDir → Routine α} {ts : List Token}
    (h : Runs loose (f (readDirection ts).1) (readDirection ts).2.items view result) :
    Runs loose (Routine.direction.bind f) ts view result := by
  rw [Runs, Routine.run_bind, run_direction]
  exact h

end Tokens

/-! ## Types, parameters and results -/

/-- Whether types among these tokens are read as `type` reads them. -/
def ReadsTypes (loose : Prop) (type : Routine TypeExpr) (ts : List Token) : Prop :=
  Onwards (fun us => Runs loose type us seen (readType us)) ts

section Nesting

variable {loose : Prop} {type : Routine TypeExpr} {bound : Nat} {ts : List Token}

/-- Where the routine is bounded by no token, it need not come to anything. -/
theorem runs_unbounded {α γ : Type} {view : γ → α × List Token} {result : Except SyntaxError γ}
    (hbound : ¬loose → ts.length < 0) : Runs loose .fail ts view result :=
  .inr ⟨Classical.byContradiction fun h => Nat.not_lt_zero _ (hbound h), rfl⟩

theorem runs_arguments (htype : ReadsTypes loose type ts) (hbound : ¬loose → ts.length < bound) :
    Runs loose (.arguments type bound) ts seen (readTypeArguments ts) := by
  induction bound generalizing ts with
  | zero => exact runs_unbounded hbound
  | succ bound ih =>
    rw [readTypeArguments]
    refine .look (.ite (fun _ => .done rfl) fun _ => htype.here.bind ?_)
    rintro ⟨arg, items, hitems⟩
    cases items with
    | nil => exact .look (.done rfl)
    | cons u us =>
      have hlength := hitems.length_le
      refine .look (.ite (fun _ => .move ?_) fun _ => .done rfl)
      refine (ih (htype.of_suffix ((List.suffix_cons u us).trans hitems)) fun h => ?_).map
        fun _ => rfl
      have hlt := hbound h
      rw [List.length_cons] at hlength
      omega

theorem runs_instantiated (htype : ReadsTypes loose type ts) (hbound : ¬loose → ts.length < bound)
    (base : TypeExpr) :
    Runs loose (.instantiated type bound base) ts seen (readInstance base ts) := by
  cases ts with
  | nil =>
    rw [readInstance]
    exact .look (.done rfl)
  | cons t ts =>
    rw [readInstance]
    refine .look (.ite (fun _ => .move ?_) fun _ => .done rfl)
    refine (runs_arguments (htype.behind) fun h =>
      Nat.lt_of_succ_lt (hbound h)).bind fun args => ?_
    exact (runs_token (.closing .square) args.2.items).map fun _ => rfl

def readNamed (base : String) (ts : List Token) : Except SyntaxError (TypeExpr × Rest ts) := do
  let (named, rest) ← readMember base ts
  let (type, last) ← readInstance named rest.items
  return (type, rest.within last)

theorem readType_eq_readNamed {t : Token} {base : String} (hkind : t.kind = .ident base)
    (ts : List Token) :
    readType (t :: ts) = readNamed base ts >>= fun read => .ok (read.1, read.2.behind t) := by
  rw [readType.eq_def, readNamed]
  simp only [hkind, bind_assoc]
  rfl

theorem runs_named (htype : ReadsTypes loose type ts) (hbound : ¬loose → ts.length < bound)
    (base : String) : Runs loose (.named type bound base) ts seen (readNamed base ts) := by
  refine (runs_member base ts).bind fun named => ?_
  refine (runs_instantiated (htype.rest named.2) (fun h => ?_) named.1).seenAs fun _ => rfl
  exact Nat.lt_of_le_of_lt named.2.length_le (hbound h)

def seenEntry {ts : List Token} (read : Entry × Rest ts) : Entry × List Token :=
  (read.1.unplaced, read.2.items)

theorem runs_entry (htype : ReadsTypes loose type ts) (hbound : ¬loose → ts.length < bound) :
    Runs loose (.entry type bound) ts seenEntry (readEntry ts) := by
  have hunnamed : Runs loose (type.map .unnamed) ts seenEntry
      (readType ts >>= fun read => .ok (.unnamed read.1, read.2)) :=
    htype.here.map fun _ => rfl
  cases ts with
  | nil =>
    rw [readType] at hunnamed
    rw [readEntry]
    exact .look hunnamed
  | cons t ts =>
    have hbehind := htype.behind
    have hnamed : ∀ base, Runs loose (type.map (.named base)) ts seenEntry
        (readType ts >>= fun read => .ok (.named base read.1, read.2.behind t)) :=
      fun base => hbehind.here.map fun _ => rfl
    rw [readEntry]
    refine .look ?_
    rw [current, List.headD_cons]
    cases hkind : t.kind with
    | ident base =>
      refine .move (.look ?_)
      cases hnext : (current ts).kind with
      | dot =>
        dsimp only
        rw [readType_eq_readNamed hkind, bind_assoc]
        exact (runs_named hbehind (fun h => Nat.lt_of_succ_lt (hbound h)) base).map fun _ => rfl
      | comma => exact .done rfl
      | closing shape =>
        cases shape with
        | paren => exact .done rfl
        | brace | square => exact hnamed base
      | ellipsis =>
        refine (runs_token .ellipsis ts).bind fun read => ?_
        exact (hbehind.rest read.2).here.map fun _ => rfl
      | _ => exact hnamed base
    | ellipsis => exact .move (hbehind.here.map fun _ => rfl)
    | _ => exact hunnamed

theorem runs_entries {bound' : Nat} (htype : ReadsTypes loose type ts)
    (hbound : ¬loose → ts.length < bound) (hbound' : ¬loose → ts.length < bound') :
    Runs loose (.entries type bound bound')  ts
      (fun read => (read.1.map Entry.unplaced, read.2.items)) (readEntries ts) := by
  induction bound' generalizing ts with
  | zero => exact runs_unbounded hbound'
  | succ bound' ih =>
    rw [readEntries]
    refine .look (.ite (fun _ => .done rfl) fun _ => (runs_entry htype hbound).bind ?_)
    rintro ⟨entry, items, hitems⟩
    cases items with
    | nil => exact .look (.done rfl)
    | cons u us =>
      have hlength := hitems.length_le
      rw [List.length_cons] at hlength
      refine .look (.ite (fun _ => .move ?_) fun _ => .done rfl)
      refine (ih (htype.of_suffix ((List.suffix_cons u us).trans hitems)) (fun h => ?_)
        fun h => ?_).map fun _ => rfl
      · have hlt := hbound h
        omega
      · have hlt := hbound' h
        omega

theorem runs_parametersOf (htype : ReadsTypes loose type ts) (hbound : ¬loose → ts.length < bound) :
    Runs loose (.parametersOf type bound) ts seen (readParameters ts) := by
  have hlt : ∀ rest : Rest ts, ¬loose → rest.items.length < bound := fun rest h =>
    Nat.lt_of_le_of_lt rest.length_le (hbound h)
  rw [readParameters]
  refine (runs_token (.opening .paren) ts).bind fun opened => ?_
  refine (runs_entries (htype.rest opened.2) (hlt opened.2) (hlt opened.2)).bind fun entries => ?_
  refine (runs_token (.closing .paren) entries.2.items).bind fun close => ?_
  dsimp only
  rw [fieldsOfEntries_toOption ⟨0, 0⟩ ⟨opened.1.span.start, close.1.span.stop⟩ entries.1]
  exact .ofOption fun _ => rfl

theorem runs_resultsOf (htype : ReadsTypes loose type ts) (hbound : ¬loose → ts.length < bound) :
    Runs loose (.resultsOf type bound) ts seen (readResults ts) := by
  rw [readResults]
  refine .look (.ite (fun _ => runs_parametersOf htype hbound) fun _ => .ite (fun _ => ?_) fun _ => ?_)
  · exact htype.here.map fun _ => rfl
  · exact .done rfl

end Nesting

section Types

variable {loose : Prop} {bound : Nat} {t : Token} {ts : List Token}

/-! Each kind of type is read by its routine, if the types behind its first token are. -/

theorem runs_type_opening {shape : Bracket} (htype : ReadsTypes loose (.type bound) ts)
    (hkind : t.kind = .opening shape) :
    Runs loose (.type (bound + 1)) (t :: ts) seen (readType (t :: ts)) := by
  rw [readType.eq_def]
  refine .look ?_
  rw [current, List.headD_cons]
  cases shape with
  | paren =>
    simp only [hkind]
    refine .move (htype.here.bind fun inner => ?_)
    exact (runs_token (.closing .paren) inner.2.items).map fun _ => rfl
  | square =>
    simp only [hkind]
    cases ts with
    | nil => exact .inl rfl
    | cons u us =>
      have hslice := htype.behind
      exact .measure (congrArg Token.Kind.isOpener hkind) (hslice.here.map fun _ => rfl) fun size =>
        (htype.rest size).here.map fun _ => rfl
  | brace =>
    simp only [hkind]
    exact .fail _

theorem runs_type_keyword {word : Keyword} (htype : ReadsTypes loose (.type bound) ts)
    (hbound : ¬loose → ts.length < bound) (hkind : t.kind = .keyword word) :
    Runs loose (.type (bound + 1)) (t :: ts) seen (readType (t :: ts)) := by
  rw [readType.eq_def]
  refine .look ?_
  rw [current, List.headD_cons]
  cases word with
  | map =>
    simp only [hkind]
    refine .move ((runs_token (.opening .square) ts).bind fun opened => ?_)
    refine (htype.rest opened.2).here.bind fun key => ?_
    refine (runs_token (.closing .square) key.2.items).bind fun close => ?_
    exact (htype.rest (opened.2.within (key.2.within close.2))).here.map fun _ => rfl
  | chan =>
    simp only [hkind]
    refine .move (runs_direction ?_)
    exact (htype.rest (readDirection ts).2).here.map fun _ => rfl
  | func =>
    simp only [hkind]
    refine .move ((runs_parametersOf htype hbound).bind fun params => ?_)
    exact (runs_resultsOf (htype.rest params.2) fun h =>
      Nat.lt_of_le_of_lt params.2.length_le (hbound h)).map fun _ => rfl
  | struct | interface =>
    simp only [hkind]
    exact .move ((runs_block ts).map fun _ => rfl)
  | _ =>
    simp only [hkind]
    exact .fail _

/-- **The reader of types** runs its routine, by induction on the bound. -/
theorem runs_type (hbound : ¬loose → ts.length < bound) :
    Runs loose (.type bound) ts seen (readType ts) := by
  induction bound generalizing ts with
  | zero => exact runs_unbounded hbound
  | succ bound ih =>
    cases ts with
    | nil =>
      rw [readType.eq_def]
      exact .look (.fail _)
    | cons t ts =>
      have hbehind : ¬loose → ts.length < bound := fun h => Nat.lt_of_succ_lt_succ (hbound h)
      have htype : ReadsTypes loose (.type bound) ts := fun us hus =>
        ih fun h => Nat.lt_of_le_of_lt hus.length_le (hbehind h)
      cases hkind : t.kind with
      | opening shape => exact runs_type_opening htype hkind
      | keyword word => exact runs_type_keyword htype hbehind hkind
      | ident base =>
        rw [readType_eq_readNamed hkind]
        refine .look ?_
        rw [current, List.headD_cons, hkind]
        exact .move ((runs_named htype hbehind base).seenAs fun _ => rfl)
      | star =>
        rw [readType.eq_def]
        refine .look ?_
        rw [current, List.headD_cons]
        simp only [hkind]
        exact .move (htype.here.map fun _ => rfl)
      | arrow =>
        rw [readType.eq_def]
        refine .look ?_
        rw [current, List.headD_cons]
        simp only [hkind]
        refine .move ((runs_token (.keyword .chan) ts).bind fun chan => ?_)
        exact (htype.rest chan.2).here.map fun _ => rfl
      | _ =>
        rw [readType.eq_def]
        refine .look ?_
        rw [current, List.headD_cons]
        simp only [hkind]
        exact .fail _

theorem readsTypes (hbound : ¬loose → ts.length < bound) : ReadsTypes loose (.type bound) ts :=
  fun _ hus => runs_type fun h => Nat.lt_of_le_of_lt hus.length_le (hbound h)

theorem runs_parameters (hbound : ¬loose → ts.length < bound) :
    Runs loose (.parameters bound) ts seen (readParameters ts) :=
  runs_parametersOf (readsTypes hbound) hbound

theorem runs_results (hbound : ¬loose → ts.length < bound) :
    Runs loose (.results bound) ts seen (readResults ts) :=
  runs_resultsOf (readsTypes hbound) hbound

end Types

end ReactBridge.Go
