import ReactBridge.Go.Syntax.File
import ReactBridge.Proofs.Go.LineEnd

/-!
# Reading two token sequences side by side

No reader asks where a token stands, and none looks further ahead than it has to. Both come from one
comparison of its runs on two token sequences.

* `Entry.shift`, `SyntaxError.shift` : entries and errors some bytes further on;
* `Matches shift loose V` : when two results of a reader correspond;
* `Simulation shift loose R Past` : token sequences that readers cannot tell apart;
* `Simulation.matches_type` and the lemmas ahead of it : each form of type is read alike, if those
  inside it are;
* `Simulation.types`, `Simulation.matches_skipDeclaration` : on such sequences each reader does the
  same.
-/

namespace ReactBridge.Go

/-! ## Positions further on -/

def Entry.shift (k : Nat) : Entry → Entry
  | bare name span => bare name (span.shift k)
  | named name type => named name type
  | unnamed type => unnamed type

def SyntaxError.shift (k : Nat) (e : SyntaxError) : SyntaxError :=
  ⟨e.cause, e.span.shift k⟩

/-! ## Results that correspond -/

/-- Two results of a reader correspond: values by `V`, and errors are the same, `k` bytes further on.
Where the comparison is `loose`, an error on the left goes with any result. -/
inductive Matches (k : Nat) (loose : Prop) {α β : Type} (V : α → β → Prop) :
    Except SyntaxError α → Except SyntaxError β → Prop
  | ok {a : α} {b : β} (h : V a b) : Matches k loose V (.ok a) (.ok b)
  | error (e : SyntaxError) : Matches k loose V (.error e) (.error (e.shift k))
  | loosely (h : loose) (e : SyntaxError) (result : Except SyntaxError β) :
      Matches k loose V (.error e) result

/-- Two readings gave values that correspond by `V`, and left tokens that do by `R`. -/
def Left (R : List Token → List Token → Prop) {α β : Type} (V : α → β → Prop) {ts us : List Token}
    (p : α × Rest ts) (q : β × Rest us) : Prop :=
  V p.1 q.1 ∧ R p.2.items q.2.items

variable {k : Nat} {loose : Prop}

theorem Matches.bind_of_eq {α β γ δ : Type} {V : α → β → Prop} {W : γ → δ → Prop}
    {x : Except SyntaxError α} {y : Except SyntaxError β} {f : α → Except SyntaxError γ}
    {g : β → Except SyntaxError δ} (h : Matches k loose V x y)
    (hnext : ∀ a b, x = .ok a → V a b → Matches k loose W (f a) (g b)) :
    Matches k loose W (x >>= f) (y >>= g) := by
  cases h with
  | ok h => exact hnext _ _ rfl h
  | error e => exact .error e
  | loosely h e => exact .loosely h e _

theorem Matches.bind {α β γ δ : Type} {V : α → β → Prop} {W : γ → δ → Prop}
    {x : Except SyntaxError α} {y : Except SyntaxError β} {f : α → Except SyntaxError γ}
    {g : β → Except SyntaxError δ} (h : Matches k loose V x y)
    (hnext : ∀ a b, V a b → Matches k loose W (f a) (g b)) :
    Matches k loose W (x >>= f) (y >>= g) :=
  h.bind_of_eq fun a b _ => hnext a b

/-- Readings that gave the same value are followed by the same. -/
theorem Matches.bind_left {R : List Token → List Token → Prop} {ts us : List Token} {α γ δ : Type}
    {W : γ → δ → Prop} {x : Except SyntaxError (α × Rest ts)} {y : Except SyntaxError (α × Rest us)}
    {f : α × Rest ts → Except SyntaxError γ} {g : α × Rest us → Except SyntaxError δ}
    (h : Matches k loose (Left R Eq) x y)
    (hnext : ∀ a rest rest', R rest.items rest'.items →
      Matches k loose W (f (a, rest)) (g (a, rest'))) :
    Matches k loose W (x >>= f) (y >>= g) := by
  refine h.bind ?_
  rintro ⟨a, rest⟩ ⟨_, rest'⟩ ⟨rfl, hrest⟩
  exact hnext a rest rest' hrest

theorem Matches.exists_of_ok {α β : Type} {V : α → β → Prop} {a : α} {y : Except SyntaxError β}
    (h : Matches k loose V (.ok a) y) : ∃ b, y = .ok b ∧ V a b := by
  cases h with
  | ok h => exact ⟨_, rfl, h⟩

theorem Matches.map {α β γ δ : Type} {V : α → β → Prop} {W : γ → δ → Prop}
    {x : Except SyntaxError α} {y : Except SyntaxError β} (h : Matches k loose V x y) {f : α → γ}
    {g : β → δ} (hVW : ∀ a b, V a b → W (f a) (g b)) : Matches k loose W (x.map f) (y.map g) := by
  cases h with
  | ok h => exact .ok (hVW _ _ h)
  | error e => exact .error e
  | loosely h e => exact .loosely h e _

/-! ## Parameter lists -/

theorem matches_namedFields (list : Span) (entries : List Entry) (waiting : List String)
    (last : Option Span) :
    Matches k loose Eq (namedFields list waiting last entries)
      (namedFields (list.shift k) waiting (last.map (Span.shift k)) (entries.map (Entry.shift k))) := by
  induction entries generalizing waiting last with
  | nil =>
    cases last with
    | some span => exact .error _
    | none => exact .ok rfl
  | cons entry entries ih =>
    cases entry with
    | bare name span => exact ih (waiting ++ [name]) (some span)
    | unnamed type => exact .error _
    | named name type =>
      rw [List.map_cons, Entry.shift, namedFields, namedFields]
      have hmore := ih [] none
      rw [Option.map_none] at hmore
      generalize namedFields list [] none entries = x at hmore
      generalize namedFields (list.shift k) [] none (entries.map (Entry.shift k)) = y at hmore
      cases hmore with
      | ok h => exact .ok (h ▸ rfl)
      | error e => exact .error e
      | loosely h e => exact .loosely h e _

theorem matches_fieldsOfEntries (entries : List Entry) (list : Span) :
    Matches k loose Eq (fieldsOfEntries entries list)
      (fieldsOfEntries (entries.map (Entry.shift k)) (list.shift k)) := by
  have hnamed : ∀ entry : Entry, (entry.shift k).isNamed = entry.isNamed := fun entry => by
    cases entry <;> rfl
  have hfield : ∀ entry : Entry, (entry.shift k).unnamedField? = entry.unnamedField? := fun entry => by
    cases entry <;> rfl
  rw [fieldsOfEntries, fieldsOfEntries, List.any_map, List.filterMap_map]
  rw [show Entry.isNamed ∘ Entry.shift k = Entry.isNamed from funext hnamed,
    show Entry.unnamedField? ∘ Entry.shift k = Entry.unnamedField? from funext hfield]
  split
  · exact matches_namedFields list entries [] none
  · exact .ok rfl

/-! ## Sequences that readers cannot tell apart -/

/-- Whether a declaration may end at a token of the kind. -/
def Token.Kind.endsDeclaration : Token.Kind → Bool
  | semicolon | endOfFile => true
  | _ => false

/-- Related sequences start with one token, `k` bytes apart, and stay related behind it. A semicolon
may lead out of the relation into `Past`, from where nothing more is read: the comparison is loose
there, and the left sequence is at its end. -/
structure Steps (k : Nat) (loose : Prop) (R Past : List Token → List Token → Prop) : Prop where
  first : ∀ {ts us}, R ts us → ∃ t ts' us', ts = t :: ts' ∧ us = t.shift k :: us'
  next : ∀ {t ts us}, R (t :: ts) (t.shift k :: us) → t.kind.endsDeclaration = false → R ts us
  line : ∀ {t ts us}, R (t :: ts) (t.shift k :: us) → t.kind = .semicolon → R ts us ∨ Past ts us
  past : ∀ {ts us}, Past ts us → loose ∧ (current ts).kind = .endOfFile

/-- The same, where groups that are skipped lead to related sequences too. -/
structure Simulation (k : Nat) (loose : Prop) (R Past : List Token → List Token → Prop) : Prop
    extends Steps k loose R Past where
  group : ∀ {t ts us} {shape : Bracket}, R (t :: ts) (t.shift k :: us) → t.kind = .opening shape →
    Matches k loose (fun rest rest' => R rest.items rest'.items) (skipGroup t ts)
      (skipGroup (t.shift k) us)

section Groups

variable {R Past : List Token → List Token → Prop}

def groupEnd (e : SyntaxError) (depth : Nat) (ts : List Token) : Except SyntaxError (Rest ts) :=
  (afterGroup depth ts).elim (.error e) .ok

theorem skipGroup_eq (opening : Token) (ts : List Token) :
    skipGroup opening ts = groupEnd ⟨.unclosed opening.kind, opening.span⟩ 0 ts := by
  rw [skipGroup, groupEnd]
  split <;> next h => rw [h]; rfl

theorem groupEnd_cons (e : SyntaxError) (depth : Nat) (t : Token) (ts : List Token) :
    groupEnd e depth (t :: ts) =
      match t.kind, depth with
      | .endOfFile, _ => .error e
      | .opening _, depth => (groupEnd e (depth + 1) ts).map (Rest.behind t)
      | .closing _, 0 => .ok ((Rest.all ts).behind t)
      | .closing _, depth + 1 => (groupEnd e depth ts).map (Rest.behind t)
      | _, depth => (groupEnd e depth ts).map (Rest.behind t) := by
  have hmap : ∀ depth, ((afterGroup depth ts).map (Rest.behind t)).elim (.error e) .ok =
      (groupEnd e depth ts).map (Rest.behind t) := by
    intro depth
    rw [groupEnd]
    cases afterGroup depth ts <;> rfl
  rw [groupEnd, afterGroup.eq_def]
  cases hkind : t.kind with
  | endOfFile => simp only [hkind, Option.elim]
  | closing shape =>
    cases depth with
    | zero => simp only [hkind, Option.elim]
    | succ depth => simp only [hkind, hmap]
  | _ => simp only [hkind, hmap]

theorem groupEnd_of_endOfFile (e : SyntaxError) (depth : Nat) {ts : List Token}
    (h : (current ts).kind = .endOfFile) : groupEnd e depth ts = .error e := by
  cases ts with
  | nil => rfl
  | cons t ts =>
    have hkind : t.kind = .endOfFile := h
    rw [groupEnd_cons, hkind]

/-- Groups are read token by token, so whatever steps along tokens leads to their ends. -/
theorem Steps.matches_groupEnd (steps : Steps k loose R Past) (e : SyntaxError) {ts us : List Token}
    (h : R ts us) (depth : Nat) :
    Matches k loose (fun rest rest' => R rest.items rest'.items) (groupEnd e depth ts)
      (groupEnd (e.shift k) depth us) := by
  induction ts generalizing us depth with
  | nil =>
    obtain ⟨t, ts, us, hts, -⟩ := steps.first h
    cases hts
  | cons t ts ih =>
    obtain ⟨t, ts, us, hts, rfl⟩ := steps.first h
    obtain ⟨rfl, rfl⟩ := List.cons.inj hts
    have hmore : R ts us → ∀ depth, Matches k loose (fun rest rest' => R rest.items rest'.items)
        ((groupEnd e depth ts).map (Rest.behind t))
        ((groupEnd (e.shift k) depth us).map (Rest.behind (t.shift k))) :=
      fun hbehind depth => (ih hbehind depth).map fun _ _ hrest => hrest
    rw [groupEnd_cons, groupEnd_cons, Token.kind_shift]
    cases hkind : t.kind with
    | semicolon =>
      rcases steps.line h hkind with hbehind | hpast
      · exact hmore hbehind depth
      · -- The left sequence ends inside the group.
        obtain ⟨hloose, hend⟩ := steps.past hpast
        change Matches k loose _ ((groupEnd e depth ts).map (Rest.behind t)) _
        rw [groupEnd_of_endOfFile e depth hend]
        exact .loosely hloose e _
    | endOfFile => exact .error e
    | opening shape => exact hmore (steps.next h (hkind ▸ rfl)) (depth + 1)
    | closing shape =>
      have hbehind := steps.next h (hkind ▸ rfl)
      cases depth with
      | zero => exact .ok hbehind
      | succ depth => exact hmore hbehind depth
    | _ => exact hmore (steps.next h (hkind ▸ rfl)) depth

/-- What steps along tokens cannot be told apart. -/
theorem Steps.simulation (steps : Steps k loose R Past) : Simulation k loose R Past where
  toSteps := steps
  group h hopen := by
    rw [skipGroup_eq, skipGroup_eq]
    exact steps.matches_groupEnd _ (steps.next h (hopen ▸ rfl)) 0

end Groups

namespace Simulation

variable {R Past : List Token → List Token → Prop} {ts us : List Token}

theorem behind (sim : Simulation k loose R Past) {t : Token} (h : R (t :: ts) (t.shift k :: us))
    {kind : Token.Kind} (hkind : t.kind = kind) (hends : kind.endsDeclaration = false) : R ts us :=
  sim.next h (hkind ▸ hends)

theorem current_eq (sim : Simulation k loose R Past) (h : R ts us) :
    current us = (current ts).shift k := by
  obtain ⟨t, ts, us, rfl, rfl⟩ := sim.first h
  rfl

theorem kind_eq (sim : Simulation k loose R Past) (h : R ts us) :
    (current us).kind = (current ts).kind := by
  rw [sim.current_eq h]
  rfl

theorem matches_takeToken (sim : Simulation k loose R Past) (h : R ts us) (kind : Token.Kind)
    (hends : kind.endsDeclaration = false) :
    Matches k loose (Left R fun t u => u = t.shift k) (takeToken kind ts) (takeToken kind us) := by
  obtain ⟨t, ts, us, rfl, rfl⟩ := sim.first h
  rw [takeToken, takeToken, Token.kind_shift]
  split
  · next hkind => exact .ok ⟨rfl, sim.behind h hkind hends⟩
  · exact .error _

theorem matches_takeName (sim : Simulation k loose R Past) (h : R ts us) :
    Matches k loose (Left R Eq) (takeName ts) (takeName us) := by
  obtain ⟨t, ts, us, rfl, rfl⟩ := sim.first h
  rw [takeName, takeName]
  cases hkind : t.kind with
  | ident name =>
    simp only [Token.kind_shift, hkind]
    exact .ok ⟨rfl, sim.behind h hkind rfl⟩
  | _ =>
    simp only [Token.kind_shift, hkind]
    exact .error _

theorem matches_readMember (sim : Simulation k loose R Past) (h : R ts us) (name : String) :
    Matches k loose (Left R Eq) (readMember name ts) (readMember name us) := by
  obtain ⟨t, ts, us, rfl, rfl⟩ := sim.first h
  rw [readMember, readMember, Token.kind_shift]
  split
  · next hkind =>
    have hmember := sim.matches_takeName (sim.behind h hkind rfl)
    exact hmember.bind_left fun _ _ _ hrest => .ok ⟨rfl, hrest⟩
  · exact .ok ⟨rfl, h⟩

theorem matches_skipBlock (sim : Simulation k loose R Past) (h : R ts us) :
    Matches k loose (fun rest rest' => R rest.items rest'.items) (skipBlock ts) (skipBlock us) := by
  obtain ⟨t, ts, us, rfl, rfl⟩ := sim.first h
  rw [skipBlock, skipBlock, Token.kind_shift]
  split
  · next hkind => exact (sim.group h hkind).bind fun _ _ hrest => .ok hrest
  · exact .error _

theorem readDirection_eq (sim : Simulation k loose R Past) (h : R ts us) :
    (readDirection us).1 = (readDirection ts).1 ∧
      R (readDirection ts).2.items (readDirection us).2.items := by
  obtain ⟨t, ts, us, rfl, rfl⟩ := sim.first h
  rw [readDirection, readDirection, Token.kind_shift]
  split
  · next hkind => exact ⟨rfl, sim.behind h hkind rfl⟩
  · exact ⟨rfl, h⟩

/-! ## Types, parameters and results

Where types nest, a reader comes to another type only behind a first token. So what is said of the
types behind it is a hypothesis of each rule, and `types` is an induction on the tokens. -/

/-- A type is read alike from the tokens and from related ones. -/
def TypeMatches (k : Nat) (loose : Prop) (R : List Token → List Token → Prop) (ts : List Token) :
    Prop :=
  ∀ us, R ts us → Matches k loose (Left R Eq) (readType ts) (readType us)

variable {t : Token}

theorem matches_arguments (sim : Simulation k loose R Past) {ts us : List Token}
    (htype : Onwards (TypeMatches k loose R) ts) (h : R ts us) :
    Matches k loose (Left R Eq) (readTypeArguments ts) (readTypeArguments us) := by
  rw [readTypeArguments, readTypeArguments, sim.kind_eq h]
  split
  · exact .ok ⟨rfl, h⟩
  refine (htype.here us h).bind_left fun arg rest rest' hrest => ?_
  have hbehind := htype.rest rest
  obtain ⟨items, hitems⟩ := rest
  obtain ⟨items', hitems'⟩ := rest'
  obtain ⟨t, ts, us, rfl, rfl⟩ := sim.first hrest
  have hlength := hitems.length_le
  dsimp only
  rw [Token.kind_shift]
  split
  · next hkind =>
    have hmore := matches_arguments sim hbehind.behind (sim.behind hrest hkind rfl)
    exact hmore.bind_left fun _ _ _ hlast => .ok ⟨rfl, hlast⟩
  · exact .ok ⟨rfl, hrest⟩
  termination_by ts.length
  decreasing_by all_goals grind

theorem matches_instance (sim : Simulation k loose R Past)
    (htype : Onwards (TypeMatches k loose R) ts) (h : R ts us) (base : TypeExpr) :
    Matches k loose (Left R Eq) (readInstance base ts) (readInstance base us) := by
  obtain ⟨t, ts, us, rfl, rfl⟩ := sim.first h
  rw [readInstance, readInstance, Token.kind_shift]
  split
  · next hkind =>
    have hargs := sim.matches_arguments htype.behind (sim.behind h hkind rfl)
    refine hargs.bind_left fun args rest rest' hrest => ?_
    exact (sim.matches_takeToken hrest (.closing .square) rfl).bind fun _ _ hlast =>
      .ok ⟨rfl, hlast.2⟩
  · exact .ok ⟨rfl, h⟩

theorem matches_entry (sim : Simulation k loose R Past)
    (htype : Onwards (TypeMatches k loose R) ts) (h : R ts us) :
    Matches k loose (Left R fun entry entry' => entry' = entry.shift k)
      (readEntry ts) (readEntry us) := by
  obtain ⟨t, ts, us, rfl, rfl⟩ := sim.first h
  have hunnamed : Matches k loose (Left R fun entry entry' => entry' = entry.shift k)
      (readType (t :: ts) >>= fun read => .ok (Entry.unnamed read.1, read.2))
      (readType (t.shift k :: us) >>= fun read => .ok (Entry.unnamed read.1, read.2)) :=
    (htype.here _ h).bind_left fun _ _ _ hrest => .ok ⟨rfl, hrest⟩
  rw [readEntry, readEntry]
  cases hkind : t.kind with
  | ident name =>
    have hbehind := sim.behind h hkind rfl
    have hsame := sim.kind_eq hbehind
    have hnamed : Matches k loose (Left R fun entry entry' => entry' = entry.shift k)
        (readType ts >>= fun read => .ok (Entry.named name read.1, read.2.behind t))
        (readType us >>= fun read => .ok (Entry.named name read.1, read.2.behind (t.shift k))) :=
      (htype.behind.here us hbehind).bind_left fun _ _ _ hrest => .ok ⟨rfl, hrest⟩
    simp only [Token.kind_shift, hkind, hsame]
    cases hbehindKind : (current ts).kind with
    | dot => exact hunnamed
    | comma => exact .ok ⟨rfl, hbehind⟩
    | closing shape =>
      cases shape with
      | paren => exact .ok ⟨rfl, hbehind⟩
      | brace | square => exact hnamed
    | ellipsis =>
      dsimp only
      refine (sim.matches_takeToken hbehind .ellipsis rfl).bind fun dots dots' hdots => ?_
      have helem := (htype.behind.rest dots.2).here _ hdots.2
      exact helem.bind_left fun _ _ _ hlast => .ok ⟨rfl, hlast⟩
    | _ => exact hnamed
  | ellipsis =>
    simp only [Token.kind_shift, hkind]
    have helem := htype.behind.here us (sim.behind h hkind rfl)
    exact helem.bind_left fun _ _ _ hrest => .ok ⟨rfl, hrest⟩
  | _ =>
    simp only [Token.kind_shift, hkind]
    exact hunnamed

theorem matches_entries (sim : Simulation k loose R Past) {ts us : List Token}
    (htype : Onwards (TypeMatches k loose R) ts) (h : R ts us) :
    Matches k loose (Left R fun entries entries' => entries' = entries.map (Entry.shift k))
      (readEntries ts) (readEntries us) := by
  rw [readEntries, readEntries, sim.kind_eq h]
  split
  · exact .ok ⟨rfl, h⟩
  refine (sim.matches_entry htype h).bind ?_
  rintro ⟨entry, rest⟩ ⟨_, rest'⟩ ⟨rfl, hrest⟩
  have hbehind := htype.rest rest
  obtain ⟨items, hitems⟩ := rest
  obtain ⟨items', hitems'⟩ := rest'
  obtain ⟨t, ts, us, rfl, rfl⟩ := sim.first hrest
  have hlength := hitems.length_le
  dsimp only
  rw [Token.kind_shift]
  split
  · next hkind =>
    refine (matches_entries sim hbehind.behind (sim.behind hrest hkind rfl)).bind ?_
    rintro ⟨entries, last⟩ ⟨_, last'⟩ ⟨rfl, hlast⟩
    exact .ok ⟨rfl, hlast⟩
  · exact .ok ⟨rfl, hrest⟩
  termination_by ts.length
  decreasing_by all_goals grind

theorem matches_parameters (sim : Simulation k loose R Past)
    (htype : Onwards (TypeMatches k loose R) ts) (h : R ts us) :
    Matches k loose (Left R Eq) (readParameters ts) (readParameters us) := by
  rw [readParameters, readParameters]
  refine (sim.matches_takeToken h (.opening .paren) rfl).bind ?_
  rintro ⟨opened, start⟩ ⟨_, start'⟩ ⟨rfl, hstart⟩
  refine (sim.matches_entries (htype.rest start) hstart).bind ?_
  rintro ⟨entries, rest⟩ ⟨_, rest'⟩ ⟨rfl, hrest⟩
  refine (sim.matches_takeToken hrest (.closing .paren) rfl).bind ?_
  rintro ⟨close, last⟩ ⟨_, last'⟩ ⟨rfl, hlast⟩
  refine (matches_fieldsOfEntries entries ⟨opened.span.start, close.span.stop⟩).bind ?_
  rintro fields _ rfl
  exact .ok ⟨rfl, hlast⟩

theorem matches_results (sim : Simulation k loose R Past)
    (htype : Onwards (TypeMatches k loose R) ts) (h : R ts us) :
    Matches k loose (Left R Eq) (readResults ts) (readResults us) := by
  rw [readResults, readResults, sim.kind_eq h]
  split
  · exact sim.matches_parameters htype h
  split
  · exact (htype.here us h).bind_left fun _ _ _ hrest => .ok ⟨rfl, hrest⟩
  · exact .ok ⟨rfl, h⟩

theorem matches_refused (hbegins : beginsType t.kind = false) :
    Matches k loose (Left R Eq) (readType (t :: ts)) (readType (t.shift k :: us)) := by
  rw [readType_of_not_begins hbegins, readType_of_not_begins (t.kind_shift k ▸ hbegins)]
  exact .error _

/-! Each form of type is read alike, if the types behind its first token are. -/

section Forms

variable (sim : Simulation k loose R Past) (htype : Onwards (TypeMatches k loose R) ts)
  (h : R (t :: ts) (t.shift k :: us))
include sim htype h

theorem matches_named {name : String} (hkind : t.kind = .ident name) :
    Matches k loose (Left R Eq) (readType (t :: ts)) (readType (t.shift k :: us)) := by
  rw [readType.eq_def, readType.eq_def]
  simp only [Token.kind_shift, hkind]
  refine (sim.matches_readMember (sim.behind h hkind rfl) name).bind_left fun base mid _ hmid => ?_
  have hinstance := sim.matches_instance (htype.rest mid) hmid base
  exact hinstance.bind_left fun _ _ _ hlast => .ok ⟨rfl, hlast⟩

theorem matches_pointer (hkind : t.kind = .star) :
    Matches k loose (Left R Eq) (readType (t :: ts)) (readType (t.shift k :: us)) := by
  rw [readType.eq_def, readType.eq_def]
  simp only [Token.kind_shift, hkind]
  have helem := htype.here us (sim.behind h hkind rfl)
  exact helem.bind_left fun _ _ _ hrest => .ok ⟨rfl, hrest⟩

theorem matches_sequence (hkind : t.kind = .opening .square) :
    Matches k loose (Left R Eq) (readType (t :: ts)) (readType (t.shift k :: us)) := by
  have hgroup := sim.group h hkind
  have hinside := sim.behind h hkind rfl
  rw [readType.eq_def, readType.eq_def]
  simp only [Token.kind_shift, hkind] at hgroup ⊢
  obtain ⟨u, vs, ws, rfl, rfl⟩ := sim.first hinside
  dsimp only
  rw [Token.kind_shift]
  split
  · next hclose =>
    have helem := htype.behind.here ws (sim.behind hinside hclose rfl)
    exact helem.bind_left fun _ _ _ hrest => .ok ⟨rfl, hrest⟩
  · refine hgroup.bind fun size size' hsize => ?_
    have helem := (htype.rest size).here _ hsize
    exact helem.bind_left fun _ _ _ hrest => .ok ⟨rfl, hrest⟩

theorem matches_map (hkind : t.kind = .keyword .map) :
    Matches k loose (Left R Eq) (readType (t :: ts)) (readType (t.shift k :: us)) := by
  rw [readType.eq_def, readType.eq_def]
  simp only [Token.kind_shift, hkind]
  refine (sim.matches_takeToken (sim.behind h hkind rfl) (.opening .square) rfl).bind ?_
  rintro ⟨_, opened⟩ ⟨_, opened'⟩ ⟨-, hopened⟩
  have htype := htype.rest opened
  refine (htype.here _ hopened).bind_left fun key rest rest' hrest => ?_
  have htype := htype.rest rest
  refine (sim.matches_takeToken hrest (.closing .square) rfl).bind ?_
  rintro ⟨_, close⟩ ⟨_, close'⟩ ⟨-, hclose⟩
  exact ((htype.rest close).here _ hclose).bind_left fun _ _ _ hlast => .ok ⟨rfl, hlast⟩

theorem matches_chan (hkind : t.kind = .keyword .chan) :
    Matches k loose (Left R Eq) (readType (t :: ts)) (readType (t.shift k :: us)) := by
  rw [readType.eq_def, readType.eq_def]
  simp only [Token.kind_shift, hkind]
  obtain ⟨hdir, hrest⟩ := sim.readDirection_eq (sim.behind h hkind rfl)
  rw [hdir]
  have helem := (htype.rest (readDirection ts).2).here _ hrest
  exact helem.bind_left fun _ _ _ hlast => .ok ⟨rfl, hlast⟩

theorem matches_receive (hkind : t.kind = .arrow) :
    Matches k loose (Left R Eq) (readType (t :: ts)) (readType (t.shift k :: us)) := by
  rw [readType.eq_def, readType.eq_def]
  simp only [Token.kind_shift, hkind]
  refine (sim.matches_takeToken (sim.behind h hkind rfl) (.keyword .chan) rfl).bind ?_
  rintro ⟨_, rest⟩ ⟨_, rest'⟩ ⟨-, hrest⟩
  exact ((htype.rest rest).here _ hrest).bind_left fun _ _ _ hlast => .ok ⟨rfl, hlast⟩

theorem matches_signature (hkind : t.kind = .keyword .func) :
    Matches k loose (Left R Eq) (readType (t :: ts)) (readType (t.shift k :: us)) := by
  rw [readType.eq_def, readType.eq_def]
  simp only [Token.kind_shift, hkind]
  have hparams := sim.matches_parameters htype (sim.behind h hkind rfl)
  refine hparams.bind_left fun params rest rest' hrest => ?_
  have hresults := sim.matches_results (htype.rest rest) hrest
  exact hresults.bind_left fun _ _ _ hlast => .ok ⟨rfl, hlast⟩

theorem matches_paren (hkind : t.kind = .opening .paren) :
    Matches k loose (Left R Eq) (readType (t :: ts)) (readType (t.shift k :: us)) := by
  rw [readType.eq_def, readType.eq_def]
  simp only [Token.kind_shift, hkind]
  refine (htype.here us (sim.behind h hkind rfl)).bind_left fun inner rest rest' hrest => ?_
  exact (sim.matches_takeToken hrest (.closing .paren) rfl).bind fun _ _ hlast =>
    .ok ⟨rfl, hlast.2⟩

theorem matches_keyword {word : Keyword} (hkind : t.kind = .keyword word) :
    Matches k loose (Left R Eq) (readType (t :: ts)) (readType (t.shift k :: us)) := by
  cases word with
  | map => exact sim.matches_map htype h hkind
  | chan => exact sim.matches_chan htype h hkind
  | func => exact sim.matches_signature htype h hkind
  | struct | interface =>
    rw [readType.eq_def, readType.eq_def]
    simp only [Token.kind_shift, hkind]
    exact (sim.matches_skipBlock (sim.behind h hkind rfl)).bind fun _ _ hrest => .ok ⟨rfl, hrest⟩
  | _ => exact matches_refused (hkind ▸ rfl)

theorem matches_type :
    Matches k loose (Left R Eq) (readType (t :: ts)) (readType (t.shift k :: us)) := by
  cases hkind : t.kind with
  | ident name => exact sim.matches_named htype h hkind
  | star => exact sim.matches_pointer htype h hkind
  | arrow => exact sim.matches_receive htype h hkind
  | keyword word => exact sim.matches_keyword htype h hkind
  | opening shape =>
    cases shape with
    | paren => exact sim.matches_paren htype h hkind
    | square => exact sim.matches_sequence htype h hkind
    | brace => exact matches_refused (hkind ▸ rfl)
  | _ => exact matches_refused (hkind ▸ rfl)

end Forms

/-- Types are read alike from related sequences, however they nest. -/
theorem types (sim : Simulation k loose R Past) (ts : List Token) :
    Onwards (TypeMatches k loose R) ts := by
  refine .of_cons (fun us h => ?_) (fun t ts htype us h => ?_) ts
  · obtain ⟨t, ts, us, hts, -⟩ := sim.first h
    cases hts
  · obtain ⟨t, ts, us, hts, rfl⟩ := sim.first h
    obtain ⟨rfl, rfl⟩ := List.cons.inj hts
    exact sim.matches_type htype h

theorem matches_readParameters (sim : Simulation k loose R Past) (h : R ts us) :
    Matches k loose (Left R Eq) (readParameters ts) (readParameters us) :=
  sim.matches_parameters (sim.types ts) h

theorem matches_readResults (sim : Simulation k loose R Past) (h : R ts us) :
    Matches k loose (Left R Eq) (readResults ts) (readResults us) :=
  sim.matches_results (sim.types ts) h

/-! ## Declarations -/

/-- The end of a declaration may lead out of the relation. -/
theorem matches_takeEnd (sim : Simulation k loose R Past) (h : R ts us) :
    Matches k loose (fun rest rest' => R rest.items rest'.items ∨ Past rest.items rest'.items)
      (takeEnd ts) (takeEnd us) := by
  obtain ⟨t, ts, us, rfl, rfl⟩ := sim.first h
  rw [takeEnd, takeEnd, Token.kind_shift]
  split
  · next hkind => exact .ok (sim.line h hkind)
  split
  · exact .ok (.inl h)
  · exact .error _

theorem matches_takeImportPath (sim : Simulation k loose R Past) (h : R ts us) :
    Matches k loose (fun rest rest' => R rest.items rest'.items) (takeImportPath ts)
      (takeImportPath us) := by
  obtain ⟨t, ts, us, rfl, rfl⟩ := sim.first h
  rw [takeImportPath, takeImportPath]
  cases hkind : t.kind with
  | literal kind =>
    simp only [Token.kind_shift, hkind]
    cases kind with
    | string | rawString => exact .ok (sim.behind h hkind rfl)
    | number | rune => exact .error _
  | _ =>
    simp only [Token.kind_shift, hkind]
    exact .error _

theorem matches_skipImport (sim : Simulation k loose R Past) (h : R ts us) :
    Matches k loose (fun rest rest' => R rest.items rest'.items) (skipImport ts)
      (skipImport us) := by
  obtain ⟨t, ts, us, rfl, rfl⟩ := sim.first h
  rw [skipImport, skipImport]
  cases hkind : t.kind with
  | ident _ | dot =>
    simp only [Token.kind_shift, hkind]
    exact (sim.matches_takeImportPath (sim.behind h hkind rfl)).bind fun _ _ hrest =>
      .ok hrest
  | _ =>
    simp only [Token.kind_shift, hkind]
    exact sim.matches_takeImportPath h

theorem skipImports_of_endOfFile {ts : List Token} (h : (current ts).kind = .endOfFile) :
    ∃ e, skipImports ts = .error e := by
  cases ts with
  | nil =>
    rw [skipImports]
    exact ⟨_, rfl⟩
  | cons t ts =>
    have hkind : t.kind = .endOfFile := h
    have himport : skipImport (t :: ts) = .error (unexpected .importPath (t :: ts)) := by
      simp only [skipImport, takeImportPath, hkind]
    rw [skipImports, hkind, if_neg (by decide), if_neg (by decide)]
    split
    · exact ⟨_, rfl⟩
    · next rest hrest =>
      rw [himport] at hrest
      cases hrest

theorem skipImports_cons (t : Token) (ts : List Token) :
    skipImports (t :: ts) =
      if t.kind = .closing .paren then .ok ((Rest.all ts).behind t)
      else if t.kind = .semicolon then do
        let rest ← skipImports ts
        return rest.behind t
      else do
        let rest ← skipImport (t :: ts)
        if (current rest.items).kind = .closing .paren then do
          let last ← skipImports rest.items
          return rest.within last
        else do
          let ended ← takeEnd rest.items
          let last ← skipImports ended.items
          return rest.within (ended.within last) := by
  rw [skipImports]
  congr 2
  split
  · next e he =>
    rw [he]
    rfl
  · next rest hrest =>
    dsimp only
    rw [hrest]
    rfl

theorem matches_skipImports (sim : Simulation k loose R Past) {ts us : List Token}
    (h : R ts us ∨ Past ts us) :
    Matches k loose (fun rest rest' => R rest.items rest'.items) (skipImports ts)
      (skipImports us) := by
  rcases h.symm with hpast | h
  · obtain ⟨hloose, hend⟩ := sim.past hpast
    obtain ⟨e, he⟩ := skipImports_of_endOfFile hend
    rw [he]
    exact .loosely hloose e _
  obtain ⟨t, ts, us, rfl, rfl⟩ := sim.first h
  rw [skipImports_cons, skipImports_cons, Token.kind_shift]
  split
  · next hclose => exact .ok (sim.behind h hclose rfl)
  split
  · next hline =>
    exact (matches_skipImports sim (sim.line h hline)).bind fun _ _ hrest => .ok hrest
  refine (sim.matches_skipImport h).bind_of_eq fun rest rest' hfound hrest => ?_
  have hlength := skipImport_length hfound
  rw [sim.kind_eq hrest]
  split
  · exact (matches_skipImports sim (.inl hrest)).bind fun _ _ hlast => .ok hlast
  · refine (sim.matches_takeEnd hrest).bind fun ended ended' hended => ?_
    exact (matches_skipImports sim hended).bind fun _ _ hlast => .ok hlast
  termination_by ts.length
  decreasing_by all_goals grind

theorem matches_skipImportDeclaration (sim : Simulation k loose R Past) (h : R ts us) :
    Matches k loose (fun rest rest' => R rest.items rest'.items ∨ Past rest.items rest'.items)
      (skipImportDeclaration ts) (skipImportDeclaration us) := by
  obtain ⟨t, ts, us, rfl, rfl⟩ := sim.first h
  rw [skipImportDeclaration, skipImportDeclaration, Token.kind_shift]
  split
  · next hopen =>
    refine (sim.matches_skipImports (.inl (sim.behind h hopen rfl))).bind ?_
    intro rest rest' hrest
    exact (sim.matches_takeEnd hrest).bind fun _ _ hlast => .ok hlast
  · refine (sim.matches_skipImport h).bind fun rest rest' hrest => ?_
    exact (sim.matches_takeEnd hrest).bind fun _ _ hlast => .ok hlast

theorem matches_readReceiver (sim : Simulation k loose R Past) (h : R ts us) (start : Nat) :
    Matches k loose (Left R Eq) (readReceiver start ts) (readReceiver (start + k) us) := by
  rw [readReceiver, readReceiver, sim.kind_eq h]
  split
  · refine (sim.matches_readParameters h).bind_left fun fields rest rest' hrest => ?_
    cases fields with
    | nil =>
      dsimp only
      rw [sim.current_eq hrest]
      exact .error _
    | cons field fields => exact .ok ⟨rfl, hrest⟩
  · exact .ok ⟨rfl, h⟩

theorem matches_skipOptional (sim : Simulation k loose R Past) (h : R ts us) (shape : Bracket) :
    Matches k loose (Left R Eq) (skipOptional shape ts) (skipOptional shape us) := by
  obtain ⟨t, ts, us, rfl, rfl⟩ := sim.first h
  rw [skipOptional, skipOptional, Token.kind_shift]
  split
  · next hopen => exact (sim.group h hopen).bind fun _ _ hrest => .ok ⟨rfl, hrest⟩
  · exact .ok ⟨rfl, h⟩

theorem matches_readFunc (sim : Simulation k loose R Past) (h : R ts us) (start : Nat) :
    Matches k loose (Left (fun ts us => R ts us ∨ Past ts us) Eq) (readFunc start ts)
      (readFunc (start + k) us) := by
  rw [readFunc, readFunc]
  refine (sim.matches_readReceiver h start).bind_left ?_
  intro receiver afterReceiver afterReceiver' hafterReceiver
  refine (sim.matches_takeName hafterReceiver).bind_left ?_
  intro name afterName afterName' hafterName
  refine (sim.matches_skipOptional hafterName .square).bind_left ?_
  intro generic afterGeneric afterGeneric' hafterGeneric
  refine (sim.matches_readParameters hafterGeneric).bind_left ?_
  intro params afterParams afterParams' hafterParams
  refine (sim.matches_readResults hafterParams).bind_left ?_
  intro results afterResults afterResults' hafterResults
  refine (sim.matches_skipOptional hafterResults .brace).bind_left ?_
  intro body afterBody afterBody' hafterBody
  exact (sim.matches_takeEnd hafterBody).bind fun _ _ hlast => .ok ⟨rfl, hlast⟩

theorem matches_skipDeclaration (sim : Simulation k loose R Past) {ts us : List Token}
    (h : R ts us) :
    Matches k loose (fun rest rest' => R rest.items rest'.items ∨ Past rest.items rest'.items)
      (skipDeclaration ts) (skipDeclaration us) := by
  obtain ⟨t, ts, us, rfl, rfl⟩ := sim.first h
  rw [skipDeclaration, skipDeclaration]
  cases hkind : t.kind with
  | semicolon =>
    simp only [Token.kind_shift, hkind]
    exact .ok (sim.line h hkind)
  | endOfFile =>
    simp only [Token.kind_shift, hkind]
    exact .ok (.inl h)
  | opening shape =>
    simp only [Token.kind_shift, hkind]
    refine (sim.group h hkind).bind fun rest rest' hrest => ?_
    exact (matches_skipDeclaration sim hrest).bind fun _ _ hlast => .ok hlast
  | closing shape =>
    simp only [Token.kind_shift, hkind]
    exact .error _
  | _ =>
    simp only [Token.kind_shift, hkind]
    exact (matches_skipDeclaration sim (sim.behind h hkind rfl)).bind fun _ _ hlast =>
      .ok hlast
  termination_by ts.length
  decreasing_by all_goals grind

end Simulation

end ReactBridge.Go
