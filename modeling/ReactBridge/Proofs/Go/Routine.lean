import Mathlib.Data.List.Infix
import ReactBridge.Go.Syntax.Type

/-!
# Readers as sequences of moves

A reader moves along the tokens. It sees the kind of the token at which it stands, and of a bracket
group that it skips it sees nothing. Here such a reader is a tree of its moves, so that a statement
about all readers is an induction on that tree.

* `IsGroup`, `behindGroup` : groups, and what is left behind one; a group is what is skipped;
* `Routine` : moves, with `Routine.run` and the groups that are skipped on the way,
  `Routine.skipped`;
* `Routine.run_of_kinds` : only the kinds of tokens count;
* `Routine.exists_of_mem_skipped`, `Routine.run_replace` : what is skipped is a group, and what
  stands in it does not count.
-/

namespace ReactBridge.Go

/-! ## Groups -/

def openers (ts : List Token) : Nat :=
  ts.countP (·.kind.isOpener)

def closers (ts : List Token) : Nat :=
  ts.countP (·.kind.isCloser)

/-- Tokens of the given kinds, without their places. -/
def tokensOf (kinds : List Token.Kind) : List Token :=
  kinds.map fun kind => ⟨kind, 0, 0⟩

/-- A bracket group: it starts with an opening bracket, and its last token is the first one behind
which as many brackets have been closed as opened, all shapes alike. -/
structure IsGroup (group : List Token) : Prop where
  opens : (current group).kind.isOpener = true
  inside : ∀ t ∈ group, t.kind ≠ .endOfFile
  unclosed : ∀ front, front <+: group → front ≠ [] → front ≠ group → closers front < openers front
  closed : closers group = openers group

/-- The rest of a group: it ends with the bracket that closes `depth` further groups and one more. -/
structure Closes (depth : Nat) (inner : List Token) : Prop where
  inside : ∀ t ∈ inner, t.kind ≠ .endOfFile
  unclosed : ∀ front, front <+: inner → front ≠ inner → closers front ≤ openers front + depth
  closed : closers inner = openers inner + depth + 1

@[simp]
theorem openers_nil : openers [] = 0 := rfl

@[simp]
theorem closers_nil : closers [] = 0 := rfl

@[simp, grind =]
theorem openers_cons (t : Token) (ts : List Token) :
    openers (t :: ts) = openers ts + t.kind.isOpener.toNat := by
  rw [openers, List.countP_cons]
  cases t.kind.isOpener <;> rfl

@[simp, grind =]
theorem closers_cons (t : Token) (ts : List Token) :
    closers (t :: ts) = closers ts + t.kind.isCloser.toNat := by
  rw [closers, List.countP_cons]
  cases t.kind.isCloser <;> rfl

theorem isCloser_of_isOpener {kind : Token.Kind} (h : kind.isOpener = true) :
    kind.isCloser = false := by
  cases kind with
  | closing => cases h
  | _ => rfl

theorem isOpener_of_isCloser {kind : Token.Kind} (h : kind.isCloser = true) :
    kind.isOpener = false := by
  cases kind with
  | opening => cases h
  | _ => rfl

theorem IsGroup.ne_nil {group : List Token} (h : IsGroup group) : group ≠ [] := by
  rintro rfl
  cases h.opens

theorem Closes.ne_nil {depth : Nat} {inner : List Token} (h : Closes depth inner) : inner ≠ [] := by
  rintro rfl
  cases h.closed

theorem isGroup_cons_iff {t : Token} {inner : List Token} :
    IsGroup (t :: inner) ↔ t.kind.isOpener = true ∧ Closes 0 inner := by
  have hcounts : t.kind.isOpener = true → ∀ front, closers (t :: front) = closers front ∧
      openers (t :: front) = openers front + 1 := by
    intro hopener front
    rw [closers_cons, openers_cons, hopener, isCloser_of_isOpener hopener]
    exact ⟨rfl, rfl⟩
  constructor
  · rintro ⟨hopener, hinside, hunclosed, hclosed⟩
    rw [(hcounts hopener inner).1, (hcounts hopener inner).2] at hclosed
    refine ⟨hopener, (List.forall_mem_cons.1 hinside).2, fun front hprefix hne => ?_, hclosed⟩
    have hlt := hunclosed (t :: front) ((List.prefix_cons_inj t).2 hprefix) (List.cons_ne_nil _ _)
      fun heq => hne (List.cons.inj heq).2
    rw [(hcounts hopener front).1, (hcounts hopener front).2] at hlt
    exact Nat.le_of_lt_succ hlt
  · rintro ⟨hopener, hinside, hunclosed, hclosed⟩
    have hkind : t.kind ≠ .endOfFile := by
      intro hkind
      rw [hkind] at hopener
      cases hopener
    refine ⟨hopener, List.forall_mem_cons.2 ⟨hkind, hinside⟩, fun front hprefix hnil hne => ?_, ?_⟩
    · rcases List.prefix_cons_iff.1 hprefix with rfl | ⟨front, rfl, hrest⟩
      · exact absurd rfl hnil
      · rw [(hcounts hopener front).1, (hcounts hopener front).2]
        exact Nat.lt_succ_of_le (hunclosed front hrest fun heq => hne (heq ▸ rfl))
    · rw [(hcounts hopener inner).1, (hcounts hopener inner).2, hclosed]

/-- What a token makes of the number of groups that are open inside the one that is skipped: the
group ends at it (`some none`), or goes on, unless the tokens end there. -/
def Token.Kind.levelBehind (depth : Nat) : Token.Kind → Option (Option Nat)
  | endOfFile => none
  | opening _ => some (some (depth + 1))
  | closing _ => some (if depth = 0 then none else some (depth - 1))
  | _ => some (some depth)

theorem levelBehind_eq_none_iff {depth : Nat} {kind : Token.Kind} :
    kind.levelBehind depth = some none ↔ kind.isCloser = true ∧ depth = 0 := by
  cases kind with
  | closing shape => simp [Token.Kind.levelBehind, Token.Kind.isCloser]
  | _ => simp [Token.Kind.levelBehind, Token.Kind.isCloser]

theorem levelBehind_eq_some_iff {depth depth' : Nat} {kind : Token.Kind} :
    kind.levelBehind depth = some (some depth') ↔
      kind ≠ .endOfFile ∧ depth' + kind.isCloser.toNat = depth + kind.isOpener.toNat := by
  cases kind with
  | closing shape =>
    simp [Token.Kind.levelBehind, Token.Kind.isCloser, Token.Kind.isOpener]
    omega
  | _ =>
    simp [Token.Kind.levelBehind, Token.Kind.isCloser, Token.Kind.isOpener, eq_comm]

theorem closes_singleton_iff {depth : Nat} {t : Token} :
    Closes depth [t] ↔ t.kind.levelBehind depth = some none := by
  rw [levelBehind_eq_none_iff]
  constructor
  · rintro ⟨-, -, hclosed⟩
    rw [closers_cons, openers_cons] at hclosed
    have hcloser : t.kind.isCloser.toNat ≤ 1 := Bool.toNat_le _
    simp only [openers_nil, closers_nil] at hclosed
    exact ⟨Bool.toNat_eq_one.1 (by omega), by omega⟩
  · rintro ⟨hcloser, rfl⟩
    have hkind : t.kind ≠ .endOfFile := by
      intro hkind
      rw [hkind] at hcloser
      cases hcloser
    refine ⟨List.forall_mem_singleton.2 hkind, fun front hprefix hne => ?_, ?_⟩
    · rcases List.prefix_cons_iff.1 hprefix with rfl | ⟨front, rfl, hrest⟩
      · exact Nat.le_refl 0
      · rw [List.prefix_nil.1 hrest] at hne
        exact absurd rfl hne
    · rw [closers_cons, openers_cons, hcloser, isOpener_of_isCloser hcloser]
      rfl

theorem closes_cons_iff {depth : Nat} {t : Token} {inner : List Token} (h : inner ≠ []) :
    Closes depth (t :: inner) ↔
      ∃ depth', t.kind.levelBehind depth = some (some depth') ∧ Closes depth' inner := by
  constructor
  · rintro ⟨hinside, hunclosed, hclosed⟩
    rw [List.forall_mem_cons] at hinside
    rw [closers_cons, openers_cons] at hclosed
    have hfront : ∀ front, front <+: inner → front ≠ inner →
        closers front + t.kind.isCloser.toNat ≤ openers front + t.kind.isOpener.toNat + depth := by
      intro front hprefix hne
      have hle := hunclosed (t :: front) ((List.prefix_cons_inj t).2 hprefix)
        fun heq => hne (List.cons.inj heq).2
      rwa [closers_cons, openers_cons] at hle
    have hhere : t.kind.isCloser.toNat ≤ depth + t.kind.isOpener.toNat := by
      have hle := hfront [] List.nil_prefix h.symm
      simp only [openers_nil, closers_nil] at hle
      omega
    refine ⟨depth + t.kind.isOpener.toNat - t.kind.isCloser.toNat,
      levelBehind_eq_some_iff.2 ⟨hinside.1, by omega⟩, hinside.2, fun front hprefix hne => ?_,
        by omega⟩
    have hle := hfront front hprefix hne
    omega
  · rintro ⟨depth', hlevel, hinside, hunclosed, hclosed⟩
    obtain ⟨hkind, hdepth⟩ := levelBehind_eq_some_iff.1 hlevel
    refine ⟨List.forall_mem_cons.2 ⟨hkind, hinside⟩, fun front hprefix hne => ?_, ?_⟩
    · rcases List.prefix_cons_iff.1 hprefix with rfl | ⟨front, rfl, hrest⟩
      · exact Nat.zero_le _
      · have hle := hunclosed front hrest fun heq => hne (heq ▸ rfl)
        rw [closers_cons, openers_cons]
        omega
    · rw [closers_cons, openers_cons]
      omega

/-- What follows the closing bracket of the group that the tokens are inside of. -/
def behindBrackets (depth : Nat) (ts : List Token) : Option (List Token) :=
  (afterGroup depth ts).map Rest.items

theorem behindBrackets_cons (depth : Nat) (t : Token) (ts : List Token) :
    behindBrackets depth (t :: ts) =
      (t.kind.levelBehind depth).bind fun level => level.elim (some ts) (behindBrackets · ts) := by
  have hbehind : ∀ depth, ((afterGroup depth ts).map (Rest.behind t)).map Rest.items =
      behindBrackets depth ts := by
    intro depth
    rw [behindBrackets, Option.map_map]
    rfl
  rw [behindBrackets, afterGroup.eq_def]
  cases hkind : t.kind with
  | endOfFile =>
    simp only [hkind]
    rfl
  | closing shape =>
    cases depth with
    | zero =>
      simp only [hkind]
      rfl
    | succ depth =>
      simp only [hkind]
      exact hbehind depth
  | _ =>
    simp only [hkind]
    exact hbehind _

/-- Brackets are counted up to the one that closes the group. -/
theorem behindBrackets_eq_some_iff {depth : Nat} {ts rest : List Token} :
    behindBrackets depth ts = some rest ↔ ∃ inner, ts = inner ++ rest ∧ Closes depth inner := by
  induction ts generalizing depth with
  | nil =>
    refine ⟨nofun, fun ⟨inner, heq, hinner⟩ => ?_⟩
    exact absurd (List.append_eq_nil_iff.1 heq.symm).1 hinner.ne_nil
  | cons t ts ih =>
    rw [behindBrackets_cons, Option.bind_eq_some_iff]
    constructor
    · rintro ⟨level, hlevel, hrest⟩
      cases level with
      | none =>
        obtain rfl := Option.some.inj hrest
        exact ⟨[t], rfl, closes_singleton_iff.2 hlevel⟩
      | some depth' =>
        obtain ⟨inner, rfl, hinner⟩ := ih.1 hrest
        exact ⟨t :: inner, rfl, (closes_cons_iff hinner.ne_nil).2 ⟨depth', hlevel, hinner⟩⟩
    · rintro ⟨inner, heq, hinner⟩
      obtain ⟨u, inner, rfl⟩ := List.exists_cons_of_ne_nil hinner.ne_nil
      obtain ⟨rfl, rfl⟩ := List.cons.inj heq
      rcases eq_or_ne inner [] with rfl | hne
      · exact ⟨none, closes_singleton_iff.1 hinner, rfl⟩
      · obtain ⟨depth', hlevel, hclosed⟩ := (closes_cons_iff hne).1 hinner
        exact ⟨some depth', hlevel, ih.2 ⟨inner, rfl, hclosed⟩⟩

/-- What follows the group that starts at the first token. -/
def behindGroup : List Token → Option (List Token)
  | t :: ts => if t.kind.isOpener then behindBrackets 0 ts else none
  | [] => none

/-- **A group is what is skipped.** -/
theorem behindGroup_eq_some_iff {ts rest : List Token} :
    behindGroup ts = some rest ↔ ∃ group, ts = group ++ rest ∧ IsGroup group := by
  cases ts with
  | nil =>
    refine ⟨nofun, fun ⟨group, heq, hgroup⟩ => ?_⟩
    exact absurd (List.append_eq_nil_iff.1 heq.symm).1 hgroup.ne_nil
  | cons t ts =>
    rw [behindGroup]
    constructor
    · intro h
      split at h
      · next hopener =>
        obtain ⟨inner, rfl, hinner⟩ := behindBrackets_eq_some_iff.1 h
        exact ⟨t :: inner, rfl, isGroup_cons_iff.2 ⟨hopener, hinner⟩⟩
      · cases h
    · rintro ⟨group, heq, hgroup⟩
      obtain ⟨u, inner, rfl⟩ := List.exists_cons_of_ne_nil hgroup.ne_nil
      obtain ⟨rfl, rfl⟩ := List.cons.inj heq
      obtain ⟨hopener, hinner⟩ := isGroup_cons_iff.1 hgroup
      rw [if_pos hopener]
      exact behindBrackets_eq_some_iff.2 ⟨inner, rfl, hinner⟩

theorem isGroup_iff {group : List Token} : IsGroup group ↔ behindGroup group = some [] := by
  rw [behindGroup_eq_some_iff]
  constructor
  · exact fun h => ⟨group, (List.append_nil group).symm, h⟩
  · rintro ⟨first, rfl, h⟩
    rwa [List.append_nil]

instance (group : List Token) : Decidable (IsGroup group) :=
  decidable_of_iff _ isGroup_iff.symm

theorem exists_behindBrackets_of_kinds {ts us rest : List Token} {depth : Nat}
    (hkinds : us.map Token.kind = ts.map Token.kind) (h : behindBrackets depth ts = some rest) :
    ∃ rest', behindBrackets depth us = some rest' ∧ rest'.map Token.kind = rest.map Token.kind := by
  induction ts generalizing us depth with
  | nil => cases h
  | cons t ts ih =>
    obtain ⟨u, us, rfl, hu, hus⟩ := List.map_eq_cons_iff.1 hkinds
    rw [behindBrackets_cons] at h ⊢
    rw [hu]
    obtain ⟨level, hlevel, hrest⟩ := Option.bind_eq_some_iff.1 h
    rw [hlevel]
    cases level with
    | none =>
      obtain rfl := Option.some.inj hrest
      exact ⟨us, rfl, hus⟩
    | some depth' => exact ih hus hrest

theorem exists_behindGroup_of_kinds {ts us rest : List Token}
    (hkinds : us.map Token.kind = ts.map Token.kind) (h : behindGroup ts = some rest) :
    ∃ rest', behindGroup us = some rest' ∧ rest'.map Token.kind = rest.map Token.kind := by
  cases ts with
  | nil => cases h
  | cons t ts =>
    obtain ⟨u, us, rfl, hu, hus⟩ := List.map_eq_cons_iff.1 hkinds
    rw [behindGroup] at h ⊢
    rw [hu]
    split at h
    · next hopener =>
      rw [if_pos hopener]
      exact exists_behindBrackets_of_kinds hus h
    · cases h

/-- The second token of a group with more than two does not close it. -/
theorem IsGroup.second_ne_closing {t u : Token} {inner : List Token} (h : IsGroup (t :: u :: inner))
    (hinner : inner ≠ []) (shape : Bracket) : u.kind ≠ .closing shape := by
  intro hkind
  obtain ⟨hopener, hcloses⟩ := isGroup_cons_iff.1 h
  obtain ⟨depth', hlevel, -⟩ := (closes_cons_iff hinner).1 hcloses
  rw [hkind] at hlevel
  cases hlevel

/-! ## Routines -/

inductive Site where
  | typeParameters
  | body
  | arrayLength
  /-- The members of a struct or an interface. -/
  | members
  /-- Inside a type, variable or constant declaration. -/
  | declaration
deriving DecidableEq, Repr

/-- What a reader does, as far as it has not done it yet. -/
inductive Routine (α : Type) where
  /-- It gives a value back. -/
  | done (value : α)
  /-- It gives up. -/
  | fail
  /-- It looks at the kind of the token at which it stands. -/
  | look (next : Token.Kind → Routine α)
  /-- It moves behind that token. -/
  | move (next : Routine α)
  /-- It skips the group that starts at that token. -/
  | skip (site : Site) (next : Routine α)
  /-- It stands at the bracket of a slice or an array, moves behind the brackets of a slice, and
  skips the length of an array. -/
  | measure (slice array : Routine α)

namespace Routine

variable {α β : Type}

def run : Routine α → List Token → Option (α × List Token)
  | done value, ts => some (value, ts)
  | fail, _ => none
  | look next, ts => (next (current ts).kind).run ts
  | move next, _ :: ts => next.run ts
  | move _, [] => none
  | skip _ next, ts => (behindGroup ts).bind fun rest => next.run rest
  | measure slice array, t :: u :: ts =>
    if u.kind = .closing .square then slice.run ts
    else (behindGroup (t :: u :: ts)).bind fun rest => array.run rest
  | measure _ _, _ => none

/-- The groups that the routine skips, each with what it is skipped for and the tokens from its
first one on. -/
def skipped : Routine α → List Token → List (Site × List Token)
  | look next, ts => (next (current ts).kind).skipped ts
  | move next, _ :: ts => next.skipped ts
  | skip site next, ts => (site, ts) :: (behindGroup ts).elim [] fun rest => next.skipped rest
  | measure slice array, t :: u :: ts =>
    if u.kind = .closing .square then slice.skipped ts
    else (.arrayLength, t :: u :: ts) ::
      (behindGroup (t :: u :: ts)).elim [] fun rest => array.skipped rest
  | _, _ => []

def bind : Routine α → (α → Routine β) → Routine β
  | done value, f => f value
  | fail, _ => fail
  | look next, f => look fun kind => (next kind).bind f
  | move next, f => move (next.bind f)
  | skip site next, f => skip site (next.bind f)
  | measure slice array, f => measure (slice.bind f) (array.bind f)

def map (f : α → β) (routine : Routine α) : Routine β :=
  routine.bind fun value => done (f value)

theorem run_bind (routine : Routine α) (f : α → Routine β) (ts : List Token) :
    (routine.bind f).run ts = (routine.run ts).bind fun (value, rest) => (f value).run rest := by
  induction routine generalizing ts with
  | done value => rfl
  | fail => rfl
  | look next ih => exact ih _ ts
  | move next ih =>
    cases ts with
    | nil => rfl
    | cons t ts => exact ih ts
  | skip site next ih =>
    rw [bind, run, run, Option.bind_assoc]
    exact congrArg _ (funext ih)
  | measure slice array ihSlice ihArray =>
    match ts with
    | [] | [_] => rfl
    | t :: u :: ts =>
      rw [bind, run, run]
      split
      · exact ihSlice ts
      · rw [Option.bind_assoc]
        exact congrArg _ (funext ihArray)

/-- Behind a group, the kinds of the tokens are the same again. -/
theorem run_behindGroup_of_kinds {next : Routine α} {ts us rest : List Token} {value : α}
    (ih : ∀ {ts us : List Token}, us.map Token.kind = ts.map Token.kind →
      next.run ts = some (value, rest) → ∃ rest', next.run us = some (value, rest'))
    (hkinds : us.map Token.kind = ts.map Token.kind)
    (hrun : ((behindGroup ts).bind fun back => next.run back) = some (value, rest)) :
    ∃ rest', ((behindGroup us).bind fun back => next.run back) = some (value, rest') := by
  obtain ⟨back, hback, hnext⟩ := Option.bind_eq_some_iff.1 hrun
  obtain ⟨back', hback', hkinds'⟩ := exists_behindGroup_of_kinds hkinds hback
  rw [hback']
  exact ih hkinds' hnext

/-- **Only the kinds of the tokens count.** -/
theorem run_of_kinds {routine : Routine α} {ts us rest : List Token} {value : α}
    (hkinds : us.map Token.kind = ts.map Token.kind) (hrun : routine.run ts = some (value, rest)) :
    ∃ rest', routine.run us = some (value, rest') := by
  induction routine generalizing ts us with
  | done result =>
    obtain ⟨rfl, rfl⟩ := Prod.mk.inj (Option.some.inj hrun)
    exact ⟨us, rfl⟩
  | fail => cases hrun
  | look next ih =>
    have hcurrent : (current us).kind = (current ts).kind := by
      cases ts with
      | nil => rw [List.map_eq_nil_iff.1 hkinds]
      | cons t ts =>
        obtain ⟨u, us, rfl, hu, -⟩ := List.map_eq_cons_iff.1 hkinds
        exact hu
    rw [run, ← hcurrent] at hrun
    exact ih _ hkinds hrun
  | move next ih =>
    cases ts with
    | nil => cases hrun
    | cons t ts =>
      obtain ⟨u, us, rfl, -, hus⟩ := List.map_eq_cons_iff.1 hkinds
      exact ih hus hrun
  | skip site next ih => exact run_behindGroup_of_kinds ih hkinds hrun
  | measure slice array ihSlice ihArray =>
    match ts with
    | [] | [_] => cases hrun
    | t :: v :: ts =>
      obtain ⟨u, _, rfl, -, hus⟩ := List.map_eq_cons_iff.1 hkinds
      obtain ⟨w, us, rfl, hw, hus'⟩ := List.map_eq_cons_iff.1 hus
      rw [run] at hrun ⊢
      rw [hw]
      split at hrun
      · next hclosing =>
        rw [if_pos hclosing]
        exact ihSlice hus' hrun
      · next hclosing =>
        rw [if_neg hclosing]
        exact run_behindGroup_of_kinds ihArray hkinds hrun

/-! ## Skipped groups -/

section Skipping

variable {routine next : Routine α} {front group group' back ts start rest : List Token} {value : α}
  {site : Site}

theorem exists_of_mem_skipped_behindGroup
    (ih : ∀ {ts : List Token}, next.run ts = some (value, rest) → (site, start) ∈ next.skipped ts →
      start <:+ ts ∧ ∃ group back, start = group ++ back ∧ IsGroup group) {site' : Site}
    (hrun : ((behindGroup ts).bind fun back => next.run back) = some (value, rest))
    (h : (site, start) ∈
      (site', ts) :: (behindGroup ts).elim [] fun back => next.skipped back) :
    start <:+ ts ∧ ∃ group back, start = group ++ back ∧ IsGroup group := by
  obtain ⟨back, hback, hnext⟩ := Option.bind_eq_some_iff.1 hrun
  obtain ⟨first, rfl, hfirst⟩ := behindGroup_eq_some_iff.1 hback
  rw [hback] at h
  rcases List.mem_cons.1 h with heq | hmem
  · obtain ⟨-, rfl⟩ := Prod.mk.inj heq
    exact ⟨List.suffix_rfl, first, back, rfl, hfirst⟩
  · obtain ⟨hsuffix, hgroup⟩ := ih hnext hmem
    exact ⟨hsuffix.trans (List.suffix_append _ _), hgroup⟩

/-- **What is skipped is a group** among the tokens. -/
theorem exists_of_mem_skipped (hrun : routine.run ts = some (value, rest))
    (h : (site, start) ∈ routine.skipped ts) :
    start <:+ ts ∧ ∃ group back, start = group ++ back ∧ IsGroup group := by
  induction routine generalizing ts with
  | done => cases h
  | fail => cases h
  | look next ih => exact ih _ hrun h
  | move next ih =>
    cases ts with
    | nil => cases hrun
    | cons t ts =>
      obtain ⟨hsuffix, hgroup⟩ := ih hrun h
      exact ⟨hsuffix.trans (List.suffix_cons t ts), hgroup⟩
  | skip site' next ih => exact exists_of_mem_skipped_behindGroup ih hrun h
  | measure slice array ihSlice ihArray =>
    match ts with
    | [] | [_] => cases hrun
    | t :: u :: ts =>
      rw [run] at hrun
      rw [skipped] at h
      split at hrun
      · next hclosing =>
        rw [if_pos hclosing] at h
        obtain ⟨hsuffix, hgroup⟩ := ihSlice hrun h
        exact ⟨hsuffix.trans ((List.suffix_cons u ts).trans (List.suffix_cons t _)), hgroup⟩
      · next hclosing =>
        rw [if_neg hclosing] at h
        exact exists_of_mem_skipped_behindGroup ihArray hrun h

/-- A group that starts at a token is not skipped behind that token. -/
theorem not_mem_skipped_behind (hrun : routine.run ts = some (value, rest)) {first : List Token}
    (hfirst : first ≠ []) : (site, first ++ ts) ∉ routine.skipped ts := by
  intro h
  have hle := (exists_of_mem_skipped hrun h).1.length_le
  rw [List.length_append] at hle
  exact hfirst (List.length_eq_zero_iff.1 (by omega))

/-- One group is replaced: here, or behind the group that is skipped here. -/
theorem run_behindGroup_replace (hgroup : IsGroup group) (hgroup' : IsGroup group')
    (ih : ∀ {front : List Token}, next.run (front ++ (group ++ back)) = some (value, rest) →
      (site, group ++ back) ∈ next.skipped (front ++ (group ++ back)) →
        next.run (front ++ (group' ++ back)) = some (value, rest)) {site' : Site}
    (hrun : ((behindGroup (front ++ (group ++ back))).bind fun rest => next.run rest) =
      some (value, rest))
    (h : (site, group ++ back) ∈ (site', front ++ (group ++ back)) ::
      (behindGroup (front ++ (group ++ back))).elim [] fun rest => next.skipped rest) :
    ((behindGroup (front ++ (group' ++ back))).bind fun rest => next.run rest) =
      some (value, rest) := by
  have hskipped : ∀ {first : List Token}, IsGroup first → ∀ more,
      behindGroup (first ++ more) = some more :=
    fun hfirst more => behindGroup_eq_some_iff.2 ⟨_, rfl, hfirst⟩
  cases front with
  | nil =>
    rw [List.nil_append, hskipped hgroup] at hrun
    rw [List.nil_append, hskipped hgroup']
    exact hrun
  | cons u front =>
    obtain ⟨last, hlast, hnext⟩ := Option.bind_eq_some_iff.1 hrun
    rw [hlast] at h
    rcases List.mem_cons.1 h with heq | hmem
    · have hlength : (group ++ back).length = (front ++ (group ++ back)).length + 1 :=
        congrArg List.length (Prod.mk.inj heq).2
      have hle := (List.suffix_append front (group ++ back)).length_le
      omega
    · obtain ⟨first, heq, hfirst⟩ := behindGroup_eq_some_iff.1 hlast
      obtain ⟨ahead, rfl⟩ := (exists_of_mem_skipped hnext hmem).1
      have hcancel : u :: front ++ (group ++ back) = first ++ ahead ++ (group ++ back) := by
        rw [List.append_assoc]
        exact heq
      rw [List.append_cancel_right hcancel, List.append_assoc, hskipped hfirst]
      exact ih hnext hmem

/-- Whether a bracket is taken for that of a slice does not depend on the group that is replaced, if
that is no array length or holds something. -/
theorem measure_replace {slice array : Routine α} (hgroup : IsGroup group) (hgroup' : IsGroup group')
    (hopen : (current group').kind = (current group).kind)
    (hlength : site = .arrayLength → 2 < group'.length)
    (hrun : (measure slice array).run (front ++ (group ++ back)) = some (value, rest))
    (h : (site, group ++ back) ∈ (measure slice array).skipped (front ++ (group ++ back))) :
    (∃ t u front', front = t :: u :: front' ∧ u.kind = .closing .square) ∨
      ∃ t u ts t' u' ts', front ++ (group ++ back) = t :: u :: ts ∧ u.kind ≠ .closing .square ∧
        front ++ (group' ++ back) = t' :: u' :: ts' ∧ u'.kind ≠ .closing .square := by
  obtain ⟨t, inner, rfl⟩ := List.exists_cons_of_ne_nil hgroup.ne_nil
  obtain ⟨t', inner', rfl⟩ := List.exists_cons_of_ne_nil hgroup'.ne_nil
  have hkind : t'.kind = t.kind := hopen
  match front with
  | [] =>
    refine .inr ?_
    obtain ⟨u, ts, hts⟩ : ∃ u ts, inner ++ back = u :: ts := by
      refine List.exists_cons_of_ne_nil fun hnil => ?_
      rw [List.nil_append, List.cons_append, hnil] at hrun
      cases hrun
    rw [List.nil_append, List.cons_append, hts, run] at hrun
    rw [List.nil_append, List.cons_append, hts, skipped] at h
    split at hrun
    · next hclosing =>
      rw [if_pos hclosing] at h
      exact absurd h (not_mem_skipped_behind hrun (List.cons_ne_nil t [u]))
    · next hkept =>
      rw [if_neg hkept] at h
      obtain ⟨behind, hbehind, hnext⟩ := Option.bind_eq_some_iff.1 hrun
      rw [hbehind] at h
      have hsite : site = .arrayLength := by
        rcases List.mem_cons.1 h with heq | hmem
        · exact (Prod.mk.inj heq).1
        · obtain ⟨first, heq, hfirst⟩ := behindGroup_eq_some_iff.1 hbehind
          rw [heq] at hmem
          exact absurd hmem (not_mem_skipped_behind hnext hfirst.ne_nil)
      match inner', hlength hsite with
      | u' :: v' :: inner', _ =>
        exact ⟨t, u, ts, t', u', v' :: inner' ++ back, by rw [List.nil_append, List.cons_append, hts],
          hkept, rfl, hgroup'.second_ne_closing (List.cons_ne_nil _ _) .square⟩
  | [x] =>
    refine .inr ⟨x, t, inner ++ back, x, t', inner' ++ back, rfl, fun hclosing => ?_, rfl,
      fun hclosing => ?_⟩
    · have hopener := hgroup.opens
      rw [current, List.headD_cons, hclosing] at hopener
      cases hopener
    · have hopener := hgroup'.opens
      rw [current, List.headD_cons, hclosing] at hopener
      cases hopener
  | x :: y :: front =>
    rcases eq_or_ne y.kind (.closing .square) with hclosing | hkept
    · exact .inl ⟨x, y, front, rfl, hclosing⟩
    · exact .inr ⟨x, y, _, x, y, _, rfl, hkept, rfl, hkept⟩

/-- **What stands in a skipped group does not count.** The routine goes on behind the group that
stands in its place. -/
theorem run_replace (hgroup : IsGroup group) (hgroup' : IsGroup group')
    (hopen : (current group').kind = (current group).kind)
    (hlength : site = .arrayLength → 2 < group'.length)
    (hrun : routine.run (front ++ (group ++ back)) = some (value, rest))
    (h : (site, group ++ back) ∈ routine.skipped (front ++ (group ++ back))) :
    routine.run (front ++ (group' ++ back)) = some (value, rest) := by
  induction routine generalizing front with
  | done => cases h
  | fail => cases h
  | look next ih =>
    have hcurrent : (current (front ++ (group' ++ back))).kind =
        (current (front ++ (group ++ back))).kind := by
      cases front with
      | nil =>
        obtain ⟨t, inner, rfl⟩ := List.exists_cons_of_ne_nil hgroup.ne_nil
        obtain ⟨t', inner', rfl⟩ := List.exists_cons_of_ne_nil hgroup'.ne_nil
        exact hopen
      | cons t front => rfl
    rw [run, hcurrent]
    exact ih _ hrun h
  | move next ih =>
    cases front with
    | nil =>
      obtain ⟨t, inner, rfl⟩ := List.exists_cons_of_ne_nil hgroup.ne_nil
      have hnext : next.run (inner ++ back) = some (value, rest) := hrun
      exact absurd h (not_mem_skipped_behind hnext (List.cons_ne_nil t []))
    | cons t front => exact ih hrun h
  | skip site' next ih => exact run_behindGroup_replace hgroup hgroup' ih hrun h
  | measure slice array ihSlice ihArray =>
    rcases measure_replace hgroup hgroup' hopen hlength hrun h with
      ⟨t, u, front, rfl, hclosing⟩ | ⟨t, u, ts, t', u', ts', hts, hkept, hts', hkept'⟩
    · rw [List.cons_append, List.cons_append, run, if_pos hclosing] at hrun ⊢
      rw [List.cons_append, List.cons_append, skipped, if_pos hclosing] at h
      exact ihSlice hrun h
    · rw [hts, run, if_neg hkept, ← hts] at hrun
      rw [hts, skipped, if_neg hkept, ← hts] at h
      rw [hts', run, if_neg hkept', ← hts']
      exact run_behindGroup_replace hgroup hgroup' ihArray hrun h

end Skipping

end Routine

end ReactBridge.Go
