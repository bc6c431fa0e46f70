import ReactBridge.Proofs.Go.Parts
import ReactBridge.Proofs.Go.Routine

/-!
# Groups and partners

A group is skipped by a count of its brackets, and the count does not ask for their shapes. Where the
brackets are nested by their shapes, it stops at the partner of the bracket that opens the group.

* `Balanced`, `IsGroup.length_le`, `exists_skipGroup_of_balanced` : a group is the shortest start of
  the tokens in which as many brackets close as open, and there is a group if there is such a start;
* `Nested`, `openBehind` : nesting by shapes, as a grammar and by a stack of the shapes that are open;
* `nested_iff_openBehind` : these are the same;
* `IsGroup.nested` : a group in a nested sequence is nested;
* `skipGroup_partner` : where a group ends.
-/

namespace ReactBridge.Go

/-! ## Counting -/

/-- A start of a sequence in which as many brackets close as open, all shapes alike. -/
structure Balanced (front : List Token) : Prop where
  ne_nil : front ≠ []
  closed : closers front = openers front

theorem IsGroup.balanced {group : List Token} (h : IsGroup group) : Balanced group :=
  ⟨h.ne_nil, h.closed⟩

/-- No shorter start of a group is balanced. -/
theorem IsGroup.length_le {group front ts rest : List Token} (h : IsGroup group)
    (hts : ts = group ++ rest) (hfront : front <+: ts) (hbalanced : Balanced front) :
    group.length ≤ front.length := by
  by_contra hlt
  have hprefix : front <+: group := by
    refine List.prefix_of_prefix_length_le hfront ?_ (Nat.le_of_not_le hlt)
    exact hts ▸ List.prefix_append group rest
  have hne : front ≠ group := by
    rintro rfl
    exact hlt le_rfl
  have hunclosed := h.unclosed front hprefix hbalanced.ne_nil hne
  have hclosed := hbalanced.closed
  omega

theorem levelBehind_eq_none {depth : Nat} {kind : Token.Kind} (h : kind.levelBehind depth = none) :
    kind = .endOfFile := by
  cases kind with
  | endOfFile => rfl
  | _ => cases h

/-- Where the brackets that are open do not all close, no start closes more than all of them but one. -/
theorem closers_le_of_behindBrackets_eq_none {ts front : List Token} {depth : Nat}
    (hsingle : ∀ t ∈ ts.dropLast, t.kind ≠ .endOfFile) (hnone : behindBrackets depth ts = none)
    (hfront : front <+: ts) : closers front ≤ openers front + depth := by
  induction ts generalizing depth front with
  | nil =>
    rw [List.prefix_nil.1 hfront]
    exact Nat.zero_le _
  | cons t ts ih =>
    rcases List.prefix_cons_iff.1 hfront with rfl | ⟨front, rfl, hrest⟩
    · exact Nat.zero_le _
    rw [behindBrackets_cons] at hnone
    cases hlevel : t.kind.levelBehind depth with
    | none =>
      -- The file ends here, so nothing follows.
      have hkind := levelBehind_eq_none hlevel
      have hts : ts = [] := by
        by_contra hts
        refine hsingle t ?_ hkind
        rw [List.dropLast_cons_of_ne_nil hts]
        exact List.mem_cons_self
      subst hts
      rw [List.prefix_nil.1 hrest, closers_cons, openers_cons, hkind]
      exact Nat.zero_le _
    | some level =>
      rw [hlevel] at hnone
      cases level with
      | none => cases hnone
      | some depth' =>
        have hdepth := (levelBehind_eq_some_iff.1 hlevel).2
        have hle := ih (fun u hu => ?_) hnone hrest
        · rw [closers_cons, openers_cons]
          omega
        · refine hsingle u ?_
          rw [List.dropLast_cons_of_ne_nil (List.ne_nil_of_mem (List.mem_of_mem_dropLast hu))]
          exact List.mem_cons_of_mem t hu

section Skipping

variable {t : Token} {ts back : List Token} {shape : Bracket}

theorem skipGroup_eq_ok_iff (hopen : t.kind = .opening shape) {rest : Rest ts} :
    skipGroup t ts = .ok rest ↔ behindGroup (t :: ts) = some rest.items := by
  have hopener : t.kind.isOpener = true := congrArg Token.Kind.isOpener hopen
  rw [skipGroup, behindGroup, if_pos hopener, behindBrackets]
  cases afterGroup 0 ts with
  | none => simp
  | some found =>
    rw [Option.map_some, Option.some_inj]
    exact ⟨fun h => Except.ok.inj h ▸ rfl, fun h => congrArg Except.ok (Rest.ext h)⟩

/-- A group is skipped up to what follows it. -/
theorem exists_skipGroup_iff (hopen : t.kind = .opening shape) :
    (∃ rest, skipGroup t ts = .ok rest ∧ rest.items = back) ↔
      ∃ group, t :: ts = group ++ back ∧ IsGroup group := by
  rw [← behindGroup_eq_some_iff]
  constructor
  · rintro ⟨rest, hrest, rfl⟩
    exact (skipGroup_eq_ok_iff hopen).1 hrest
  · intro h
    obtain ⟨group, heq, hgroup⟩ := behindGroup_eq_some_iff.1 h
    have hsuffix : back <:+ ts := by
      obtain ⟨u, inner, rfl⟩ := List.exists_cons_of_ne_nil hgroup.ne_nil
      exact ⟨inner, (List.cons.inj heq).2.symm⟩
    exact ⟨⟨back, hsuffix⟩, (skipGroup_eq_ok_iff hopen).2 h, rfl⟩

/-- A group that has no end is the error of its first token. -/
theorem skipGroup_eq_error (h : ¬∃ rest, skipGroup t ts = .ok rest) :
    skipGroup t ts = .error ⟨.unclosed t.kind, t.span⟩ := by
  rw [skipGroup] at h ⊢
  cases hafter : afterGroup 0 ts with
  | none => rfl
  | some rest =>
    rw [hafter] at h
    exact absurd ⟨rest, rfl⟩ h

/-- Behind an opening bracket, a balanced start is a group with more tokens behind it. -/
theorem exists_skipGroup_of_balanced (hopen : t.kind = .opening shape)
    (hsingle : ∀ u ∈ (t :: ts).dropLast, u.kind ≠ .endOfFile) {front : List Token}
    (hfront : front <+: t :: ts) (hbalanced : Balanced front) :
    ∃ rest, skipGroup t ts = .ok rest := by
  have hopener : t.kind.isOpener = true := congrArg Token.Kind.isOpener hopen
  cases hgroup : behindGroup (t :: ts) with
  | some back =>
    obtain ⟨rest, hrest, -⟩ := (exists_skipGroup_iff hopen).2 (behindGroup_eq_some_iff.1 hgroup)
    exact ⟨rest, hrest⟩
  | none =>
    rw [behindGroup, if_pos hopener] at hgroup
    rcases List.prefix_cons_iff.1 hfront with rfl | ⟨front, rfl, hrest⟩
    · exact absurd rfl hbalanced.ne_nil
    have hle := closers_le_of_behindBrackets_eq_none (fun u hu => ?_) hgroup hrest
    · have hclosed := hbalanced.closed
      rw [closers_cons, openers_cons, hopener, isCloser_of_isOpener hopener] at hclosed
      simp only [Bool.toNat_true, Bool.toNat_false] at hclosed
      omega
    · refine hsingle u ?_
      rw [List.dropLast_cons_of_ne_nil (List.ne_nil_of_mem (List.mem_of_mem_dropLast hu))]
      exact List.mem_cons_of_mem t hu

end Skipping

/-! ## Nesting by shapes -/

/-- Tokens of which each bracket has a partner of its shape. -/
inductive Nested : List Token → Prop
  | nil : Nested []
  | other {t : Token} {ts : List Token} (hopener : t.kind.isOpener = false)
      (hcloser : t.kind.isCloser = false) (hts : Nested ts) : Nested (t :: ts)
  | group {t close : Token} {inner ts : List Token} {shape : Bracket}
      (hopen : t.kind = .opening shape) (hclose : close.kind = .closing shape)
      (hinner : Nested inner) (hts : Nested ts) : Nested (t :: (inner ++ close :: ts))

/-- The brackets that are open behind a token, the last one first. A bracket only closes the last
one, and only one of its shape. -/
def Token.Kind.openBehind : Token.Kind → (stack : List Bracket) → Option (List Bracket)
  | opening shape, stack => some (shape :: stack)
  | closing _, [] => none
  | closing shape, top :: stack => if top = shape then some stack else none
  | _, stack => some stack

def openBehind (stack : List Bracket) : List Token → Option (List Bracket)
  | [] => some stack
  | t :: ts => (t.kind.openBehind stack).bind (openBehind · ts)

section Stack

variable {t : Token} {ts us : List Token} {shape : Bracket} {stack stack' : List Bracket}

theorem kindOpenBehind_other (hopener : t.kind.isOpener = false) (hcloser : t.kind.isCloser = false) :
    t.kind.openBehind stack = some stack := by
  cases hkind : t.kind with
  | opening => rw [hkind] at hopener; cases hopener
  | closing => rw [hkind] at hcloser; cases hcloser
  | _ => rfl

theorem kindOpenBehind_closing :
    (Token.Kind.closing shape).openBehind stack = some stack' ↔ stack = shape :: stack' := by
  cases stack with
  | nil => simp [Token.Kind.openBehind]
  | cons top stack =>
    rw [Token.Kind.openBehind]
    split <;> simp_all

theorem openBehind_append (ts us : List Token) (stack : List Bracket) :
    openBehind stack (ts ++ us) = (openBehind stack ts).bind (openBehind · us) := by
  induction ts generalizing stack with
  | nil => rfl
  | cons t ts ih =>
    rw [List.cons_append, openBehind, openBehind, Option.bind_assoc]
    exact congrArg _ (funext ih)

/-- One token changes the number of open brackets by what it counts for. -/
theorem length_kindOpenBehind {kind : Token.Kind} (h : kind.openBehind stack = some stack') :
    stack'.length + kind.isCloser.toNat = stack.length + kind.isOpener.toNat := by
  cases kind with
  | opening shape =>
    obtain rfl := Option.some.inj h
    rfl
  | closing shape =>
    obtain rfl := kindOpenBehind_closing.1 h
    rfl
  | _ =>
    obtain rfl := Option.some.inj h
    rfl

theorem length_openBehind (h : openBehind stack ts = some stack') :
    stack'.length + closers ts = stack.length + openers ts := by
  induction ts generalizing stack with
  | nil =>
    obtain rfl := Option.some.inj h
    rfl
  | cons t ts ih =>
    obtain ⟨mid, hmid, hrest⟩ := Option.bind_eq_some_iff.1 h
    have hhere := length_kindOpenBehind hmid
    have hmore := ih hrest
    rw [closers_cons, openers_cons]
    omega

/-- Nested tokens leave the brackets that are open as they are. -/
theorem Nested.openBehind (h : Nested ts) (stack : List Bracket) :
    openBehind stack ts = some stack := by
  induction h generalizing stack with
  | nil => rfl
  | other hopener hcloser _ ih =>
    rw [Go.openBehind, kindOpenBehind_other hopener hcloser]
    exact ih stack
  | @group t close inner ts shape hopen hclose _ _ ihInner ih =>
    rw [Go.openBehind, hopen]
    change Go.openBehind (shape :: stack) (inner ++ close :: ts) = some stack
    rw [openBehind_append, ihInner, Option.bind_some, Go.openBehind, hclose,
      kindOpenBehind_closing.2 rfl]
    exact ih stack

/-- The tokens close the open brackets, from the last one on, and are nested between and behind. -/
def Unwinds : (stack : List Bracket) → List Token → Prop
  | [], ts => Nested ts
  | shape :: stack, ts => ∃ inner close back, ts = inner ++ close :: back ∧ Nested inner ∧
      close.kind = .closing shape ∧ Unwinds stack back

theorem Unwinds.other (h : Unwinds stack ts) (hopener : t.kind.isOpener = false)
    (hcloser : t.kind.isCloser = false) : Unwinds stack (t :: ts) := by
  cases stack with
  | nil => exact .other hopener hcloser h
  | cons top stack =>
    obtain ⟨inner, close, back, rfl, hinner, hclose, hback⟩ := h
    exact ⟨t :: inner, close, back, rfl, .other hopener hcloser hinner, hclose, hback⟩

/-- A bracket that opens finds its partner where the tokens behind it close the last bracket. -/
theorem Unwinds.opening (h : Unwinds (shape :: stack) ts) (hopen : t.kind = .opening shape) :
    Unwinds stack (t :: ts) := by
  obtain ⟨inner, close, back, rfl, hinner, hclose, hback⟩ := h
  cases stack with
  | nil => exact .group hopen hclose hinner hback
  | cons top stack =>
    obtain ⟨inner', close', back', rfl, hinner', hclose', hback'⟩ := hback
    refine ⟨t :: (inner ++ close :: inner'), close', back', ?_, ?_, hclose', hback'⟩
    · rw [List.cons_append, List.append_assoc, List.cons_append]
    · exact .group hopen hclose hinner hinner'

/-- The stack tells partners apart, so what leaves it empty closes all of it. -/
theorem unwinds_of_openBehind (h : openBehind stack ts = some []) : Unwinds stack ts := by
  induction ts generalizing stack with
  | nil =>
    obtain rfl := Option.some.inj h
    exact Nested.nil
  | cons t ts ih =>
    obtain ⟨mid, hmid, hrest⟩ := Option.bind_eq_some_iff.1 h
    have hmore := ih hrest
    cases hkind : t.kind with
    | opening shape =>
      rw [hkind] at hmid
      obtain rfl := Option.some.inj hmid
      exact hmore.opening hkind
    | closing shape =>
      obtain rfl := kindOpenBehind_closing.1 (hkind ▸ hmid)
      exact ⟨[], t, ts, rfl, .nil, hkind, hmore⟩
    | _ =>
      rw [hkind] at hmid
      obtain rfl := Option.some.inj hmid
      exact hmore.other (hkind ▸ rfl) (hkind ▸ rfl)

/-- **The grammar and the stack agree.** -/
theorem nested_iff_openBehind : Nested ts ↔ openBehind [] ts = some [] :=
  ⟨fun h => h.openBehind [], unwinds_of_openBehind⟩

instance (ts : List Token) : Decidable (Nested ts) :=
  decidable_of_iff _ nested_iff_openBehind.symm

/-- Nested tokens never close more than they opened. -/
theorem Nested.closers_le (h : Nested ts) {front : List Token} (hfront : front <+: ts) :
    closers front ≤ openers front := by
  obtain ⟨back, rfl⟩ := hfront
  have hopen := h.openBehind []
  rw [openBehind_append] at hopen
  obtain ⟨mid, hmid, -⟩ := Option.bind_eq_some_iff.1 hopen
  have hlength := length_openBehind hmid
  rw [List.length_nil] at hlength
  omega

theorem Nested.closed (h : Nested ts) : closers ts = openers ts := by
  have hlength := length_openBehind (h.openBehind [])
  omega

/-- The brackets below are not seen by tokens that close no more than those above them. -/
theorem openBehind_of_append (tops : List Bracket) {below : List Bracket}
    (hcount : ∀ front, front <+: ts → closers front ≤ openers front + tops.length)
    (h : openBehind (tops ++ below) ts = some stack') :
    ∃ tops', openBehind tops ts = some tops' ∧ stack' = tops' ++ below := by
  induction ts generalizing tops with
  | nil =>
    obtain rfl := Option.some.inj h
    exact ⟨tops, rfl, rfl⟩
  | cons t ts ih =>
    obtain ⟨mid, hmid, hrest⟩ := Option.bind_eq_some_iff.1 h
    obtain ⟨above, habove, rfl⟩ : ∃ above, t.kind.openBehind tops = some above ∧
        mid = above ++ below := by
      cases hkind : t.kind with
      | opening shape =>
        rw [hkind] at hmid
        obtain rfl := Option.some.inj hmid
        exact ⟨shape :: tops, rfl, rfl⟩
      | closing shape =>
        have hone := hcount [t] ((List.prefix_cons_inj t).2 List.nil_prefix)
        rw [closers_cons, openers_cons, hkind] at hone
        have hstack := kindOpenBehind_closing.1 (hkind ▸ hmid)
        cases tops with
        | nil => cases hone
        | cons top tops =>
          obtain ⟨rfl, rfl⟩ := List.cons.inj hstack
          exact ⟨tops, kindOpenBehind_closing.2 rfl, rfl⟩
      | _ =>
        rw [hkind] at hmid
        obtain rfl := Option.some.inj hmid
        exact ⟨tops, rfl, rfl⟩
    have hlength := length_kindOpenBehind habove
    have hcount' : ∀ front, front <+: ts → closers front ≤ openers front + above.length := by
      intro front hfront
      have hle := hcount (t :: front) ((List.prefix_cons_inj t).2 hfront)
      rw [closers_cons, openers_cons] at hle
      omega
    obtain ⟨tops', htops', rfl⟩ := ih above hcount' hrest
    refine ⟨tops', ?_, rfl⟩
    rwa [openBehind, habove]

end Stack

/-! ## Groups of nested tokens -/

section Partners

variable {t close : Token} {tokens before ts group inner back : List Token} {shape : Bracket}

/-- What a group opens and closes is its own. -/
theorem IsGroup.nested (h : IsGroup group) {ahead : List Token}
    (hnested : Nested (ahead ++ (group ++ back))) : Nested group := by
  have hopen := hnested.openBehind []
  rw [openBehind_append] at hopen
  obtain ⟨below, -, hgroup⟩ := Option.bind_eq_some_iff.1 hopen
  rw [openBehind_append] at hgroup
  obtain ⟨stack, hstack, -⟩ := Option.bind_eq_some_iff.1 hgroup
  have hcount : ∀ front, front <+: group → closers front ≤ openers front := by
    intro front hfront
    by_cases hnil : front = []
    · rw [hnil]
      exact Nat.le_refl 0
    by_cases hwhole : front = group
    · exact hwhole ▸ h.closed.le
    · exact (h.unclosed front hfront hnil hwhole).le
  obtain ⟨tops, htops, -⟩ := openBehind_of_append [] hcount hstack
  have hlength := length_openBehind htops
  have hclosed := h.closed
  obtain rfl : tops = [] := List.eq_nil_of_length_eq_zero (by rw [List.length_nil] at hlength; omega)
  exact nested_iff_openBehind.2 htops

/-- A nested group ends with the partner of its first token. -/
theorem IsGroup.exists_partner (h : IsGroup (t :: ts)) (hopen : t.kind = .opening shape)
    (hnested : Nested (t :: ts)) :
    ∃ inner close, ts = inner ++ [close] ∧ close.kind = .closing shape ∧ Nested inner := by
  generalize heq : t :: ts = group at hnested
  cases hnested with
  | nil => cases heq
  | other hopener =>
    obtain ⟨rfl, rfl⟩ := List.cons.inj heq
    rw [hopen] at hopener
    cases hopener
  | @group u close inner back shape' hopen' hclose hinner hback =>
    obtain ⟨rfl, rfl⟩ := List.cons.inj heq
    obtain rfl : shape = shape' := Token.Kind.opening.inj (hopen.symm.trans hopen')
    have hpartner : Nested (t :: (inner ++ [close])) := .group hopen hclose hinner .nil
    have hfront : t :: (inner ++ [close]) <+: t :: (inner ++ close :: back) :=
      ⟨back, by simp⟩
    -- The group is no longer than up to the partner, so nothing is left behind that.
    have hlength := h.length_le (List.append_nil _).symm hfront
      ⟨List.cons_ne_nil _ _, hpartner.closed⟩
    simp only [List.length_cons, List.length_append, List.length_nil] at hlength
    obtain rfl : back = [] := List.eq_nil_of_length_eq_zero (by omega)
    exact ⟨inner, close, rfl, hclose, hinner⟩

/-- A bracket and its partner are a group. -/
theorem isGroup_of_partner (hopen : t.kind = .opening shape) (hclose : close.kind = .closing shape)
    (hinner : Nested inner) (hinside : ∀ u ∈ inner, u.kind ≠ .endOfFile) :
    IsGroup (t :: (inner ++ [close])) := by
  refine isGroup_cons_iff.2 ⟨congrArg Token.Kind.isOpener hopen, ?_, fun front hfront hne => ?_, ?_⟩
  · intro u hu
    rcases List.mem_append.1 hu with hu | hu
    · exact hinside u hu
    · obtain rfl := List.mem_singleton.1 hu
      simp [hclose]
  · exact hinner.closers_le ((List.prefix_concat_iff.1 hfront).resolve_left hne)
  · have hclosed := hinner.closed
    rw [closers, openers, List.countP_append, List.countP_append, ← closers, ← openers, hclosed]
    simp [hclose, Token.Kind.isCloser, Token.Kind.isOpener]

/-- **Where a group ends.** It is skipped exactly if brackets close again somewhere, up to the first
place where as many have closed as opened, and is otherwise the error of its first token. That place
is at the partner of the first token wherever the group is part of a nested sequence, and wherever
that token has a partner at all. -/
theorem skipGroup_partner (hsealed : Sealed tokens) (htokens : tokens = before ++ t :: ts)
    (hopen : t.kind = .opening shape) :
    ((∃ rest, skipGroup t ts = .ok rest) ↔ ∃ front, front <+: t :: ts ∧ Balanced front) ∧
      (∀ rest, skipGroup t ts = .ok rest → ∃ group, t :: ts = group ++ rest.items ∧
        Balanced group ∧
        (∀ front, front <+: t :: ts → Balanced front → group.length ≤ front.length) ∧
        ∀ ahead behind, Nested (ahead ++ (group ++ behind)) → Nested group ∧
          ∃ inner close, group = t :: (inner ++ [close]) ∧ close.kind = .closing shape ∧
            Nested inner) ∧
      (∀ inner close back, ts = inner ++ close :: back → Nested inner →
        close.kind = .closing shape → ∃ rest, skipGroup t ts = .ok rest ∧ rest.items = back) ∧
      ((¬∃ front, front <+: t :: ts ∧ Balanced front) →
        skipGroup t ts = .error ⟨.unclosed t.kind, t.span⟩) := by
  have hsealed' : Sealed (t :: ts) := (htokens ▸ hsealed).of_append (List.cons_ne_nil t ts)
  have hbalanced : (∃ rest, skipGroup t ts = .ok rest) ↔
      ∃ front, front <+: t :: ts ∧ Balanced front := by
    constructor
    · rintro ⟨rest, hrest⟩
      obtain ⟨group, heq, hgroup⟩ := (exists_skipGroup_iff hopen).1 ⟨rest, hrest, rfl⟩
      exact ⟨group, ⟨rest.items, heq.symm⟩, hgroup.balanced⟩
    · rintro ⟨front, hfront, hbalanced⟩
      exact exists_skipGroup_of_balanced hopen hsealed'.single hfront hbalanced
  refine ⟨hbalanced, fun rest hrest => ?_, ?_, fun h => skipGroup_eq_error (h ∘ hbalanced.1)⟩
  · obtain ⟨group, heq, hgroup⟩ := (exists_skipGroup_iff hopen).1 ⟨rest, hrest, rfl⟩
    refine ⟨group, heq, hgroup.balanced, fun front => hgroup.length_le heq, ?_⟩
    intro ahead behind hstretch
    have hnested := hgroup.nested hstretch
    obtain ⟨u, inner, rfl⟩ := List.exists_cons_of_ne_nil hgroup.ne_nil
    obtain ⟨rfl, -⟩ := List.cons.inj heq
    obtain ⟨inner, close, rfl, hclose, hinner⟩ := hgroup.exists_partner hopen hnested
    exact ⟨hnested, inner, close, rfl, hclose, hinner⟩
  · rintro inner close back rfl hinner hclose
    refine (exists_skipGroup_iff hopen).2 ⟨t :: (inner ++ [close]), by simp, ?_⟩
    refine isGroup_of_partner hopen hclose hinner fun u hu => hsealed'.single u ?_
    rw [List.dropLast_cons_of_ne_nil (by simp), List.dropLast_append_of_ne_nil (by simp)]
    exact List.mem_cons_of_mem t (List.mem_append_left _ hu)

def openBrace : Token :=
  ⟨.opening .brace, 0, 0⟩

/-- The tokens of `[()]} {` behind a first brace, of which the last one is never closed. -/
def behindBrace : List Token :=
  tokensOf [.opening .square, .opening .paren, .closing .paren, .closing .square, .closing .brace,
    .opening .brace, .endOfFile]

theorem skipGroup_partner_braces :
    Sealed (tokensOf [.ident "x"] ++ openBrace :: behindBrace) ∧
      ∃ rest inner close, skipGroup openBrace behindBrace = .ok rest ∧
        openBrace :: behindBrace = openBrace :: (inner ++ [close]) ++ rest.items ∧
          close.kind = .closing .brace ∧ Nested inner := by
  have hsealed : Sealed (tokensOf [.ident "x"] ++ openBrace :: behindBrace) :=
    ⟨⟨_, rfl, rfl⟩, by decide⟩
  have hopen : openBrace.kind = .opening .brace := rfl
  obtain ⟨hends, hpartner, -, -⟩ := skipGroup_partner hsealed rfl hopen
  obtain ⟨rest, hrest⟩ :=
    hends.2 ⟨(openBrace :: behindBrace).take 6, by decide, by decide, by decide⟩
  obtain ⟨group, heq, -, -, hnested⟩ := hpartner rest hrest
  -- The braces behind the group are nested once they are closed.
  have hstretch : Nested (openBrace :: behindBrace ++ tokensOf [.closing .brace]) := by decide
  rw [heq, List.append_assoc] at hstretch
  obtain ⟨-, inner, close, rfl, hclose, hinner⟩ := hnested [] _ hstretch
  exact ⟨hsealed, rest, inner, close, hrest, heq, hclose, hinner⟩

/-- The shapes are not compared: a bracket of another shape ends the group as well. -/
example : skipGroup ⟨.opening .paren, 0, 1⟩ [⟨.closing .square, 1, 2⟩, ⟨.endOfFile, 2, 2⟩] =
    .ok ⟨[⟨.endOfFile, 2, 2⟩], by decide⟩ := by
  rfl

end Partners

end ReactBridge.Go
