import ReactBridge.Go.Package
import ReactBridge.Proofs.Go.LexicalError
import ReactBridge.Proofs.Go.Parts

/-!
# Where syntax errors stand

A reader gives up at a token, or at two between which its error lies. It never gets behind the end of
the file, so each of these tokens is one of the source.

* `SyntaxError.About tokens` : the tokens that an error is about, by its cause;
* `Reaches tokens ts` : where a reader of the tokens can stand;
* `Located tokens V` : results of which the errors are about tokens;
* `Reaches.located_type` and the lemmas ahead of it : those of each form of type are, if those of the
  types inside it are;
* `Reaches.types`, `Reaches.located_ofTokens` : those of each reader are;
* `SyntaxError.FitsIn`, `SourceFile.ofText_error_fitsIn` : an error and its label fit the source.
-/

namespace ReactBridge.Go
open scoped List

/-! ## Errors about tokens -/

/-- The error is about tokens of the sequence. Only a missing receiver and a list with an unnamed type
are about two: they reach from the keyword to what follows the parameters, and from one parenthesis to
the other. -/
inductive SyntaxError.About (tokens : List Token) : SyntaxError → Prop
  | unexpected {t : Token} (ht : t ∈ tokens) (expected : Expected) :
      About tokens ⟨.unexpected expected t.kind, t.span⟩
  | unclosed {t : Token} (ht : t ∈ tokens) {shape : Bracket} (hopen : t.kind = .opening shape) :
      About tokens ⟨.unclosed t.kind, t.span⟩
  | missingReceiver {t u : Token} (htu : [t, u] <+ tokens) (hfunc : t.kind = .keyword .func) :
      About tokens ⟨.missingReceiver, t.span.start, u.span.start⟩
  | mixedList {t u : Token} (htu : [t, u] <+ tokens) (hopen : t.kind = .opening .paren)
      (hclose : u.kind = .closing .paren) :
      About tokens ⟨.mixedParameters, t.span.start, u.span.stop⟩
  | untypedName {t : Token} (ht : t ∈ tokens) {name : String} (hname : t.kind = .ident name) :
      About tokens ⟨.mixedParameters, t.span⟩

/-- A lone identifier of a parameter list is one of the tokens. -/
def Entry.From (tokens : List Token) : Entry → Prop
  | bare name span => ⟨.ident name, span⟩ ∈ tokens
  | _ => True

/-- Whether a reader of the tokens can stand at the first of `ts`. -/
structure Reaches (tokens ts : List Token) : Prop where
  isSuffix : ts <:+ tokens
  closed : Closed ts

/-- A result of a reader: a value with `V`, or an error about tokens. -/
inductive Located (tokens : List Token) {α : Type} (V : α → Prop) : Except SyntaxError α → Prop
  | ok {a : α} (h : V a) : Located tokens V (.ok a)
  | error {e : SyntaxError} (h : e.About tokens) : Located tokens V (.error e)

/-- The reader went on to where it can stand. -/
def Stops (tokens : List Token) {ts : List Token} (rest : Rest ts) : Prop :=
  Reaches tokens rest.items

/-- The same, where it read something on the way. -/
def Leaves (tokens : List Token) {α : Type} {ts : List Token} (read : α × Rest ts) : Prop :=
  Stops tokens read.2

variable {tokens : List Token}

theorem Located.bind_of_eq {α β : Type} {V : α → Prop} {W : β → Prop} {x : Except SyntaxError α}
    {f : α → Except SyntaxError β} (h : Located tokens V x)
    (hnext : ∀ a, x = .ok a → V a → Located tokens W (f a)) : Located tokens W (x >>= f) := by
  cases h with
  | ok h => exact hnext _ rfl h
  | error h => exact .error h

theorem Located.bind {α β : Type} {V : α → Prop} {W : β → Prop} {x : Except SyntaxError α}
    {f : α → Except SyntaxError β} (h : Located tokens V x)
    (hnext : ∀ a, V a → Located tokens W (f a)) : Located tokens W (x >>= f) :=
  h.bind_of_eq fun a _ => hnext a

theorem Located.map {α β : Type} {V : α → Prop} {W : β → Prop} {x : Except SyntaxError α}
    (h : Located tokens V x) {f : α → β} (hVW : ∀ a, V a → W (f a)) :
    Located tokens W (x.map f) := by
  cases h with
  | ok h => exact .ok (hVW _ h)
  | error h => exact .error h

theorem Located.about {α : Type} {V : α → Prop} {e : SyntaxError}
    (h : Located tokens V (.error e)) : e.About tokens := by
  cases h with
  | error h => exact h

/-! ## Parameter lists -/

theorem located_namedFields {list : Span} (hlist : SyntaxError.About tokens ⟨.mixedParameters, list⟩)
    {entries : List Entry} (hentries : ∀ entry ∈ entries, entry.From tokens) (waiting : List String)
    {last : Option Span} (hlast : ∀ span ∈ last, ∃ name, ⟨.ident name, span⟩ ∈ tokens) :
    Located tokens (fun _ => True) (namedFields list waiting last entries) := by
  induction entries generalizing waiting last with
  | nil =>
    cases last with
    | none => exact .ok trivial
    | some span =>
      obtain ⟨name, hmem⟩ := hlast span rfl
      exact .error (.untypedName hmem rfl)
  | cons entry entries ih =>
    obtain ⟨hentry, hothers⟩ := List.forall_mem_cons.1 hentries
    cases entry with
    | bare name span =>
      refine ih hothers (waiting ++ [name]) fun span' hspan => ?_
      obtain rfl := Option.some.inj hspan
      exact ⟨name, hentry⟩
    | named name type =>
      have hmore := ih hothers [] fun span hspan => absurd hspan (Option.not_mem_none span)
      rw [namedFields]
      generalize namedFields list [] none entries = fields at hmore
      cases hmore with
      | ok h => exact .ok trivial
      | error h => exact .error h
    | unnamed type => exact .error hlist

theorem located_fieldsOfEntries {list : Span}
    (hlist : SyntaxError.About tokens ⟨.mixedParameters, list⟩) {entries : List Entry}
    (hentries : ∀ entry ∈ entries, entry.From tokens) :
    Located tokens (fun _ => True) (fieldsOfEntries entries list) := by
  rw [fieldsOfEntries]
  split
  · exact located_namedFields hlist hentries [] fun span hspan =>
      absurd hspan (Option.not_mem_none span)
  · exact .ok trivial

namespace Reaches

variable {ts : List Token} {t : Token}

/-! ## Single tokens and groups -/

theorem exists_cons (h : Reaches tokens ts) : ∃ t us, ts = t :: us := by
  obtain ⟨last, hlast, -⟩ := h.closed
  cases ts with
  | nil => cases hlast
  | cons t us => exact ⟨t, us, rfl⟩

theorem mem (h : Reaches tokens (t :: ts)) : t ∈ tokens :=
  h.isSuffix.subset List.mem_cons_self

theorem next (h : Reaches tokens (t :: ts)) (ht : t.kind ≠ .endOfFile) : Reaches tokens ts :=
  ⟨(List.suffix_cons t ts).trans h.isSuffix, h.closed.behind ht⟩

theorem behind (h : Reaches tokens (t :: ts)) {kind : Token.Kind} (hkind : t.kind = kind)
    (hends : kind.endsDeclaration = false) : Reaches tokens ts := by
  refine h.next fun ht => ?_
  rw [← hkind, ht] at hends
  cases hends

theorem line (h : Reaches tokens (t :: ts)) (hkind : t.kind = .semicolon) : Reaches tokens ts := by
  refine h.next fun ht => ?_
  rw [hkind] at ht
  cases ht

theorem pair (h : Reaches tokens (t :: ts)) {u : Token} (hu : u ∈ ts) : [t, u] <+ tokens :=
  ((List.singleton_sublist.2 hu).cons_cons t).trans h.isSuffix.sublist

theorem located_unexpected {α : Type} {V : α → Prop} (h : Reaches tokens (t :: ts))
    (expected : Expected) : Located tokens V (.error (Go.unexpected expected (t :: ts))) :=
  .error (.unexpected h.mem expected)

theorem located_takeToken (h : Reaches tokens ts) (kind : Token.Kind)
    (hends : kind.endsDeclaration = false) :
    Located tokens (fun read => ts = read.1 :: read.2.items ∧ read.1.kind = kind ∧
      Leaves tokens read) (takeToken kind ts) := by
  obtain ⟨t, us, rfl⟩ := h.exists_cons
  rw [takeToken]
  split
  · next hkind => exact .ok ⟨rfl, hkind, h.behind hkind hends⟩
  · exact h.located_unexpected _

theorem located_takeName (h : Reaches tokens ts) : Located tokens (Leaves tokens) (takeName ts) := by
  obtain ⟨t, us, rfl⟩ := h.exists_cons
  rw [takeName]
  cases hkind : t.kind with
  | ident name =>
    exact .ok (h.behind hkind rfl)
  | _ =>
    exact h.located_unexpected _

theorem located_groupEnd (h : Reaches tokens ts) {e : SyntaxError} (he : e.About tokens)
    (depth : Nat) : Located tokens (Stops tokens) (groupEnd e depth ts) := by
  induction ts generalizing depth with
  | nil => exact .error he
  | cons t ts ih =>
    rw [groupEnd_cons]
    cases hkind : t.kind with
    | endOfFile => exact .error he
    | semicolon => exact (ih (h.line hkind) depth).map fun _ hrest => hrest
    | opening shape => exact (ih (h.behind hkind rfl) (depth + 1)).map fun _ hrest => hrest
    | closing shape =>
      have hbehind := h.behind hkind rfl
      cases depth with
      | zero => exact .ok hbehind
      | succ depth => exact (ih hbehind depth).map fun _ hrest => hrest
    | _ => exact (ih (h.behind hkind rfl) depth).map fun _ hrest => hrest

theorem located_skipGroup (h : Reaches tokens (t :: ts)) {shape : Bracket}
    (hopen : t.kind = .opening shape) : Located tokens (Stops tokens) (skipGroup t ts) := by
  rw [skipGroup_eq]
  exact (h.behind hopen rfl).located_groupEnd (.unclosed h.mem hopen) 0

theorem located_readMember (h : Reaches tokens ts) (name : String) :
    Located tokens (Leaves tokens) (readMember name ts) := by
  obtain ⟨t, us, rfl⟩ := h.exists_cons
  rw [readMember]
  split
  · next hkind => exact (h.behind hkind rfl).located_takeName.bind fun _ hrest => .ok hrest
  · exact .ok h

theorem located_skipBlock (h : Reaches tokens ts) :
    Located tokens (Stops tokens) (skipBlock ts) := by
  obtain ⟨t, us, rfl⟩ := h.exists_cons
  rw [skipBlock]
  split
  · next hkind => exact (h.located_skipGroup hkind).bind fun _ hrest => .ok hrest
  · exact h.located_unexpected _

theorem stops_readDirection (h : Reaches tokens ts) : Stops tokens (readDirection ts).2 := by
  obtain ⟨t, us, rfl⟩ := h.exists_cons
  rw [readDirection]
  split
  · next hkind => exact h.behind hkind rfl
  · exact h

/-! ## Types, parameters and results

The types behind a first token are a hypothesis of each rule, and `types` is an induction on the
tokens. -/

/-- A reader of a type at these tokens gives up at tokens. -/
def TypeLocated (tokens ts : List Token) : Prop :=
  Reaches tokens ts → Located tokens (Leaves tokens) (readType ts)

theorem located_arguments {ts : List Token} (h : Reaches tokens ts)
    (htype : Onwards (TypeLocated tokens) ts) :
    Located tokens (Leaves tokens) (readTypeArguments ts) := by
  rw [readTypeArguments]
  split
  · exact .ok h
  refine (htype.here h).bind ?_
  rintro ⟨arg, rest⟩ hrest
  have hbehind := htype.rest rest
  obtain ⟨items, hitems⟩ := rest
  obtain ⟨t, us, rfl⟩ := hrest.exists_cons
  have hlength := hitems.length_le
  dsimp only
  split
  · next hkind =>
    have hmore := located_arguments (hrest.behind hkind rfl) hbehind.behind
    exact hmore.bind fun _ hlast => .ok hlast
  · exact .ok hrest
  termination_by ts.length
  decreasing_by all_goals grind

theorem located_instance (h : Reaches tokens ts) (htype : Onwards (TypeLocated tokens) ts)
    (base : TypeExpr) : Located tokens (Leaves tokens) (readInstance base ts) := by
  obtain ⟨t, ts, rfl⟩ := h.exists_cons
  rw [readInstance]
  split
  · next hkind =>
    refine ((h.behind hkind rfl).located_arguments htype.behind).bind ?_
    rintro ⟨args, rest⟩ hrest
    exact (hrest.located_takeToken (.closing .square) rfl).bind fun _ hlast => .ok hlast.2.2
  · exact .ok h

theorem located_entry (h : Reaches tokens ts) (htype : Onwards (TypeLocated tokens) ts) :
    Located tokens (fun read => Entry.From tokens read.1 ∧ Leaves tokens read) (readEntry ts) := by
  obtain ⟨t, ts, rfl⟩ := h.exists_cons
  have hunnamed : Located tokens (fun read => Entry.From tokens read.1 ∧ Leaves tokens read)
      (readType (t :: ts) >>= fun read => .ok (Entry.unnamed read.1, read.2)) :=
    (htype.here h).bind fun _ hrest => .ok ⟨trivial, hrest⟩
  rw [readEntry]
  cases hkind : t.kind with
  | ident name =>
    have hbehind := h.behind hkind rfl
    have hbare : Entry.From tokens (.bare name t.span) := by
      have hmem := h.mem
      rwa [show t = ⟨.ident name, t.span⟩ from hkind ▸ rfl] at hmem
    have hnamed : Located tokens (fun read => Entry.From tokens read.1 ∧ Leaves tokens read)
        (readType ts >>= fun read => .ok (Entry.named name read.1, read.2.behind t)) :=
      (htype.behind.here hbehind).bind fun _ hrest => .ok ⟨trivial, hrest⟩
    dsimp only
    cases hbehindKind : (current ts).kind with
    | dot => exact hunnamed
    | comma => exact .ok ⟨hbare, hbehind⟩
    | closing shape =>
      cases shape with
      | paren => exact .ok ⟨hbare, hbehind⟩
      | brace | square => exact hnamed
    | ellipsis =>
      refine (hbehind.located_takeToken .ellipsis rfl).bind ?_
      rintro ⟨_, dots⟩ ⟨_, _, hdots⟩
      exact ((htype.behind.rest dots).here hdots).bind fun _ hlast => .ok ⟨trivial, hlast⟩
    | _ => exact hnamed
  | ellipsis =>
    exact (htype.behind.here (h.behind hkind rfl)).bind fun _ hrest => .ok ⟨trivial, hrest⟩
  | _ => exact hunnamed

theorem located_entries {ts : List Token} (h : Reaches tokens ts)
    (htype : Onwards (TypeLocated tokens) ts) :
    Located tokens (fun read => (∀ entry ∈ read.1, Entry.From tokens entry) ∧ Leaves tokens read)
      (readEntries ts) := by
  rw [readEntries]
  split
  · exact .ok ⟨List.forall_mem_nil _, h⟩
  refine (h.located_entry htype).bind ?_
  rintro ⟨entry, rest⟩ ⟨hentry, hrest⟩
  have hbehind := htype.rest rest
  obtain ⟨items, hitems⟩ := rest
  obtain ⟨t, us, rfl⟩ := hrest.exists_cons
  have hlength := hitems.length_le
  dsimp only
  split
  · next hkind =>
    refine (located_entries (hrest.behind hkind rfl) hbehind.behind).bind ?_
    rintro ⟨entries, last⟩ hmore
    exact .ok ⟨List.forall_mem_cons.2 ⟨hentry, hmore.1⟩, hmore.2⟩
  · exact .ok ⟨List.forall_mem_singleton.2 hentry, hrest⟩
  termination_by ts.length
  decreasing_by all_goals grind

theorem located_parameters (h : Reaches tokens ts) (htype : Onwards (TypeLocated tokens) ts) :
    Located tokens (Leaves tokens) (readParameters ts) := by
  rw [readParameters]
  refine (h.located_takeToken (.opening .paren) rfl).bind ?_
  rintro ⟨opened, start⟩ ⟨hts, hopen, hstart⟩
  refine (hstart.located_entries (htype.rest start)).bind ?_
  rintro ⟨entries, rest⟩ ⟨hentries, hrest⟩
  refine (hrest.located_takeToken (.closing .paren) rfl).bind ?_
  rintro ⟨close, last⟩ ⟨hitems, hclose, hlast⟩
  have hmem : close ∈ start.items := rest.isSuffix.subset (hitems ▸ List.mem_cons_self)
  have hlist := SyntaxError.About.mixedList (pair (hts ▸ h) hmem) hopen hclose
  exact (located_fieldsOfEntries hlist hentries).bind fun _ _ => .ok hlast

theorem located_results (h : Reaches tokens ts) (htype : Onwards (TypeLocated tokens) ts) :
    Located tokens (Leaves tokens) (readResults ts) := by
  rw [readResults]
  split
  · exact h.located_parameters htype
  split
  · exact (htype.here h).bind fun _ hrest => .ok hrest
  · exact .ok h

theorem located_refused (h : Reaches tokens (t :: ts)) (hbegins : beginsType t.kind = false) :
    Located tokens (Leaves tokens) (readType (t :: ts)) := by
  rw [readType_of_not_begins hbegins]
  exact h.located_unexpected _

section Forms

variable (h : Reaches tokens (t :: ts)) (htype : Onwards (TypeLocated tokens) ts)
include h htype

theorem located_named {name : String} (hkind : t.kind = .ident name) :
    Located tokens (Leaves tokens) (readType (t :: ts)) := by
  rw [readType.eq_def]
  simp only [hkind]
  refine ((h.behind hkind rfl).located_readMember name).bind ?_
  rintro ⟨base, mid⟩ hmid
  exact (hmid.located_instance (htype.rest mid) base).bind fun _ hlast => .ok hlast

theorem located_pointer (hkind : t.kind = .star) :
    Located tokens (Leaves tokens) (readType (t :: ts)) := by
  rw [readType.eq_def]
  simp only [hkind]
  exact (htype.here (h.behind hkind rfl)).bind fun _ hrest => .ok hrest

theorem located_sequence (hkind : t.kind = .opening .square) :
    Located tokens (Leaves tokens) (readType (t :: ts)) := by
  have hgroup := h.located_skipGroup hkind
  have hinside := h.behind hkind rfl
  rw [readType.eq_def]
  -- A bracket is never the last token, so the reader has a second one to look at.
  obtain ⟨u, us, rfl⟩ := hinside.exists_cons
  simp only [hkind] at hgroup ⊢
  split
  · next hclose =>
    exact (htype.behind.here (hinside.behind hclose rfl)).bind fun _ hrest => .ok hrest
  · refine hgroup.bind fun size hsize => ?_
    exact ((htype.rest size).here hsize).bind fun _ hrest => .ok hrest

theorem located_map (hkind : t.kind = .keyword .map) :
    Located tokens (Leaves tokens) (readType (t :: ts)) := by
  rw [readType.eq_def]
  simp only [hkind]
  refine ((h.behind hkind rfl).located_takeToken (.opening .square) rfl).bind ?_
  rintro ⟨_, opened⟩ ⟨_, _, hopened⟩
  have htype := htype.rest opened
  refine (htype.here hopened).bind ?_
  rintro ⟨key, rest⟩ hrest
  have htype := htype.rest rest
  refine (hrest.located_takeToken (.closing .square) rfl).bind ?_
  rintro ⟨_, close⟩ ⟨_, _, hclose⟩
  exact ((htype.rest close).here hclose).bind fun _ hlast => .ok hlast

theorem located_chan (hkind : t.kind = .keyword .chan) :
    Located tokens (Leaves tokens) (readType (t :: ts)) := by
  rw [readType.eq_def]
  simp only [hkind]
  have hrest := (h.behind hkind rfl).stops_readDirection
  exact ((htype.rest (readDirection ts).2).here hrest).bind fun _ hlast => .ok hlast

theorem located_receive (hkind : t.kind = .arrow) :
    Located tokens (Leaves tokens) (readType (t :: ts)) := by
  rw [readType.eq_def]
  simp only [hkind]
  refine ((h.behind hkind rfl).located_takeToken (.keyword .chan) rfl).bind ?_
  rintro ⟨_, rest⟩ ⟨_, _, hrest⟩
  exact ((htype.rest rest).here hrest).bind fun _ hlast => .ok hlast

theorem located_signature (hkind : t.kind = .keyword .func) :
    Located tokens (Leaves tokens) (readType (t :: ts)) := by
  rw [readType.eq_def]
  simp only [hkind]
  refine ((h.behind hkind rfl).located_parameters htype).bind ?_
  rintro ⟨params, rest⟩ hrest
  exact (hrest.located_results (htype.rest rest)).bind fun _ hlast => .ok hlast

theorem located_paren (hkind : t.kind = .opening .paren) :
    Located tokens (Leaves tokens) (readType (t :: ts)) := by
  rw [readType.eq_def]
  simp only [hkind]
  refine (htype.here (h.behind hkind rfl)).bind ?_
  rintro ⟨inner, rest⟩ hrest
  exact (hrest.located_takeToken (.closing .paren) rfl).bind fun _ hlast => .ok hlast.2.2

theorem located_keyword {word : Keyword} (hkind : t.kind = .keyword word) :
    Located tokens (Leaves tokens) (readType (t :: ts)) := by
  cases word with
  | map => exact h.located_map htype hkind
  | chan => exact h.located_chan htype hkind
  | func => exact h.located_signature htype hkind
  | struct | interface =>
    rw [readType.eq_def]
    simp only [hkind]
    exact (h.behind hkind rfl).located_skipBlock.bind fun _ hrest => .ok hrest
  | _ => exact h.located_refused (hkind ▸ rfl)

theorem located_type : Located tokens (Leaves tokens) (readType (t :: ts)) := by
  cases hkind : t.kind with
  | ident name => exact h.located_named htype hkind
  | star => exact h.located_pointer htype hkind
  | arrow => exact h.located_receive htype hkind
  | keyword word => exact h.located_keyword htype hkind
  | opening shape =>
    cases shape with
    | paren => exact h.located_paren htype hkind
    | square => exact h.located_sequence htype hkind
    | brace => exact h.located_refused (hkind ▸ rfl)
  | _ => exact h.located_refused (hkind ▸ rfl)

end Forms

theorem types (tokens ts : List Token) : Onwards (TypeLocated tokens) ts := by
  refine .of_cons (fun h => ?_) (fun t ts htype h => h.located_type htype) ts
  obtain ⟨t, us, hnil⟩ := h.exists_cons
  cases hnil

theorem located_readParameters (h : Reaches tokens ts) :
    Located tokens (Leaves tokens) (readParameters ts) :=
  h.located_parameters (types tokens ts)

theorem located_readResults (h : Reaches tokens ts) :
    Located tokens (Leaves tokens) (readResults ts) :=
  h.located_results (types tokens ts)

/-! ## Declarations -/

theorem located_takeEnd (h : Reaches tokens ts) : Located tokens (Stops tokens) (takeEnd ts) := by
  obtain ⟨t, us, rfl⟩ := h.exists_cons
  rw [takeEnd]
  split
  · next hkind => exact .ok (h.line hkind)
  split
  · exact .ok h
  · exact h.located_unexpected _

theorem located_takeImportPath (h : Reaches tokens ts) :
    Located tokens (Stops tokens) (takeImportPath ts) := by
  obtain ⟨t, us, rfl⟩ := h.exists_cons
  rw [takeImportPath]
  cases hkind : t.kind with
  | literal kind =>
    cases kind with
    | string | rawString => exact .ok (h.behind hkind rfl)
    | number | rune => exact h.located_unexpected _
  | _ =>
    exact h.located_unexpected _

theorem located_skipImport (h : Reaches tokens ts) :
    Located tokens (Stops tokens) (skipImport ts) := by
  obtain ⟨t, us, rfl⟩ := h.exists_cons
  rw [skipImport]
  cases hkind : t.kind with
  | ident _ | dot =>
    exact (h.behind hkind rfl).located_takeImportPath.bind fun _ hrest => .ok hrest
  | _ =>
    exact h.located_takeImportPath

theorem located_skipImports {ts : List Token} (h : Reaches tokens ts) :
    Located tokens (Stops tokens) (skipImports ts) := by
  obtain ⟨t, us, rfl⟩ := h.exists_cons
  rw [Simulation.skipImports_cons]
  split
  · next hclose => exact .ok (h.behind hclose rfl)
  split
  · next hline =>
    exact (located_skipImports (h.line hline)).bind fun _ hrest => .ok hrest
  refine h.located_skipImport.bind_of_eq fun rest hfound hrest => ?_
  have hlength := skipImport_length hfound
  split
  · exact (located_skipImports hrest).bind fun _ hlast => .ok hlast
  · refine hrest.located_takeEnd.bind fun ended hended => ?_
    exact (located_skipImports hended).bind fun _ hlast => .ok hlast
  termination_by ts.length
  decreasing_by all_goals grind

theorem located_skipImportDeclaration (h : Reaches tokens ts) :
    Located tokens (Stops tokens) (skipImportDeclaration ts) := by
  obtain ⟨t, us, rfl⟩ := h.exists_cons
  rw [skipImportDeclaration]
  split
  · next hopen =>
    refine (h.behind hopen rfl).located_skipImports.bind fun rest hrest => ?_
    exact hrest.located_takeEnd.bind fun _ hlast => .ok hlast
  · refine h.located_skipImport.bind fun rest hrest => ?_
    exact hrest.located_takeEnd.bind fun _ hlast => .ok hlast

/-- A receiver that is missing reaches from the keyword to the token behind the parentheses. -/
theorem located_readReceiver (h : Reaches tokens (t :: ts)) (hfunc : t.kind = .keyword .func) :
    Located tokens (Leaves tokens) (readReceiver t.span.start ts) := by
  have hbehind := h.behind hfunc rfl
  rw [readReceiver]
  split
  · refine hbehind.located_readParameters.bind ?_
    rintro ⟨fields, rest⟩ hrest
    cases fields with
    | nil =>
      -- The name that should follow stands behind the keyword, so the span does not run backwards.
      obtain ⟨u, us, hitems⟩ := hrest.exists_cons
      have hmem : u ∈ ts := rest.isSuffix.subset (hitems ▸ List.mem_cons_self)
      dsimp only
      rw [hitems]
      exact .error (.missingReceiver (h.pair hmem) hfunc)
    | cons field fields => exact .ok hrest
  · exact .ok hbehind

theorem located_skipOptional (h : Reaches tokens ts) (shape : Bracket) :
    Located tokens (Leaves tokens) (skipOptional shape ts) := by
  obtain ⟨t, us, rfl⟩ := h.exists_cons
  rw [skipOptional]
  split
  · next hopen => exact (h.located_skipGroup hopen).bind fun _ hrest => .ok hrest
  · exact .ok h

theorem located_readFunc (h : Reaches tokens (t :: ts)) (hfunc : t.kind = .keyword .func) :
    Located tokens (Leaves tokens) (readFunc t.span.start ts) := by
  rw [readFunc]
  refine (h.located_readReceiver hfunc).bind ?_
  rintro ⟨receiver, afterReceiver⟩ hafterReceiver
  refine hafterReceiver.located_takeName.bind ?_
  rintro ⟨name, afterName⟩ hafterName
  refine (hafterName.located_skipOptional .square).bind ?_
  rintro ⟨generic, afterGeneric⟩ hafterGeneric
  refine hafterGeneric.located_readParameters.bind ?_
  rintro ⟨params, afterParams⟩ hafterParams
  refine hafterParams.located_readResults.bind ?_
  rintro ⟨results, afterResults⟩ hafterResults
  refine (hafterResults.located_skipOptional .brace).bind ?_
  rintro ⟨body, afterBody⟩ hafterBody
  exact hafterBody.located_takeEnd.bind fun _ hlast => .ok hlast

theorem located_skipDeclaration {ts : List Token} (h : Reaches tokens ts) :
    Located tokens (Stops tokens) (skipDeclaration ts) := by
  obtain ⟨t, us, rfl⟩ := h.exists_cons
  rw [skipDeclaration]
  cases hkind : t.kind with
  | semicolon =>
    exact .ok (h.line hkind)
  | endOfFile =>
    exact .ok h
  | opening shape =>
    refine (h.located_skipGroup hkind).bind fun rest hrest => ?_
    exact (located_skipDeclaration hrest).bind fun _ hlast => .ok hlast
  | closing shape =>
    exact h.located_unexpected _
  | _ =>
    exact (located_skipDeclaration (h.behind hkind rfl)).bind fun _ hlast => .ok hlast
  termination_by ts.length
  decreasing_by all_goals grind

theorem located_readDeclarations {ts : List Token} (h : Reaches tokens ts) :
    Located tokens (fun _ => True) (readDeclarations ts) := by
  obtain ⟨t, us, rfl⟩ := h.exists_cons
  rw [readDeclarations.eq_def]
  cases hkind : t.kind with
  | endOfFile =>
    simp only [hkind]
    exact .ok trivial
  | semicolon =>
    simp only [hkind]
    exact located_readDeclarations (h.line hkind)
  | keyword word =>
    have hbehind := h.behind hkind rfl
    cases word with
    | importDecl =>
      simp only [hkind]
      exact hbehind.located_skipImportDeclaration.bind fun rest hrest =>
        located_readDeclarations hrest
    | func =>
      simp only [hkind]
      refine (h.located_readFunc hkind).bind ?_
      rintro ⟨func, rest⟩ hrest
      exact (located_readDeclarations hrest).bind fun _ _ => .ok trivial
    | typeDecl | varDecl | constDecl =>
      simp only [hkind]
      exact hbehind.located_skipDeclaration.bind fun rest hrest => located_readDeclarations hrest
    | _ =>
      simp only [hkind]
      exact h.located_unexpected _
  | _ =>
    simp only [hkind]
    exact h.located_unexpected _
  termination_by ts.length
  decreasing_by all_goals grind

theorem located_readSourceFile (h : Reaches tokens ts) :
    Located tokens (fun _ => True) (readSourceFile ts) := by
  rw [readSourceFile]
  refine (h.located_takeToken (.keyword .package) rfl).bind ?_
  rintro ⟨_, afterKeyword⟩ ⟨_, _, hkeyword⟩
  refine hkeyword.located_takeName.bind ?_
  rintro ⟨package, afterName⟩ hname
  refine hname.located_takeEnd.bind fun afterClause hclause => ?_
  exact (located_readDeclarations hclause).bind fun _ _ => .ok trivial

theorem located_ofTokens (h : Reaches tokens ts) :
    Located tokens (fun _ => True) (SourceFile.ofTokens ts) := by
  induction ts with
  | nil =>
    obtain ⟨_, _, hts⟩ := h.exists_cons
    cases hts
  | cons t ts ih =>
    rw [ofTokens_cons]
    split
    · next hkind => exact ih (h.line hkind)
    · exact h.located_readSourceFile

end Reaches

theorem SourceFile.about_of_ofTokens (hclosed : Closed tokens) {e : SyntaxError}
    (he : ofTokens tokens = .error e) : e.About tokens := by
  have hlocated := Reaches.located_ofTokens ⟨List.suffix_rfl, hclosed⟩
  rw [he] at hlocated
  exact hlocated.about

/-! ## Errors in a source -/

/-- Whether a token starts or stops at the offset. -/
def IsBoundary (tokens : List Token) (offset : Nat) : Prop :=
  ∃ t ∈ tokens, offset = t.span.start ∨ offset = t.span.stop

namespace SyntaxError.About

variable {e : SyntaxError}

theorem boundaries (h : e.About tokens) :
    IsBoundary tokens e.span.start ∧ IsBoundary tokens e.span.stop := by
  cases h with
  | unexpected ht | unclosed ht | untypedName ht => exact ⟨⟨_, ht, .inl rfl⟩, ⟨_, ht, .inr rfl⟩⟩
  | missingReceiver htu =>
    exact ⟨⟨_, htu.subset (by simp), .inl rfl⟩, ⟨_, htu.subset (by simp), .inl rfl⟩⟩
  | mixedList htu =>
    exact ⟨⟨_, htu.subset (by simp), .inl rfl⟩, ⟨_, htu.subset (by simp), .inr rfl⟩⟩

/-- Where tokens stand in order and apart, an error does not stop ahead of its start. -/
theorem start_le_stop (h : e.About tokens) (hspans : ∀ t ∈ tokens, t.span.start ≤ t.span.stop)
    (happart : tokens.Pairwise fun t u => t.span.stop ≤ u.span.start) :
    e.span.start ≤ e.span.stop := by
  have hpair : ∀ {t u : Token}, [t, u] <+ tokens → t.span.start ≤ u.span.start ∧
      u.span.start ≤ u.span.stop := by
    intro t u htu
    have hstop := List.rel_of_pairwise_cons (happart.sublist htu) List.mem_cons_self
    exact ⟨(hspans t (htu.subset (by simp))).trans hstop, hspans u (htu.subset (by simp))⟩
  cases h with
  | unexpected ht | unclosed ht | untypedName ht => exact hspans _ ht
  | missingReceiver htu => exact (hpair htu).1
  | mixedList htu => exact (hpair htu).1.trans (hpair htu).2

end SyntaxError.About

/-- Two places of a text cut it. -/
theorem exists_cuts_of_le {source before after before' after' : List Char}
    (h : source = before ++ after) (h' : source = before' ++ after')
    (hle : width before ≤ width before') :
    ∃ text, Span.Cuts ⟨width before, width before'⟩ source before text after' := by
  rcases List.append_eq_append_iff.1 (h.symm.trans h') with ⟨text, rfl, rfl⟩ | ⟨text, rfl, rfl⟩
  · exact ⟨text, h, rfl, rfl⟩
  · -- The second place is no earlier, so it is the same one.
    obtain rfl : text = [] := by
      by_contra htext
      have := width_pos htext
      rw [width_append] at hle
      omega
    exact ⟨[], h, rfl, by simp⟩

theorem Stream.place {source : List Char} (h : Stream [] source tokens) {offset : Nat}
    (hoffset : IsBoundary tokens offset) :
    ∃ before after, source = before ++ after ∧ offset = width before := by
  obtain ⟨t, ht, hends⟩ := hoffset
  obtain ⟨-, before, text, after, hcuts⟩ := h.cuts t ht
  rcases hends with rfl | rfl
  · exact ⟨before, text ++ after, hcuts.source_eq, hcuts.start_eq⟩
  · exact ⟨before ++ text, after, by rw [List.append_assoc]; exact hcuts.source_eq, hcuts.stop_eq⟩

/-- The error stands between characters of the source, at tokens of it or where it stops to be lexical,
and what a report shows of the source for it is a stretch of the source. -/
structure SyntaxError.FitsIn (source : String) (e : SyntaxError) : Prop where
  start_le_stop : e.span.start ≤ e.span.stop
  stop_le : e.span.stop ≤ source.utf8ByteSize
  cuts : ∃ before text after, e.span.Cuts source.toList before text after
  ends : (∃ tokens, tokenize source = .ok tokens ∧ e.About tokens ∧
      IsBoundary tokens e.span.start ∧ IsBoundary tokens e.span.stop) ∨
    ∃ lexical, tokenize source = .error lexical ∧ e = .ofLexError lexical
  label : ∀ path, ∃ offset length,
    (PackageError.invalid path e).labels = [(offset, length, e.message)] ∧
      offset = e.span.start ∧ offset + length = e.span.stop

theorem SyntaxError.FitsIn.of_cuts {source : String} {e : SyntaxError}
    {before text after : List Char} (hcuts : e.span.Cuts source.toList before text after)
    (hends : (∃ tokens, tokenize source = .ok tokens ∧ e.About tokens) ∨
      ∃ lexical, tokenize source = .error lexical ∧ e = .ofLexError lexical) : e.FitsIn source where
  start_le_stop := hcuts.start_le_stop
  stop_le := hcuts.stop_le
  cuts := ⟨before, text, after, hcuts⟩
  ends := by
    refine hends.imp_left ?_
    rintro ⟨tokens, htokens, habout⟩
    exact ⟨tokens, htokens, habout, habout.boundaries⟩
  label _ := ⟨_, _, rfl, rfl, Nat.add_sub_cancel' hcuts.start_le_stop⟩

/-- **An error fits its source**, whichever token it is about. -/
theorem SourceFile.ofText_error_fitsIn {source : String} {e : SyntaxError}
    (h : ofText source = .error e) : e.FitsIn source := by
  rw [ofText] at h
  cases htokens : tokenize source with
  | error lexical =>
    rw [htokens] at h
    obtain rfl : SyntaxError.ofLexError lexical = e := Except.error.inj h
    obtain ⟨lexemes, text, after, hcuts, -⟩ := exists_of_tokenize_error htokens
    exact .of_cuts hcuts (.inr ⟨lexical, htokens, rfl⟩)
  | ok tokens =>
    rw [htokens] at h
    have habout := about_of_ofTokens (closed_of_tokenize htokens) h
    have hstream := stream_of_tokenize htokens
    obtain ⟨before, rest, hbefore, hstart⟩ := hstream.place habout.boundaries.1
    obtain ⟨front, after, hfront, hstop⟩ := hstream.place habout.boundaries.2
    have hle : e.span.start ≤ e.span.stop := by
      refine habout.start_le_stop (fun t ht => ?_) hstream.pairwise
      obtain ⟨-, _, _, _, hcuts⟩ := hstream.cuts t ht
      exact hcuts.start_le_stop
    rw [hstart, hstop] at hle
    obtain ⟨text, hcuts⟩ := exists_cuts_of_le hbefore hfront hle
    rw [← hstart, ← hstop] at hcuts
    exact .of_cuts hcuts (.inl ⟨tokens, htokens, habout⟩)

theorem eq_error_of_map {ε α β : Type} {result : Except ε α} {f : α → β} {e : ε}
    (h : result.map f = .error e) : result = .error e := by
  cases result with
  | error e' => exact congrArg Except.error (Except.error.inj h)
  | ok value => cases h

/-- The error of an empty receiver reaches from its keyword to the name. -/
theorem SourceFile.ofText_error_fitsIn_missingReceiver :
    ofText "package é\nfunc () M()" = .error ⟨.missingReceiver, 11, 19⟩ ∧
      SyntaxError.FitsIn "package é\nfunc () M()" ⟨.missingReceiver, 11, 19⟩ := by
  have hpackage : (ofText "package é\nfunc () M()").map SourceFile.package =
      .error ⟨.missingReceiver, 11, 19⟩ := by decide +kernel
  have h := eq_error_of_map hpackage
  exact ⟨h, ofText_error_fitsIn h⟩

end ReactBridge.Go
