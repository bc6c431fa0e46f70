import ReactBridge.Go.Syntax.File
import ReactBridge.Proofs.Go.Print

/-!
# Reading back what was written

* `Spelled kinds ts rest` : tokens of the given kinds, and `rest` behind them;
* `Reads result value rest` : a reader returns `value` and leaves `rest`;
* `TypeExpr.ReadsBack` : a type is read back from its tokens, wherever no type goes on behind them;
* `Entry.kinds`, `Field.entries` : the entries that a field is written as;
* `readParameters_spelled`, `readResults_spelled` : lists of fields whose types are read back;
* `TypeExpr.WellFormed.readsBack` : so are all well-formed types, by induction;
* `ofText_print` : a well-formed file is read back from its text.
-/

namespace ReactBridge.Go

/-! ## Tokens and results -/

/-- The tokens `ts` have the given kinds up to `rest`. -/
def Spelled (kinds : List Token.Kind) (ts rest : List Token) : Prop :=
  ∃ front, ts = front ++ rest ∧ front.map Token.kind = kinds

/-- A reader returns `value`, and `rest` is left. -/
def Reads {α : Type} {ts : List Token} (result : Except SyntaxError (α × Rest ts)) (value : α)
    (rest : List Token) : Prop :=
  ∃ h, result = .ok (value, ⟨rest, h⟩)

theorem spelled_nil {ts rest : List Token} : Spelled [] ts rest ↔ ts = rest := by
  constructor
  · rintro ⟨front, rfl, hkinds⟩
    rw [List.map_eq_nil_iff.1 hkinds, List.nil_append]
  · rintro rfl
    exact ⟨[], rfl, rfl⟩

theorem spelled_cons {kind : Token.Kind} {kinds : List Token.Kind} {ts rest : List Token} :
    Spelled (kind :: kinds) ts rest ↔ ∃ t us, ts = t :: us ∧ t.kind = kind ∧ Spelled kinds us rest := by
  constructor
  · rintro ⟨front, rfl, hkinds⟩
    obtain ⟨t, us, rfl, hkind, hus⟩ := List.map_eq_cons_iff.1 hkinds
    exact ⟨t, us ++ rest, rfl, hkind, us, rfl, hus⟩
  · rintro ⟨t, us, rfl, rfl, front, rfl, rfl⟩
    exact ⟨t :: front, rfl, rfl⟩

theorem spelled_append {kinds more : List Token.Kind} {ts rest : List Token} :
    Spelled (kinds ++ more) ts rest ↔ ∃ mid, Spelled kinds ts mid ∧ Spelled more mid rest := by
  constructor
  · rintro ⟨front, rfl, hkinds⟩
    obtain ⟨first, second, rfl, hfirst, hsecond⟩ := List.map_eq_append_iff.1 hkinds
    exact ⟨second ++ rest, ⟨first, List.append_assoc .., hfirst⟩, second, rfl, hsecond⟩
  · rintro ⟨mid, ⟨first, rfl, rfl⟩, second, rfl, rfl⟩
    exact ⟨first ++ second, (List.append_assoc ..).symm, List.map_append⟩

theorem Spelled.current {kinds : List Token.Kind} {ts rest : List Token}
    (h : Spelled kinds ts rest) : ∀ kind ∈ kinds.head?, (current ts).kind = kind := by
  intro kind hkind
  cases kinds with
  | nil => cases hkind
  | cons first kinds =>
    obtain ⟨t, us, rfl, rfl, -⟩ := spelled_cons.1 h
    exact Option.some.inj hkind

theorem Spelled.suffix {kinds : List Token.Kind} {ts rest : List Token}
    (h : Spelled kinds ts rest) : rest <:+ ts := by
  obtain ⟨front, rfl, -⟩ := h
  exact List.suffix_append front rest

/-- Whether no type goes on at `rest`. -/
def TypeEnds (rest : List Token) : Prop :=
  beginsType (current rest).kind = false ∧ (current rest).kind ≠ .dot

theorem typeEnds_of_kind {rest : List Token} {kind : Token.Kind} (hkind : (current rest).kind = kind)
    (hbegins : beginsType kind = false) (hdot : kind ≠ .dot) : TypeEnds rest := by
  rw [TypeEnds, hkind]
  exact ⟨hbegins, hdot⟩

/-- Whether an entry of a list of fields ends at `rest`. -/
def EntryEnds (rest : List Token) : Prop :=
  (current rest).kind = .comma ∨ (current rest).kind = .closing .paren

theorem EntryEnds.typeEnds {rest : List Token} (h : EntryEnds rest) : TypeEnds rest := by
  rcases h with h | h
  · exact typeEnds_of_kind h rfl nofun
  · exact typeEnds_of_kind h rfl nofun

theorem takeToken_cons {kind : Token.Kind} {t : Token} (h : t.kind = kind) (ts : List Token) :
    takeToken kind (t :: ts) = .ok (t, (Rest.all ts).behind t) := by
  rw [takeToken, if_pos h]

theorem takeName_cons {name : String} {t : Token} (h : t.kind = .ident name) (ts : List Token) :
    takeName (t :: ts) = .ok (name, (Rest.all ts).behind t) := by
  rw [takeName, h]

/-! ## Groups that are skipped -/

theorem afterGroup_spelled {kinds : List Token.Kind} {shape : Bracket}
    (hflat : ∀ kind ∈ kinds, kind.isOpener = false ∧ kind.isCloser = false ∧ kind ≠ .endOfFile)
    {ts rest : List Token} (h : Spelled (kinds ++ [.closing shape]) ts rest) :
    ∃ hsuffix, afterGroup 0 ts = some ⟨rest, hsuffix⟩ := by
  refine ⟨h.suffix, ?_⟩
  induction kinds generalizing ts with
  | nil =>
    obtain ⟨t, us, rfl, hkind, hus⟩ := spelled_cons.1 h
    obtain rfl := spelled_nil.1 hus
    rw [afterGroup, hkind]
    rfl
  | cons kind kinds ih =>
    obtain ⟨t, us, rfl, hkind, hus⟩ := spelled_cons.1 h
    rw [List.forall_mem_cons] at hflat
    obtain ⟨⟨hopener, hcloser, hend⟩, hflat⟩ := hflat
    rw [afterGroup, hkind, ih hflat hus]
    cases kind with
    | opening => cases hopener
    | closing => cases hcloser
    | endOfFile => exact absurd rfl hend
    | _ => rfl

theorem skipGroup_spelled {kinds : List Token.Kind} {shape : Bracket}
    (hflat : ∀ kind ∈ kinds, kind.isOpener = false ∧ kind.isCloser = false ∧ kind ≠ .endOfFile)
    {ts rest : List Token} (h : Spelled (kinds ++ [.closing shape]) ts rest) (opening : Token) :
    ∃ hsuffix, skipGroup opening ts = .ok ⟨rest, hsuffix⟩ := by
  obtain ⟨hsuffix, hgroup⟩ := afterGroup_spelled hflat h
  exact ⟨hsuffix, by rw [skipGroup, hgroup]⟩

theorem skipBlock_spelled {ts rest : List Token} (h : Spelled (bracketed .brace []) ts rest) :
    ∃ hsuffix, skipBlock ts = .ok ⟨rest, hsuffix⟩ := by
  obtain ⟨t, us, rfl, hkind, hus⟩ := spelled_cons.1 h
  obtain ⟨hsuffix, hgroup⟩ := skipGroup_spelled (List.forall_mem_nil _) hus t
  refine ⟨h.suffix, ?_⟩
  rw [skipBlock, if_pos hkind, hgroup]
  rfl

/-! ## Types that are read back -/

namespace TypeExpr

/-- The first token of a type. A type that starts with a name is that name or an instance of it. -/
theorem WellFormed.begins {type : TypeExpr} (h : type.WellFormed) :
    ∃ kind ∈ type.kinds.head?, beginsType kind = true := by
  cases h with
  | @chan dir => cases dir <;> exact ⟨_, rfl, rfl⟩
  | @generic base args hname =>
    cases base with
    | named | qualified => exact ⟨_, rfl, rfl⟩
    | _ => cases hname
  | _ => exact ⟨_, rfl, rfl⟩

/-- A type that starts with a name is that name, a name in a package, or an instance. -/
theorem WellFormed.begins_name {type : TypeExpr} (h : type.WellFormed)
    (hnamed : type.simpleName? = none) (hinstance : type.isPlainInstance = false) :
    (∃ package more, type.kinds = .ident package :: .dot :: more) ∨
      ∃ kind more, type.kinds = kind :: more ∧ beginsType kind = true ∧
        ∀ name, kind ≠ .ident name := by
  cases h with
  | named => cases hnamed
  | qualified => exact .inl ⟨_, _, rfl⟩
  | @chan dir =>
    right
    cases dir <;> exact ⟨_, _, rfl, rfl, nofun⟩
  | @generic base args hname =>
    cases base with
    | named => cases hinstance
    | qualified => exact .inl ⟨_, _, rfl⟩
    | _ => cases hname
  | _ => exact .inr ⟨_, _, rfl, rfl, nofun⟩

/-- Only a type in parentheses starts with one. -/
theorem WellFormed.begins_paren {type : TypeExpr} (h : type.WellFormed)
    (hparen : ∀ inner, type ≠ .paren inner) : .opening .paren ∉ type.kinds.head? := by
  cases h with
  | @chan dir => cases dir <;> exact nofun
  | @generic base args hname =>
    cases base with
    | named | qualified => exact nofun
    | _ => cases hname
  | paren => exact absurd rfl (hparen _)
  | _ => exact nofun

/-- Only a channel that just receives starts with an arrow. -/
theorem WellFormed.begins_arrow {type : TypeExpr} (h : type.WellFormed)
    (hreceiver : type.isReceiver = false) : .arrow ∉ type.kinds.head? := by
  cases h with
  | @chan dir =>
    cases dir with
    | receive => cases hreceiver
    | both | send => exact nofun
  | @generic base args hname =>
    cases base with
    | named | qualified => exact nofun
    | _ => cases hname
  | _ => exact nofun

end TypeExpr

/-- Whether the type is well-formed and is read back from its tokens. -/
structure TypeExpr.ReadsBack (type : TypeExpr) : Prop where
  wellFormed : type.WellFormed
  reads : ∀ {ts rest}, Spelled type.kinds ts rest → TypeEnds rest → Reads (readType ts) type rest

theorem TypeExpr.ReadsBack.current_ne_closing {type : TypeExpr} (h : type.ReadsBack)
    {ts rest : List Token} (hspelled : Spelled type.kinds ts rest) (shape : Bracket) :
    (current ts).kind ≠ .closing shape := by
  obtain ⟨kind, hkind, hbegins⟩ := h.wellFormed.begins
  rw [hspelled.current kind hkind]
  rintro rfl
  cases hbegins

/-! ## Lists -/

theorem readTypeArguments_spelled {args : List TypeExpr} (hargs : ∀ arg ∈ args, arg.ReadsBack)
    {ts rest : List Token} (h : Spelled (commas (typesKinds args)) ts rest)
    (hend : (current rest).kind = .closing .square) : Reads (readTypeArguments ts) args rest := by
  refine ⟨h.suffix, ?_⟩
  induction args generalizing ts with
  | nil =>
    obtain rfl := spelled_nil.1 h
    rw [readTypeArguments, if_pos hend]
    rfl
  | cons arg args ih =>
    rw [List.forall_mem_cons] at hargs
    obtain ⟨harg, hargs⟩ := hargs
    cases args with
    | nil =>
      rw [typesKinds, typesKinds, commas_singleton] at h
      obtain ⟨hsuffix, hread⟩ := harg.reads h (typeEnds_of_kind hend rfl (by decide))
      rw [readTypeArguments, if_neg (harg.current_ne_closing h _), hread]
      cases rest with
      | nil => rfl
      | cons t rest =>
        have hcomma : t.kind ≠ .comma := by
          intro hcomma
          cases hend.symm.trans hcomma
        exact if_neg hcomma
    | cons next args =>
      rw [typesKinds, typesKinds, commas_cons_cons, spelled_append] at h
      obtain ⟨mid, harg', hmid⟩ := h
      obtain ⟨t, us, rfl, hcomma, hus⟩ := spelled_cons.1 hmid
      obtain ⟨hsuffix, hread⟩ := harg.reads harg' (typeEnds_of_kind hcomma rfl (by decide))
      rw [readTypeArguments, if_neg (harg.current_ne_closing harg' _), hread]
      change (if t.kind = .comma then _ else _) = _
      rw [if_pos hcomma, ih hargs hus]
      rfl

namespace Entry

def kinds : Entry → List Token.Kind
  | bare name _ => [.ident name]
  | named name type => .ident name :: type.kinds
  | unnamed type => type.kinds

def unplaced : Entry → Entry
  | bare name _ => bare name ⟨0, 0⟩
  | named name type => named name type
  | unnamed type => unnamed type

/-- Whether the entry is read back from its tokens: its type is, and is neither a name nor, in the
place of a name and a type, an instance of one. -/
def Readable : Entry → Prop
  | bare _ _ => True
  | named _ type => type.item.ReadsBack
  | unnamed type => type.item.ReadsBack ∧ type.simpleName? = none ∧ type.isPlainInstance = false

theorem readEntry_named {name : String} {type : TypeExpr} (h : type.item.ReadsBack) {t : Token}
    (hname : t.kind = .ident name) {ts rest : List Token} (hspelled : Spelled type.kinds ts rest)
    (hend : EntryEnds rest) : Reads (readEntry (t :: ts)) (named name type) rest := by
  refine ⟨hspelled.suffix.trans (List.suffix_cons t ts), ?_⟩
  rw [readEntry]
  simp only [hname]
  rcases type.item_eq_or_variadic with hitem | ⟨elem, rfl⟩
  · rw [hitem] at h
    obtain ⟨kind, hkind, hbegins⟩ := h.wellFormed.begins
    obtain ⟨hsuffix, hread⟩ := h.reads hspelled hend.typeEnds
    rw [hspelled.current kind hkind, hread]
    cases kind with
    | dot | comma | ellipsis | closing => cases hbegins
    | _ => rfl
  · obtain ⟨u, us, rfl, hdots, hus⟩ := spelled_cons.1 hspelled
    obtain ⟨hsuffix, hread⟩ := h.reads hus hend.typeEnds
    have hcurrent : (current (u :: us)).kind = .ellipsis := hdots
    rw [hcurrent, takeToken_cons hdots]
    change (readType us >>= _) = _
    rw [TypeExpr.item] at hread
    rw [hread]
    rfl

theorem readEntry_unnamed {type : TypeExpr} (h : type.item.ReadsBack)
    (hnamed : type.simpleName? = none) (hinstance : type.isPlainInstance = false)
    {ts rest : List Token} (hspelled : Spelled type.kinds ts rest) (hend : EntryEnds rest) :
    Reads (readEntry ts) (unnamed type) rest := by
  refine ⟨hspelled.suffix, ?_⟩
  rcases type.item_eq_or_variadic with hitem | ⟨elem, rfl⟩
  · rw [hitem] at h
    obtain ⟨hsuffix, hread⟩ := h.reads hspelled hend.typeEnds
    rcases h.wellFormed.begins_name hnamed hinstance with
      ⟨package, more, hkinds⟩ | ⟨kind, more, hkinds, hbegins, hother⟩
    · rw [hkinds] at hspelled
      obtain ⟨t, us, rfl, hname, hus⟩ := spelled_cons.1 hspelled
      have hdot := hus.current .dot rfl
      rw [readEntry]
      simp only [hname, hdot, hread]
      rfl
    · rw [hkinds] at hspelled
      obtain ⟨t, us, rfl, hkind, hus⟩ := spelled_cons.1 hspelled
      rw [readEntry, hkind, hread]
      cases kind with
      | ident name => exact absurd rfl (hother name)
      | ellipsis => cases hbegins
      | _ => rfl
  · obtain ⟨t, us, rfl, hdots, hus⟩ := spelled_cons.1 hspelled
    obtain ⟨hsuffix, hread⟩ := h.reads hus hend.typeEnds
    rw [TypeExpr.item] at hread
    rw [readEntry]
    simp only [hdots, hread]
    rfl

theorem Readable.reads {entry : Entry} (h : entry.Readable) {ts rest : List Token}
    (hspelled : Spelled entry.kinds ts rest) (hend : EntryEnds rest) :
    ∃ found, found.unplaced = entry.unplaced ∧ Reads (readEntry ts) found rest := by
  cases entry with
  | bare name span =>
    obtain ⟨t, us, rfl, hname, hus⟩ := spelled_cons.1 hspelled
    obtain rfl := spelled_nil.1 hus
    refine ⟨bare name t.span, rfl, List.suffix_cons t us, ?_⟩
    rw [readEntry]
    rcases hend with hend | hend
    · simp only [hname, hend]
      rfl
    · simp only [hname, hend]
      rfl
  | named name type =>
    obtain ⟨t, us, rfl, hname, hus⟩ := spelled_cons.1 hspelled
    exact ⟨named name type, rfl, readEntry_named h hname hus hend⟩
  | unnamed type =>
    obtain ⟨htype, hnamed, hinstance⟩ := h
    exact ⟨unnamed type, rfl, readEntry_unnamed htype hnamed hinstance hspelled hend⟩

theorem Readable.current_ne_closing {entry : Entry} (h : entry.Readable) {ts rest : List Token}
    (hspelled : Spelled entry.kinds ts rest) : (current ts).kind ≠ .closing .paren := by
  have htype : ∀ type : TypeExpr, type.item.ReadsBack → Spelled type.kinds ts rest →
      (current ts).kind ≠ .closing .paren := by
    intro type htype hspelled
    rcases type.item_eq_or_variadic with hitem | ⟨elem, rfl⟩
    · rw [hitem] at htype
      exact htype.current_ne_closing hspelled .paren
    · rw [hspelled.current .ellipsis rfl]
      exact nofun
  cases entry with
  | bare name | named name =>
    rw [hspelled.current (.ident name) rfl]
    exact nofun
  | unnamed type => exact htype type h.1 hspelled

end Entry

theorem readEntries_spelled {entries : List Entry} (hentries : ∀ entry ∈ entries, entry.Readable)
    {ts rest : List Token} (h : Spelled (commas (entries.map Entry.kinds)) ts rest)
    (hend : (current rest).kind = .closing .paren) :
    ∃ found, found.map Entry.unplaced = entries.map Entry.unplaced ∧
      Reads (readEntries ts) found rest := by
  induction entries generalizing ts with
  | nil =>
    obtain rfl := spelled_nil.1 h
    refine ⟨[], rfl, List.suffix_refl ts, ?_⟩
    rw [readEntries, if_pos hend]
    rfl
  | cons entry entries ih =>
    rw [List.forall_mem_cons] at hentries
    obtain ⟨hentry, hentries⟩ := hentries
    cases entries with
    | nil =>
      rw [List.map_singleton, commas_singleton] at h
      obtain ⟨found, hfound, hsuffix, hread⟩ := hentry.reads h (.inr hend)
      refine ⟨[found], congrArg ([·]) hfound, hsuffix, ?_⟩
      rw [readEntries, if_neg (hentry.current_ne_closing h), hread]
      cases rest with
      | nil => rfl
      | cons t rest =>
        have hcomma : t.kind ≠ .comma := fun hcomma => nomatch hend.symm.trans hcomma
        exact if_neg hcomma
    | cons next entries =>
      rw [List.map_cons, List.map_cons, commas_cons_cons, spelled_append] at h
      obtain ⟨mid, hfirst, hmid⟩ := h
      obtain ⟨t, us, rfl, hcomma, hus⟩ := spelled_cons.1 hmid
      obtain ⟨found, hfound, hsuffix, hread⟩ := hentry.reads hfirst (.inl hcomma)
      obtain ⟨others, hothers, hsuffix', hread'⟩ := ih hentries hus
      refine ⟨found :: others, congrArg₂ List.cons hfound hothers,
        hmid.suffix.trans hfirst.suffix, ?_⟩
      rw [readEntries, if_neg (hentry.current_ne_closing hfirst), hread]
      change (if t.kind = .comma then _ else _) = _
      rw [if_pos hcomma, hread']
      rfl

/-! ## Fields and their entries -/

/-- The entries that a field is written as: each name by itself, and the type at the last. -/
def entriesOf : List String → TypeExpr → List Entry
  | [], .named name => [.bare name ⟨0, 0⟩]
  | [], type => [.unnamed type]
  | [name], type => [.named name type]
  | name :: next :: names, type => .bare name ⟨0, 0⟩ :: entriesOf (next :: names) type

def fieldEntries (field : Field) : List Entry :=
  entriesOf field.names field.type

theorem entriesOf_ne_nil (names : List String) (type : TypeExpr) : entriesOf names type ≠ [] := by
  fun_cases entriesOf names type <;> exact nofun

theorem commas_append {first second : List (List Token.Kind)} (hfirst : first ≠ [])
    (hsecond : second ≠ []) : commas (first ++ second) = commas first ++ .comma :: commas second := by
  induction first with
  | nil => exact absurd rfl hfirst
  | cons part first ih =>
    cases first with
    | nil =>
      obtain ⟨next, second, rfl⟩ := List.exists_cons_of_ne_nil hsecond
      rw [commas_singleton, List.singleton_append, commas_cons_cons]
    | cons next first =>
      rw [List.cons_append, List.cons_append, commas_cons_cons, commas_cons_cons, ← List.cons_append,
        ih nofun, List.append_assoc, List.cons_append]

theorem commas_flatMap {α : Type} (parts : α → List (List Token.Kind)) (hparts : ∀ x, parts x ≠ [])
    (xs : List α) : commas (xs.flatMap parts) = commas (xs.map fun x => commas (parts x)) := by
  induction xs with
  | nil => rfl
  | cons x xs ih =>
    cases xs with
    | nil => rw [List.flatMap_singleton, List.map_singleton, commas_singleton]
    | cons y xs =>
      have hmore : (y :: xs).flatMap parts ≠ [] := by
        rw [List.flatMap_cons]
        exact List.append_ne_nil_of_left_ne_nil (hparts y) _
      rw [List.flatMap_cons, commas_append (hparts x) hmore, ih, List.map_cons, List.map_cons,
        List.map_cons, commas_cons_cons]

theorem commas_entriesOf (names : List String) (type : TypeExpr) :
    commas ((entriesOf names type).map Entry.kinds) = namesKinds names ++ type.kinds := by
  fun_induction entriesOf names type with
  | case1 => rfl
  | case2 type hnamed =>
    rw [List.map_singleton, commas_singleton]
    rfl
  | case3 name type =>
    rw [List.map_singleton, commas_singleton, namesKinds, List.map_singleton, commas_singleton]
    rfl
  | case4 name next names type ih =>
    obtain ⟨entry, entries, hentries⟩ := List.exists_cons_of_ne_nil (entriesOf_ne_nil (next :: names) type)
    rw [hentries] at ih ⊢
    rw [List.map_cons, List.map_cons, commas_cons_cons, ← List.map_cons, ih, namesKinds, namesKinds,
      List.map_cons, List.map_cons, List.map_cons, commas_cons_cons]
    rfl

theorem commas_fieldsKinds (fields : List Field) :
    commas (fieldsKinds fields) = commas ((fields.flatMap fieldEntries).map Entry.kinds) := by
  rw [fieldsKinds_eq_map, List.map_flatMap, commas_flatMap]
  · refine congrArg commas (List.map_congr_left fun field _ => ?_)
    rw [fieldEntries, commas_entriesOf, fieldKinds]
  · intro field h
    exact entriesOf_ne_nil field.names field.type (List.map_eq_nil_iff.1 h)

/-- Where names stand shows in errors only. -/
theorem namedFields_toOption (list list' : Span) {last last' : Option Span}
    (h : last.isSome = last'.isSome) (waiting : List String) (entries : List Entry) :
    (namedFields list waiting last (entries.map Entry.unplaced)).toOption =
      (namedFields list' waiting last' entries).toOption := by
  induction entries generalizing waiting last last' with
  | nil => cases last <;> cases last' <;> first | rfl | cases h
  | cons entry entries ih =>
    cases entry with
    | bare name span => exact @ih (some ⟨0, 0⟩) (some span) rfl (waiting ++ [name])
    | unnamed type => rfl
    | named name type =>
      have ih := ih (Eq.refl (none : Option Span).isSome) []
      rw [List.map_cons, Entry.unplaced, namedFields, namedFields]
      cases hleft : namedFields list [] none (entries.map Entry.unplaced) <;>
        cases hright : namedFields list' [] none entries <;>
          simp_all [Except.toOption]

theorem fieldsOfEntries_toOption (list list' : Span) (entries : List Entry) :
    (fieldsOfEntries (entries.map Entry.unplaced) list).toOption =
      (fieldsOfEntries entries list').toOption := by
  have hnamed : (entries.map Entry.unplaced).any Entry.isNamed = entries.any Entry.isNamed := by
    rw [List.any_map]
    refine congrArg (List.any entries) (funext fun entry => ?_)
    cases entry <;> rfl
  have hfields : (entries.map Entry.unplaced).filterMap Entry.unnamedField? =
      entries.filterMap Entry.unnamedField? := by
    rw [List.filterMap_map]
    refine congrArg (List.filterMap · entries) (funext fun entry => ?_)
    cases entry <;> rfl
  rw [fieldsOfEntries, fieldsOfEntries, hnamed, hfields]
  split
  · exact namedFields_toOption list list' rfl [] entries
  · rfl

theorem namedFields_entriesOf {names : List String} (hnames : names ≠ []) (type : TypeExpr)
    (list : Span) (waiting : List String) (last : Option Span) (entries : List Entry) :
    namedFields list waiting last (entriesOf names type ++ entries) =
      match namedFields list [] none entries with
      | .ok fields => .ok (⟨waiting ++ names, type⟩ :: fields)
      | .error e => .error e := by
  fun_induction entriesOf names type generalizing waiting last with
  | case1 | case2 => exact absurd rfl hnames
  | case3 name type => rfl
  | case4 name next names type ih =>
    rw [List.cons_append, namedFields, ih nofun, List.append_assoc, List.singleton_append]

theorem any_isNamed_entriesOf (names : List String) (type : TypeExpr) :
    (entriesOf names type).any Entry.isNamed = !names.isEmpty := by
  fun_induction entriesOf names type with
  | case1 | case2 | case3 => rfl
  | case4 name next names type ih => rw [List.any_cons, ih]; rfl

theorem filterMap_entriesOf_nil (type : TypeExpr) :
    (entriesOf [] type).filterMap Entry.unnamedField? = [⟨[], type⟩] := by
  cases type <;> rfl

theorem filterMap_fieldEntries {fields : List Field} (h : ∀ field ∈ fields, field.names = []) :
    (fields.flatMap fieldEntries).filterMap Entry.unnamedField? = fields := by
  induction fields with
  | nil => rfl
  | cons field fields ih =>
    obtain ⟨names, type⟩ := field
    rw [List.forall_mem_cons] at h
    obtain rfl : names = [] := h.1
    rw [List.flatMap_cons, List.filterMap_append, ih h.2, fieldEntries, filterMap_entriesOf_nil]
    rfl

theorem namedFields_fieldEntries {fields : List Field} (h : ∀ field ∈ fields, field.names ≠ [])
    (list : Span) : namedFields list [] none (fields.flatMap fieldEntries) = .ok fields := by
  induction fields with
  | nil => rfl
  | cons field fields ih =>
    rw [List.forall_mem_cons] at h
    rw [List.flatMap_cons, fieldEntries, namedFields_entriesOf h.1, ih h.2]
    rfl

/-- The entries of fields that are named alike are those fields. -/
theorem fieldsOfEntries_fieldEntries {fields : List Field} (h : NamedAlike fields) (list : Span) :
    fieldsOfEntries (fields.flatMap fieldEntries) list = .ok fields := by
  have hany : (fields.flatMap fieldEntries).any Entry.isNamed =
      fields.any fun field => !field.names.isEmpty := by
    rw [List.any_flatMap]
    exact congrArg (List.any fields) (funext fun field => any_isNamed_entriesOf _ _)
  rw [fieldsOfEntries, hany]
  rcases h.alike with hunnamed | hnamed
  · rw [if_neg, filterMap_fieldEntries hunnamed]
    rw [List.any_eq_true]
    rintro ⟨field, hfield, hname⟩
    rw [hunnamed field hfield] at hname
    cases hname
  · split
    · exact namedFields_fieldEntries hnamed list
    · next hnone =>
      rw [Bool.not_eq_true, List.any_eq_false] at hnone
      obtain rfl : fields = [] := by
        refine List.eq_nil_iff_forall_not_mem.2 fun field hfield => hnone field hfield ?_
        rw [Bool.not_eq_true', List.isEmpty_eq_false_iff]
        exact hnamed field hfield
      rfl

/-- The entries of fields that are named alike are those fields, wherever they stand. -/
theorem fieldsOfEntries_of_unplaced {fields : List Field} (h : NamedAlike fields)
    {entries : List Entry}
    (hentries : entries.map Entry.unplaced = (fields.flatMap fieldEntries).map Entry.unplaced)
    (list : Span) : fieldsOfEntries entries list = .ok fields := by
  have hfields : (fieldsOfEntries entries list).toOption = some fields := by
    rw [← fieldsOfEntries_toOption list, hentries, fieldsOfEntries_toOption list list,
      fieldsOfEntries_fieldEntries h]
    rfl
  cases hentries : fieldsOfEntries entries list with
  | ok found =>
    rw [hentries] at hfields
    exact congrArg Except.ok (Option.some.inj hfields)
  | error e =>
    rw [hentries] at hfields
    cases hfields

/-! ## Parameters and results -/

theorem readable_entriesOf {names : List String} {type : TypeExpr} (htype : type.item.ReadsBack)
    (hinstance : names = [] → type.isPlainInstance = false) :
    ∀ entry ∈ entriesOf names type, entry.Readable := by
  fun_induction entriesOf names type with
  | case1 name => exact List.forall_mem_singleton.2 trivial
  | case2 type hnamed =>
    refine List.forall_mem_singleton.2 ⟨htype, ?_, hinstance rfl⟩
    cases type <;> first | rfl | exact absurd rfl (hnamed _)
  | case3 name type => exact List.forall_mem_singleton.2 htype
  | case4 name next names type ih =>
    exact List.forall_mem_cons.2 ⟨trivial, ih htype nofun⟩

theorem readParameters_spelled {fields : List Field} (h : IsParameters fields)
    (htypes : ∀ field ∈ fields, field.type.item.ReadsBack) {ts rest : List Token}
    (hspelled : Spelled (bracketed .paren (commas (fieldsKinds fields))) ts rest) :
    Reads (readParameters ts) fields rest := by
  refine ⟨hspelled.suffix, ?_⟩
  obtain ⟨t, us, rfl, hopen, hus⟩ := spelled_cons.1 hspelled
  obtain ⟨mid, hentries, hmid⟩ := spelled_append.1 hus
  obtain ⟨u, vs, rfl, hclose, hvs⟩ := spelled_cons.1 hmid
  obtain rfl := spelled_nil.1 hvs
  rw [commas_fieldsKinds] at hentries
  obtain ⟨found, hfound, hsuffix, hread⟩ := readEntries_spelled
    (List.forall_mem_flatMap.2 fun field hfield =>
      readable_entriesOf (htypes field hfield) (h.noInstance field hfield)) hentries hclose
  rw [readParameters, takeToken_cons hopen]
  change (readEntries us >>= _) = _
  rw [hread]
  change (takeToken (.closing .paren) (u :: vs) >>= _) = _
  rw [takeToken_cons hclose]
  change (fieldsOfEntries found ⟨t.span.start, u.span.stop⟩ >>= _) = _
  rw [fieldsOfEntries_of_unplaced h.toNamedAlike hfound]
  rfl

theorem IsResults.isParameters {fields : List Field} (h : IsResults fields)
    (hbare : isBareResult fields = false) : IsParameters fields := by
  refine ⟨h.toNamedAlike, fun field hfield hnames => ?_⟩
  by_contra hinstance
  rw [Bool.not_eq_false] at hinstance
  obtain rfl := h.soleInstance field hfield hnames hinstance
  obtain ⟨names, type⟩ := field
  obtain rfl : names = [] := hnames
  cases type with
  | generic => cases hbare
  | _ => cases hinstance

theorem readResults_spelled {fields : List Field} (h : IsResults fields)
    (htypes : ∀ field ∈ fields, field.type.item.ReadsBack) {ts rest : List Token}
    (hspelled : Spelled (resultsFrom fields (fieldsKinds fields)) ts rest) (hend : TypeEnds rest) :
    Reads (readResults ts) fields rest := by
  refine ⟨hspelled.suffix, ?_⟩
  rcases resultsFrom_cases fields with ⟨rfl, hkinds⟩ | ⟨type, rfl, hitem, hparen, hkinds⟩ | ⟨hbare, hkinds⟩
  · rw [hkinds] at hspelled
    obtain rfl := spelled_nil.1 hspelled
    have hopen : (current ts).kind ≠ .opening .paren := fun hopen => by
      rw [TypeEnds, hopen] at hend
      cases hend.1
    rw [readResults, if_neg hopen, hend.1]
    rfl
  · have htype := htypes _ List.mem_cons_self
    rw [hkinds] at hspelled
    rw [hitem] at htype
    obtain ⟨kind, hkind, hbegins⟩ := htype.wellFormed.begins
    have hcurrent := hspelled.current kind hkind
    have hopen : (current ts).kind ≠ .opening .paren := fun hopen => by
      rw [hopen] at hcurrent
      exact htype.wellFormed.begins_paren hparen (hcurrent ▸ hkind)
    obtain ⟨hsuffix, hread⟩ := htype.reads hspelled hend
    rw [readResults, if_neg hopen, hcurrent, if_pos hbegins, hread]
    rfl
  · rw [hkinds] at hspelled
    obtain ⟨hsuffix, hread⟩ := readParameters_spelled (h.isParameters hbare) htypes hspelled
    rw [readResults, if_pos (hspelled.current (.opening .paren) rfl), hread]

/-! ## Types -/

theorem TypeEnds.ne_opening {rest : List Token} (h : TypeEnds rest) :
    (current rest).kind ≠ .opening .square := by
  intro hopen
  rw [TypeEnds, hopen] at h
  cases h.1

theorem readMember_spelled {base : TypeExpr} (hname : base.isName = true) {ts rest : List Token}
    (h : Spelled base.kinds ts rest) (hend : (current rest).kind ≠ .dot) :
    ∃ t us name, ts = t :: us ∧ t.kind = .ident name ∧ Reads (readMember name us) base rest := by
  cases base with
  | named name =>
    obtain ⟨t, us, rfl, hkind, hus⟩ := spelled_cons.1 h
    obtain rfl := spelled_nil.1 hus
    refine ⟨t, us, name, rfl, hkind, List.suffix_refl us, ?_⟩
    cases us with
    | nil => rfl
    | cons u us => exact if_neg hend
  | qualified package name =>
    obtain ⟨t, us, rfl, hkind, hus⟩ := spelled_cons.1 h
    obtain ⟨u, vs, rfl, hdot, hvs⟩ := spelled_cons.1 hus
    obtain ⟨v, ws, rfl, hmember, hws⟩ := spelled_cons.1 hvs
    obtain rfl := spelled_nil.1 hws
    refine ⟨t, _, package, rfl, hkind, hus.suffix, ?_⟩
    rw [readMember, if_pos hdot, takeName_cons hmember]
    rfl
  | _ => cases hname

theorem readInstance_none (base : TypeExpr) {rest : List Token}
    (h : (current rest).kind ≠ .opening .square) : Reads (readInstance base rest) base rest := by
  refine ⟨List.suffix_refl rest, ?_⟩
  cases rest with
  | nil =>
    rw [readInstance]
    rfl
  | cons t rest =>
    rw [readInstance]
    exact if_neg h

theorem readInstance_spelled (base : TypeExpr) {args : List TypeExpr}
    (hargs : ∀ arg ∈ args, arg.ReadsBack) {ts rest : List Token}
    (h : Spelled (bracketed .square (commas (typesKinds args))) ts rest) :
    Reads (readInstance base ts) (.generic base args) rest := by
  refine ⟨h.suffix, ?_⟩
  obtain ⟨t, us, rfl, hopen, hus⟩ := spelled_cons.1 h
  obtain ⟨mid, hmid, hlast⟩ := spelled_append.1 hus
  obtain ⟨u, vs, rfl, hclose, hvs⟩ := spelled_cons.1 hlast
  obtain rfl := spelled_nil.1 hvs
  obtain ⟨hsuffix, hread⟩ := readTypeArguments_spelled hargs hmid hclose
  rw [readInstance, if_pos hopen, hread]
  change (takeToken (.closing .square) (u :: vs) >>= _) = _
  rw [takeToken_cons hclose]
  rfl

theorem readType_ident {t : Token} {name : String} (hkind : t.kind = .ident name)
    {base type : TypeExpr} {us mid rest : List Token} (hbase : Reads (readMember name us) base mid)
    (htype : Reads (readInstance base mid) type rest) : Reads (readType (t :: us)) type rest := by
  obtain ⟨hmid, hmember⟩ := hbase
  obtain ⟨hrest, hinstance⟩ := htype
  refine ⟨(hrest.trans hmid).trans (List.suffix_cons t us), ?_⟩
  rw [readType.eq_def]
  simp only [hkind, hmember]
  change (readInstance base mid >>= _) = _
  rw [hinstance]
  rfl

theorem readType_name {base : TypeExpr} (hname : base.isName = true) {ts rest : List Token}
    (h : Spelled base.kinds ts rest) (hend : TypeEnds rest) : Reads (readType ts) base rest := by
  obtain ⟨t, us, name, rfl, hkind, hread⟩ := readMember_spelled hname h hend.2
  exact readType_ident hkind hread (readInstance_none base hend.ne_opening)

theorem readType_generic {base : TypeExpr} (hname : base.isName = true) {args : List TypeExpr}
    (hargs : ∀ arg ∈ args, arg.ReadsBack) {ts rest : List Token}
    (h : Spelled (TypeExpr.kinds (.generic base args)) ts rest) :
    Reads (readType ts) (.generic base args) rest := by
  rw [TypeExpr.kinds] at h
  obtain ⟨mid, hbase, hinstance⟩ := spelled_append.1 h
  have hopen := hinstance.current (.opening .square) rfl
  obtain ⟨t, us, name, rfl, hkind, hread⟩ :=
    readMember_spelled hname hbase (by rw [hopen]; exact nofun)
  exact readType_ident hkind hread (readInstance_spelled base hargs hinstance)

theorem readType_map {key value : TypeExpr} (hkey : key.ReadsBack) (hvalue : value.ReadsBack)
    {ts rest : List Token} (h : Spelled (TypeExpr.kinds (.map key value)) ts rest)
    (hend : TypeEnds rest) : Reads (readType ts) (.map key value) rest := by
  refine ⟨h.suffix, ?_⟩
  obtain ⟨t, us, rfl, hkind, hus⟩ := spelled_cons.1 h
  obtain ⟨mid, hkeys, hvalues⟩ := spelled_append.1 hus
  obtain ⟨u, vs, rfl, hopen, hvs⟩ := spelled_cons.1 hkeys
  obtain ⟨close, hkinds, hclosed⟩ := spelled_append.1 hvs
  obtain ⟨v, ws, rfl, hclose, hws⟩ := spelled_cons.1 hclosed
  obtain rfl := spelled_nil.1 hws
  obtain ⟨hsuffix, hread⟩ := hkey.reads hkinds (typeEnds_of_kind hclose rfl nofun)
  obtain ⟨hsuffix', hread'⟩ := hvalue.reads hvalues hend
  rw [readType.eq_def]
  simp only [hkind, takeToken_cons hopen]
  change (readType vs >>= _) = _
  rw [hread]
  change (takeToken (.closing .square) (v :: ws) >>= _) = _
  rw [takeToken_cons hclose]
  change (readType ws >>= _) = _
  rw [hread']
  rfl

theorem readDirection_eq_both {ts : List Token} (h : (current ts).kind ≠ .arrow) :
    readDirection ts = (.both, Rest.all ts) := by
  cases ts with
  | nil => rfl
  | cons t ts => exact if_neg h

theorem readDirection_eq_send {t : Token} (h : t.kind = .arrow) (ts : List Token) :
    readDirection (t :: ts) = (.send, (Rest.all ts).behind t) :=
  if_pos h

/-- A channel in both directions is told from one that sends by the token behind its keyword. -/
theorem readType_chan {dir : ChanDir} {elem : TypeExpr} (helem : elem.ReadsBack)
    (hdir : dir = .both → elem.isReceiver = false) {ts rest : List Token}
    (h : Spelled (TypeExpr.kinds (.chan dir elem)) ts rest) (hend : TypeEnds rest) :
    Reads (readType ts) (.chan dir elem) rest := by
  refine ⟨h.suffix, ?_⟩
  obtain ⟨mid, hkeyword, hmid⟩ := spelled_append.1 h
  obtain ⟨hsuffix, hread⟩ := helem.reads hmid hend
  cases dir with
  | both =>
    obtain ⟨t, us, rfl, hkind, hus⟩ := spelled_cons.1 hkeyword
    obtain rfl := spelled_nil.1 hus
    obtain ⟨kind, hkind', -⟩ := helem.wellFormed.begins
    have harrow : (current us).kind ≠ .arrow := by
      rw [hmid.current kind hkind']
      rintro rfl
      exact helem.wellFormed.begins_arrow (hdir rfl) hkind'
    rw [readType.eq_def]
    simp only [hkind]
    rw [readDirection_eq_both harrow]
    change (readType us >>= _) = _
    rw [hread]
    rfl
  | send =>
    obtain ⟨t, us, rfl, hkind, hus⟩ := spelled_cons.1 hkeyword
    obtain ⟨u, vs, rfl, harrow, hvs⟩ := spelled_cons.1 hus
    obtain rfl := spelled_nil.1 hvs
    rw [readType.eq_def]
    simp only [hkind]
    rw [readDirection_eq_send harrow]
    change (readType vs >>= _) = _
    rw [hread]
    rfl
  | receive =>
    obtain ⟨t, us, rfl, harrow, hus⟩ := spelled_cons.1 hkeyword
    obtain ⟨u, vs, rfl, hkind, hvs⟩ := spelled_cons.1 hus
    obtain rfl := spelled_nil.1 hvs
    rw [readType.eq_def]
    simp only [harrow, takeToken_cons hkind]
    change (readType vs >>= _) = _
    rw [hread]
    rfl

theorem readType_func {params results : List Field} (hparams : IsParameters params)
    (hparamTypes : ∀ field ∈ params, field.type.item.ReadsBack) (hresults : IsResults results)
    (hresultTypes : ∀ field ∈ results, field.type.item.ReadsBack) {ts rest : List Token}
    (h : Spelled (TypeExpr.kinds (.func params results)) ts rest) (hend : TypeEnds rest) :
    Reads (readType ts) (.func params results) rest := by
  refine ⟨h.suffix, ?_⟩
  rw [TypeExpr.kinds] at h
  obtain ⟨t, us, rfl, hkind, hus⟩ := spelled_cons.1 h
  obtain ⟨mid, hfirst, hsecond⟩ := spelled_append.1 hus
  obtain ⟨hsuffix, hread⟩ := readParameters_spelled hparams hparamTypes hfirst
  obtain ⟨hsuffix', hread'⟩ := readResults_spelled hresults hresultTypes hsecond hend
  rw [readType.eq_def]
  simp only [hkind, hread]
  change (readResults mid >>= _) = _
  rw [hread']
  rfl

theorem readType_array {elem : TypeExpr} (helem : elem.ReadsBack) {ts rest : List Token}
    (h : Spelled (TypeExpr.kinds (.array elem)) ts rest) (hend : TypeEnds rest) :
    Reads (readType ts) (.array elem) rest := by
  refine ⟨h.suffix, ?_⟩
  obtain ⟨mid, hlength, hmid⟩ := spelled_append.1 h
  obtain ⟨t, us, rfl, hkind, hus⟩ := spelled_cons.1 hlength
  obtain ⟨hsuffix, hread⟩ := helem.reads hmid hend
  obtain ⟨hsuffix', hskip⟩ := skipGroup_spelled (by decide) hus t
  obtain ⟨u, vs, rfl, hsize, hvs⟩ := spelled_cons.1 hus
  rw [readType.eq_def]
  simp only [hkind, hsize, hskip]
  change (readType mid >>= _) = _
  rw [hread]
  rfl

/-- **Each well-formed type is read back from its tokens**, by induction on the type. -/
theorem TypeExpr.WellFormed.readsBack {type : TypeExpr} (h : type.WellFormed) : type.ReadsBack := by
  induction h with
  | named hname => exact ⟨.named hname, readType_name rfl⟩
  | qualified hpackage hname => exact ⟨.qualified hpackage hname, readType_name rfl⟩
  | map hkey hvalue ihkey ihvalue => exact ⟨.map hkey hvalue, readType_map ihkey ihvalue⟩
  | chan helem hdir ih => exact ⟨.chan helem hdir, readType_chan ih hdir⟩
  | func hparamTypes hparams hresultTypes hresults ihparams ihresults =>
    exact ⟨.func hparamTypes hparams hresultTypes hresults,
      readType_func hparams ihparams hresults ihresults⟩
  | generic hname hbase hargs ihbase ihargs =>
    exact ⟨.generic hname hbase hargs, fun hspelled _ => readType_generic hname ihargs hspelled⟩
  | array helem ih => exact ⟨.array helem, readType_array ih⟩
  | @pointer elem helem ih =>
    refine ⟨.pointer helem, fun {ts rest} hspelled hend => ⟨hspelled.suffix, ?_⟩⟩
    obtain ⟨t, us, rfl, hkind, hus⟩ := spelled_cons.1 hspelled
    obtain ⟨hsuffix, hread⟩ := ih.reads hus hend
    rw [readType.eq_def]
    simp only [hkind, hread]
    rfl
  | slice helem ih =>
    refine ⟨.slice helem, fun {ts rest} hspelled hend => ⟨hspelled.suffix, ?_⟩⟩
    obtain ⟨t, us, rfl, hopen, hus⟩ := spelled_cons.1 hspelled
    obtain ⟨u, vs, rfl, hclose, hvs⟩ := spelled_cons.1 hus
    obtain ⟨hsuffix, hread⟩ := ih.reads hvs hend
    rw [readType.eq_def]
    simp only [hopen, hclose, hread]
    rfl
  | struct =>
    refine ⟨.struct, fun {ts rest} hspelled hend => ⟨hspelled.suffix, ?_⟩⟩
    obtain ⟨t, us, rfl, hkind, hus⟩ := spelled_cons.1 hspelled
    obtain ⟨hsuffix, hskip⟩ := skipBlock_spelled hus
    rw [readType.eq_def]
    simp only [hkind, hskip]
    rfl
  | interface =>
    refine ⟨.interface, fun {ts rest} hspelled hend => ⟨hspelled.suffix, ?_⟩⟩
    obtain ⟨t, us, rfl, hkind, hus⟩ := spelled_cons.1 hspelled
    obtain ⟨hsuffix, hskip⟩ := skipBlock_spelled hus
    rw [readType.eq_def]
    simp only [hkind, hskip]
    rfl
  | paren hinner ih =>
    refine ⟨.paren hinner, fun {ts rest} hspelled hend => ⟨hspelled.suffix, ?_⟩⟩
    obtain ⟨t, us, rfl, hopen, hus⟩ := spelled_cons.1 hspelled
    obtain ⟨mid, hmid, hlast⟩ := spelled_append.1 hus
    obtain ⟨u, vs, rfl, hclose, hvs⟩ := spelled_cons.1 hlast
    obtain rfl := spelled_nil.1 hvs
    obtain ⟨hsuffix, hread⟩ := ih.reads hmid (typeEnds_of_kind hclose rfl nofun)
    rw [readType.eq_def]
    simp only [hopen, hread]
    change (takeToken (.closing .paren) (u :: vs) >>= _) = _
    rw [takeToken_cons hclose]
    rfl

/-! ## Files -/

theorem takeEnd_cons {t : Token} (h : t.kind = .semicolon) (ts : List Token) :
    takeEnd (t :: ts) = .ok ((Rest.all ts).behind t) := by
  rw [takeEnd, if_pos h]

theorem readReceiver_spelled {receiver : Option Field}
    (h : ∀ field ∈ receiver, WellFormedParameters [field]) (start : Nat) {ts rest : List Token}
    (hspelled : Spelled (receiverKinds receiver) ts rest)
    (hend : (current rest).kind ≠ .opening .paren) :
    Reads (readReceiver start ts) receiver rest := by
  refine ⟨hspelled.suffix, ?_⟩
  cases receiver with
  | none =>
    obtain rfl := spelled_nil.1 hspelled
    rw [readReceiver, if_neg hend]
    rfl
  | some field =>
    have hfield := h field rfl
    have hkinds : fieldKinds field = commas (fieldsKinds [field]) := by
      rw [fieldsKinds_eq_map, List.map_singleton, commas_singleton]
    rw [receiverKinds, Option.elim_some, hkinds] at hspelled
    obtain ⟨hsuffix, hread⟩ := readParameters_spelled hfield.toIsParameters
      (fun field hmem => (hfield.types field hmem).readsBack) hspelled
    rw [readReceiver, if_pos (hspelled.current (.opening .paren) rfl), hread]
    rfl

theorem skipOptional_none {shape : Bracket} {ts : List Token}
    (h : (current ts).kind ≠ .opening shape) : skipOptional shape ts = .ok (false, Rest.all ts) := by
  cases ts with
  | nil => rfl
  | cons t ts => exact if_neg h

theorem skipTypeParameters_spelled {generic : Bool} {ts rest : List Token}
    (h : Spelled (typeParametersKinds generic) ts rest)
    (hend : (current rest).kind ≠ .opening .square) :
    Reads (skipOptional .square ts) generic rest := by
  refine ⟨h.suffix, ?_⟩
  cases generic with
  | false =>
    obtain rfl := spelled_nil.1 h
    rw [skipOptional_none hend]
    rfl
  | true =>
    obtain ⟨t, us, rfl, hopen, hus⟩ := spelled_cons.1 h
    obtain ⟨hsuffix, hskip⟩ := skipGroup_spelled (by decide) hus t
    rw [skipOptional, if_pos hopen, hskip]
    rfl

theorem readFunc_spelled {func : FuncDecl} (h : func.WellFormed) (start : Nat)
    {ts rest : List Token} {u : Token} (hspelled : Spelled func.signature ts (u :: rest))
    (hend : u.kind = .semicolon) : Reads (readFunc start ts) func rest := by
  obtain ⟨afterReceiver, hreceiver, hnamed⟩ := spelled_append.1 hspelled
  obtain ⟨t, us, rfl, hname, hus⟩ := spelled_cons.1 hnamed
  obtain ⟨afterGeneric, hgeneric, hlists⟩ := spelled_append.1 hus
  obtain ⟨afterParams, hparams, hresults⟩ := spelled_append.1 hlists
  have hcurrent : (current (u :: rest)).kind = .semicolon := hend
  obtain ⟨hsuffix, hread⟩ := readReceiver_spelled h.receiver start hreceiver
    (by rw [hnamed.current _ rfl]; exact nofun)
  obtain ⟨hsuffix₁, hread₁⟩ := skipTypeParameters_spelled hgeneric
    (by rw [hparams.current _ rfl]; exact nofun)
  obtain ⟨hsuffix₂, hread₂⟩ := readParameters_spelled h.params.toIsParameters
    (fun field hfield => (h.params.types field hfield).readsBack) hparams
  obtain ⟨hsuffix₃, hread₃⟩ := readResults_spelled h.results.toIsResults
    (fun field hfield => (h.results.types field hfield).readsBack) hresults
    (typeEnds_of_kind hcurrent rfl nofun)
  have hbody : skipOptional .brace (u :: rest) = .ok (false, Rest.all (u :: rest)) :=
    skipOptional_none (by rw [hcurrent]; exact nofun)
  refine ⟨(List.suffix_cons u rest).trans hspelled.suffix, ?_⟩
  rw [readFunc, hread]
  change (takeName (t :: us) >>= _) = _
  rw [takeName_cons hname]
  change (skipOptional .square us >>= _) = _
  rw [hread₁]
  change (readParameters afterGeneric >>= _) = _
  rw [hread₂]
  change (readResults afterParams >>= _) = _
  rw [hread₃]
  change (skipOptional .brace (u :: rest) >>= _) = _
  rw [hbody]
  change (takeEnd (u :: rest) >>= _) = _
  rw [takeEnd_cons hend]
  rfl

theorem readDeclarations_spelled {funcs : List FuncDecl} (h : ∀ func ∈ funcs, func.WellFormed)
    {ts : List Token}
    (hspelled : Spelled (funcs.flatMap (fun func => func.kinds ++ [.semicolon]) ++ [.endOfFile]) ts []) :
    readDeclarations ts = .ok funcs := by
  induction funcs generalizing ts with
  | nil =>
    obtain ⟨t, us, rfl, hkind, hus⟩ := spelled_cons.1 hspelled
    rw [readDeclarations]
    simp only [hkind]
  | cons func funcs ih =>
    rw [List.forall_mem_cons] at h
    rw [List.flatMap_cons, List.append_assoc, List.append_assoc] at hspelled
    obtain ⟨t, us, rfl, hkind, hus⟩ := spelled_cons.1 hspelled
    obtain ⟨mid, hfunc, hmid⟩ := spelled_append.1 hus
    obtain ⟨u, vs, rfl, hend, hvs⟩ := spelled_cons.1 hmid
    obtain ⟨hsuffix, hread⟩ := readFunc_spelled h.1 t.span.start hfunc hend
    rw [readDeclarations]
    simp only [hkind, hread]
    change (readDeclarations vs >>= _) = _
    rw [ih h.2 hvs]
    rfl

theorem ofTokens_spelled {file : SourceFile} (h : file.WellFormed) {tokens : List Token}
    (hkinds : tokens.map Token.kind = file.lines.flatMap (· ++ [.semicolon]) ++ [.endOfFile]) :
    SourceFile.ofTokens tokens = .ok file := by
  obtain ⟨package, funcs⟩ := file
  have hspelled : Spelled _ tokens [] := ⟨tokens, (List.append_nil _).symm, hkinds⟩
  rw [SourceFile.lines, List.flatMap_cons, List.flatMap_map, List.append_assoc] at hspelled
  obtain ⟨t, us, rfl, hkeyword, hus⟩ := spelled_cons.1 hspelled
  obtain ⟨u, vs, rfl, hname, hvs⟩ := spelled_cons.1 hus
  obtain ⟨v, ws, rfl, hend, hws⟩ := spelled_cons.1 hvs
  rw [SourceFile.ofTokens, List.dropWhile_cons_of_neg (by rw [hkeyword]; decide), readSourceFile,
    takeToken_cons hkeyword]
  change (takeName (u :: v :: ws) >>= _) = _
  rw [takeName_cons hname]
  change (takeEnd (v :: ws) >>= _) = _
  rw [takeEnd_cons hend]
  change (readDeclarations ws >>= _) = _
  rw [readDeclarations_spelled h.funcs hws]
  rfl

theorem ofText_print {file : SourceFile} (h : file.WellFormed) :
    SourceFile.ofText file.print = .ok file := by
  obtain ⟨tokens, htokens, hkinds⟩ := tokenize_print h
  rw [SourceFile.ofText, htokens]
  exact ofTokens_spelled h hkinds

end ReactBridge.Go
