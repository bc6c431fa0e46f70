import Mathlib.Tactic.TFAE
import ReactBridge.Proofs.Go.ReadBack

/-!
# What can be read

* `Identifiers ts` : names among the tokens are identifiers, as those of a source are;
* `TypeRead t ts type` : what a type was read from, with the readings of its parts;
* `TypeExpr.wellFormed_of_readType` and its companions : types that are read are well-formed;
* `wellFormed_of_ofText` : so are files;
* `SourceFile.wellFormed_iff` : a file is well-formed just if it is read from some text, and just if
  it is read from its own.
-/

namespace ReactBridge.Go

/-! ## Results of readers -/

theorem bind_eq_ok {ε α β : Type} {result : Except ε α} {next : α → Except ε β} {value : β} :
    result >>= next = .ok value ↔ ∃ first, result = .ok first ∧ next first = .ok value := by
  cases result with
  | error e => exact ⟨nofun, fun ⟨_, h, _⟩ => nomatch h⟩
  | ok first => exact ⟨fun h => ⟨first, rfl, h⟩, fun ⟨_, h, h'⟩ => Except.ok.inj h ▸ h'⟩

theorem exists_of_toOption {ε α β : Type} {result : Except ε α} {view : α → β} {seen : β}
    (h : result.toOption.map view = some seen) : ∃ value, result = .ok value ∧ view value = seen := by
  cases result with
  | error e => cases h
  | ok value => exact ⟨value, rfl, Option.some.inj h⟩

/-- Whether the names among the tokens are identifiers. -/
def Identifiers (ts : List Token) : Prop :=
  ∀ t ∈ ts, ∀ name, t.kind = .ident name → IsIdentifier name

theorem Identifiers.of_suffix {ts us : List Token} (h : Identifiers ts) (hus : us <:+ ts) :
    Identifiers us :=
  fun t ht => h t (hus.subset ht)

theorem Identifiers.behind {t : Token} {ts us : List Token} (h : Identifiers (t :: ts))
    (hus : us <:+ ts) : Identifiers us :=
  h.of_suffix (hus.trans (List.suffix_cons t ts))

theorem Stream.identifiers {before rest : List Char} {tokens : List Token}
    (h : Stream before rest tokens) : Identifiers tokens := by
  induction h with
  | done hgap => exact List.forall_mem_singleton.2 nofun
  | lineEnd hgap hends more ih => exact List.forall_mem_cons.2 ⟨nofun, ih⟩
  | token hgap hspells hends more ih =>
    refine List.forall_mem_cons.2 ⟨fun name hname => ?_, ih⟩
    obtain rfl : _ = Token.Kind.ident name := hname
    exact hspells.2

theorem tokenize_identifiers {source : String} {tokens : List Token}
    (h : tokenize source = .ok tokens) : Identifiers tokens :=
  (stream_of_tokenize h).identifiers

theorem takeName_eq_ok {ts : List Token} {name : String} {rest : Rest ts}
    (h : takeName ts = .ok (name, rest)) (hnames : Identifiers ts) : IsIdentifier name := by
  cases ts with
  | nil => cases h
  | cons t ts =>
    rw [takeName] at h
    split at h
    · next found hkind =>
      obtain ⟨rfl, -⟩ := Prod.mk.inj (Except.ok.inj h)
      exact hnames t List.mem_cons_self found hkind
    · cases h

/-! ## What types are read from -/

/-- How a type is read from `t` and tokens behind it: the readings of its parts. -/
inductive TypeRead (t : Token) (ts : List Token) : TypeExpr → Prop
  | name {name : String} {base type : TypeExpr} {mid : Rest ts} {last : Rest mid.items}
      (hkind : t.kind = .ident name) (hbase : readMember name ts = .ok (base, mid))
      (htype : readInstance base mid.items = .ok (type, last)) : TypeRead t ts type
  | pointer {us : List Token} {elem : TypeExpr} {rest : Rest us} (hus : us <:+ ts)
      (helem : readType us = .ok (elem, rest)) : TypeRead t ts (.pointer elem)
  | slice {us : List Token} {elem : TypeExpr} {rest : Rest us} (hus : us <:+ ts)
      (helem : readType us = .ok (elem, rest)) : TypeRead t ts (.slice elem)
  | array {us : List Token} {elem : TypeExpr} {rest : Rest us} (hus : us <:+ ts)
      (helem : readType us = .ok (elem, rest)) : TypeRead t ts (.array elem)
  | map {us vs : List Token} {key value : TypeExpr} {rest : Rest us} {last : Rest vs}
      (hus : us <:+ ts) (hkey : readType us = .ok (key, rest)) (hvs : vs <:+ ts)
      (hvalue : readType vs = .ok (value, last)) : TypeRead t ts (.map key value)
  | chan {us : List Token} {dir : ChanDir} {elem : TypeExpr} {rest : Rest us} (hus : us <:+ ts)
      (helem : readType us = .ok (elem, rest)) (hboth : dir = .both → (current us).kind ≠ .arrow)
      (hreceive : dir = .receive → t.kind = .arrow) : TypeRead t ts (.chan dir elem)
  | func {us vs : List Token} {params results : List Field} {rest : Rest us} {last : Rest vs}
      (hus : us <:+ ts) (hparams : readParameters us = .ok (params, rest)) (hvs : vs <:+ ts)
      (hresults : readResults vs = .ok (results, last)) : TypeRead t ts (.func params results)
  | struct : TypeRead t ts .struct
  | interface : TypeRead t ts .interface
  | paren {us : List Token} {inner : TypeExpr} {rest : Rest us} (hus : us <:+ ts)
      (hinner : readType us = .ok (inner, rest)) : TypeRead t ts (.paren inner)

theorem readMember_cases {name : String} {ts : List Token} {base : TypeExpr} {rest : Rest ts}
    (h : readMember name ts = .ok (base, rest)) :
    (base = .named name ∧ (current ts).kind ≠ .dot) ∨
      ∃ member, base = .qualified name member ∧ (Identifiers ts → IsIdentifier member) := by
  cases ts with
  | nil =>
    obtain ⟨rfl, -⟩ := Prod.mk.inj (Except.ok.inj h)
    exact .inl ⟨rfl, nofun⟩
  | cons t ts =>
    rw [readMember] at h
    split at h
    · obtain ⟨⟨member, last⟩, hmember, h⟩ := bind_eq_ok.1 h
      obtain ⟨rfl, -⟩ := Prod.mk.inj (Except.ok.inj h)
      exact .inr ⟨member, rfl, fun hnames =>
        takeName_eq_ok hmember (hnames.behind (List.suffix_refl ts))⟩
    · next hdot =>
      obtain ⟨rfl, -⟩ := Prod.mk.inj (Except.ok.inj h)
      exact .inl ⟨rfl, hdot⟩

theorem readInstance_cases {base type : TypeExpr} {ts : List Token} {rest : Rest ts}
    (h : readInstance base ts = .ok (type, rest)) :
    type = base ∨ ∃ t us args, ∃ inner : Rest us, ts = t :: us ∧ type = .generic base args ∧
      readTypeArguments us = .ok (args, inner) := by
  cases ts with
  | nil =>
    rw [readInstance] at h
    obtain ⟨rfl, -⟩ := Prod.mk.inj (Except.ok.inj h)
    exact .inl rfl
  | cons t ts =>
    rw [readInstance] at h
    split at h
    · obtain ⟨⟨args, inner⟩, hargs, h⟩ := bind_eq_ok.1 h
      obtain ⟨_, _, h⟩ := bind_eq_ok.1 h
      obtain ⟨rfl, -⟩ := Prod.mk.inj (Except.ok.inj h)
      exact .inr ⟨t, ts, args, inner, rfl, rfl, hargs⟩
    · obtain ⟨rfl, -⟩ := Prod.mk.inj (Except.ok.inj h)
      exact .inl rfl

theorem readDirection_cases (ts : List Token) :
    ((readDirection ts).1 = .both ∧ (current (readDirection ts).2.items).kind ≠ .arrow) ∨
      (readDirection ts).1 = .send := by
  cases ts with
  | nil => exact .inl ⟨rfl, nofun⟩
  | cons t ts =>
    rw [readDirection]
    split
    · exact .inr rfl
    · next h => exact .inl ⟨rfl, h⟩

theorem typeRead_of_opening {t : Token} {ts : List Token} {type : TypeExpr}
    {rest : Rest (t :: ts)} {shape : Bracket} (hkind : t.kind = .opening shape)
    (h : readType (t :: ts) = .ok (type, rest)) : TypeRead t ts type := by
  rw [readType.eq_def] at h
  cases shape with
  | square =>
    simp only [hkind] at h
    cases ts with
    | nil => cases h
    | cons u us =>
      dsimp only at h
      split at h
      · obtain ⟨⟨elem, rest⟩, helem, h⟩ := bind_eq_ok.1 h
        obtain ⟨rfl, -⟩ := Prod.mk.inj (Except.ok.inj h)
        exact .slice (List.suffix_cons u us) helem
      · obtain ⟨size, -, h⟩ := bind_eq_ok.1 h
        obtain ⟨⟨elem, rest⟩, helem, h⟩ := bind_eq_ok.1 h
        obtain ⟨rfl, -⟩ := Prod.mk.inj (Except.ok.inj h)
        exact .array size.isSuffix helem
  | paren =>
    simp only [hkind] at h
    obtain ⟨⟨inner, rest⟩, hinner, h⟩ := bind_eq_ok.1 h
    obtain ⟨_, _, h⟩ := bind_eq_ok.1 h
    obtain ⟨rfl, -⟩ := Prod.mk.inj (Except.ok.inj h)
    exact .paren (List.suffix_refl ts) hinner
  | brace =>
    simp only [hkind] at h
    cases h

theorem typeRead_of_keyword {t : Token} {ts : List Token} {type : TypeExpr}
    {rest : Rest (t :: ts)} {word : Keyword} (hkind : t.kind = .keyword word)
    (h : readType (t :: ts) = .ok (type, rest)) : TypeRead t ts type := by
  rw [readType.eq_def] at h
  cases word with
  | map =>
    simp only [hkind] at h
    obtain ⟨⟨_, opened⟩, _, h⟩ := bind_eq_ok.1 h
    obtain ⟨⟨key, rest⟩, hkey, h⟩ := bind_eq_ok.1 h
    obtain ⟨⟨_, close⟩, _, h⟩ := bind_eq_ok.1 h
    obtain ⟨⟨value, last⟩, hvalue, h⟩ := bind_eq_ok.1 h
    obtain ⟨rfl, -⟩ := Prod.mk.inj (Except.ok.inj h)
    exact .map opened.isSuffix hkey ((close.isSuffix.trans rest.isSuffix).trans opened.isSuffix) hvalue
  | chan =>
    simp only [hkind] at h
    obtain ⟨⟨elem, rest⟩, helem, h⟩ := bind_eq_ok.1 h
    obtain ⟨rfl, -⟩ := Prod.mk.inj (Except.ok.inj h)
    refine .chan (readDirection ts).2.isSuffix helem ?_ ?_
    · rcases readDirection_cases ts with ⟨-, hnext⟩ | hsend
      · exact fun _ => hnext
      · intro hboth
        cases hsend.symm.trans hboth
    · intro hreceive
      rcases readDirection_cases ts with ⟨hboth, -⟩ | hsend
      · cases hboth.symm.trans hreceive
      · cases hsend.symm.trans hreceive
  | func =>
    simp only [hkind] at h
    obtain ⟨⟨params, rest⟩, hparams, h⟩ := bind_eq_ok.1 h
    obtain ⟨⟨results, last⟩, hresults, h⟩ := bind_eq_ok.1 h
    obtain ⟨rfl, -⟩ := Prod.mk.inj (Except.ok.inj h)
    exact .func (List.suffix_refl ts) hparams rest.isSuffix hresults
  | struct =>
    simp only [hkind] at h
    obtain ⟨rest, -, h⟩ := bind_eq_ok.1 h
    obtain ⟨rfl, -⟩ := Prod.mk.inj (Except.ok.inj h)
    exact .struct
  | interface =>
    simp only [hkind] at h
    obtain ⟨rest, -, h⟩ := bind_eq_ok.1 h
    obtain ⟨rfl, -⟩ := Prod.mk.inj (Except.ok.inj h)
    exact .interface
  | _ =>
    simp only [hkind] at h
    cases h

theorem typeRead_of_readType {t : Token} {ts : List Token} {type : TypeExpr} {rest : Rest (t :: ts)}
    (h : readType (t :: ts) = .ok (type, rest)) : TypeRead t ts type := by
  cases hkind : t.kind with
  | ident name =>
    rw [readType.eq_def] at h
    simp only [hkind] at h
    obtain ⟨⟨base, mid⟩, hbase, h⟩ := bind_eq_ok.1 h
    obtain ⟨⟨found, last⟩, hfound, h⟩ := bind_eq_ok.1 h
    obtain ⟨rfl, -⟩ := Prod.mk.inj (Except.ok.inj h)
    exact .name hkind hbase hfound
  | star =>
    rw [readType.eq_def] at h
    simp only [hkind] at h
    obtain ⟨⟨elem, rest⟩, helem, h⟩ := bind_eq_ok.1 h
    obtain ⟨rfl, -⟩ := Prod.mk.inj (Except.ok.inj h)
    exact .pointer (List.suffix_refl ts) helem
  | arrow =>
    rw [readType.eq_def] at h
    simp only [hkind] at h
    obtain ⟨⟨_, opened⟩, _, h⟩ := bind_eq_ok.1 h
    obtain ⟨⟨elem, rest⟩, helem, h⟩ := bind_eq_ok.1 h
    obtain ⟨rfl, -⟩ := Prod.mk.inj (Except.ok.inj h)
    exact .chan opened.isSuffix helem nofun fun _ => hkind
  | opening shape => exact typeRead_of_opening hkind h
  | keyword word => exact typeRead_of_keyword hkind h
  | _ =>
    rw [readType.eq_def] at h
    simp only [hkind] at h
    cases h

theorem TypeRead.arrow {t : Token} {ts : List Token} {type : TypeExpr} (h : TypeRead t ts type)
    (hreceiver : type.isReceiver = true) : t.kind = .arrow := by
  cases h with
  | name hkind hbase htype =>
    rcases readInstance_cases htype with rfl | ⟨-, -, args, -, -, rfl, -⟩
    · rcases readMember_cases hbase with ⟨rfl, -⟩ | ⟨member, rfl, -⟩
      · cases hreceiver
      · cases hreceiver
    · cases hreceiver
  | @chan us dir elem rest hus helem hboth hreceive =>
    cases dir with
    | receive => exact hreceive rfl
    | both | send => cases hreceiver
  | _ => cases hreceiver

/-- What starts with a qualified name or with none is neither a plain name nor an instance of
one. -/
theorem TypeRead.unnamed {t : Token} {ts : List Token} {type : TypeExpr} (h : TypeRead t ts type)
    (hname : ∀ name, t.kind = .ident name → (current ts).kind = .dot) :
    type.simpleName? = none ∧ type.isPlainInstance = false := by
  cases h with
  | name hkind hbase htype =>
    rcases readMember_cases hbase with ⟨-, hdot⟩ | ⟨member, rfl, -⟩
    · exact absurd (hname _ hkind) hdot
    rcases readInstance_cases htype with rfl | ⟨-, -, args, -, -, rfl, -⟩
    · exact ⟨rfl, rfl⟩
    · exact ⟨rfl, rfl⟩
  | _ => exact ⟨rfl, rfl⟩

/-! ## What is read is well-formed -/

/-- Whether the entry can be a part of a well-formed field. -/
def Entry.WellFormed : Entry → Prop
  | bare name _ => IsIdentifier name
  | named name type => IsIdentifier name ∧ type.item.WellFormed
  | unnamed type =>
    type.item.WellFormed ∧ type.simpleName? = none ∧ type.isPlainInstance = false

theorem wellFormed_of_unnamedField? {entry : Entry} (h : entry.WellFormed) {field : Field}
    (hfield : entry.unnamedField? = some field) :
    field.names = [] ∧ field.type.isPlainInstance = false ∧ field.type.item.WellFormed := by
  cases entry with
  | bare name span =>
    obtain rfl := Option.some.inj hfield
    exact ⟨rfl, rfl, .named h⟩
  | named name type => cases hfield
  | unnamed type =>
    obtain rfl := Option.some.inj hfield
    exact ⟨rfl, h.2.2, h.1⟩

theorem wellFormed_of_namedFields {entries : List Entry} (h : ∀ entry ∈ entries, entry.WellFormed)
    {list : Span} {waiting : List String} (hwaiting : ∀ name ∈ waiting, IsIdentifier name)
    {last : Option Span} {fields : List Field}
    (hfields : namedFields list waiting last entries = .ok fields) :
    ∀ field ∈ fields, field.names ≠ [] ∧ (∀ name ∈ field.names, IsIdentifier name) ∧
      field.type.item.WellFormed := by
  induction entries generalizing waiting last fields with
  | nil =>
    cases last with
    | some span => cases hfields
    | none =>
      obtain rfl := Except.ok.inj hfields
      exact List.forall_mem_nil _
  | cons entry entries ih =>
    rw [List.forall_mem_cons] at h
    obtain ⟨hentry, h⟩ := h
    cases entry with
    | bare name span =>
      refine ih h ?_ hfields
      rw [List.forall_mem_append, List.forall_mem_singleton]
      exact ⟨hwaiting, hentry⟩
    | unnamed type => cases hfields
    | named name type =>
      rw [namedFields] at hfields
      split at hfields
      · next others hothers =>
        obtain rfl := Except.ok.inj hfields
        refine List.forall_mem_cons.2 ⟨⟨by simp, ?_, hentry.2⟩, ih h (List.forall_mem_nil _) hothers⟩
        rw [List.forall_mem_append, List.forall_mem_singleton]
        exact ⟨hwaiting, hentry.1⟩
      · cases hfields

theorem wellFormed_of_fieldsOfEntries {entries : List Entry}
    (h : ∀ entry ∈ entries, entry.WellFormed) {list : Span} {fields : List Field}
    (hfields : fieldsOfEntries entries list = .ok fields) : WellFormedParameters fields := by
  rw [fieldsOfEntries] at hfields
  split at hfields
  · have hall := wellFormed_of_namedFields h (List.forall_mem_nil _) hfields
    exact ⟨⟨⟨fun field hfield => (hall field hfield).2.1,
      .inr fun field hfield => (hall field hfield).1⟩,
      fun field hfield hnone => absurd hnone (hall field hfield).1⟩,
      fun field hfield => (hall field hfield).2.2⟩
  · obtain rfl := Except.ok.inj hfields
    have hall : ∀ field ∈ entries.filterMap Entry.unnamedField?,
        field.names = [] ∧ field.type.isPlainInstance = false ∧ field.type.item.WellFormed := by
      intro field hfield
      obtain ⟨entry, hentry, hfield⟩ := List.mem_filterMap.1 hfield
      exact wellFormed_of_unnamedField? (h entry hentry) hfield
    refine ⟨⟨⟨fun field hfield name hname => ?_, .inl fun field hfield => (hall field hfield).1⟩,
      fun field hfield _ => (hall field hfield).2.1⟩, fun field hfield => (hall field hfield).2.2⟩
    rw [(hall field hfield).1] at hname
    cases hname

theorem wellFormed_of_readMember {name : String} (hname : IsIdentifier name) {ts : List Token}
    (hnames : Identifiers ts) {base : TypeExpr} {rest : Rest ts}
    (h : readMember name ts = .ok (base, rest)) : base.isName = true ∧ base.WellFormed := by
  rcases readMember_cases h with ⟨rfl, -⟩ | ⟨member, rfl, hmember⟩
  · exact ⟨rfl, .named hname⟩
  · exact ⟨rfl, .qualified hname (hmember hnames)⟩

mutual

theorem wellFormed_of_readType {ts : List Token} (hnames : Identifiers ts) {type : TypeExpr}
    {rest : Rest ts} (h : readType ts = .ok (type, rest)) : type.WellFormed := by
  cases ts with
  | nil =>
    rw [readType] at h
    cases h
  | cons t ts =>
  cases typeRead_of_readType h with
  | @name name base type mid last hkind hbase htype =>
    obtain ⟨hname, hbase⟩ := wellFormed_of_readMember (hnames t List.mem_cons_self name hkind)
      (hnames.behind (List.suffix_refl ts)) hbase
    rcases readInstance_cases htype with rfl | ⟨u, us, args, inner, hmid, rfl, hargs⟩
    · exact hbase
    · have hus : us <:+ ts := (hmid ▸ List.suffix_cons u us).trans mid.isSuffix
      exact .generic hname hbase (wellFormed_of_readTypeArguments (hnames.behind hus) hargs)
  | pointer hus helem => exact .pointer (wellFormed_of_readType (hnames.behind hus) helem)
  | slice hus helem => exact .slice (wellFormed_of_readType (hnames.behind hus) helem)
  | array hus helem => exact .array (wellFormed_of_readType (hnames.behind hus) helem)
  | map hus hkey hvs hvalue =>
    exact .map (wellFormed_of_readType (hnames.behind hus) hkey)
      (wellFormed_of_readType (hnames.behind hvs) hvalue)
  | @chan us dir elem rest hus helem hboth hreceive =>
    refine .chan (wellFormed_of_readType (hnames.behind hus) helem) fun hdir => ?_
    rw [Bool.eq_false_iff]
    intro hreceiver
    cases us with
    | nil =>
      rw [readType] at helem
      cases helem
    | cons u us => exact hboth hdir ((typeRead_of_readType helem).arrow hreceiver)
  | func hus hparams hvs hresults =>
    obtain ⟨hparamNames, hparamTypes⟩ := wellFormed_of_readParameters (hnames.behind hus) hparams
    obtain ⟨hresultNames, hresultTypes⟩ := wellFormed_of_readResults (hnames.behind hvs) hresults
    exact .func hparamTypes hparamNames hresultTypes hresultNames
  | struct => exact .struct
  | interface => exact .interface
  | paren hus hinner => exact .paren (wellFormed_of_readType (hnames.behind hus) hinner)
  termination_by 5 * ts.length
  decreasing_by all_goals grind [List.IsSuffix.length_le]

theorem wellFormed_of_readTypeArguments {ts : List Token} (hnames : Identifiers ts)
    {args : List TypeExpr} {rest : Rest ts} (h : readTypeArguments ts = .ok (args, rest)) :
    ∀ arg ∈ args, arg.WellFormed := by
  rw [readTypeArguments] at h
  split at h
  · obtain ⟨rfl, -⟩ := Prod.mk.inj (Except.ok.inj h)
    exact List.forall_mem_nil _
  · obtain ⟨⟨arg, rest⟩, harg, h⟩ := bind_eq_ok.1 h
    have hfirst := wellFormed_of_readType hnames harg
    obtain ⟨items, hitems⟩ := rest
    cases items with
    | nil =>
      obtain ⟨rfl, -⟩ := Prod.mk.inj (Except.ok.inj h)
      exact List.forall_mem_singleton.2 hfirst
    | cons t us =>
      dsimp only at h
      split at h
      · obtain ⟨⟨others, last⟩, hothers, h⟩ := bind_eq_ok.1 h
        obtain ⟨rfl, -⟩ := Prod.mk.inj (Except.ok.inj h)
        have hus : us <:+ ts := (List.suffix_cons t us).trans hitems
        exact List.forall_mem_cons.2
          ⟨hfirst, wellFormed_of_readTypeArguments (hnames.of_suffix hus) hothers⟩
      · obtain ⟨rfl, -⟩ := Prod.mk.inj (Except.ok.inj h)
        exact List.forall_mem_singleton.2 hfirst
  termination_by 5 * ts.length + 1
  decreasing_by all_goals grind [List.IsSuffix.length_le]

theorem wellFormed_of_readParameters {ts : List Token} (hnames : Identifiers ts)
    {fields : List Field} {rest : Rest ts} (h : readParameters ts = .ok (fields, rest)) :
    WellFormedParameters fields := by
  rw [readParameters] at h
  obtain ⟨⟨opened, start⟩, _, h⟩ := bind_eq_ok.1 h
  obtain ⟨⟨entries, behind⟩, hentries, h⟩ := bind_eq_ok.1 h
  obtain ⟨⟨close, last⟩, _, h⟩ := bind_eq_ok.1 h
  obtain ⟨found, hfound, h⟩ := bind_eq_ok.1 h
  obtain ⟨rfl, -⟩ := Prod.mk.inj (Except.ok.inj h)
  have := start.length_le
  exact wellFormed_of_fieldsOfEntries
    (wellFormed_of_readEntries (hnames.of_suffix start.isSuffix) hentries) hfound
  termination_by 5 * ts.length + 3

theorem wellFormed_of_readEntries {ts : List Token} (hnames : Identifiers ts)
    {entries : List Entry} {rest : Rest ts} (h : readEntries ts = .ok (entries, rest)) :
    ∀ entry ∈ entries, entry.WellFormed := by
  rw [readEntries] at h
  split at h
  · obtain ⟨rfl, -⟩ := Prod.mk.inj (Except.ok.inj h)
    exact List.forall_mem_nil _
  · obtain ⟨⟨entry, rest⟩, hentry, h⟩ := bind_eq_ok.1 h
    have hfirst := wellFormed_of_readEntry hnames hentry
    obtain ⟨items, hitems⟩ := rest
    cases items with
    | nil =>
      obtain ⟨rfl, -⟩ := Prod.mk.inj (Except.ok.inj h)
      exact List.forall_mem_singleton.2 hfirst
    | cons t us =>
      dsimp only at h
      split at h
      · obtain ⟨⟨others, last⟩, hothers, h⟩ := bind_eq_ok.1 h
        obtain ⟨rfl, -⟩ := Prod.mk.inj (Except.ok.inj h)
        have hus : us <:+ ts := (List.suffix_cons t us).trans hitems
        exact List.forall_mem_cons.2
          ⟨hfirst, wellFormed_of_readEntries (hnames.of_suffix hus) hothers⟩
      · obtain ⟨rfl, -⟩ := Prod.mk.inj (Except.ok.inj h)
        exact List.forall_mem_singleton.2 hfirst
  termination_by 5 * ts.length + 2
  decreasing_by all_goals grind [List.IsSuffix.length_le]

theorem wellFormed_of_readEntry {ts : List Token} (hnames : Identifiers ts) {entry : Entry}
    {rest : Rest ts} (h : readEntry ts = .ok (entry, rest)) : entry.WellFormed := by
  cases ts with
  | nil =>
    rw [readEntry] at h
    cases h
  | cons t ts =>
  have hunnamed : ∀ {type : TypeExpr} {last : Rest (t :: ts)},
      readType (t :: ts) = .ok (type, last) →
        (∀ name, t.kind = .ident name → (current ts).kind = .dot) →
        (Entry.unnamed type).WellFormed := fun htype hname =>
    ⟨(wellFormed_of_readType hnames htype).item, (typeRead_of_readType htype).unnamed hname⟩
  rw [readEntry] at h
  split at h
  · next name hkind =>
    have hname := hnames t List.mem_cons_self name hkind
    split at h
    · next hdot =>
      obtain ⟨⟨type, last⟩, htype, h⟩ := bind_eq_ok.1 h
      obtain ⟨rfl, -⟩ := Prod.mk.inj (Except.ok.inj h)
      exact hunnamed htype fun _ _ => hdot
    · obtain ⟨rfl, -⟩ := Prod.mk.inj (Except.ok.inj h)
      exact hname
    · obtain ⟨rfl, -⟩ := Prod.mk.inj (Except.ok.inj h)
      exact hname
    · obtain ⟨⟨_, dots⟩, _, h⟩ := bind_eq_ok.1 h
      obtain ⟨⟨elem, last⟩, helem, h⟩ := bind_eq_ok.1 h
      obtain ⟨rfl, -⟩ := Prod.mk.inj (Except.ok.inj h)
      exact ⟨hname, wellFormed_of_readType (hnames.behind dots.isSuffix) helem⟩
    · obtain ⟨⟨type, last⟩, htype, h⟩ := bind_eq_ok.1 h
      obtain ⟨rfl, -⟩ := Prod.mk.inj (Except.ok.inj h)
      exact ⟨hname, (wellFormed_of_readType (hnames.behind (List.suffix_refl ts)) htype).item⟩
  · obtain ⟨⟨elem, last⟩, helem, h⟩ := bind_eq_ok.1 h
    obtain ⟨rfl, -⟩ := Prod.mk.inj (Except.ok.inj h)
    exact ⟨wellFormed_of_readType (hnames.behind (List.suffix_refl ts)) helem, rfl, rfl⟩
  · next hident _ =>
    obtain ⟨⟨type, last⟩, htype, h⟩ := bind_eq_ok.1 h
    obtain ⟨rfl, -⟩ := Prod.mk.inj (Except.ok.inj h)
    exact hunnamed htype fun name hname => absurd hname (hident name)
  termination_by 5 * ts.length + 1
  decreasing_by all_goals grind

theorem wellFormed_of_readResults {ts : List Token} (hnames : Identifiers ts)
    {fields : List Field} {rest : Rest ts} (h : readResults ts = .ok (fields, rest)) :
    WellFormedResults fields := by
  rw [readResults] at h
  split at h
  · obtain ⟨hparams, htypes⟩ := wellFormed_of_readParameters hnames h
    exact ⟨⟨hparams.toNamedAlike, fun field hfield hnone hinstance =>
      nomatch hinstance.symm.trans (hparams.noInstance field hfield hnone)⟩, htypes⟩
  split at h
  · obtain ⟨⟨type, last⟩, htype, h⟩ := bind_eq_ok.1 h
    obtain ⟨rfl, -⟩ := Prod.mk.inj (Except.ok.inj h)
    exact wellFormedResults_singleton (wellFormed_of_readType hnames htype)
  · obtain ⟨rfl, -⟩ := Prod.mk.inj (Except.ok.inj h)
    exact wellFormedResults_nil
  termination_by 5 * ts.length + 4
  decreasing_by all_goals grind

end

/-! ## Files -/

theorem WellFormedParameters.of_subset {fields others : List Field} (h : WellFormedParameters fields)
    (hothers : others ⊆ fields) : WellFormedParameters others where
  identifiers field hfield := h.identifiers field (hothers hfield)
  alike := h.alike.imp (fun hnone field hfield => hnone field (hothers hfield))
    fun hsome field hfield => hsome field (hothers hfield)
  noInstance field hfield := h.noInstance field (hothers hfield)
  types field hfield := h.types field (hothers hfield)

theorem wellFormed_of_readReceiver {start : Nat} {ts : List Token} (hnames : Identifiers ts)
    {receiver : Option Field} {rest : Rest ts} (h : readReceiver start ts = .ok (receiver, rest)) :
    ∀ field ∈ receiver, WellFormedParameters [field] := by
  rw [readReceiver] at h
  split at h
  · obtain ⟨⟨fields, last⟩, hfields, h⟩ := bind_eq_ok.1 h
    have hwf := wellFormed_of_readParameters hnames hfields
    cases fields with
    | nil => cases h
    | cons field fields =>
      obtain ⟨rfl, -⟩ := Prod.mk.inj (Except.ok.inj h)
      intro first hfirst
      obtain rfl := Option.some.inj hfirst
      exact hwf.of_subset (List.cons_subset.2 ⟨List.mem_cons_self, List.nil_subset _⟩)
  · obtain ⟨rfl, -⟩ := Prod.mk.inj (Except.ok.inj h)
    intro field hfield
    cases hfield

theorem wellFormed_of_readFunc {start : Nat} {ts : List Token} (hnames : Identifiers ts)
    {func : FuncDecl} {rest : Rest ts} (h : readFunc start ts = .ok (func, rest)) :
    func.WellFormed := by
  rw [readFunc] at h
  obtain ⟨⟨receiver, afterReceiver⟩, hreceiver, h⟩ := bind_eq_ok.1 h
  obtain ⟨⟨name, afterName⟩, hname, h⟩ := bind_eq_ok.1 h
  obtain ⟨⟨generic, afterGeneric⟩, _, h⟩ := bind_eq_ok.1 h
  obtain ⟨⟨params, afterParams⟩, hparams, h⟩ := bind_eq_ok.1 h
  obtain ⟨⟨results, afterResults⟩, hresults, h⟩ := bind_eq_ok.1 h
  obtain ⟨⟨body, afterBody⟩, _, h⟩ := bind_eq_ok.1 h
  obtain ⟨last, _, h⟩ := bind_eq_ok.1 h
  obtain ⟨rfl, -⟩ := Prod.mk.inj (Except.ok.inj h)
  have hafterReceiver := hnames.of_suffix afterReceiver.isSuffix
  have hafterName := hafterReceiver.of_suffix afterName.isSuffix
  have hafterGeneric := hafterName.of_suffix afterGeneric.isSuffix
  have hafterParams := hafterGeneric.of_suffix afterParams.isSuffix
  exact ⟨takeName_eq_ok hname hafterReceiver, wellFormed_of_readReceiver hnames hreceiver,
    wellFormed_of_readParameters hafterGeneric hparams,
    wellFormed_of_readResults hafterParams hresults⟩

theorem wellFormed_of_readDeclarations {ts : List Token} (hnames : Identifiers ts)
    {funcs : List FuncDecl} (h : readDeclarations ts = .ok funcs) :
    ∀ func ∈ funcs, func.WellFormed := by
  cases ts with
  | nil =>
    rw [readDeclarations] at h
    obtain rfl := Except.ok.inj h
    exact List.forall_mem_nil _
  | cons t ts =>
  rw [readDeclarations] at h
  split at h
  · obtain rfl := Except.ok.inj h
    exact List.forall_mem_nil _
  · exact wellFormed_of_readDeclarations (hnames.behind (List.suffix_refl ts)) h
  · obtain ⟨rest, _, h⟩ := bind_eq_ok.1 h
    exact wellFormed_of_readDeclarations (hnames.behind rest.isSuffix) h
  · obtain ⟨⟨func, rest⟩, hfunc, h⟩ := bind_eq_ok.1 h
    obtain ⟨others, hothers, h⟩ := bind_eq_ok.1 h
    obtain rfl := Except.ok.inj h
    exact List.forall_mem_cons.2 ⟨wellFormed_of_readFunc (hnames.behind (List.suffix_refl ts)) hfunc,
      wellFormed_of_readDeclarations (hnames.behind rest.isSuffix) hothers⟩
  · obtain ⟨rest, _, h⟩ := bind_eq_ok.1 h
    exact wellFormed_of_readDeclarations (hnames.behind rest.isSuffix) h
  · obtain ⟨rest, _, h⟩ := bind_eq_ok.1 h
    exact wellFormed_of_readDeclarations (hnames.behind rest.isSuffix) h
  · obtain ⟨rest, _, h⟩ := bind_eq_ok.1 h
    exact wellFormed_of_readDeclarations (hnames.behind rest.isSuffix) h
  · cases h
  termination_by ts.length
  decreasing_by all_goals grind

theorem wellFormed_of_ofText {source : String} {file : SourceFile}
    (h : SourceFile.ofText source = .ok file) : file.WellFormed := by
  rw [SourceFile.ofText] at h
  split at h
  · next tokens htokens =>
    have hnames := (tokenize_identifiers htokens).of_suffix
      (List.dropWhile_suffix fun t => decide (t.kind = .semicolon))
    rw [SourceFile.ofTokens, readSourceFile] at h
    obtain ⟨⟨_, afterKeyword⟩, _, h⟩ := bind_eq_ok.1 h
    obtain ⟨⟨package, afterName⟩, hpackage, h⟩ := bind_eq_ok.1 h
    obtain ⟨afterClause, _, h⟩ := bind_eq_ok.1 h
    obtain ⟨funcs, hfuncs, h⟩ := bind_eq_ok.1 h
    obtain rfl := Except.ok.inj h
    have hafterKeyword := hnames.of_suffix afterKeyword.isSuffix
    have hafterName := hafterKeyword.of_suffix afterName.isSuffix
    exact ⟨takeName_eq_ok hpackage hafterKeyword,
      wellFormed_of_readDeclarations (hafterName.of_suffix afterClause.isSuffix) hfuncs⟩
  · cases h

/-- **The files that can be read are the well-formed ones, and each is read back from its own
text.** -/
theorem SourceFile.wellFormed_tfae (file : SourceFile) :
    List.TFAE [file.WellFormed, SourceFile.ofText file.print = .ok file,
      ∃ source, SourceFile.ofText source = .ok file] := by
  tfae_have 1 → 2 := ofText_print
  tfae_have 2 → 3 := fun h => ⟨file.print, h⟩
  tfae_have 3 → 1 := fun ⟨_, h⟩ => wellFormed_of_ofText h
  tfae_finish

end ReactBridge.Go
