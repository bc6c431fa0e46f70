import ReactBridge.Proofs.Go.ReadBack
import ReactBridge.Proofs.Go.Routine

/-!
# Instances of generic types in lists

An instance `G[T]` is read as a type where a type has to stand. An entry of a list in parentheses can
start with a name, though: there `G` is taken for the name of a field, and `[T]` for the length of an
array, whose elements are missed behind it.

* `IsLevel` : tokens that close each group that they open (`TypeExpr.WellFormed.isLevel`);
* `readEntry_instance` : an entry that is an instance is refused;
* `HoldsInstance` : lists of types with such an entry (`readParameters_of_holdsInstance`);
* `readFunc_of_holdsInstance` : so are functions with such a list;
* `ofText_instance` : one instance by itself, as the type of a name, and in a list of types.
-/

namespace ReactBridge.Go

/-! ## Closed groups -/

/-- Whether the tokens leave as many groups open as there were ahead of them, and close none of
these. -/
def IsLevel (kinds : List Token.Kind) : Prop :=
  ∀ depth ts rest, Spelled kinds ts rest → behindBrackets depth ts = behindBrackets depth rest

namespace IsLevel

theorem nil : IsLevel [] := by
  intro depth ts rest h
  rw [spelled_nil.1 h]

theorem append {kinds more : List Token.Kind} (h : IsLevel kinds) (hmore : IsLevel more) :
    IsLevel (kinds ++ more) := by
  intro depth ts rest hspelled
  obtain ⟨mid, hkinds, hrest⟩ := spelled_append.1 hspelled
  rw [h depth ts mid hkinds, hmore depth mid rest hrest]

theorem cons {kind : Token.Kind} (hkind : ∀ depth, kind.levelBehind depth = some (some depth))
    {kinds : List Token.Kind} (h : IsLevel kinds) : IsLevel (kind :: kinds) := by
  intro depth ts rest hspelled
  obtain ⟨t, us, rfl, rfl, hus⟩ := spelled_cons.1 hspelled
  rw [behindBrackets_cons, hkind]
  exact h depth us rest hus

theorem bracketed (shape : Bracket) {kinds : List Token.Kind} (h : IsLevel kinds) :
    IsLevel (bracketed shape kinds) := by
  intro depth ts rest hspelled
  obtain ⟨t, us, rfl, hopen, hus⟩ := spelled_cons.1 hspelled
  obtain ⟨mid, hkinds, hmid⟩ := spelled_append.1 hus
  obtain ⟨u, vs, rfl, hclose, hvs⟩ := spelled_cons.1 hmid
  obtain rfl := spelled_nil.1 hvs
  rw [behindBrackets_cons, hopen]
  change behindBrackets (depth + 1) us = _
  rw [h _ us _ hkinds, behindBrackets_cons, hclose]
  rfl

theorem commas {parts : List (List Token.Kind)} (h : ∀ part ∈ parts, IsLevel part) :
    IsLevel (commas parts) := by
  induction parts with
  | nil => exact nil
  | cons part parts ih =>
    rw [List.forall_mem_cons] at h
    cases parts with
    | nil =>
      rw [commas_singleton]
      exact h.1
    | cons next parts =>
      rw [commas_cons_cons]
      exact h.1.append (cons (fun _ => rfl) (ih h.2))

theorem fieldsKinds {fields : List Field} (h : ∀ field ∈ fields, IsLevel field.type.item.kinds) :
    ∀ part ∈ fieldsKinds fields, IsLevel part := by
  rw [fieldsKinds_eq_map, List.forall_mem_map]
  intro field hfield
  have hnames : ∀ part ∈ field.names.map fun name => [Token.Kind.ident name], IsLevel part :=
    List.forall_mem_map.2 fun name _ => cons (fun _ => rfl) nil
  have htype := h field hfield
  rw [fieldKinds]
  refine (commas hnames).append ?_
  rcases field.type.item_eq_or_variadic with hitem | ⟨elem, hvariadic⟩
  · rwa [hitem] at htype
  · rw [hvariadic] at htype ⊢
    exact cons (fun _ => rfl) htype

theorem resultsFrom {fields : List Field} (h : ∀ field ∈ fields, IsLevel field.type.item.kinds) :
    IsLevel (resultsFrom fields (Go.fieldsKinds fields)) := by
  rcases resultsFrom_cases fields with ⟨-, hkinds⟩ | ⟨type, rfl, hitem, -, hkinds⟩ | ⟨-, hkinds⟩
  · rw [hkinds]
    exact nil
  · have htype := h _ List.mem_cons_self
    rw [hkinds]
    rwa [hitem] at htype
  · rw [hkinds]
    exact .bracketed .paren (.commas (.fieldsKinds h))

end IsLevel

/-- The brackets in a type are those of its parts, by induction on the type. -/
theorem TypeExpr.WellFormed.isLevel {type : TypeExpr} (h : type.WellFormed) : IsLevel type.kinds := by
  induction h with
  | named => exact .cons (fun _ => rfl) .nil
  | qualified => exact .cons (fun _ => rfl) (.cons (fun _ => rfl) (.cons (fun _ => rfl) .nil))
  | pointer helem ih => exact .cons (fun _ => rfl) ih
  | slice helem ih => exact .append (.bracketed .square .nil) ih
  | array helem ih => exact .append (.bracketed .square (.cons (fun _ => rfl) .nil)) ih
  | map hkey hvalue ihkey ihvalue =>
    exact .cons (fun _ => rfl) (.append (.bracketed .square ihkey) ihvalue)
  | @chan dir elem helem hdir ih =>
    refine .append ?_ ih
    cases dir with
    | both => exact .cons (fun _ => rfl) .nil
    | send | receive => exact .cons (fun _ => rfl) (.cons (fun _ => rfl) .nil)
  | func hparamTypes hparams hresultTypes hresults ihparams ihresults =>
    exact .cons (fun _ => rfl)
      (.append (.bracketed .paren (.commas (.fieldsKinds ihparams))) (.resultsFrom ihresults))
  | struct | interface => exact .cons (fun _ => rfl) (.bracketed .brace .nil)
  | generic hname hbase hargs ihbase ihargs =>
    refine .append ihbase (.bracketed .square (.commas ?_))
    rw [typesKinds_eq_map, List.forall_mem_map]
    exact ihargs
  | paren hinner ih => exact .bracketed .paren ih

theorem skipGroup_of_isLevel {kinds : List Token.Kind} (h : IsLevel kinds) {shape : Bracket}
    {ts rest : List Token} (hspelled : Spelled (kinds ++ [.closing shape]) ts rest)
    (opening : Token) : ∃ hsuffix, skipGroup opening ts = .ok ⟨rest, hsuffix⟩ := by
  obtain ⟨mid, hkinds, hmid⟩ := spelled_append.1 hspelled
  obtain ⟨u, vs, rfl, hclose, hvs⟩ := spelled_cons.1 hmid
  obtain rfl := spelled_nil.1 hvs
  have hbehind : behindBrackets 0 ts = some vs := by
    rw [h 0 ts _ hkinds, behindBrackets_cons, hclose]
    rfl
  obtain ⟨left, hleft, hitems⟩ := Option.map_eq_some_iff.1 hbehind
  subst hitems
  exact ⟨left.isSuffix, by rw [skipGroup, hleft]⟩

/-! ## Entries -/

theorem readType_of_entryEnds {ts : List Token} (h : EntryEnds ts) :
    readType ts = .error (unexpected .type ts) := by
  cases ts with
  | nil => rcases h with h | h <;> cases h
  | cons t ts =>
    have hkind : t.kind = .comma ∨ t.kind = .closing .paren := h
    rcases hkind with hkind | hkind <;> exact readType_of_not_begins (hkind ▸ rfl) ts

/-- An entry that is an instance is taken for a name with an array type, and refused where the
elements of the array are missed. -/
theorem readEntry_instance {name : String} {args : List TypeExpr}
    (hargs : ∀ arg ∈ args, arg.WellFormed) {ts rest : List Token}
    (h : Spelled (TypeExpr.kinds (.generic (.named name) args)) ts rest) (hend : EntryEnds rest) :
    readEntry ts = .error (unexpected .type rest) := by
  obtain ⟨t, us, rfl, hname, hus⟩ := spelled_cons.1 h
  obtain ⟨u, vs, rfl, hopen, hvs⟩ := spelled_cons.1 hus
  have hcurrent : (current (u :: vs)).kind = .opening .square := hopen
  have hread : readType (u :: vs) = .error (unexpected .type rest) := by
    rw [readType.eq_def]
    simp only [hopen]
    rcases args with - | ⟨arg, args⟩
    · obtain ⟨v, ws, rfl, hclose, hws⟩ := spelled_cons.1 hvs
      obtain rfl := spelled_nil.1 hws
      simp only [hclose, readType_of_entryEnds hend]
      rfl
    · have hlevel : IsLevel (commas (typesKinds (arg :: args))) := by
        refine .commas ?_
        rw [typesKinds_eq_map, List.forall_mem_map]
        exact fun arg harg => (hargs arg harg).isLevel
      obtain ⟨hsuffix, hskip⟩ := skipGroup_of_isLevel hlevel hvs u
      obtain ⟨mid, hfirst, -⟩ := spelled_append.1 hvs
      have hclose : (current vs).kind ≠ .closing .square := by
        rw [List.forall_mem_cons] at hargs
        have hparts : ∃ more, commas (typesKinds (arg :: args)) = arg.kinds ++ more := by
          cases args with
          | nil => exact ⟨[], by rw [typesKinds, typesKinds, commas_singleton, List.append_nil]⟩
          | cons next args => exact ⟨_, commas_cons_cons _ _ _⟩
        obtain ⟨more, hparts⟩ := hparts
        rw [hparts] at hfirst
        obtain ⟨behind, harg, -⟩ := spelled_append.1 hfirst
        exact hargs.1.readsBack.current_ne_closing harg .square
      cases vs with
      | nil => cases hskip
      | cons v ws =>
        have hclose : v.kind ≠ .closing .square := hclose
        simp only [if_neg hclose, hskip]
        change (readType rest >>= _) = _
        rw [readType_of_entryEnds hend]
        rfl
  rw [readEntry]
  simp only [hname, hcurrent, hread]
  rfl

/-! ## Lists -/

/-- Entries up to the first one that is an instance are read, and the list is refused there. -/
theorem readEntries_of_instance {entries : List Entry} (hentries : ∀ entry ∈ entries, entry.Readable)
    {name : String} {args : List TypeExpr} (hargs : ∀ arg ∈ args, arg.WellFormed)
    {parts : List (List Token.Kind)} {ts rest : List Token}
    (h : Spelled (commas (entries.map Entry.kinds ++
      TypeExpr.kinds (.generic (.named name) args) :: parts)) ts rest)
    (hend : (current rest).kind = .closing .paren) :
    ∃ mid, EntryEnds mid ∧ readEntries ts = .error (unexpected .type mid) := by
  induction entries generalizing ts with
  | nil =>
    have hfirst : ∀ {mid}, Spelled (TypeExpr.kinds (.generic (.named name) args)) ts mid →
        EntryEnds mid → readEntries ts = .error (unexpected .type mid) := by
      intro mid hspelled hmid
      have hname := hspelled.current (.ident name) rfl
      rw [readEntries, if_neg (by rw [hname]; nofun), readEntry_instance hargs hspelled hmid]
      rfl
    rw [List.map_nil, List.nil_append] at h
    cases parts with
    | nil =>
      rw [commas_singleton] at h
      exact ⟨rest, .inr hend, hfirst h (.inr hend)⟩
    | cons next parts =>
      rw [commas_cons_cons, spelled_append] at h
      obtain ⟨mid, hspelled, hmid⟩ := h
      have hcomma := hmid.current .comma rfl
      exact ⟨mid, .inl hcomma, hfirst hspelled (.inl hcomma)⟩
  | cons entry entries ih =>
    rw [List.forall_mem_cons] at hentries
    obtain ⟨hentry, hentries⟩ := hentries
    have hmore : ∃ next more, entries.map Entry.kinds ++
        TypeExpr.kinds (.generic (.named name) args) :: parts = next :: more :=
      List.exists_cons_of_ne_nil (List.append_ne_nil_of_right_ne_nil _ (List.cons_ne_nil _ _))
    obtain ⟨next, more, hparts⟩ := hmore
    rw [List.map_cons, List.cons_append, hparts, commas_cons_cons, spelled_append] at h
    obtain ⟨mid, hfirst, hmid⟩ := h
    obtain ⟨t, us, rfl, hcomma, hus⟩ := spelled_cons.1 hmid
    obtain ⟨found, -, hsuffix, hread⟩ := hentry.reads hfirst (.inl hcomma)
    rw [hparts] at ih
    obtain ⟨behind, hbehind, herror⟩ := ih hentries hus
    refine ⟨behind, hbehind, ?_⟩
    rw [readEntries, if_neg (hentry.current_ne_closing hfirst), hread]
    change (if t.kind = .comma then _ else _) = _
    rw [if_pos hcomma, herror]
    rfl

/-- A list of types, one of which is an instance of a type with a plain name. -/
structure HoldsInstance (fields : List Field) : Prop where
  unnamed : ∀ field ∈ fields, field.names = []
  types : ∀ field ∈ fields, field.type.item.WellFormed
  holds : ∃ field ∈ fields, field.type.isPlainInstance = true

/-- **A list in parentheses that holds an instance is refused**, at the comma or the parenthesis
behind the first one. -/
theorem readParameters_of_holdsInstance {fields : List Field} (h : HoldsInstance fields)
    {ts rest : List Token}
    (hspelled : Spelled (bracketed .paren (commas (fieldsKinds fields))) ts rest) :
    ∃ mid, EntryEnds mid ∧ readParameters ts = .error (unexpected .type mid) := by
  obtain ⟨t, us, rfl, hopen, hus⟩ := spelled_cons.1 hspelled
  obtain ⟨close, hentries, hclose⟩ := spelled_append.1 hus
  obtain ⟨field, front, back, hinstance, rfl, hfront⟩ : ∃ field front back,
      field.type.isPlainInstance = true ∧ fields = front ++ field :: back ∧
        ∀ field ∈ front, field.type.isPlainInstance = false := by
    obtain ⟨field, hfield⟩ := Option.isSome_iff_exists.1 (List.find?_isSome.2 h.holds)
    obtain ⟨hinstance, front, back, hsplit, hfront⟩ := List.find?_eq_some_iff_append.1 hfield
    exact ⟨field, front, back, hinstance, hsplit, fun field hmem => by simpa using hfront field hmem⟩
  obtain ⟨names, type⟩ := field
  have hmem : ⟨names, type⟩ ∈ front ++ ⟨names, type⟩ :: back :=
    List.mem_append_right _ List.mem_cons_self
  obtain rfl : names = [] := h.unnamed _ hmem
  obtain ⟨name, args, rfl⟩ : ∃ name args, type = .generic (.named name) args := by
    cases type with
    | generic base args =>
      cases base with
      | named name => exact ⟨name, args, rfl⟩
      | _ => cases hinstance
    | _ => cases hinstance
  have hargs : ∀ arg ∈ args, arg.WellFormed := by
    cases h.types _ hmem with
    | generic _ _ hargs => exact hargs
  have hreadable : ∀ entry ∈ front.flatMap fieldEntries, entry.Readable := by
    refine List.forall_mem_flatMap.2 fun field hfield => ?_
    have hwellFormed := h.types field (List.mem_append_left _ hfield)
    exact readable_entriesOf hwellFormed.readsBack fun _ => hfront field hfield
  rw [commas_fieldsKinds, List.flatMap_append, List.flatMap_cons, List.map_append,
    List.map_append] at hentries
  obtain ⟨mid, hmid, herror⟩ := readEntries_of_instance hreadable hargs hentries
    (hclose.current (.closing .paren) rfl)
  refine ⟨mid, hmid, ?_⟩
  rw [readParameters, takeToken_cons hopen]
  change (readEntries us >>= _) = _
  rw [herror]
  rfl

/-! ## Functions -/

/-- The tokens of a function behind its keyword, with its results in parentheses. -/
def FuncDecl.listed (func : FuncDecl) : List Token.Kind :=
  receiverKinds func.receiver ++ .ident func.name :: (typeParametersKinds func.generic ++
    (bracketed .paren (commas (fieldsKinds func.params)) ++
      bracketed .paren (commas (fieldsKinds func.results))))

/-- **A function with such a list is refused**, whatever stands behind the list. -/
theorem readFunc_of_holdsInstance {func : FuncDecl}
    (hreceiver : ∀ field ∈ func.receiver, WellFormedParameters [field])
    (h : HoldsInstance func.params ∨ WellFormedParameters func.params ∧ HoldsInstance func.results)
    (start : Nat) {ts rest : List Token} (hspelled : Spelled func.listed ts rest) :
    ∃ mid, EntryEnds mid ∧ readFunc start ts = .error (unexpected .type mid) := by
  obtain ⟨afterReceiver, hfirst, hnamed⟩ := spelled_append.1 hspelled
  obtain ⟨t, us, rfl, hname, hus⟩ := spelled_cons.1 hnamed
  obtain ⟨afterGeneric, hgeneric, hlists⟩ := spelled_append.1 hus
  obtain ⟨afterParams, hparams, hresults⟩ := spelled_append.1 hlists
  obtain ⟨hsuffix, hread⟩ := readReceiver_spelled hreceiver start hfirst
    (by rw [hnamed.current _ rfl]; exact nofun)
  obtain ⟨hsuffix₁, hread₁⟩ := skipTypeParameters_spelled hgeneric
    (by rw [hparams.current _ rfl]; exact nofun)
  have hrun : ∀ {e}, readParameters afterGeneric = .error e ∨
      (∃ params hsuffix, readParameters afterGeneric = .ok (params, ⟨afterParams, hsuffix⟩)) ∧
        readResults afterParams = .error e → readFunc start ts = .error e := by
    intro e herror
    rw [readFunc, hread]
    change (takeName (t :: us) >>= _) = _
    rw [takeName_cons hname]
    change (skipOptional .square us >>= _) = _
    rw [hread₁]
    change (readParameters afterGeneric >>= _) = _
    rcases herror with herror | ⟨⟨params, hsuffix, hparams⟩, herror⟩
    · rw [herror]
      rfl
    · rw [hparams]
      change (readResults afterParams >>= _) = _
      rw [herror]
      rfl
  rcases h with h | ⟨hwellFormed, h⟩
  · obtain ⟨mid, hmid, herror⟩ := readParameters_of_holdsInstance h hparams
    exact ⟨mid, hmid, hrun (.inl herror)⟩
  · obtain ⟨hsuffix, hparams⟩ := readParameters_spelled hwellFormed.toIsParameters
      (fun field hfield => (hwellFormed.types field hfield).readsBack) hparams
    obtain ⟨mid, hmid, herror⟩ := readParameters_of_holdsInstance h hresults
    refine ⟨mid, hmid, hrun (.inr ⟨⟨_, hsuffix, hparams⟩, ?_⟩)⟩
    rw [readResults, if_pos (hresults.current (.opening .paren) rfl), herror]

/-! ## Files -/

/-- The text of a file with one function, whose results stand in parentheses. -/
def listedText (package : String) (func : FuncDecl) : String :=
  String.join
    ([[.keyword .package, .ident package], .keyword .func :: func.listed].map printLine)

/-- Whether a text is no file since a type is missed ahead of a comma or a parenthesis. -/
def MissesType (text : String) : Prop :=
  ∃ found span, (found = .comma ∨ found = .closing .paren) ∧
    SourceFile.ofText text = .error ⟨.unexpected .type found, span⟩

/-- The names and the types of a function whose text is made of tokens. -/
structure FuncDecl.Listable (func : FuncDecl) : Prop where
  name : IsIdentifier func.name
  receiver : ∀ field ∈ func.receiver, WellFormedParameters [field]
  names : ∀ field ∈ func.params ++ func.results, ∀ name ∈ field.names, IsIdentifier name
  types : ∀ field ∈ func.params ++ func.results, field.type.item.WellFormed

theorem FuncDecl.Listable.isLine {func : FuncDecl} (h : func.Listable) :
    IsLine (.keyword .func :: func.listed) := by
  have hlist : ∀ fields ⊆ func.params ++ func.results,
      IsLine (bracketed .paren (commas (fieldsKinds fields))) := by
    intro fields hfields
    refine .bracketed (forall_mem_commas (.fixed nofun nofun) (printable_fieldsKinds ?_ ?_))
    · exact fun field hfield => h.names field (hfields hfield)
    · exact fun field hfield => (h.types field (hfields hfield)).isLine
  have hreceiver : ∀ kind ∈ receiverKinds func.receiver, kind.Printable := by
    cases hfield : func.receiver with
    | none => exact List.forall_mem_nil _
    | some field =>
      have hwellFormed := h.receiver field hfield
      refine forall_mem_bracketed (List.forall_mem_singleton.1 (printable_fieldsKinds
        hwellFormed.identifiers fun field hmem => (hwellFormed.types field hmem).isLine))
  refine .cons (.fixed nofun nofun) (.append hreceiver (.cons (.ident h.name) ?_))
  refine .append (printable_typeParametersKinds func.generic) ?_
  exact .append (hlist func.params (List.subset_append_left _ _)).printable
    (hlist func.results (List.subset_append_right _ _))

theorem missesType_of_holdsInstance {package : String} (hpackage : IsIdentifier package)
    {func : FuncDecl} (hlistable : func.Listable)
    (h : HoldsInstance func.params ∨ WellFormedParameters func.params ∧ HoldsInstance func.results) :
    MissesType (listedText package func) := by
  have hclause : IsLine [.keyword .package, .ident package] :=
    .cons (.fixed nofun nofun) ⟨List.forall_mem_singleton.2 (.ident hpackage), _, rfl, rfl⟩
  obtain ⟨tokens, htokens, hkinds⟩ := tokenize_lines
    (List.forall_mem_cons.2 ⟨hclause, List.forall_mem_singleton.2 hlistable.isLine⟩)
  have hspelled : Spelled _ tokens [] := ⟨tokens, (List.append_nil _).symm, hkinds⟩
  rw [List.flatMap_cons, List.flatMap_singleton, List.append_assoc] at hspelled
  obtain ⟨t, us, rfl, hkeyword, hus⟩ := spelled_cons.1 hspelled
  obtain ⟨u, vs, rfl, hname, hvs⟩ := spelled_cons.1 hus
  obtain ⟨v, ws, rfl, hend, hws⟩ := spelled_cons.1 hvs
  rw [List.append_assoc] at hws
  obtain ⟨w, xs, rfl, hfunc, hxs⟩ := spelled_cons.1 hws
  obtain ⟨rest, hlisted, -⟩ := spelled_append.1 hxs
  obtain ⟨mid, hmid, herror⟩ :=
    readFunc_of_holdsInstance hlistable.receiver h w.span.start hlisted
  refine ⟨(current mid).kind, (current mid).span, hmid, ?_⟩
  have htext : tokenize (listedText package func) = .ok (t :: u :: v :: w :: xs) := htokens
  rw [SourceFile.ofText, htext]
  change SourceFile.ofTokens (t :: u :: v :: w :: xs) = _
  rw [SourceFile.ofTokens, List.dropWhile_cons_of_neg (by rw [hkeyword]; decide), readSourceFile,
    takeToken_cons hkeyword]
  change (takeName (u :: v :: w :: xs) >>= _) = _
  rw [takeName_cons hname]
  change (takeEnd (v :: w :: xs) >>= _) = _
  rw [takeEnd_cons hend]
  change (readDeclarations (w :: xs) >>= _) = _
  rw [readDeclarations]
  simp only [hfunc, herror]
  rfl

def unnamedFields (types : List TypeExpr) : List Field :=
  types.map fun type => ⟨[], type⟩

theorem holdsInstance_unnamedFields {base : String} {args : List TypeExpr} {front back : List TypeExpr}
    (hbase : IsIdentifier base) (hargs : ∀ arg ∈ args, arg.WellFormed)
    (htypes : ∀ type ∈ front ++ back, type.item.WellFormed) :
    HoldsInstance (unnamedFields (front ++ .generic (.named base) args :: back)) where
  unnamed := List.forall_mem_map.2 fun _ _ => rfl
  types := by
    rw [List.forall_mem_append] at htypes
    rw [unnamedFields, List.forall_mem_map, List.forall_mem_append, List.forall_mem_cons]
    exact ⟨htypes.1, .generic rfl (.named hbase) hargs, htypes.2⟩
  holds := ⟨_, List.mem_map_of_mem (List.mem_append_right _ List.mem_cons_self), rfl⟩

/-- **Where an instance of a generic type is read.** As the one result of a function that has no
parentheses around it, and as the type of a name, it is; in a list of types in parentheses, of
parameters or of results, it never is. -/
theorem ofText_instance {package name base : String} {args : List TypeExpr}
    (hpackage : IsIdentifier package) (hname : IsIdentifier name) (hbase : IsIdentifier base)
    (hargs : ∀ arg ∈ args, arg.WellFormed) :
    (let file : SourceFile :=
      ⟨package, [⟨name, none, false, [], [⟨[], .generic (.named base) args⟩]⟩]⟩
    SourceFile.ofText file.print = .ok file) ∧
    (∀ param, IsIdentifier param →
      let file : SourceFile :=
        ⟨package, [⟨name, none, false, [⟨[param], .generic (.named base) args⟩], []⟩]⟩
      SourceFile.ofText file.print = .ok file) ∧
    ∀ front back : List TypeExpr, (∀ type ∈ front ++ back, type.item.WellFormed) →
      let fields := unnamedFields (front ++ .generic (.named base) args :: back)
      MissesType (listedText package ⟨name, none, false, fields, []⟩) ∧
        MissesType (listedText package ⟨name, none, false, [], fields⟩) := by
  have htype : TypeExpr.WellFormed (.generic (.named base) args) :=
    .generic rfl (.named hbase) hargs
  have hread : ∀ {params results : List Field}, WellFormedParameters params →
      WellFormedResults results →
        let file : SourceFile := ⟨package, [⟨name, none, false, params, results⟩]⟩
        SourceFile.ofText file.print = .ok file := fun hparams hresults =>
    ofText_print ⟨hpackage, List.forall_mem_singleton.2 ⟨hname, nofun, hparams, hresults⟩⟩
  refine ⟨?_, fun param hparam => ?_, fun front back htypes => ?_⟩
  · exact hread wellFormedParameters_nil (wellFormedResults_singleton htype)
  · exact hread (wellFormedParameters_singleton hparam htype) wellFormedResults_nil
  · have hholds := holdsInstance_unnamedFields hbase hargs htypes
    have hnames : ∀ field ∈ unnamedFields (front ++ .generic (.named base) args :: back),
        ∀ name ∈ field.names, IsIdentifier name := by
      intro field hfield name hmem
      rw [hholds.unnamed field hfield] at hmem
      cases hmem
    constructor
    · refine missesType_of_holdsInstance hpackage ⟨hname, nofun, ?_, ?_⟩ (.inl hholds)
      · rwa [List.append_nil]
      · rw [List.append_nil]
        exact hholds.types
    · exact missesType_of_holdsInstance hpackage ⟨hname, nofun, hnames, hholds.types⟩
        (.inr ⟨wellFormedParameters_nil, hholds⟩)

/-- An instance beside another type. -/
theorem ofText_instance_beside :
    listedText "p" ⟨"f", none, false, [],
        unnamedFields [.generic (.named "G") [.named "int"], .named "error"]⟩ =
      "package p\nfunc f ( ) ( G [ int ] , error )\n" ∧
    MissesType "package p\nfunc f ( ) ( G [ int ] , error )\n" := by
  have htext : listedText "p" ⟨"f", none, false, [],
      unnamedFields [.generic (.named "G") [.named "int"], .named "error"]⟩ =
        "package p\nfunc f ( ) ( G [ int ] , error )\n" := by
    decide
  refine ⟨htext, htext ▸ ?_⟩
  exact ((ofText_instance (by decide) (by decide) (by decide)
    (List.forall_mem_singleton.2 (.named (by decide)))).2.2 [] [.named "error"]
      (List.forall_mem_singleton.2 (.named (by decide)))).2

/-- The text of such a file as it is commonly written. -/
theorem ofText_result_instance : SourceFile.ofText "package p\nfunc f() (G[int], error)\n" =
    .error ⟨.unexpected .type .comma, ⟨26, 27⟩⟩ := by
  have herror : (match SourceFile.ofText "package p\nfunc f() (G[int], error)\n" with
      | .error e => some e
      | .ok _ => none) = some ⟨.unexpected .type .comma, ⟨26, 27⟩⟩ := by
    decide +kernel
  cases hread : SourceFile.ofText "package p\nfunc f() (G[int], error)\n" with
  | ok file =>
    rw [hread] at herror
    cases herror
  | error e =>
    rw [hread] at herror
    exact congrArg Except.error (Option.some.inj herror)

end ReactBridge.Go
