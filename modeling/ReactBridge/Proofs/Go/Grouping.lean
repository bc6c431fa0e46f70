import ReactBridge.Go.Syntax.Parameter

/-!
# How entries of a parameter list share types

A list with a named entry is a row of groups, each of which has one type: lone names, and the named
entry behind them. A list that is no such row is mixed.

* `NameGroup` : such a group, with its entries and its field;
* `exists_groups` : what a list starts with is groups, and what is left tells whether it is mixed;
* `namedFields_groups` : the fields of groups;
* `Shares` : names and types of fields, against those of the entries;
* `fieldsOfEntries_cases` : what becomes of each list.
-/

namespace ReactBridge.Go

namespace Entry

/-- Whether the entry is a type that is no lone identifier. -/
def isUnnamed : Entry → Bool
  | unnamed _ => true
  | _ => false

def name? : Entry → Option String
  | bare name _ | named name _ => some name
  | unnamed _ => none

def pair? : Entry → Option (String × TypeExpr)
  | named name type => some (name, type)
  | _ => none

def type : Entry → TypeExpr
  | bare name _ => .named name
  | named _ type | unnamed type => type

/-- A lone identifier with its place. -/
def ofPlaced (placed : String × Span) : Entry :=
  bare placed.1 placed.2

theorem unnamedField?_eq {entry : Entry} (h : entry.isNamed = false) :
    entry.unnamedField? = some ⟨[], entry.type⟩ := by
  cases entry with
  | named => cases h
  | bare | unnamed => rfl

theorem filterMap_unnamedField? {entries : List Entry} (h : entries.any isNamed = false) :
    entries.filterMap unnamedField? = entries.map fun entry => ⟨[], entry.type⟩ := by
  induction entries with
  | nil => rfl
  | cons entry entries ih =>
    rw [List.any_cons, Bool.or_eq_false_iff] at h
    rw [List.filterMap_cons, unnamedField?_eq h.1, ih h.2, List.map_cons]

end Entry

/-! ## Groups -/

/-- Lone names, and the entry that gives them a type. -/
structure NameGroup where
  lone : List (String × Span)
  name : String
  type : TypeExpr

namespace NameGroup

def entries (group : NameGroup) : List Entry :=
  group.lone.map Entry.ofPlaced ++ [.named group.name group.type]

def names (group : NameGroup) : List String :=
  group.lone.map Prod.fst ++ [group.name]

def field (group : NameGroup) : Field :=
  ⟨group.names, group.type⟩

theorem filterMap_name?_entries (group : NameGroup) :
    group.entries.filterMap Entry.name? = group.names := by
  have hlone : Entry.name? ∘ Entry.ofPlaced = some ∘ Prod.fst := rfl
  rw [entries, names, List.filterMap_append, List.filterMap_map, hlone, List.filterMap_eq_map]
  rfl

theorem filterMap_pair?_entries (group : NameGroup) :
    group.entries.filterMap Entry.pair? = [(group.name, group.type)] := by
  rw [entries, List.filterMap_append, List.filterMap_map]
  have hlone : group.lone.filterMap (Entry.pair? ∘ Entry.ofPlaced) = [] :=
    List.filterMap_eq_nil_iff.2 fun _ _ => rfl
  rw [hlone]
  rfl

theorem countP_isNamed_entries (group : NameGroup) : group.entries.countP Entry.isNamed = 1 := by
  rw [entries, List.countP_append, List.countP_map]
  have hlone : group.lone.countP (Entry.isNamed ∘ Entry.ofPlaced) = 0 :=
    List.countP_eq_zero.2 fun _ _ => Bool.false_ne_true
  rw [hlone]
  rfl

/-- No named entry stands ahead of a lone name in its group. -/
theorem countP_of_entries_eq {group : NameGroup} {front back : List Entry} {name : String}
    {span : Span} (h : group.entries = front ++ .bare name span :: back) :
    front.countP Entry.isNamed = 0 ∧ name ∈ group.names := by
  constructor
  · have hcount := group.countP_isNamed_entries
    have hlast : (Entry.bare name span :: back).getLast? = some (.named group.name group.type) := by
      have hwhole := congrArg List.getLast? h
      rw [entries, List.getLast?_concat, List.getLast?_append] at hwhole
      simpa using hwhole.symm
    have hback : 0 < (Entry.bare name span :: back).countP Entry.isNamed :=
      List.countP_pos_iff.2 ⟨_, List.mem_of_getLast? hlast, rfl⟩
    rw [h, List.countP_append] at hcount
    omega
  · rw [← filterMap_name?_entries, h, List.filterMap_append]
    exact List.mem_append_right _ List.mem_cons_self

end NameGroup

/-- What a list starts with is groups. Behind them are lone names, which wait for a type in vain: the
list ends there, or goes on with a type that is no lone identifier. -/
theorem exists_groups (entries : List Entry) :
    ∃ (groups : List NameGroup) (waiting : List (String × Span)) (rest : List Entry),
      entries = groups.flatMap NameGroup.entries ++ (waiting.map Entry.ofPlaced ++ rest) ∧
        (rest = [] ∨ ∃ type more, rest = .unnamed type :: more) := by
  induction entries with
  | nil => exact ⟨[], [], [], rfl, .inl rfl⟩
  | cons entry entries ih =>
    obtain ⟨groups, waiting, rest, rfl, hrest⟩ := ih
    cases entry with
    | unnamed type => exact ⟨[], [], _, rfl, .inr ⟨type, _, rfl⟩⟩
    | named name type => exact ⟨⟨[], name, type⟩ :: groups, waiting, rest, rfl, hrest⟩
    | bare name span =>
      cases groups with
      | nil => exact ⟨[], (name, span) :: waiting, rest, rfl, hrest⟩
      | cons group groups =>
        exact ⟨⟨(name, span) :: group.lone, group.name, group.type⟩ :: groups, waiting, rest, rfl,
          hrest⟩

/-! ## Fields of groups -/

theorem namedFields_lone (list : Span) (lone : List (String × Span)) (waiting : List String)
    (last : Option Span) (entries : List Entry) :
    namedFields list waiting last (lone.map Entry.ofPlaced ++ entries) =
      namedFields list (waiting ++ lone.map Prod.fst) ((lone.getLast?.map Prod.snd).or last)
        entries := by
  induction lone generalizing waiting last with
  | nil => simp
  | cons placed lone ih =>
    obtain ⟨name, span⟩ := placed
    have hlast : (((name, span) :: lone).getLast?.map Prod.snd).or last =
        (lone.getLast?.map Prod.snd).or (some span) := by
      rw [List.getLast?_cons]
      cases lone.getLast? <;> rfl
    rw [List.map_cons, List.cons_append, Entry.ofPlaced, namedFields, ih, hlast, List.map_cons,
      List.append_assoc, List.singleton_append]

theorem namedFields_groups (list : Span) (groups : List NameGroup) (entries : List Entry) :
    namedFields list [] none (groups.flatMap NameGroup.entries ++ entries) =
      (namedFields list [] none entries).map (groups.map NameGroup.field ++ ·) := by
  induction groups with
  | nil =>
    rw [List.flatMap_nil, List.nil_append]
    cases namedFields list [] none entries <;> rfl
  | cons group groups ih =>
    rw [List.flatMap_cons, List.append_assoc, NameGroup.entries, List.append_assoc, namedFields_lone,
      List.singleton_append, namedFields, ih]
    cases namedFields list [] none entries <;> rfl

/-! ## Names and types -/

/-- How fields stand to the entries that they were read from: the entries are groups, and the fields
are those of the groups. So no name is lost, each field is that of one named entry, and a lone name
belongs to the next one behind it. -/
structure Shares (entries : List Entry) (fields : List Field) : Prop where
  groups : ∃ groups : List NameGroup, entries = groups.flatMap NameGroup.entries ∧
    fields = groups.map NameGroup.field
  names : fields.flatMap FieldOf.names = entries.filterMap Entry.name?
  named : ∀ field ∈ fields, field.names ≠ []
  pairs : fields.map (fun field => (field.names.getLast?, field.type)) =
    (entries.filterMap Entry.pair?).map fun pair => (some pair.1, pair.2)
  lone : ∀ front name span back, entries = front ++ .bare name span :: back →
    ∃ field, fields[front.countP Entry.isNamed]? = some field ∧ name ∈ field.names

theorem shares_groups (groups : List NameGroup) :
    Shares (groups.flatMap NameGroup.entries) (groups.map NameGroup.field) where
  groups := ⟨groups, rfl, rfl⟩
  names := by
    rw [List.flatMap_map, List.filterMap_flatMap]
    exact congrArg (List.flatMap · groups) (funext fun group => group.filterMap_name?_entries.symm)
  named := by
    rw [List.forall_mem_map]
    exact fun group _ => List.append_ne_nil_of_right_ne_nil _ (List.cons_ne_nil _ _)
  pairs := by
    rw [List.map_map, List.filterMap_flatMap, List.map_flatMap]
    induction groups with
    | nil => rfl
    | cons group groups ih =>
      rw [List.map_cons, List.flatMap_cons, ← ih, group.filterMap_pair?_entries]
      simp [NameGroup.field, NameGroup.names]
  lone := by
    intro front name span back h
    induction groups generalizing front with
    | nil => exact absurd (congrArg List.length h) (by simp)
    | cons group groups ih =>
      rw [List.flatMap_cons] at h
      rcases List.append_eq_append_iff.1 h with ⟨more, rfl, hmore⟩ | ⟨more, hgroup, hmore⟩
      · obtain ⟨field, hfield, hname⟩ := ih more hmore
        refine ⟨field, ?_, hname⟩
        rw [List.countP_append, group.countP_isNamed_entries, List.map_cons, Nat.add_comm,
          List.getElem?_cons_succ]
        exact hfield
      · cases more with
        | nil =>
          obtain ⟨field, hfield, hname⟩ := ih [] hmore.symm
          refine ⟨field, ?_, hname⟩
          rw [List.append_nil] at hgroup
          rw [← hgroup, group.countP_isNamed_entries]
          exact hfield
        | cons entry more =>
          obtain ⟨rfl, -⟩ := List.cons.inj hmore
          obtain ⟨hcount, hname⟩ := NameGroup.countP_of_entries_eq hgroup
          exact ⟨group.field, by rw [hcount]; rfl, hname⟩

/-! ## Lists -/

theorem isUnnamed_groups (groups : List NameGroup) (waiting : List (String × Span)) :
    (groups.flatMap NameGroup.entries ++ waiting.map Entry.ofPlaced).any Entry.isUnnamed = false := by
  rw [List.any_eq_false]
  intro entry hentry
  rcases List.mem_append.1 hentry with hentry | hentry
  · obtain ⟨group, -, hentry⟩ := List.mem_flatMap.1 hentry
    rcases List.mem_append.1 hentry with hentry | hentry
    · obtain ⟨placed, -, rfl⟩ := List.mem_map.1 hentry
      exact Bool.false_ne_true
    · obtain rfl := List.mem_singleton.1 hentry
      exact Bool.false_ne_true
  · obtain ⟨placed, -, rfl⟩ := List.mem_map.1 hentry
    exact Bool.false_ne_true

theorem getLast?_groups_ne_bare (groups : List NameGroup) (name : String) (span : Span) :
    (groups.flatMap NameGroup.entries).getLast? ≠ some (.bare name span) := by
  intro hlast
  rcases List.eq_nil_or_concat groups with rfl | ⟨groups, group, rfl⟩
  · cases hlast
  · rw [List.concat_eq_append, List.flatMap_append, List.flatMap_singleton, NameGroup.entries,
      ← List.append_assoc, List.getLast?_concat] at hlast
    cases hlast

/-- **What becomes of a parameter list.** Without a named entry each entry is a field by itself, that
has no name. With one, the list is mixed if it has a type that is no lone identifier, as a whole, or
else if it ends with a lone name, there; and otherwise each name goes to the type that is next. -/
theorem fieldsOfEntries_cases (entries : List Entry) (list : Span) :
    if entries.any Entry.isNamed then
      if entries.any Entry.isUnnamed then
        fieldsOfEntries entries list = .error ⟨.mixedParameters, list⟩
      else match entries.getLast? with
        | some (.bare _ span) => fieldsOfEntries entries list = .error ⟨.mixedParameters, span⟩
        | _ => ∃ fields, fieldsOfEntries entries list = .ok fields ∧ Shares entries fields
    else fieldsOfEntries entries list = .ok (entries.map fun entry => ⟨[], entry.type⟩) := by
  rw [fieldsOfEntries]
  by_cases hnamed : entries.any Entry.isNamed = false
  · rw [hnamed, if_neg Bool.false_ne_true, if_neg Bool.false_ne_true,
      Entry.filterMap_unnamedField? hnamed]
  rw [Bool.not_eq_false] at hnamed
  rw [if_pos hnamed, if_pos hnamed]
  obtain ⟨groups, waiting, rest, rfl, rfl | ⟨type, more, rfl⟩⟩ := exists_groups entries
  · rw [List.append_nil, isUnnamed_groups, if_neg Bool.false_ne_true, namedFields_groups]
    rcases List.eq_nil_or_concat waiting with rfl | ⟨waiting, ⟨name, span⟩, rfl⟩
    · rw [List.map_nil, List.append_nil]
      split
      · next span hbare => exact absurd hbare (getLast?_groups_ne_bare groups _ span)
      · refine ⟨groups.map NameGroup.field, ?_, shares_groups groups⟩
        rw [namedFields, Except.map, List.append_nil]
    · have hwaiting := namedFields_lone list (waiting.concat (name, span)) [] none []
      rw [List.append_nil] at hwaiting
      rw [hwaiting, List.concat_eq_append, List.map_append, List.map_singleton, ← List.append_assoc,
        List.getLast?_concat, List.getLast?_concat]
      rfl
  · have hmixed : (groups.flatMap NameGroup.entries ++
        (waiting.map Entry.ofPlaced ++ .unnamed type :: more)).any Entry.isUnnamed = true :=
      List.any_eq_true.2 ⟨.unnamed type, by simp, rfl⟩
    rw [if_pos hmixed, namedFields_groups, namedFields_lone, namedFields]
    rfl

/-- Two names share a type, and one has a type of its own. -/
example (place : Span) :
    fieldsOfEntries [.bare "a" place, .named "b" (.named "int"), .named "c" (.named "T")] place =
      .ok [⟨["a", "b"], .named "int"⟩, ⟨["c"], .named "T"⟩] :=
  rfl

end ReactBridge.Go
