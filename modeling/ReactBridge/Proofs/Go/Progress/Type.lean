import ReactBridge.Proofs.Go.Progress

/-!
# Walks along types, parameters and results

Where types nest, a walk along a type comes to another one only behind its first token, so what is
said of the types behind that token is a hypothesis of each rule, and `Stands.types` is an induction.

* `TypeFollows` : a type at some tokens is walked along as it is read;
* `Stands.follows_parameters`, `Stands.follows_results`, `Stands.follows_arguments` : so are lists of
  types, if the types in them are;
* `Stands.follows_type` and the lemmas ahead of it : so is each form of type, if those inside it are;
* `Stands.types` : all types are.
-/

namespace ReactBridge.Go

variable {tokens : List Token} {spare : Nat} {s : Cursor} {t : Token} {ts : List Token}

/-- A type at these tokens is walked along as it is read. -/
def TypeFollows (tokens : List Token) (spare : Nat) (ts : List Token) : Prop :=
  ∀ s, Stands tokens spare s ts →
    Follows tokens spare (Walk.type tokens) s seen (Past spare s) (readType ts)

/-- Reads type arguments in their brackets. -/
def readArguments (ts : List Token) : Except SyntaxError (List TypeExpr × Rest ts) := do
  let (_, opened) ← takeToken (.opening .square) ts
  let (args, rest) ← readTypeArguments opened.items
  let (_, last) ← takeToken (.closing .square) rest.items
  return (args, opened.within (rest.within last))

theorem readInstance_eq (base : TypeExpr) (hkind : t.kind = .opening .square) :
    readInstance base (t :: ts) =
      readArguments (t :: ts) >>= fun read => .ok (.generic base read.1, read.2) := by
  rw [readInstance, if_pos hkind, readArguments, takeToken, if_pos hkind]
  simp only [bind_assoc]
  rfl

namespace Stands

theorem follows_argumentRounds {s : Cursor} {ts : List Token} (h : Stands tokens spare s ts)
    (htype : Onwards (TypeFollows tokens spare) ts) (hfresh : Fresh spare s) :
    Follows tokens spare (Walk.argumentRounds tokens) s seen (Fresh spare)
      (readTypeArguments ts) := by
  refine .of_succ ?_
  rw [readTypeArguments]
  simp only [Walk.argumentRounds]
  refine h.follows_current ?_
  split
  · exact .pure h rfl hfresh
  refine h.follows_startRound (hfresh.admits .arguments) fun hs' => ?_
  refine (htype.here _ hs').bind ?_
  rintro ⟨arg, items, hitems⟩ s'' _ hs'' hpast
  obtain ⟨u, vs, rfl⟩ := hs''.exists_cons
  dsimp only [seen] at hs'' ⊢
  refine hs''.follows_ifEat .comma (by decide) (fun s₃ hs₃ hpast₃ => ?_) fun _ => ?_
  · have hrest := htype.of_suffix ((List.suffix_cons u vs).trans hitems)
    exact (follows_argumentRounds hs₃ hrest hpast₃.toFresh).value fun _ => rfl
  · exact .pure hs'' rfl hpast.toFresh
  termination_by ts.length
  decreasing_by all_goals grind

theorem follows_arguments (h : Stands tokens spare s ts)
    (htype : Onwards (TypeFollows tokens spare) ts) :
    Follows tokens spare (Walk.arguments tokens) s seen (Past spare s) (readArguments ts) := by
  refine .of_succ (.noted_past h .arguments ?_)
  rw [readArguments]
  refine (h.follows_expect (.opening .square) (by decide)).bind fun opened s' _ hs' hpast => ?_
  have hrounds := hs'.follows_argumentRounds (htype.rest opened.2) hpast.toFresh
  refine hrounds.bind fun args s'' hle hs'' _ => ?_
  have hclose := (hs''.follows_expect (.closing .square) (by decide)).fresh.past
    (Nat.lt_of_lt_of_le hpast.place_lt hle)
  exact hclose.value fun _ => rfl

theorem follows_entry (h : Stands tokens spare s ts)
    (htype : Onwards (TypeFollows tokens spare) ts) :
    Follows tokens spare (Walk.entry tokens) s seen (Past spare s) (readEntry ts) := by
  obtain ⟨t, ts, rfl⟩ := h.exists_cons
  have hunnamed : Follows tokens spare
      (fun bound => Walk.type tokens bound >>= fun type => Pure.pure (Entry.unnamed type)) s seen
      (Past spare s)
      (readType (t :: ts) >>= fun read => .ok (Entry.unnamed read.1, read.2)) :=
    (htype.here s h).value fun _ => rfl
  refine .of_succ (.noted_past h .entry ?_)
  rw [readEntry]
  refine h.follows_peek ?_
  cases hkind : t.kind with
  | ident base =>
    have hnot : t.kind ≠ .endOfFile := by simp [hkind]
    obtain ⟨u, us, rfl⟩ := (h.moved hnot).exists_cons
    have hnamed : Follows tokens spare
        (fun bound => Walk.advance tokens >>= fun _ => Walk.type tokens bound >>= fun type =>
          Pure.pure (Entry.named base type)) s seen (Past spare s)
        (readType (u :: us) >>= fun read => .ok (Entry.named base read.1, read.2.behind t)) :=
      h.follows_advance hnot fun s' hs' hpast =>
        ((htype.behind.here s' hs').fresh.past hpast.place_lt).value fun _ => rfl
    dsimp only
    rw [current, List.headD_cons]
    -- Only the token behind it tells whether the identifier is a name.
    refine h.follows_peekBehind ?_
    cases hnext : u.kind with
    | dot => exact hunnamed
    | comma => exact h.follows_advance hnot fun s' hs' hpast => .pure hs' rfl hpast
    | closing shape =>
      cases shape with
      | paren => exact h.follows_advance hnot fun s' hs' hpast => .pure hs' rfl hpast
      | brace | square => exact hnamed
    | ellipsis =>
      dsimp only
      rw [takeToken, if_pos hnext]
      refine h.follows_advance hnot fun s' hs' hpast => ?_
      refine hs'.follows_advance (by simp [hnext]) fun s'' hs'' hpast' => ?_
      have helem := (htype.behind.behind.here s'' hs'').fresh.past
        (hpast.place_lt.trans hpast'.place_lt)
      exact helem.value fun _ => rfl
    | _ => exact hnamed
  | ellipsis =>
    refine h.follows_advance (by simp [hkind]) fun s' hs' hpast => ?_
    exact ((htype.behind.here s' hs').fresh.past hpast.place_lt).value fun _ => rfl
  | _ => exact hunnamed

theorem follows_entryRounds {s : Cursor} {ts : List Token} (h : Stands tokens spare s ts)
    (htype : Onwards (TypeFollows tokens spare) ts) (hfresh : Fresh spare s) :
    Follows tokens spare (Walk.entryRounds tokens) s seen (Fresh spare) (readEntries ts) := by
  refine .of_succ ?_
  rw [readEntries]
  simp only [Walk.entryRounds]
  refine h.follows_current ?_
  split
  · exact .pure h rfl hfresh
  refine h.follows_startRound (hfresh.admits .entries) fun hs' => ?_
  refine (hs'.follows_entry htype).bind ?_
  rintro ⟨entry, items, hitems⟩ s'' _ hs'' hpast
  obtain ⟨u, vs, rfl⟩ := hs''.exists_cons
  dsimp only [seen] at hs'' ⊢
  refine hs''.follows_ifEat .comma (by decide) (fun s₃ hs₃ hpast₃ => ?_) fun _ => ?_
  · have hrest := htype.of_suffix ((List.suffix_cons u vs).trans hitems)
    exact (follows_entryRounds hs₃ hrest hpast₃.toFresh).value fun _ => rfl
  · exact .pure hs'' rfl hpast.toFresh
  termination_by ts.length
  decreasing_by all_goals grind

theorem follows_parameters (h : Stands tokens spare s ts)
    (htype : Onwards (TypeFollows tokens spare) ts) :
    Follows tokens spare (Walk.parameters tokens) s seen (Past spare s) (readParameters ts) := by
  refine .of_succ (.noted_past h .parameters ?_)
  rw [readParameters]
  refine (h.follows_expect (.opening .paren) (by decide)).bind fun opened s' _ hs' hpast => ?_
  have hrounds := hs'.follows_entryRounds (htype.rest opened.2) hpast.toFresh
  refine hrounds.bind fun entries s'' hle hs'' _ => ?_
  have hclose := (hs''.follows_expect (.closing .paren) (by decide)).fresh.past
    (Nat.lt_of_lt_of_le hpast.place_lt hle)
  exact hclose.bind fun close s₃ _ hs₃ hpast₃ => .liftM hs₃ (fun _ => rfl) hpast₃

theorem follows_results (h : Stands tokens spare s ts)
    (htype : Onwards (TypeFollows tokens spare) ts) (hfresh : Fresh spare s) :
    Follows tokens spare (Walk.results tokens) s seen (Fresh spare) (readResults ts) := by
  refine .of_succ ?_
  rw [readResults]
  simp only [Walk.results]
  refine h.follows_current ?_
  split
  · exact (h.follows_parameters htype).fresh
  split
  · exact (htype.here s h).fresh.value fun _ => rfl
  · exact .pure h rfl hfresh

/-! Each form of type is walked along, if the types behind its first token are. -/

section Forms

variable (h : Stands tokens spare s (t :: ts)) (htype : Onwards (TypeFollows tokens spare) ts)
include h htype

theorem follows_named {base : String} (hkind : t.kind = .ident base) :
    Follows tokens spare (Walk.type tokens) s seen (Past spare s) (readType (t :: ts)) := by
  refine .of_succ (.noted_past h .type (h.follows_peek ?_))
  rw [readType_eq_readNamed hkind, readNamed]
  simp only [hkind, bind_assoc]
  refine h.follows_advance (by simp [hkind]) fun s' hs' hpast => ?_
  refine (hs'.follows_member hpast.toFresh base).bind ?_
  rintro ⟨named, items, hitems⟩ s'' hle hs'' hfresh
  have hlt := Nat.lt_of_lt_of_le hpast.place_lt hle
  obtain ⟨u, us, rfl⟩ := hs''.exists_cons
  dsimp only [seen] at hs'' ⊢
  refine hs''.follows_peek ?_
  split
  · next hopen =>
    rw [readInstance_eq named hopen, bind_assoc]
    have hargs := hs''.follows_arguments (htype.of_suffix hitems)
    exact (hargs.fresh.past hlt).value fun _ => rfl
  · next hopen =>
    rw [readInstance, if_neg hopen]
    exact .pure hs'' rfl ⟨hfresh, hlt⟩

theorem follows_pointer (hkind : t.kind = .star) :
    Follows tokens spare (Walk.type tokens) s seen (Past spare s) (readType (t :: ts)) := by
  refine .of_succ (.noted_past h .type (h.follows_peek ?_))
  rw [readType.eq_def]
  simp only [hkind]
  refine h.follows_advance (by simp [hkind]) fun s' hs' hpast => ?_
  exact ((htype.here s' hs').fresh.past hpast.place_lt).value fun _ => rfl

theorem follows_sequence (hkind : t.kind = .opening .square) :
    Follows tokens spare (Walk.type tokens) s seen (Past spare s) (readType (t :: ts)) := by
  have hnot : t.kind ≠ .endOfFile := by simp [hkind]
  refine .of_succ (.noted_past h .type (h.follows_peek ?_))
  rw [readType.eq_def]
  simp only [hkind]
  obtain ⟨u, us, rfl⟩ := (h.moved hnot).exists_cons
  refine h.follows_peekBehind ?_
  dsimp only
  split
  · next hclose =>
    refine h.follows_advance hnot fun s' hs' hpast => ?_
    refine hs'.follows_advance (by simp [hclose]) fun s'' hs'' hpast' => ?_
    have helem := (htype.behind.here s'' hs'').fresh.past (hpast.place_lt.trans hpast'.place_lt)
    exact helem.value fun _ => rfl
  · refine (h.follows_opened hkind).bind fun size s' _ hs' hpast => ?_
    exact (((htype.rest size).here s' hs').fresh.past hpast.place_lt).value fun _ => rfl

theorem follows_map (hkind : t.kind = .keyword .map) :
    Follows tokens spare (Walk.type tokens) s seen (Past spare s) (readType (t :: ts)) := by
  refine .of_succ (.noted_past h .type (h.follows_peek ?_))
  rw [readType.eq_def]
  simp only [hkind]
  refine h.follows_advance (by simp [hkind]) fun s₁ hs₁ hpast₁ => ?_
  refine (hs₁.follows_expect (.opening .square) (by decide)).bind fun opened s₂ hle₂ hs₂ _ => ?_
  refine ((htype.rest opened.2).here s₂ hs₂).bind fun key s₃ hle₃ hs₃ _ => ?_
  refine (hs₃.follows_expect (.closing .square) (by decide)).bind fun close s₄ hle₄ hs₄ _ => ?_
  have hvalue := (htype.rest (opened.2.within (key.2.within close.2))).here s₄ hs₄
  have hlt : s.place < s₄.place :=
    Nat.lt_of_lt_of_le hpast₁.place_lt (hle₂.trans (hle₃.trans hle₄))
  exact (hvalue.fresh.past hlt).value fun _ => rfl

theorem follows_chan (hkind : t.kind = .keyword .chan) :
    Follows tokens spare (Walk.type tokens) s seen (Past spare s) (readType (t :: ts)) := by
  refine .of_succ (.noted_past h .type (h.follows_peek ?_))
  rw [readType.eq_def]
  simp only [hkind]
  refine h.follows_advance (by simp [hkind]) fun s' hs' hpast => ?_
  obtain ⟨u, us, rfl⟩ := hs'.exists_cons
  refine hs'.follows_eat .arrow (by decide) (fun harrow s'' hs'' hpast' => ?_) fun harrow => ?_
  · rw [readDirection, if_pos harrow]
    have helem := (htype.behind.here s'' hs'').fresh.past (hpast.place_lt.trans hpast'.place_lt)
    exact helem.value fun _ => rfl
  · rw [readDirection, if_neg harrow]
    exact ((htype.here s' hs').fresh.past hpast.place_lt).value fun _ => rfl

theorem follows_receive (hkind : t.kind = .arrow) :
    Follows tokens spare (Walk.type tokens) s seen (Past spare s) (readType (t :: ts)) := by
  refine .of_succ (.noted_past h .type (h.follows_peek ?_))
  rw [readType.eq_def]
  simp only [hkind]
  refine h.follows_advance (by simp [hkind]) fun s' hs' hpast => ?_
  refine (hs'.follows_expect (.keyword .chan) (by decide)).bind fun chan s'' _ hs'' hpast' => ?_
  have helem := ((htype.rest chan.2).here s'' hs'').fresh.past
    (hpast.place_lt.trans hpast'.place_lt)
  exact helem.value fun _ => rfl

theorem follows_signature (hkind : t.kind = .keyword .func) :
    Follows tokens spare (Walk.type tokens) s seen (Past spare s) (readType (t :: ts)) := by
  refine .of_succ (.noted_past h .type (h.follows_peek ?_))
  rw [readType.eq_def]
  simp only [hkind]
  refine h.follows_advance (by simp [hkind]) fun s' hs' hpast => ?_
  refine (hs'.follows_parameters htype).bind fun params s'' _ hs'' hpast' => ?_
  have hresults := (hs''.follows_results (htype.rest params.2) hpast'.toFresh).past
    (hpast.place_lt.trans hpast'.place_lt)
  exact hresults.value fun _ => rfl

theorem follows_paren (hkind : t.kind = .opening .paren) :
    Follows tokens spare (Walk.type tokens) s seen (Past spare s) (readType (t :: ts)) := by
  refine .of_succ (.noted_past h .type (h.follows_peek ?_))
  rw [readType.eq_def]
  simp only [hkind]
  refine h.follows_advance (by simp [hkind]) fun s' hs' hpast => ?_
  refine (htype.here s' hs').bind fun inner s'' _ hs'' hpast' => ?_
  have hclose := (hs''.follows_expect (.closing .paren) (by decide)).fresh.past
    (hpast.place_lt.trans hpast'.place_lt)
  exact hclose.value fun _ => rfl

theorem follows_keyword {word : Keyword} (hkind : t.kind = .keyword word) :
    Follows tokens spare (Walk.type tokens) s seen (Past spare s) (readType (t :: ts)) := by
  cases word with
  | map => exact h.follows_map htype hkind
  | chan => exact h.follows_chan htype hkind
  | func => exact h.follows_signature htype hkind
  | struct | interface =>
    refine .of_succ (.noted_past h .type (h.follows_peek ?_))
    rw [readType.eq_def]
    simp only [hkind]
    refine h.follows_advance (by simp [hkind]) fun s' hs' hpast => ?_
    exact (hs'.follows_block.fresh.past hpast.place_lt).value fun _ => rfl
  | _ =>
    refine .of_succ (.noted_past h .type (h.follows_peek ?_))
    rw [readType.eq_def]
    simp only [hkind]
    exact h.follows_refuse _

theorem follows_type :
    Follows tokens spare (Walk.type tokens) s seen (Past spare s) (readType (t :: ts)) := by
  cases hkind : t.kind with
  | ident base => exact h.follows_named htype hkind
  | star => exact h.follows_pointer htype hkind
  | arrow => exact h.follows_receive htype hkind
  | keyword word => exact h.follows_keyword htype hkind
  | opening shape =>
    cases shape with
    | paren => exact h.follows_paren htype hkind
    | square => exact h.follows_sequence htype hkind
    | brace =>
      refine .of_succ (.noted_past h .type (h.follows_peek ?_))
      rw [readType.eq_def]
      simp only [hkind]
      exact h.follows_refuse _
  | _ =>
    refine .of_succ (.noted_past h .type (h.follows_peek ?_))
    rw [readType.eq_def]
    simp only [hkind]
    exact h.follows_refuse _

end Forms

/-- **Types** are walked along as they are read, however they nest. -/
theorem types (tokens : List Token) (spare : Nat) (ts : List Token) :
    Onwards (TypeFollows tokens spare) ts := by
  refine .of_cons (fun s h => ?_) (fun t ts htype s h => h.follows_type htype) ts
  obtain ⟨t, us, hnil⟩ := h.exists_cons
  cases hnil

end Stands

end ReactBridge.Go
