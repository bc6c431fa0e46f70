import ReactBridge.Proofs.Go.Cursor
import ReactBridge.Proofs.Go.Parts
import ReactBridge.Proofs.Go.Routine.Type

/-!
# Cursors that move on

A walk ends because its cursor moves on: no loop begins two rounds at one token, and at the last
token, where the cursor stays, no loop begins another round. What a walk does from a token on is
stated next to what a reader makes of the tokens from there.

* `Sound` : a cursor that has only moved on;
* `Fresh`, `Admits`, `Past` : where another round may begin;
* `EndsWith` : what a walk comes to where it is not cut short;
* `Follows` : a walk that ends as a reader does, at a sound cursor;
* `Stands.follows_advance`, `Stands.follows_expect`, `Stands.follows_group` and their companions :
  the moves follow the readers of single tokens and of groups.
-/

namespace ReactBridge.Go

/-! ## Cursors -/

/-- Whether a round may follow another one: at a later place, or at the end of the file, where the
loop over a declaration and the one over all of them both find that nothing is left. -/
def Round.Before (tokens : List Token) (first next : Round) : Prop :=
  first.place < next.place ∨ first.place = next.place ∧
    (tokenAt tokens first.place).kind = .endOfFile ∧ first.loop = .declaration ∧
      next.loop = .declarations

/-- Whether what was read is more than nothing, and does not start with the end of the file. -/
structure Reading.Advances (tokens : List Token) (reading : Reading) : Prop where
  start_lt : reading.start < reading.stop
  kind_ne : (tokenAt tokens reading.start).kind ≠ .endOfFile

/-- A cursor that has only moved on, and not out of the tokens, with each round of a loop at a token
of its own, and behind rules that have all read something. There are no more rounds than places up to
here, `spare` of them not counted. -/
structure Sound (tokens : List Token) (spare : Nat) (s : Cursor) : Prop where
  inside : s.place < tokens.length
  forward : (s.place :: s.trail).Pairwise (· > ·)
  ordered : s.rounds.Pairwise fun next first => first.Before tokens next
  reached : ∀ r ∈ s.rounds, r.place ≤ s.place
  counted : s.rounds.length + spare ≤ s.place + 1
  advanced : ∀ reading ∈ s.readings, reading.Advances tokens

/-- Whether no round has begun where the cursor stands. -/
structure Fresh (spare : Nat) (s : Cursor) : Prop where
  reached : ∀ r ∈ s.rounds, r.place < s.place
  counted : s.rounds.length + spare ≤ s.place

/-- Whether a round of the loop may begin where the cursor stands. -/
structure Admits (tokens : List Token) (spare : Nat) (s : Cursor) (loop : Loop) : Prop where
  ordered : ∀ r ∈ s.rounds, r.Before tokens ⟨loop, s.place⟩
  counted : s.rounds.length + spare ≤ s.place

/-- A sound cursor at the first of `ts`. -/
structure Stands (tokens : List Token) (spare : Nat) (s : Cursor) (ts : List Token) : Prop
    extends Sound tokens spare s where
  ahead : tokens.drop s.place = ts
  ends : Sealed ts

/-- A cursor further on than `s` that is fresh. -/
structure Past (spare : Nat) (s s' : Cursor) : Prop extends Fresh spare s' where
  place_lt : s.place < s'.place

variable {tokens : List Token} {spare : Nat} {s s' : Cursor} {t : Token} {ts : List Token}

theorem Fresh.admits (h : Fresh spare s) (loop : Loop) : Admits tokens spare s loop :=
  ⟨fun r hr => .inl (h.reached r hr), h.counted⟩

theorem Sound.mono {spare' : Nat} (h : Sound tokens spare s) (hle : spare' ≤ spare) :
    Sound tokens spare' s :=
  { h with counted := by have := h.counted; omega }

theorem Stands.mono {spare' : Nat} (h : Stands tokens spare s ts) (hle : spare' ≤ spare) :
    Stands tokens spare' s ts :=
  { h with toSound := h.toSound.mono hle }

theorem Fresh.mono {spare' : Nat} (h : Fresh spare s) (hle : spare' ≤ spare) : Fresh spare' s :=
  { h with counted := by have := h.counted; omega }

theorem stands_startingAt (hsealed : Sealed tokens) {start : Nat} (hstart : start < tokens.length) :
    Stands tokens start (.startingAt start) (tokens.drop start) where
  inside := hstart
  forward := List.pairwise_singleton _ _
  ordered := .nil
  reached := List.forall_mem_nil _
  counted := by simp [Cursor.startingAt]
  advanced := List.forall_mem_nil _
  ahead := rfl
  ends := by
    rw [← List.take_append_drop start tokens] at hsealed
    exact hsealed.of_append fun hnil => absurd (List.drop_eq_nil_iff.1 hnil) (by omega)

theorem fresh_startingAt (start : Nat) : Fresh start (.startingAt start) :=
  ⟨List.forall_mem_nil _, by simp [Cursor.startingAt]⟩

namespace Stands

theorem exists_cons (h : Stands tokens spare s ts) : ∃ t us, ts = t :: us := by
  obtain ⟨last, hlast, -⟩ := h.ends.closed
  cases ts with
  | nil => cases hlast
  | cons t us => exact ⟨t, us, rfl⟩

theorem tokenAt_add (h : Stands tokens spare s ts) {n : Nat} (hn : n < ts.length) :
    tokenAt tokens (s.place + n) = current (ts.drop n) := by
  have hlength : ts.length = tokens.length - s.place := by rw [← h.ahead, List.length_drop]
  rw [tokenAt, Nat.min_eq_left (by omega), ← List.drop_drop, h.ahead]

theorem tokenAt_eq (h : Stands tokens spare s (t :: ts)) : tokenAt tokens s.place = t :=
  h.tokenAt_add (Nat.zero_lt_succ _)

theorem eq_nil_iff (h : Stands tokens spare s (t :: ts)) : ts = [] ↔ t.kind = .endOfFile := by
  constructor
  · rintro rfl
    obtain ⟨last, hlast, hkind⟩ := h.ends.closed
    obtain rfl := Option.some.inj hlast
    exact hkind
  · intro hkind
    by_contra hts
    refine h.ends.single t ?_ hkind
    rw [List.dropLast_cons_of_ne_nil hts]
    exact List.mem_cons_self

theorem place_lt_iff (h : Stands tokens spare s (t :: ts)) :
    s.place < tokens.length - 1 ↔ t.kind ≠ .endOfFile := by
  have hlength := congrArg List.length h.ahead
  rw [List.length_drop, List.length_cons] at hlength
  rw [ne_eq, ← h.eq_nil_iff, ← List.length_eq_zero_iff]
  omega

theorem moved (h : Stands tokens spare s (t :: ts)) (ht : t.kind ≠ .endOfFile) :
    Stands tokens spare s.moved ts where
  inside := by
    have := h.place_lt_iff.2 ht
    simp only [Cursor.moved]
    omega
  forward := by
    refine List.pairwise_cons.2 ⟨fun place hplace => ?_, h.forward⟩
    rcases List.mem_cons.1 hplace with rfl | hplace
    · exact Nat.lt_succ_self _
    · exact Nat.lt_succ_of_lt (List.rel_of_pairwise_cons h.forward hplace)
  ordered := h.ordered
  reached r hr := Nat.le_succ_of_le (h.reached r hr)
  counted := Nat.le_succ_of_le h.counted
  advanced := h.advanced
  ahead := by
    change tokens.drop (s.place + 1) = ts
    rw [← List.drop_drop, h.ahead, List.drop_one, List.tail_cons]
  ends := by
    have hends : Sealed ([t] ++ ts) := h.ends
    exact hends.of_append fun hts => ht (h.eq_nil_iff.1 hts)

theorem past_moved (h : Stands tokens spare s ts) : Past spare s s.moved where
  reached r hr := Nat.lt_succ_of_le (h.reached r hr)
  counted := h.counted
  place_lt := Nat.lt_succ_self _

theorem inRound {spare' : Nat} {loop : Loop} (h : Stands tokens spare' s ts)
    (hadmits : Admits tokens spare s loop) : Stands tokens spare (s.inRound loop) ts where
  inside := h.inside
  forward := h.forward
  ordered := List.pairwise_cons.2 ⟨hadmits.ordered, h.ordered⟩
  reached := List.forall_mem_cons.2 ⟨Nat.le_refl _, h.reached⟩
  counted := by
    have := hadmits.counted
    simp only [Cursor.inRound, List.length_cons]
    omega
  advanced := h.advanced
  ahead := h.ahead
  ends := h.ends

theorem fewer (h : Stands tokens spare s' ts) (hlt : s.place < s'.place) :
    tokens.length - s'.place < tokens.length - s.place :=
  Nat.sub_lt_sub_left (hlt.trans h.inside) hlt

theorem kind_ne (h : Stands tokens spare s ts) (hinside : s'.place < tokens.length)
    (hlt : s.place < s'.place) : (tokenAt tokens s.place).kind ≠ .endOfFile := by
  obtain ⟨t, us, rfl⟩ := h.exists_cons
  rw [h.tokenAt_eq]
  exact h.place_lt_iff.1 (by omega)

theorem noted {start : Nat} (h : Stands tokens spare s' ts) (hlt : start < s'.place)
    (hkind : (tokenAt tokens start).kind ≠ .endOfFile) (rule : Rule) :
    Stands tokens spare (s'.noted rule start) ts :=
  { h with advanced := List.forall_mem_cons.2 ⟨⟨hlt, hkind⟩, h.advanced⟩ }

end Stands

theorem Past.noted {start : Nat} (h : Past spare s s') (rule : Rule) :
    Past spare s (s'.noted rule start) :=
  ⟨⟨h.reached, h.counted⟩, h.place_lt⟩

/-! ## Walks that end -/

theorem Walk.runAt_bind {α β : Type} (walk : Walk α) (f : α → Walk β) (s : Cursor) :
    (walk >>= f).runAt s = (walk.runAt s).bind fun read =>
      match read with
      | (.ok value, s') => (f value).runAt s'
      | (.error e, s') => some (.error e, s') := by
  change (walk.runAt s).bind _ = _
  congr
  funext read
  obtain ⟨value, s'⟩ := read
  cases value <;> rfl

theorem Walk.runAt_advance (tokens : List Token) (s : Cursor) :
    (Walk.advance tokens).runAt s = some (.ok (tokenAt tokens s.place),
      if s.place < tokens.length - 1 then s.moved else s) :=
  rfl

/-- Whether a walk ends with a result: it comes to that at every bound that is large enough. -/
def EndsWith {α : Type} (walk : Nat → Walk α) (s : Cursor) (result : Except SyntaxError α)
    (stop : Cursor) : Prop :=
  ∃ least, ∀ bound, least ≤ bound → (walk bound).runAt s = some (result, stop)

section Ends

variable {α β : Type} {walk : Nat → Walk α} {f : α → Nat → Walk β} {stop : Cursor}

theorem EndsWith.of_runAt {result : Except SyntaxError α}
    (h : ∀ bound, (walk bound).runAt s = some (result, stop)) : EndsWith walk s result stop :=
  ⟨0, fun bound _ => h bound⟩

theorem EndsWith.bind {value : α} {result : Except SyntaxError β}
    (h : EndsWith walk s (.ok value) s') (hnext : EndsWith (f value) s' result stop) :
    EndsWith (fun bound => walk bound >>= fun value => f value bound) s result stop := by
  obtain ⟨least, hleast⟩ := h
  obtain ⟨least', hleast'⟩ := hnext
  refine ⟨max least least', fun bound hbound => ?_⟩
  rw [Walk.runAt_bind, hleast bound (le_of_max_le_left hbound)]
  exact hleast' bound (le_of_max_le_right hbound)

theorem EndsWith.bind_error {e : SyntaxError} (h : EndsWith walk s (.error e) stop) :
    EndsWith (fun bound => walk bound >>= fun value => f value bound) s (.error e) stop := by
  obtain ⟨least, hleast⟩ := h
  refine ⟨least, fun bound hbound => ?_⟩
  rw [Walk.runAt_bind, hleast bound hbound]
  rfl

theorem EndsWith.congr {walk' : Nat → Walk α} {result : Except SyntaxError α}
    (h : EndsWith walk' s' result stop)
    (hrun : ∀ bound, (walk bound).runAt s = (walk' bound).runAt s') : EndsWith walk s result stop :=
  h.imp fun _ hleast bound hbound => (hrun bound).trans (hleast bound hbound)

/-- A walk ends if it does behind what it goes into first. -/
theorem EndsWith.of_succ {result : Except SyntaxError α}
    (h : EndsWith (fun bound => walk (bound + 1)) s result stop) : EndsWith walk s result stop := by
  obtain ⟨least, hleast⟩ := h
  refine ⟨least + 1, fun bound hbound => ?_⟩
  obtain ⟨bound, rfl⟩ := Nat.exists_eq_add_of_le' (Nat.le_of_add_left_le hbound)
  exact hleast bound (Nat.le_of_add_le_add_right hbound)

end Ends

/-! ## Walks that follow a reader -/

/-- A walk from the cursor comes to what a reader comes to: to its value, at the tokens that it
leaves as `view` shows them and at a cursor with `post`, or to its error. In both cases the cursor has
only moved on. -/
inductive Follows (tokens : List Token) (spare : Nat) {α γ : Type} (walk : Nat → Walk α) (s : Cursor)
    (view : γ → α × List Token) (post : Cursor → Prop) : Except SyntaxError γ → Prop
  | ok {c : γ} {s' : Cursor} (hends : EndsWith walk s (.ok (view c).1) s')
      (hle : s.place ≤ s'.place) (hstands : Stands tokens spare s' (view c).2) (hpost : post s') :
      Follows tokens spare walk s view post (.ok c)
  | error {e : SyntaxError} {s' : Cursor} (hends : EndsWith walk s (.error e) s')
      (hle : s.place ≤ s'.place) (hsound : Sound tokens spare s') :
      Follows tokens spare walk s view post (.error e)

variable {α β γ δ : Type} {walk : Nat → Walk α} {f : α → Nat → Walk β} {view : γ → α × List Token}
  {view' : δ → β × List Token} {post post' : Cursor → Prop} {result : Except SyntaxError γ}

namespace Follows

/-- What goes on may count fewer places as not used. -/
theorem bind_le {spare' : Nat} (hspare : spare' ≤ spare) {next : γ → Except SyntaxError δ}
    (h : Follows tokens spare walk s view post result)
    (hnext : ∀ c s', s.place ≤ s'.place → Stands tokens spare s' (view c).2 → post s' →
      Follows tokens spare' (f (view c).1) s' view' post' (next c)) :
    Follows tokens spare' (fun bound => walk bound >>= fun value => f value bound) s view' post'
      (result >>= next) := by
  cases h with
  | error hends hle hsound => exact .error hends.bind_error hle (hsound.mono hspare)
  | @ok c s' hends hle hstands hpost =>
    have hrest := hnext c s' hle hstands hpost
    change Follows tokens spare' _ s view' post' (next c)
    generalize next c = more at hrest
    cases hrest with
    | ok hends' hle' hstands' hpost' =>
      exact .ok (hends.bind hends') (hle.trans hle') hstands' hpost'
    | error hends' hle' hsound' => exact .error (hends.bind hends') (hle.trans hle') hsound'

theorem bind {next : γ → Except SyntaxError δ} (h : Follows tokens spare walk s view post result)
    (hnext : ∀ c s', s.place ≤ s'.place → Stands tokens spare s' (view c).2 → post s' →
      Follows tokens spare (f (view c).1) s' view' post' (next c)) :
    Follows tokens spare (fun bound => walk bound >>= fun value => f value bound) s view' post'
      (result >>= next) :=
  h.bind_le le_rfl hnext

theorem pure {value : α} {c : γ} (hstands : Stands tokens spare s ts) (hview : view c = (value, ts))
    (hpost : post s) : Follows tokens spare (fun _ => Pure.pure value) s view post (.ok c) := by
  refine .ok (.of_runAt fun _ => ?_) le_rfl ?_ hpost
  · rw [hview]
    rfl
  · rwa [hview]

theorem mono (h : Follows tokens spare walk s view post result)
    (hpost : ∀ s', s.place ≤ s'.place → post s' → post' s') :
    Follows tokens spare walk s view post' result := by
  cases h with
  | ok hends hle hstands h => exact .ok hends hle hstands (hpost _ hle h)
  | error hends hle hsound => exact .error hends hle hsound

theorem mono_spare {spare' : Nat} (h : Follows tokens spare walk s view post result)
    (hle : spare' ≤ spare) : Follows tokens spare' walk s view post result := by
  cases h with
  | ok hends hle' hstands h => exact .ok hends hle' (hstands.mono hle) h
  | error hends hle' hsound => exact .error hends hle' (hsound.mono hle)

/-- Where a walk gets, whatever it comes to. -/
theorem exists_stop (h : Follows tokens spare walk s view post result) :
    ∃ stop, EndsWith walk s (result.map fun c => (view c).1) stop ∧ s.place ≤ stop.place ∧
      Sound tokens spare stop ∧
      ∀ c, result = .ok c → tokens.drop stop.place = (view c).2 ∧ post stop := by
  cases h with
  | error hends hle hsound =>
    refine ⟨_, hends, hle, hsound, fun c hc => ?_⟩
    cases hc
  | ok hends hle hstands hpost =>
    refine ⟨_, hends, hle, hstands.toSound, fun c hc => ?_⟩
    cases hc
    exact ⟨hstands.ahead, hpost⟩

theorem fresh {base : Cursor} (h : Follows tokens spare walk s view (Past spare base) result) :
    Follows tokens spare walk s view (Fresh spare) result :=
  h.mono fun _ _ hpast => hpast.toFresh

theorem value {f : α → β} {next : γ → δ} (h : Follows tokens spare walk s view post result)
    (hview : ∀ c, view' (next c) = (f (view c).1, (view c).2)) :
    Follows tokens spare (fun bound => walk bound >>= fun value => Pure.pure (f value)) s view' post
      (result >>= fun c => .ok (next c)) :=
  h.bind fun c _ _ hstands hpost => .pure hstands (hview c) hpost

theorem past {base : Cursor} (h : Follows tokens spare walk s view (Fresh spare) result)
    (hlt : base.place < s.place) : Follows tokens spare walk s view (Past spare base) result :=
  h.mono fun _ hle hfresh => ⟨hfresh, Nat.lt_of_lt_of_le hlt hle⟩

/-- The same from where another walk gets without more ado. -/
theorem of_runAt_eq {walk' : Nat → Walk α}
    (hrun : ∀ bound, (walk bound).runAt s = (walk' bound).runAt s') (hle : s.place ≤ s'.place)
    (h : Follows tokens spare walk' s' view post result) :
    Follows tokens spare walk s view post result := by
  cases h with
  | ok hends hle' hstands hpost => exact .ok (hends.congr hrun) (hle.trans hle') hstands hpost
  | error hends hle' hsound => exact .error (hends.congr hrun) (hle.trans hle') hsound

theorem of_succ (h : Follows tokens spare (fun bound => walk (bound + 1)) s view post result) :
    Follows tokens spare walk s view post result := by
  cases h with
  | ok hends hle hstands hpost => exact .ok hends.of_succ hle hstands hpost
  | error hends hle hsound => exact .error hends.of_succ hle hsound

theorem map {view' : δ → α × List Token} {next : γ → δ}
    (h : Follows tokens spare walk s view post result) (hview : ∀ c, view' (next c) = view c) :
    Follows tokens spare walk s view' post (result.map next) := by
  cases h with
  | error hends hle hsound => exact .error hends hle hsound
  | ok hends hle hstands hpost =>
    refine .ok ?_ hle ?_ hpost
    · rwa [hview]
    · rwa [hview]

theorem seenAs {view' : δ → α × List Token} {next : γ → δ}
    (h : Follows tokens spare walk s view post result) (hview : ∀ c, view' (next c) = view c) :
    Follows tokens spare walk s view' post (result >>= fun c => Except.ok (next c)) := by
  have hmap := h.map hview
  cases result <;> exact hmap

theorem throw {e : SyntaxError} (h : Sound tokens spare s) :
    Follows tokens spare (fun _ => MonadExcept.throw e) s view post (.error e) :=
  .error (.of_runAt fun _ => rfl) le_rfl h

theorem noted (hs : Stands tokens spare s ts) (rule : Rule)
    (hpost : ∀ s', post s' → s.place < s'.place ∧ post' (s'.noted rule s.place))
    (h : Follows tokens spare walk s view post result) :
    Follows tokens spare (fun bound => Walk.noted rule (walk bound)) s view post' result := by
  have hnoted : ∀ bound, (Walk.noted rule (walk bound)).runAt s = (walk bound >>= fun value =>
      modify (Cursor.noted · rule s.place) >>= fun _ => Pure.pure value : Walk α).runAt s :=
    fun _ => rfl
  cases h with
  | error hends hle hsound => exact .error (hends.bind_error.congr hnoted) hle hsound
  | @ok c s' hends hle hstands hafter =>
    obtain ⟨hlt, hdone⟩ := hpost s' hafter
    have hnote : EndsWith (fun _ => modify (Cursor.noted · rule s.place) >>= fun _ =>
        Pure.pure (view c).1) s' (.ok (view c).1) (s'.noted rule s.place) :=
      .of_runAt fun _ => rfl
    have hends' : EndsWith (fun bound => Walk.noted rule (walk bound)) s (.ok (view c).1)
        (s'.noted rule s.place) := (hends.bind hnote).congr hnoted
    exact .ok hends' hle (hstands.noted hlt (hs.kind_ne hstands.inside hlt) rule) hdone

theorem noted_past (hs : Stands tokens spare s ts) (rule : Rule)
    (h : Follows tokens spare walk s view (Past spare s) result) :
    Follows tokens spare (fun bound => Walk.noted rule (walk bound)) s view (Past spare s) result :=
  h.noted hs rule fun _ hpast => ⟨hpast.place_lt, hpast.noted rule⟩

theorem liftM {read : Except SyntaxError α} {next : α → γ}
    (hstands : Stands tokens spare s ts) (hview : ∀ value, view (next value) = (value, ts))
    (hpost : post s) :
    Follows tokens spare (fun _ => MonadLiftT.monadLift read) s view post
      (read >>= fun value => .ok (next value)) := by
  cases read with
  | error e => exact .error (.of_runAt fun _ => rfl) le_rfl hstands.toSound
  | ok value =>
    refine .ok (.of_runAt fun _ => ?_) le_rfl ?_ hpost
    · rw [hview]
      rfl
    · rwa [hview]

end Follows

/-! ## Moves -/

namespace Stands

section Moves

variable {spare' : Nat} {g : Token → Nat → Walk α} {loop : Loop}

theorem follows_current (h : Stands tokens spare s ts)
    (hnext : Follows tokens spare' (g (current ts)) s view post result) :
    Follows tokens spare' (fun bound => Walk.peek tokens >>= fun t => g t bound) s view post
      result := by
  obtain ⟨t, us, rfl⟩ := h.exists_cons
  refine hnext.of_runAt_eq (fun bound => ?_) le_rfl
  rw [current, List.headD_cons, ← h.tokenAt_eq]
  rfl

theorem follows_peek (h : Stands tokens spare s (t :: ts))
    (hnext : Follows tokens spare' (g t) s view post result) :
    Follows tokens spare' (fun bound => Walk.peek tokens >>= fun t => g t bound) s view post
      result :=
  h.follows_current hnext

theorem follows_peekBehind {u : Token} (h : Stands tokens spare s (t :: u :: ts))
    (hnext : Follows tokens spare' (g u) s view post result) :
    Follows tokens spare' (fun bound => Walk.peekBehind tokens >>= fun t => g t bound) s view post
      result := by
  refine hnext.of_runAt_eq (fun bound => ?_) le_rfl
  have hu : tokenAt tokens (s.place + 1) = u := h.tokenAt_add (Nat.succ_lt_succ (Nat.zero_lt_succ _))
  rw [← hu]
  rfl

theorem follows_advance (h : Stands tokens spare s (t :: ts)) (ht : t.kind ≠ .endOfFile)
    (hnext : ∀ s', Stands tokens spare s' ts → Past spare s s' →
      Follows tokens spare' (g t) s' view post result) :
    Follows tokens spare' (fun bound => Walk.advance tokens >>= fun t => g t bound) s view post
      result := by
  refine (hnext s.moved (h.moved ht) h.past_moved).of_runAt_eq (fun bound => ?_) (Nat.le_succ _)
  rw [Walk.runAt_bind, Walk.runAt_advance, if_pos (h.place_lt_iff.2 ht), h.tokenAt_eq]
  rfl

theorem follows_advance_end (h : Stands tokens spare s (t :: ts)) (ht : t.kind = .endOfFile)
    (hnext : Follows tokens spare' (g t) s view post result) :
    Follows tokens spare' (fun bound => Walk.advance tokens >>= fun t => g t bound) s view post
      result := by
  refine hnext.of_runAt_eq (fun bound => ?_) le_rfl
  rw [Walk.runAt_bind, Walk.runAt_advance, if_neg fun hlt => h.place_lt_iff.1 hlt ht, h.tokenAt_eq]
  rfl

theorem follows_startRound {former : Nat} {next : Nat → Walk α} (h : Stands tokens former s ts)
    (hadmits : Admits tokens spare s loop)
    (hnext : Stands tokens spare (s.inRound loop) ts →
      Follows tokens spare' next (s.inRound loop) view post result) :
    Follows tokens spare' (fun bound => Walk.startRound loop >>= fun _ => next bound) s view post
      result := by
  refine (hnext (h.inRound hadmits)).of_runAt_eq (fun bound => ?_) ?_
  · rfl
  · exact le_rfl

theorem follows_refuse (h : Stands tokens spare s ts) (expected : Expected) :
    Follows tokens spare (fun _ => Walk.refuse tokens expected) s view post
      (.error (unexpected expected ts)) := by
  obtain ⟨t, us, rfl⟩ := h.exists_cons
  exact h.follows_peek (.throw h.toSound)

theorem follows_eat {g : Bool → Nat → Walk α} (h : Stands tokens spare s (t :: ts))
    (kind : Token.Kind) (hkind : kind ≠ .endOfFile)
    (hpos : t.kind = kind → ∀ s', Stands tokens spare s' ts → Past spare s s' →
      Follows tokens spare (g true) s' view post result)
    (hneg : t.kind ≠ kind → Follows tokens spare (g false) s view post result) :
    Follows tokens spare (fun bound => Walk.eat tokens kind >>= fun found => g found bound) s view
      post result := by
  simp only [Walk.eat, bind_assoc]
  refine h.follows_peek ?_
  by_cases heq : t.kind = kind
  · simp only [if_pos heq, bind_assoc, pure_bind]
    exact h.follows_advance (heq ▸ hkind) (hpos heq)
  · simp only [if_neg heq, pure_bind]
    exact hneg heq

/-- A choice by whether there is a token of the kind. -/
theorem follows_ifEat {eaten other : Nat → Walk α} {result' : Except SyntaxError γ}
    (h : Stands tokens spare s (t :: ts)) (kind : Token.Kind) (hkind : kind ≠ .endOfFile)
    (hpos : ∀ s', Stands tokens spare s' ts → Past spare s s' →
      Follows tokens spare eaten s' view post result)
    (hneg : t.kind ≠ kind → Follows tokens spare other s view post result') :
    Follows tokens spare
      (fun bound => Walk.eat tokens kind >>= fun found => if found then eaten bound else other bound)
      s view post (if t.kind = kind then result else result') := by
  refine h.follows_eat kind hkind (fun heq s' hs' hpast => ?_) fun hne => ?_
  · rw [if_pos heq]
    exact hpos s' hs' hpast
  · rw [if_neg hne]
    exact hneg hne

theorem follows_expect (h : Stands tokens spare s ts) (kind : Token.Kind)
    (hkind : kind ≠ .endOfFile) :
    Follows tokens spare (fun _ => Walk.expect tokens kind) s seen (Past spare s)
      (takeToken kind ts) := by
  obtain ⟨t, us, rfl⟩ := h.exists_cons
  rw [Walk.expect, takeToken]
  refine h.follows_peek ?_
  by_cases heq : t.kind = kind
  · rw [if_pos heq, if_pos heq, ← bind_pure (Walk.advance tokens)]
    exact h.follows_advance (heq ▸ hkind) fun s' hs' hpast => .pure hs' rfl hpast
  · rw [if_neg heq, if_neg heq]
    exact h.follows_refuse _

theorem follows_name (h : Stands tokens spare s ts) :
    Follows tokens spare (fun _ => Walk.name tokens) s seen (Past spare s) (takeName ts) := by
  obtain ⟨t, us, rfl⟩ := h.exists_cons
  rw [Walk.name, takeName]
  refine h.follows_peek ?_
  cases hkind : t.kind with
  | ident name =>
    exact h.follows_advance (by simp [hkind]) fun s' hs' hpast => .pure hs' rfl hpast
  | _ =>
    exact h.follows_refuse _

/-! ## Groups -/

theorem follows_groupRounds (h : Stands tokens spare s ts) (hfresh : Fresh spare s) (opening : Token)
    (depth : Nat) :
    Follows tokens spare (fun bound => Walk.groupRounds tokens opening bound (depth + 1)) s left
      (Fresh spare) (groupEnd ⟨.unclosed opening.kind, opening.span⟩ depth ts) := by
  induction ts generalizing s depth with
  | nil =>
    obtain ⟨t, us, hts⟩ := h.exists_cons
    cases hts
  | cons t ts ih =>
    have hmore : ∀ {s' : Cursor} (depth : Nat), Stands tokens spare s' ts → Fresh spare s' →
        Follows tokens spare (fun bound => Walk.groupRounds tokens opening bound (depth + 1)) s' left
          (Fresh spare)
          ((groupEnd ⟨.unclosed opening.kind, opening.span⟩ depth ts).map (Rest.behind t)) :=
      fun depth hs' hfresh' => (ih hs' hfresh' depth).map fun _ => rfl
    refine .of_succ ?_
    simp only [Walk.groupRounds, if_neg (Nat.succ_ne_zero depth)]
    rw [groupEnd_cons]
    refine h.follows_startRound (hfresh.admits .group) fun hbegun => ?_
    cases hkind : t.kind with
    | endOfFile =>
      refine hbegun.follows_advance_end hkind ?_
      simp only [hkind]
      exact .throw hbegun.toSound
    | opening shape =>
      refine hbegun.follows_advance (by simp [hkind]) fun s' hs' hpast => ?_
      simp only [hkind]
      exact hmore (depth + 1) hs' hpast.toFresh
    | closing shape =>
      refine hbegun.follows_advance (by simp [hkind]) fun s' hs' hpast => ?_
      simp only [hkind]
      cases depth with
      | zero =>
        refine .of_succ ?_
        simp only [Walk.groupRounds, if_pos]
        exact .pure hs' rfl hpast.toFresh
      | succ depth => exact hmore depth hs' hpast.toFresh
    | _ =>
      refine hbegun.follows_advance (by simp [hkind]) fun s' hs' hpast => ?_
      simp only [hkind]
      exact hmore depth hs' hpast.toFresh

/-- A group is only tried at the end of the file by a cursor that comes from nowhere. -/
theorem follows_group (h : Stands tokens spare s (t :: ts))
    (hend : t.kind = .endOfFile → Fresh spare s) :
    Follows tokens spare (Walk.group tokens) s left (Past spare s) (skipGroup t ts) := by
  rw [skipGroup_eq]
  refine .noted_past h .group ?_
  by_cases hkind : t.kind = .endOfFile
  · refine h.follows_advance_end hkind ?_
    have hunclosed : groupEnd ⟨.unclosed t.kind, t.span⟩ 0 (t :: ts) =
        .error ⟨.unclosed t.kind, t.span⟩ := groupEnd_of_endOfFile _ 0 hkind
    -- The cursor stays, so the first round finds the same token.
    have hrounds := h.follows_groupRounds (hend hkind) t 0
    rw [hunclosed] at hrounds
    obtain rfl := h.eq_nil_iff.2 hkind
    cases hrounds with
    | error hends hle hsound => exact .error hends hle hsound
  · refine h.follows_advance hkind fun s' hs' hpast => ?_
    exact (hs'.follows_groupRounds hpast.toFresh t 0).past hpast.place_lt

theorem follows_opened (h : Stands tokens spare s (t :: ts)) {shape : Bracket}
    (hopen : t.kind = .opening shape) :
    Follows tokens spare (Walk.group tokens) s left (Past spare s) (skipGroup t ts) :=
  h.follows_group fun hend => by simp [hopen] at hend

theorem follows_block (h : Stands tokens spare s ts) :
    Follows tokens spare (Walk.block tokens) s left (Past spare s) (skipBlock ts) := by
  obtain ⟨t, us, rfl⟩ := h.exists_cons
  rw [skipBlock]
  refine h.follows_peek ?_
  by_cases hopen : t.kind = .opening .brace
  · simp only [if_pos hopen]
    exact (h.follows_opened hopen).seenAs fun _ => rfl
  · simp only [if_neg hopen]
    exact h.follows_refuse _

/-! ## Types, parameters and results -/

theorem follows_member (h : Stands tokens spare s ts) (hfresh : Fresh spare s) (base : String) :
    Follows tokens spare (fun _ => Walk.member tokens base) s seen (Fresh spare)
      (readMember base ts) := by
  obtain ⟨t, us, rfl⟩ := h.exists_cons
  rw [Walk.member, readMember]
  refine h.follows_ifEat .dot (by decide) (fun s' hs' hpast => ?_) fun _ => .pure h rfl hfresh
  exact hs'.follows_name.fresh.value fun _ => rfl

end Moves

end Stands

end ReactBridge.Go
