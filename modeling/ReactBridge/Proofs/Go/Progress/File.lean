import ReactBridge.Proofs.Go.Progress.Type
import ReactBridge.Proofs.Go.Simulation

/-!
# Walks along declarations and files

* `Stands.follows_func`, `Stands.follows_importDeclaration`, `Stands.follows_declaration` :
  declarations are walked along as they are read;
* `Stands.follows_declarations`, `Stands.follows_file` : so are all of them, and files;
* `Rule.exists_ends` : every rule ends.
-/

namespace ReactBridge.Go

variable {tokens : List Token} {spare : Nat} {s s' : Cursor} {t : Token} {ts : List Token}

theorem Fresh.stands (hfresh : Fresh spare s) (h : Stands tokens spare s ts) :
    Stands tokens (spare + 1) s ts :=
  { h with counted := Nat.succ_le_succ hfresh.counted }

/-! ## Imports -/

namespace Stands

theorem follows_ending (h : Stands tokens spare s ts) (hfresh : Fresh spare s) :
    Follows tokens spare (fun _ => Walk.ending tokens) s left (Fresh spare) (takeEnd ts) := by
  obtain ⟨t, us, rfl⟩ := h.exists_cons
  rw [Walk.ending, takeEnd]
  refine h.follows_ifEat .semicolon (by decide) (fun s' hs' hpast => ?_) fun _ => h.follows_peek ?_
  · exact .pure hs' rfl hpast.toFresh
  · split
    · exact .pure h rfl hfresh
    · exact h.follows_refuse _

theorem follows_importPath (h : Stands tokens spare s ts) :
    Follows tokens spare (fun _ => Walk.importPath tokens) s left (Past spare s)
      (takeImportPath ts) := by
  obtain ⟨t, us, rfl⟩ := h.exists_cons
  rw [Walk.importPath, takeImportPath]
  refine h.follows_peek ?_
  cases hkind : t.kind with
  | literal kind =>
    cases kind with
    | string | rawString =>
      exact h.follows_advance (by simp [hkind]) fun s' hs' hpast => .pure hs' rfl hpast
    | number | rune => exact h.follows_refuse _
  | _ => exact h.follows_refuse _

theorem follows_importSpec (h : Stands tokens spare s ts) :
    Follows tokens spare (fun _ => Walk.importSpec tokens) s left (Past spare s)
      (skipImport ts) := by
  obtain ⟨t, us, rfl⟩ := h.exists_cons
  rw [Walk.importSpec, skipImport]
  refine h.follows_peek ?_
  cases hkind : t.kind with
  | ident | dot =>
    refine h.follows_advance (by simp [hkind]) fun s' hs' hpast => ?_
    exact (hs'.follows_importPath.fresh.past hpast.place_lt).seenAs fun _ => rfl
  | _ => exact h.follows_importPath

theorem follows_importRounds {s : Cursor} {ts : List Token} (h : Stands tokens spare s ts)
    (hfresh : Fresh spare s) :
    Follows tokens spare (Walk.importRounds tokens) s left (Fresh spare) (skipImports ts) := by
  obtain ⟨t, us, rfl⟩ := h.exists_cons
  refine .of_succ ?_
  rw [Simulation.skipImports_cons]
  simp only [Walk.importRounds]
  refine h.follows_ifEat (.closing .paren) (by decide) (fun s' hs' hpast => ?_) fun _ => ?_
  · exact .pure hs' rfl hpast.toFresh
  refine h.follows_startRound (hfresh.admits .imports) fun hs' => ?_
  refine hs'.follows_ifEat .semicolon (by decide) (fun s'' hs'' hpast => ?_) fun _ => ?_
  · have hfewer : tokens.length - s''.place < tokens.length - s.place := hs''.fewer hpast.place_lt
    exact (follows_importRounds hs'' hpast.toFresh).seenAs fun _ => rfl
  refine hs'.follows_importSpec.bind fun rest s'' _ hs'' hpast => ?_
  have hfewer : tokens.length - s''.place < tokens.length - s.place := hs''.fewer hpast.place_lt
  refine hs''.follows_current ?_
  dsimp only [left]
  split
  · exact (follows_importRounds hs'' hpast.toFresh).seenAs fun _ => rfl
  · refine (hs''.follows_ending hpast.toFresh).bind fun ended s₃ hle hs₃ hfresh₃ => ?_
    have hfewer : tokens.length - s₃.place < tokens.length - s.place :=
      hs₃.fewer (Nat.lt_of_lt_of_le hpast.place_lt hle)
    exact (follows_importRounds hs₃ hfresh₃).seenAs fun _ => rfl
  -- An import may end with the file, where the reader leaves as much as it found.
  termination_by tokens.length - s.place
  decreasing_by all_goals assumption

end Stands

def readImportDeclaration (ts : List Token) : Except SyntaxError (Rest ts) := do
  let (_, behind) ← takeToken (.keyword .importDecl) ts
  let last ← skipImportDeclaration behind.items
  return behind.within last

def readFunction (ts : List Token) : Except SyntaxError (FuncDecl × Rest ts) := do
  let (keyword, behind) ← takeToken (.keyword .func) ts
  let (func, last) ← readFunc keyword.span.start behind.items
  return (func, behind.within last)

namespace Stands

theorem follows_importDeclaration (h : Stands tokens spare s ts) :
    Follows tokens spare (Walk.importDeclaration tokens) s left (Past spare s)
      (readImportDeclaration ts) := by
  refine .noted_past h .importDeclaration ?_
  rw [readImportDeclaration]
  refine (h.follows_expect (.keyword .importDecl) (by decide)).bind ?_
  rintro ⟨keyword, items, hitems⟩ s₁ _ hs₁ hpast₁
  obtain ⟨t, us, rfl⟩ := hs₁.exists_cons
  dsimp only [seen] at hs₁ ⊢
  refine Follows.seenAs (?_ : Follows _ _ _ _ left _ (skipImportDeclaration (t :: us))) fun _ => rfl
  rw [skipImportDeclaration]
  refine hs₁.follows_ifEat (.opening .paren) (by decide) (fun s₂ hs₂ hpast₂ => ?_) fun _ => ?_
  · refine (hs₂.follows_importRounds hpast₂.toFresh).bind fun rest s₃ hle₃ hs₃ hfresh₃ => ?_
    have hlt := Nat.lt_of_lt_of_le (hpast₁.place_lt.trans hpast₂.place_lt) hle₃
    exact ((hs₃.follows_ending hfresh₃).past hlt).seenAs fun _ => rfl
  · refine hs₁.follows_importSpec.bind fun rest s₂ _ hs₂ hpast₂ => ?_
    have hlt := hpast₁.place_lt.trans hpast₂.place_lt
    exact ((hs₂.follows_ending hpast₂.toFresh).past hlt).seenAs fun _ => rfl

/-! ## Functions -/

theorem follows_receiver (h : Stands tokens spare s ts) (hfresh : Fresh spare s) (start : Nat) :
    Follows tokens spare (Walk.receiver tokens start) s seen (Fresh spare)
      (readReceiver start ts) := by
  rw [readReceiver]
  refine h.follows_current ?_
  split
  · refine (h.follows_parameters (types tokens spare _)).bind ?_
    rintro ⟨fields, rest⟩ s' _ hs' hpast
    cases fields with
    | nil => exact hs'.follows_current (.throw hs'.toSound)
    | cons field fields => exact .pure hs' rfl hpast.toFresh
  · exact .pure h rfl hfresh

theorem follows_optionalGroup (h : Stands tokens spare s ts) (hfresh : Fresh spare s)
    (shape : Bracket) :
    Follows tokens spare (Walk.optionalGroup tokens shape) s seen (Fresh spare)
      (skipOptional shape ts) := by
  obtain ⟨t, us, rfl⟩ := h.exists_cons
  rw [skipOptional]
  refine h.follows_peek ?_
  split
  · next hopen => exact (h.follows_opened hopen).fresh.value fun _ => rfl
  · exact .pure h rfl hfresh

theorem follows_func (h : Stands tokens spare s ts) :
    Follows tokens spare (Walk.func tokens) s seen (Past spare s) (readFunction ts) := by
  refine .noted_past h .func ?_
  rw [readFunction]
  refine (h.follows_expect (.keyword .func) (by decide)).bind fun keyword s₁ _ hs₁ hpast₁ => ?_
  simp only [readFunc, bind_assoc]
  refine (hs₁.follows_receiver hpast₁.toFresh keyword.1.span.start).bind
    fun receiver s₂ hle₂ hs₂ _ => ?_
  refine hs₂.follows_name.bind fun name s₃ hle₃ hs₃ hpast₃ => ?_
  refine (hs₃.follows_optionalGroup hpast₃.toFresh .square).bind fun generic s₄ hle₄ hs₄ _ => ?_
  refine (hs₄.follows_parameters (types tokens spare _)).bind fun params s₅ hle₅ hs₅ hpast₅ => ?_
  have hresults := hs₅.follows_results (types tokens spare _) hpast₅.toFresh
  refine hresults.bind fun results s₆ hle₆ hs₆ hfresh₆ => ?_
  refine (hs₆.follows_optionalGroup hfresh₆ .brace).bind fun body s₇ hle₇ hs₇ hfresh₇ => ?_
  have hlt : s.place < s₇.place := Nat.lt_of_lt_of_le hpast₁.place_lt
    (hle₂.trans (hle₃.trans (hle₄.trans (hle₅.trans (hle₆.trans hle₇)))))
  exact ((hs₇.follows_ending hfresh₇).past hlt).value fun _ => rfl

end Stands

/-! ## Other declarations -/

/-- Whether the loop over the declarations can go on where the cursor stands: a declaration was read
and no round has begun here, or the file ends and only the loop over a declaration has found so. -/
def Ready (tokens : List Token) (spare : Nat) (s : Cursor) : Prop :=
  Fresh (spare + 1) s ∨
    (tokenAt tokens s.place).kind = .endOfFile ∧ Admits tokens spare s .declarations

theorem Ready.noted {start : Nat} (h : Ready tokens spare s) (rule : Rule) :
    Ready tokens spare (s.noted rule start) :=
  h.imp (fun hfresh => ⟨hfresh.reached, hfresh.counted⟩) fun hend =>
    ⟨hend.1, hend.2.ordered, hend.2.counted⟩

/-- At the end of the file the loop over a declaration leaves room for that over all of them. -/
theorem Stands.admits_inRound (h : Stands tokens (spare + 1) s (t :: ts))
    (hfresh : Fresh (spare + 1) s) (hend : t.kind = .endOfFile) :
    Admits tokens spare (s.inRound .declaration) .declarations where
  ordered := by
    refine List.forall_mem_cons.2 ⟨.inr ⟨rfl, ?_, rfl, rfl⟩, fun r hr => .inl (hfresh.reached r hr)⟩
    rw [h.tokenAt_eq]
    exact hend
  counted := by
    have hcounted := hfresh.counted
    simp only [Cursor.inRound, List.length_cons]
    omega

namespace Stands

theorem follows_declarationRounds {s : Cursor} {ts : List Token}
    (h : Stands tokens (spare + 1) s ts) (hfresh : Fresh (spare + 1) s) :
    Follows tokens (spare + 1) (Walk.declarationRounds tokens) s left (Ready tokens spare)
      (skipDeclaration ts) := by
  obtain ⟨t, us, rfl⟩ := h.exists_cons
  refine .of_succ ?_
  rw [skipDeclaration]
  simp only [Walk.declarationRounds]
  refine h.follows_startRound (hfresh.admits .declaration) fun hs' => hs'.follows_peek ?_
  have hmore : t.kind ≠ .endOfFile → Follows tokens (spare + 1)
      (fun bound => Walk.advance tokens >>= fun _ => Walk.declarationRounds tokens bound)
      (s.inRound .declaration) left (Ready tokens spare)
      (skipDeclaration us >>= fun rest => .ok (rest.behind t)) := fun hnot =>
    hs'.follows_advance hnot fun s'' hs'' hpast => by
      have hfewer : tokens.length - s''.place < tokens.length - s.place := hs''.fewer hpast.place_lt
      exact (follows_declarationRounds hs'' hpast.toFresh).seenAs fun _ => rfl
  cases hkind : t.kind with
  | semicolon =>
    refine hs'.follows_advance (by simp [hkind]) fun s'' hs'' hpast => ?_
    exact .pure hs'' rfl (.inl hpast.toFresh)
  | endOfFile =>
    refine .pure hs' rfl (.inr ⟨?_, h.admits_inRound hfresh hkind⟩)
    rw [hs'.tokenAt_eq]
    exact hkind
  | opening shape =>
    refine (hs'.follows_opened hkind).bind fun rest s'' _ hs'' hpast => ?_
    have hfewer : tokens.length - s''.place < tokens.length - s.place := hs''.fewer hpast.place_lt
    exact (follows_declarationRounds hs'' hpast.toFresh).seenAs fun _ => rfl
  | closing shape => exact hs'.follows_refuse _
  | _ => exact hmore (by simp [hkind])
  termination_by tokens.length - s.place
  decreasing_by all_goals assumption

/-- A declaration is only walked along from its keyword. -/
theorem follows_declaration (h : Stands tokens (spare + 1) s (t :: ts))
    (hkind : t.kind ≠ .endOfFile) :
    Follows tokens (spare + 1) (Walk.declaration tokens) s left
      (fun s' => s.place < s'.place ∧ Ready tokens spare s') (skipDeclaration ts) := by
  have hwalk : Follows tokens (spare + 1)
      (fun bound => Walk.advance tokens >>= fun _ => Walk.declarationRounds tokens bound) s left
      (fun s' => s.place < s'.place ∧ Ready tokens spare s') (skipDeclaration ts) := by
    refine h.follows_advance hkind fun s' hs' hpast => ?_
    refine (hs'.follows_declarationRounds hpast.toFresh).mono fun s'' hle hready => ?_
    exact ⟨Nat.lt_of_lt_of_le hpast.place_lt hle, hready⟩
  exact .noted h .declaration (fun s' hpast => ⟨hpast.1, hpast.1, hpast.2.noted _⟩) hwalk

end Stands

/-! ## Files -/

/-- A value and the last of the tokens, which is left when a file has been read. -/
def atEnd (tokens : List Token) {α : Type} (value : α) : α × List Token :=
  (value, tokens.drop (tokens.length - 1))

theorem readDeclarations_import (hkind : t.kind = .keyword .importDecl) (ts : List Token) :
    readDeclarations (t :: ts) =
      readImportDeclaration (t :: ts) >>= fun rest => readDeclarations rest.items := by
  rw [readDeclarations, readImportDeclaration, takeToken, if_pos hkind]
  simp only [hkind, bind_assoc]
  rfl

theorem readDeclarations_func (hkind : t.kind = .keyword .func) (ts : List Token) :
    readDeclarations (t :: ts) =
      readFunction (t :: ts) >>= fun read => readDeclarations read.2.items >>= fun funcs =>
        .ok (read.1 :: funcs) := by
  rw [readDeclarations, readFunction, takeToken, if_pos hkind]
  simp only [hkind, bind_assoc]
  rfl

namespace Stands

theorem atEnd_eq {α : Type} (h : Stands tokens spare s ts) (value : α) :
    atEnd ts value = atEnd tokens value := by
  have hinside := h.inside
  rw [atEnd, atEnd, ← h.ahead, List.drop_drop, List.length_drop]
  congr 2
  omega

theorem drop_eq (h : Stands tokens spare s (t :: ts)) (hend : t.kind = .endOfFile) :
    tokens.drop (tokens.length - 1) = t :: ts := by
  have hnot := mt h.place_lt_iff.1 (not_not.2 hend)
  have hinside := h.inside
  rw [← h.ahead]
  congr 1
  omega

/-- At the end of the file the loop over the declarations begins a round and ends. -/
theorem follows_declarations_end (h : Stands tokens (spare + 1) s (t :: ts))
    (hready : Ready tokens spare s) (hend : t.kind = .endOfFile) :
    Follows tokens spare (Walk.declarations tokens) s (atEnd tokens) (fun _ => True)
      (readDeclarations (t :: ts)) := by
  -- The only round that may have begun here is that of the loop over a declaration.
  have hadmits : Admits tokens spare s .declarations :=
    hready.elim (fun hfresh => (hfresh.mono (Nat.le_succ _)).admits _) And.right
  refine .of_succ ?_
  simp only [Walk.declarations]
  rw [readDeclarations_of_endOfFile (show (current (t :: ts)).kind = _ from hend)]
  refine h.follows_startRound hadmits fun hs' => hs'.follows_peek ?_
  simp only [hend]
  exact .pure hs' (congrArg _ (h.drop_eq hend)) trivial

/-- **The loop over the declarations**: behind each of them it is ready, and where it is ready at the
end of the file it ends. -/
theorem follows_declarations {s : Cursor} {ts : List Token} (h : Stands tokens (spare + 1) s ts)
    (hready : Ready tokens spare s) :
    Follows tokens spare (Walk.declarations tokens) s (atEnd tokens) (fun _ => True)
      (readDeclarations ts) := by
  obtain ⟨t, us, rfl⟩ := h.exists_cons
  by_cases hend : t.kind = .endOfFile
  · exact h.follows_declarations_end hready hend
  have hfresh : Fresh (spare + 1) s := by
    refine hready.resolve_right fun hpast => hend ?_
    rw [← h.tokenAt_eq]
    exact hpast.1
  refine .of_succ ?_
  simp only [Walk.declarations]
  refine h.follows_startRound (hfresh.admits .declarations) fun hs' => hs'.follows_peek ?_
  have hskipped : Follows tokens spare
      (fun bound => Walk.declaration tokens bound >>= fun _ => Walk.declarations tokens bound)
      (s.inRound .declarations) (atEnd tokens) (fun _ => True)
      (skipDeclaration us >>= fun rest => readDeclarations rest.items) := by
    refine (hs'.follows_declaration hend).bind_le (Nat.le_succ _) fun rest s'' _ hs'' hpast => ?_
    have hfewer : tokens.length - s''.place < tokens.length - s.place := hs''.fewer hpast.1
    exact follows_declarations hs'' hpast.2
  cases hkind : t.kind with
  | endOfFile => exact absurd hkind hend
  | semicolon =>
    rw [readDeclarations]
    simp only [hkind]
    refine hs'.follows_advance hend fun s'' hs'' hpast => ?_
    have hfewer : tokens.length - s''.place < tokens.length - s.place := hs''.fewer hpast.place_lt
    exact follows_declarations hs'' (.inl hpast.toFresh)
  | keyword word =>
    cases word with
    | importDecl =>
      rw [readDeclarations_import hkind]
      refine hs'.follows_importDeclaration.bind_le (Nat.le_succ _) fun rest s'' _ hs'' hpast => ?_
      have hfewer : tokens.length - s''.place < tokens.length - s.place := hs''.fewer hpast.place_lt
      exact follows_declarations hs'' (.inl hpast.toFresh)
    | func =>
      rw [readDeclarations_func hkind]
      refine hs'.follows_func.bind_le (Nat.le_succ _) fun func s'' _ hs'' hpast => ?_
      have hfewer : tokens.length - s''.place < tokens.length - s.place := hs''.fewer hpast.place_lt
      exact (follows_declarations hs'' (.inl hpast.toFresh)).value fun _ => rfl
    | typeDecl | varDecl | constDecl =>
      rw [readDeclarations]
      simp only [hkind]
      exact hskipped
    | _ =>
      rw [readDeclarations]
      simp only [hkind]
      exact (hs'.mono (Nat.le_succ _)).follows_refuse _
  | _ =>
    rw [readDeclarations]
    simp only [hkind]
    exact (hs'.mono (Nat.le_succ _)).follows_refuse _
  termination_by tokens.length - s.place
  decreasing_by all_goals assumption

theorem follows_leading {s : Cursor} {ts : List Token} (h : Stands tokens spare s ts)
    (hfresh : Fresh spare s) :
    Follows tokens spare (Walk.leading tokens) s (fun rest => ((), rest)) (Fresh spare)
      (.ok (ts.dropWhile fun t => t.kind = .semicolon)) := by
  induction ts generalizing s with
  | nil =>
    obtain ⟨t, us, hts⟩ := h.exists_cons
    cases hts
  | cons t ts ih =>
    refine .of_succ ?_
    rw [List.dropWhile_cons, apply_ite Except.ok]
    simp only [Walk.leading, decide_eq_true_iff]
    refine h.follows_peek ?_
    split
    · next hline =>
      refine h.follows_startRound (hfresh.admits .leading) fun hs' => ?_
      exact hs'.follows_advance (by simp [hline]) fun s'' hs'' hpast => ih hs'' hpast.toFresh
    · exact .pure h rfl hfresh

/-- **A file**: the keyword of the package clause is in no round, so that there is one to spare. -/
theorem follows_file (h : Stands tokens spare s ts) (hfresh : Fresh spare s) :
    Follows tokens spare (Walk.file tokens) s (atEnd tokens) (fun _ => True)
      (SourceFile.ofTokens ts) := by
  have hfile : SourceFile.ofTokens ts =
      Except.ok (ts.dropWhile fun t => t.kind = .semicolon) >>= readSourceFile := rfl
  rw [hfile]
  refine (h.follows_leading hfresh).bind fun us s₁ _ hs₁ hfresh₁ => ?_
  have hspare := hfresh₁.stands hs₁
  rw [readSourceFile]
  refine (hspare.follows_expect (.keyword .package) (by decide)).bind_le (Nat.le_succ _)
    fun keyword s₂ _ hs₂ hpast₂ => ?_
  refine hs₂.follows_name.bind_le (Nat.le_succ _) fun name s₃ _ hs₃ hpast₃ => ?_
  refine (hs₃.follows_ending hpast₃.toFresh).bind_le (Nat.le_succ _)
    fun clause s₄ _ hs₄ hfresh₄ => ?_
  exact (hs₄.follows_declarations (.inl hfresh₄)).value fun _ => rfl

end Stands

/-! ## Rules -/

namespace Rule

def Value : Rule → Type
  | type => TypeExpr
  | arguments => List TypeExpr
  | parameters | results => List Field
  | entry => Entry
  | name => String
  | func => FuncDecl
  | file => SourceFile
  | group | block | ending | importSpec | importDeclaration | declaration => Unit

def walk (tokens : List Token) : (rule : Rule) → (bound : Nat) → Walk rule.Value
  | group => Walk.group tokens
  | block => Walk.block tokens
  | name => fun _ => Walk.name tokens
  | type => Walk.type tokens
  | arguments => Walk.arguments tokens
  | parameters => Walk.parameters tokens
  | entry => Walk.entry tokens
  | results => Walk.results tokens
  | ending => fun _ => Walk.ending tokens
  | importSpec => fun _ => Walk.importSpec tokens
  | importDeclaration => Walk.importDeclaration tokens
  | func => Walk.func tokens
  | declaration => Walk.declaration tokens
  | file => Walk.file tokens

def read : (rule : Rule) → List Token → Except SyntaxError (rule.Value × List Token)
  | group, ts => (skipGroup (current ts) ts.tail).map left
  | block, ts => (skipBlock ts).map left
  | name, ts => (takeName ts).map seen
  | type, ts => (readType ts).map seen
  | arguments, ts => (readArguments ts).map seen
  | parameters, ts => (readParameters ts).map seen
  | entry, ts => (readEntry ts).map seen
  | results, ts => (readResults ts).map seen
  | ending, ts => (takeEnd ts).map left
  | importSpec, ts => (skipImport ts).map left
  | importDeclaration, ts => (readImportDeclaration ts).map left
  | func, ts => (readFunction ts).map seen
  | declaration, ts => (skipDeclaration ts.tail).map left
  | file, ts => (SourceFile.ofTokens ts).map (atEnd ts)

/-- Whether a rule may be tried at a token of the kind. That for a declaration is only tried at its
keyword, and at the end of the file it would be content with nothing. -/
def Begins : Rule → Token.Kind → Prop
  | declaration, kind => kind ≠ .endOfFile
  | _, _ => True

/-- Whether a rule is never content with nothing. -/
def Consumes (rule : Rule) : Prop :=
  rule ∉ [results, ending, file]

/-- What is to be said of a rule from a place on: its walk ends, with what its reader gives back, and
at a sound cursor that has begun no more rounds than there are tokens. Where the reader gives a value
back, the tokens that it leaves start at that cursor, and unless the rule may be content with nothing
the cursor has moved on from a token that is not the end of the file. -/
structure Ends (tokens : List Token) (rule : Rule) (start : Nat) (stop : Cursor) : Prop where
  ends : EndsWith (rule.walk tokens) (.startingAt start)
    ((rule.read (tokens.drop start)).map Prod.fst) stop
  start_le : start ≤ stop.place
  sound : Sound tokens start stop
  rounds_le : stop.rounds.length ≤ tokens.length - start
  rest : ∀ {value rest}, rule.read (tokens.drop start) = .ok (value, rest) →
    rest = tokens.drop stop.place
  advances : ∀ {value rest}, rule.read (tokens.drop start) = .ok (value, rest) → rule.Consumes →
    start < stop.place ∧ (tokenAt tokens start).kind ≠ .endOfFile

variable {start : Nat}

/-- The walk of a rule follows its reader, and moves on if the rule is never content with nothing. -/
theorem follows (rule : Rule) (h : Stands tokens start (.startingAt start) (t :: ts))
    (hbegins : rule.Begins t.kind) :
    Follows tokens start (rule.walk tokens) (.startingAt start) id
      (fun stop => rule.Consumes → start < stop.place) (rule.read (t :: ts)) := by
  have hfresh := fresh_startingAt start
  have htype := Stands.types tokens start (t :: ts)
  have hseen : ∀ {α γ : Type} {walk : Nat → Walk α} {view : γ → α × List Token} {post : Cursor → Prop}
      {result : Except SyntaxError γ}, (∀ stop, post stop → rule.Consumes → start < stop.place) →
      Follows tokens start walk (.startingAt start) view post result →
      Follows tokens start walk (.startingAt start) id
        (fun stop => rule.Consumes → start < stop.place) (result.map view) :=
    fun hpost hwalk => (hwalk.mono fun stop _ => hpost stop).map fun _ => rfl
  have hpast : ∀ stop, Past start (.startingAt start) stop → rule.Consumes → start < stop.place :=
    fun _ hpast _ => hpast.place_lt
  have hcontent : rule ∈ [results, ending, file] → ∀ {post : Cursor → Prop} (stop : Cursor),
      post stop → rule.Consumes → start < stop.place :=
    fun hrule _ _ _ hconsumes => absurd hrule hconsumes
  cases rule with
  | group => exact hseen hpast (h.follows_group fun _ => hfresh)
  | block => exact hseen hpast h.follows_block
  | name => exact hseen hpast h.follows_name
  | type => exact hseen hpast (htype.here _ h)
  | arguments => exact hseen hpast (h.follows_arguments htype)
  | parameters => exact hseen hpast (h.follows_parameters htype)
  | entry => exact hseen hpast (h.follows_entry htype)
  | results => exact hseen (hcontent (by decide)) (h.follows_results htype hfresh)
  | ending => exact hseen (hcontent (by decide)) (h.follows_ending hfresh)
  | importSpec => exact hseen hpast h.follows_importSpec
  | importDeclaration => exact hseen hpast h.follows_importDeclaration
  | func => exact hseen hpast h.follows_func
  | declaration =>
    have hwalk := (hfresh.stands h).follows_declaration hbegins
    exact hseen (fun _ hpast _ => hpast.1) (hwalk.mono_spare (Nat.le_succ _))
  | file =>
    have hfile : (atEnd (t :: ts) : SourceFile → _) = atEnd tokens := funext h.atEnd_eq
    change Follows _ _ _ _ _ _ ((SourceFile.ofTokens (t :: ts)).map (atEnd (t :: ts)))
    rw [hfile]
    exact hseen (hcontent (by decide)) (h.follows_file hfresh)

/-- **Every rule ends** from every place among tokens of which the last one, and no other, is the end
of the file. -/
theorem exists_ends (hsealed : Sealed tokens) (rule : Rule) (hstart : start < tokens.length)
    (hbegins : rule.Begins (tokenAt tokens start).kind) : ∃ stop, rule.Ends tokens start stop := by
  have hstands := stands_startingAt hsealed hstart
  obtain ⟨t, ts, hts⟩ := hstands.exists_cons
  rw [hts] at hstands
  have ht : tokenAt tokens start = t := hstands.tokenAt_eq
  rw [ht] at hbegins
  obtain ⟨stop, hends, hle, hsound, hok⟩ := (rule.follows hstands hbegins).exists_stop
  refine ⟨stop, hts ▸ hends, hle, hsound, ?_, ?_, ?_⟩
  · have hcounted := hsound.counted
    have hinside := hsound.inside
    omega
  · intro value rest hread
    rw [hts] at hread
    exact (hok _ hread).1.symm
  · intro value rest hread hconsumes
    rw [hts] at hread
    have hlt := (hok _ hread).2 hconsumes
    exact ⟨hlt, hstands.kind_ne hsound.inside hlt⟩

/-- The tokens of `package p; var x`. The declaration in it has no end, and the file ends all the
same. -/
def openVariable : List Token :=
  [⟨.keyword .package, 0, 7⟩, ⟨.ident "p", 8, 9⟩, ⟨.semicolon, 9, 10⟩, ⟨.keyword .varDecl, 11, 14⟩,
    ⟨.ident "x", 15, 16⟩, ⟨.endOfFile, 16, 16⟩]

theorem exists_ends_openVariable :
    Sealed openVariable ∧ (∃ stop, Ends openVariable declaration 3 stop) ∧
      ∃ stop, Ends openVariable file 0 stop := by
  have hsealed : Sealed openVariable := ⟨⟨_, rfl, rfl⟩, by decide⟩
  refine ⟨hsealed, exists_ends hsealed declaration (by decide) ?_, ?_⟩
  · change Token.Kind.keyword .varDecl ≠ .endOfFile
    decide
  · exact exists_ends hsealed file (by decide) trivial

end Rule

end ReactBridge.Go
