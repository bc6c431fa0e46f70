import ReactBridge.Proofs.Go.Image
import ReactBridge.Proofs.Go.Simulation

/-!
# Reading a source in parts

Where a line ends a declaration, what follows is read as if it stood in a file of its own.

* `Continues k loose tail` : results of which the right one goes on where the left one is done;
* `Simulation.continues_readDeclarations` : on related sequences, declarations are read alike;
* `readDeclarations_shift` : tokens further on have the same declarations;
* `readDeclarations_extended`, `ofTokens_extended` : what is read ahead of a closing line is kept;
* `ofText_append_line`, `SourceFile.ofText_in_parts` : a text and more of it behind a line end.
-/

namespace ReactBridge.Go

/-! ## Results that go on -/

/-- The right result has the functions of the left one, and behind them those of `tail`, if it has
any. Errors are the same, `k` bytes further on; where the comparison is `loose`, an error on the left
goes with any result. -/
inductive Continues (k : Nat) (loose : Prop) (tail : Except SyntaxError (List FuncDecl)) :
    (left right : Except SyntaxError (List FuncDecl)) → Prop
  | ok (funcs : List FuncDecl) : Continues k loose tail (.ok funcs) (tail.map (funcs ++ ·))
  | error (e : SyntaxError) : Continues k loose tail (.error e) (.error (e.shift k))
  | loosely (h : loose) (e : SyntaxError) (result : Except SyntaxError (List FuncDecl)) :
      Continues k loose tail (.error e) result

variable {k : Nat} {loose : Prop} {tail : Except SyntaxError (List FuncDecl)}

theorem Continues.here (tail : Except SyntaxError (List FuncDecl)) :
    Continues k loose tail (.ok []) tail := by
  have h : Continues k loose tail (.ok []) (tail.map ([] ++ ·)) := .ok []
  have hmap : tail.map ([] ++ ·) = tail := by cases tail <;> rfl
  rwa [hmap] at h

theorem Continues.cons {x y : Except SyntaxError (List FuncDecl)} (h : Continues k loose tail x y)
    (func : FuncDecl) :
    Continues k loose tail (x >>= fun funcs => pure (func :: funcs))
      (y >>= fun funcs => pure (func :: funcs)) := by
  cases h with
  | ok funcs =>
    have hmap : (tail.map (funcs ++ ·) >>= fun funcs => pure (func :: funcs)) =
        tail.map (func :: funcs ++ ·) := by cases tail <;> rfl
    exact hmap ▸ .ok (func :: funcs)
  | error e => exact .error e
  | loosely h e => exact .loosely h e _

theorem Continues.eq_of_ok {funcs : List FuncDecl} {y : Except SyntaxError (List FuncDecl)}
    (h : Continues k loose tail (.ok funcs) y) : y = tail.map (funcs ++ ·) := by
  cases h with
  | ok => rfl

theorem Continues.eq_mapError {x y : Except SyntaxError (List FuncDecl)}
    (h : Continues k False (.ok []) x y) : y = x.mapError (SyntaxError.shift k) := by
  cases h with
  | ok funcs => exact congrArg Except.ok (List.append_nil funcs)
  | error e => rfl
  | loosely h => exact h.elim

theorem Matches.continues {α β : Type} {V : α → β → Prop} {x : Except SyntaxError α}
    {y : Except SyntaxError β} {f : α → Except SyntaxError (List FuncDecl)}
    {g : β → Except SyntaxError (List FuncDecl)} (h : Matches k loose V x y)
    (hnext : ∀ a b, V a b → Continues k loose tail (f a) (g b)) :
    Continues k loose tail (x >>= f) (y >>= g) := by
  cases h with
  | ok h => exact hnext _ _ h
  | error e => exact .error e
  | loosely h e => exact .loosely h e _

/-! ## Declarations and files on related sequences -/

theorem readDeclarations_of_endOfFile {ts : List Token} (h : (current ts).kind = .endOfFile) :
    readDeclarations ts = .ok [] := by
  cases ts with
  | nil => rw [readDeclarations]
  | cons t ts =>
    have hkind : t.kind = .endOfFile := h
    rw [readDeclarations.eq_def]
    simp only [hkind]

theorem ofTokens_cons (t : Token) (ts : List Token) :
    SourceFile.ofTokens (t :: ts) =
      if t.kind = .semicolon then SourceFile.ofTokens ts else readSourceFile (t :: ts) := by
  rw [SourceFile.ofTokens, SourceFile.ofTokens, List.dropWhile_cons]
  split <;> simp_all

theorem ofTokens_of_endOfFile {ts : List Token} (h : (current ts).kind = .endOfFile)
    (file : SourceFile) : SourceFile.ofTokens ts ≠ .ok file := by
  intro hfile
  cases ts with
  | nil => cases hfile
  | cons t ts =>
    have hkind : t.kind = .endOfFile := h
    rw [ofTokens_cons, hkind, if_neg (by decide), readSourceFile, takeToken, hkind,
      if_neg (by decide)] at hfile
    cases hfile

namespace Simulation

variable {R Past : List Token → List Token → Prop} {ts us : List Token}

/-- Declarations are read alike on related sequences, and `tail` is what the right one goes on to:
nothing where the relation itself reaches the end of the file. -/
theorem continues_readDeclarations (sim : Simulation k loose R Past)
    (hend : ∀ {t ts us}, R (t :: ts) us → t.kind = .endOfFile → tail = .ok [])
    (hpast : ∀ {ts us}, Past ts us → readDeclarations us = tail) {ts us : List Token}
    (h : R ts us ∨ Past ts us) :
    Continues k loose tail (readDeclarations ts) (readDeclarations us) := by
  rcases h.symm with h | h
  · rw [hpast h, readDeclarations_of_endOfFile (sim.past h).2]
    exact .here tail
  obtain ⟨t, ts, us, rfl, rfl⟩ := sim.first h
  rw [readDeclarations.eq_def, readDeclarations.eq_def]
  cases hkind : t.kind with
  | endOfFile =>
    simp only [Token.kind_shift, hkind]
    rw [hend h hkind]
    exact .here (.ok [])
  | semicolon =>
    simp only [Token.kind_shift, hkind]
    exact sim.continues_readDeclarations hend hpast (sim.line h hkind)
  | keyword word =>
    have hbehind := sim.behind h hkind rfl
    cases word with
    | importDecl =>
      simp only [Token.kind_shift, hkind]
      exact (sim.matches_skipImportDeclaration hbehind).continues fun rest rest' hrest =>
        sim.continues_readDeclarations hend hpast hrest
    | func =>
      simp only [Token.kind_shift, hkind]
      refine (sim.matches_readFunc hbehind t.span.start).continues ?_
      rintro ⟨func, rest⟩ ⟨_, rest'⟩ ⟨rfl, hrest⟩
      exact (sim.continues_readDeclarations hend hpast hrest).cons func
    | typeDecl | varDecl | constDecl =>
      simp only [Token.kind_shift, hkind]
      exact (sim.matches_skipDeclaration hbehind).continues fun rest rest' hrest =>
        sim.continues_readDeclarations hend hpast hrest
    | _ =>
      simp only [Token.kind_shift, hkind]
      exact .error _
  | _ =>
    simp only [Token.kind_shift, hkind]
    exact .error _
  termination_by ts.length
  decreasing_by all_goals grind

theorem readSourceFile_eq (sim : Simulation k loose R Past)
    (hend : ∀ {t ts us}, R (t :: ts) us → t.kind = .endOfFile → tail = .ok [])
    (hpast : ∀ {ts us}, Past ts us → readDeclarations us = tail) (h : R ts us) {file : SourceFile}
    (hfile : readSourceFile ts = .ok file) :
    readSourceFile us = tail.map fun funcs => ⟨file.package, file.funcs ++ funcs⟩ := by
  rw [readSourceFile] at hfile ⊢
  obtain ⟨⟨_, afterKeyword⟩, hkeyword, hfile⟩ := bind_eq_ok.1 hfile
  obtain ⟨⟨package, afterName⟩, hname, hfile⟩ := bind_eq_ok.1 hfile
  obtain ⟨afterClause, hclause, hfile⟩ := bind_eq_ok.1 hfile
  obtain ⟨funcs, hfuncs, hfile⟩ := bind_eq_ok.1 hfile
  obtain rfl := Except.ok.inj hfile
  have hkeyword' := sim.matches_takeToken h (.keyword .package) rfl
  rw [hkeyword] at hkeyword'
  obtain ⟨⟨_, afterKeyword'⟩, hkeyword', -, hrest⟩ := hkeyword'.exists_of_ok
  have hname' := sim.matches_takeName hrest
  rw [hname] at hname'
  obtain ⟨⟨_, afterName'⟩, hname', rfl, hrest⟩ := hname'.exists_of_ok
  have hclause' := sim.matches_takeEnd hrest
  rw [hclause] at hclause'
  obtain ⟨afterClause', hclause', hrest⟩ := hclause'.exists_of_ok
  have hfuncs' := sim.continues_readDeclarations hend hpast hrest
  rw [hfuncs] at hfuncs'
  simp only [hkeyword', hname', hclause', bind, Except.bind, hfuncs'.eq_of_ok]
  cases tail <;> rfl

theorem ofTokens_eq (sim : Simulation k loose R Past)
    (hend : ∀ {t ts us}, R (t :: ts) us → t.kind = .endOfFile → tail = .ok [])
    (hpast : ∀ {ts us}, Past ts us → readDeclarations us = tail) (h : R ts us) {file : SourceFile}
    (hfile : SourceFile.ofTokens ts = .ok file) :
    SourceFile.ofTokens us = tail.map fun funcs => ⟨file.package, file.funcs ++ funcs⟩ := by
  induction ts generalizing us with
  | nil =>
    obtain ⟨t, ts, us, hts, -⟩ := sim.first h
    cases hts
  | cons t ts ih =>
    obtain ⟨t, ts, us, hts, rfl⟩ := sim.first h
    obtain ⟨rfl, rfl⟩ := List.cons.inj hts
    rw [ofTokens_cons] at hfile ⊢
    rw [Token.kind_shift]
    split at hfile
    · next hkind =>
      rw [if_pos hkind]
      rcases sim.line h hkind with hbehind | hpast
      · exact ih hbehind hfile
      · exact absurd hfile (ofTokens_of_endOfFile (sim.past hpast).2 file)
    · next hkind =>
      rw [if_neg hkind]
      exact sim.readSourceFile_eq hend hpast h hfile

end Simulation

/-! ## Tokens further on -/

/-- Whether the tokens are at their end where the file is. -/
def Closed (ts : List Token) : Prop :=
  ∃ last ∈ ts.getLast?, last.kind = .endOfFile

theorem Closed.behind {t : Token} {ts : List Token} (h : Closed (t :: ts))
    (ht : t.kind ≠ .endOfFile) : Closed ts := by
  obtain ⟨last, hlast, hkind⟩ := h
  cases ts with
  | nil =>
    obtain rfl : t = last := Option.some.inj hlast
    exact absurd hkind ht
  | cons u us => exact ⟨last, List.getLast?_cons_cons ▸ hlast, hkind⟩

/-- Whether the end of the file is the last token, and no other one. -/
structure Sealed (ts : List Token) : Prop where
  closed : Closed ts
  single : ∀ t ∈ ts.dropLast, t.kind ≠ .endOfFile

theorem Sealed.of_append {front ts : List Token} (h : Sealed (front ++ ts)) (hts : ts ≠ []) :
    Sealed ts where
  closed := by
    obtain ⟨last, hlast, hkind⟩ := h.closed
    rw [List.getLast?_append_of_ne_nil front hts] at hlast
    exact ⟨last, hlast, hkind⟩
  single t ht := by
    refine h.single t ?_
    rw [List.dropLast_append_of_ne_nil hts]
    exact List.mem_append_right front ht

theorem steps_shift (k : Nat) :
    Steps k False (fun ts us => Closed ts ∧ us = ts.map (Token.shift k)) fun _ _ => False where
  first := by
    rintro ts us ⟨⟨last, hlast, -⟩, rfl⟩
    cases ts with
    | nil => cases hlast
    | cons t ts => exact ⟨t, ts, ts.map (Token.shift k), rfl, rfl⟩
  next := by
    rintro t ts us ⟨hclosed, hus⟩ hends
    have hkind : t.kind ≠ .endOfFile := by
      intro hkind
      rw [hkind] at hends
      cases hends
    exact ⟨hclosed.behind hkind, (List.cons.inj hus).2⟩
  line := fun ⟨hclosed, hus⟩ hkind =>
    .inl ⟨hclosed.behind (by rw [hkind]; nofun), (List.cons.inj hus).2⟩
  past := False.elim

theorem readDeclarations_shift (k : Nat) {ts : List Token} (h : Closed ts) :
    readDeclarations (ts.map (Token.shift k)) =
      (readDeclarations ts).mapError (SyntaxError.shift k) :=
  Continues.eq_mapError ((steps_shift k).simulation.continues_readDeclarations (fun _ _ => rfl)
    False.elim (.inl ⟨h, rfl⟩))

/-! ## Tokens behind a closing line -/

/-- Sequences that are the same up to a line end, behind which one is at the end of the file. -/
def Extended (line last : Token) (more ts us : List Token) : Prop :=
  ∃ front, (∀ t ∈ front, t.kind ≠ .endOfFile) ∧ ts = front ++ [line, last] ∧
    us = front ++ line :: more

theorem steps_extended {line last : Token} (hline : line.kind = .semicolon)
    (hlast : last.kind = .endOfFile) (more : List Token) :
    Steps 0 True (Extended line last more) fun ts us => ts = [last] ∧ us = more where
  first := by
    rintro ts us ⟨front, -, rfl, rfl⟩
    cases front with
    | nil => exact ⟨line, [last], more, rfl, rfl⟩
    | cons t front => exact ⟨t, front ++ [line, last], front ++ line :: more, rfl, rfl⟩
  next := by
    rintro t ts us ⟨front, hfront, hts, hus⟩ hends
    cases front with
    | nil =>
      obtain ⟨rfl, -⟩ := List.cons.inj hts
      rw [hline] at hends
      cases hends
    | cons u front =>
      exact ⟨front, fun v hv => hfront v (List.mem_cons_of_mem u hv), (List.cons.inj hts).2,
        (List.cons.inj hus).2⟩
  line := by
    rintro t ts us ⟨front, hfront, hts, hus⟩ -
    cases front with
    | nil => exact .inr ⟨(List.cons.inj hts).2, (List.cons.inj hus).2⟩
    | cons u front =>
      exact .inl ⟨front, fun v hv => hfront v (List.mem_cons_of_mem u hv), (List.cons.inj hts).2,
        (List.cons.inj hus).2⟩
  past := by
    rintro ts us ⟨rfl, -⟩
    exact ⟨trivial, hlast⟩

/-- Of a file whose last line is closed, everything is kept when more follows that line. -/
theorem ofTokens_extended {front : List Token} {line last : Token}
    (hfront : ∀ t ∈ front, t.kind ≠ .endOfFile) (hline : line.kind = .semicolon)
    (hlast : last.kind = .endOfFile) {file : SourceFile}
    (hfile : SourceFile.ofTokens (front ++ [line, last]) = .ok file) (more : List Token) :
    SourceFile.ofTokens (front ++ line :: more) =
      (readDeclarations more).map fun funcs => ⟨file.package, file.funcs ++ funcs⟩ := by
  refine (steps_extended hline hlast more).simulation.ofTokens_eq ?_ ?_
    ⟨front, hfront, rfl, rfl⟩ hfile
  · rintro t ts us ⟨front, hfront, hts, -⟩ hkind
    cases front with
    | nil =>
      obtain ⟨rfl, -⟩ := List.cons.inj hts
      rw [hline] at hkind
      cases hkind
    | cons u front =>
      obtain ⟨rfl, -⟩ := List.cons.inj hts
      exact absurd hkind (hfront t List.mem_cons_self)
  · rintro ts us ⟨-, rfl⟩
    rfl

/-! ## Texts -/

theorem exists_of_tokenize {source : String} {tokens : List Token}
    (h : tokenize source = .ok tokens) :
    ∃ others last, tokens = others ++ [last] ∧ last.kind = .endOfFile ∧
      ∀ t ∈ others, t.kind ≠ .endOfFile := by
  obtain ⟨others, htokens, hothers⟩ := tokenize_ends h
  exact ⟨others, _, htokens, rfl, hothers⟩

theorem closed_of_tokenize {source : String} {tokens : List Token}
    (h : tokenize source = .ok tokens) : Closed tokens := by
  obtain ⟨others, last, rfl, hlast, -⟩ := exists_of_tokenize h
  exact ⟨last, List.getLast?_concat, hlast⟩

/-- The functions of a text that has declarations and no package clause. -/
def declaredIn (source : String) : Except SyntaxError (List FuncDecl) :=
  match tokenize source with
  | .ok tokens => readDeclarations tokens
  | .error e => .error (.ofLexError e)

/-- What stands behind a closed line and a line end is read by itself. -/
theorem ofText_append_line {first : String} {file : SourceFile}
    (hfile : SourceFile.ofText first = .ok file) {front : List Token} {line last : Token}
    (htokens : tokenize first = .ok (front ++ [line, last])) (hline : line.kind = .semicolon)
    (second : String) :
    SourceFile.ofText (first ++ "\n" ++ second) =
      ((declaredIn second).mapError (SyntaxError.shift (first.utf8ByteSize + 1))).map
        fun funcs => ⟨file.package, file.funcs ++ funcs⟩ := by
  rw [SourceFile.ofText, htokens] at hfile
  rw [SourceFile.ofText, tokenize_append_line htokens, declaredIn]
  cases hsecond : tokenize second with
  | error e => rfl
  | ok more =>
    obtain ⟨others, final, hothers, hlast, hfront⟩ := exists_of_tokenize htokens
    obtain ⟨rfl, hfinal⟩ := List.append_inj' ((List.append_cons front line [last]).symm.trans hothers) rfl
    obtain rfl := List.head_eq_of_cons_eq hfinal
    have hdrop : (front ++ [line, last]).dropLast = front ++ [line] := by
      rw [List.append_cons, List.dropLast_concat]
    change SourceFile.ofTokens ((front ++ [line, last]).dropLast ++ more.map _) = _
    rw [hdrop, List.append_assoc, List.singleton_append,
      ofTokens_extended (fun t ht => hfront t (List.mem_append_left _ ht)) hline hlast hfile,
      readDeclarations_shift _ (closed_of_tokenize hsecond)]

/-! ## Package clauses -/

def clauseLexemes (package : String) : List Lexeme :=
  [.token (.keyword .package) "package".toList, .layout [' '],
    .token (.ident package) package.toList]

/-- A package clause by itself is a file without functions, and its line is closed. -/
theorem ofText_packageClause {package : String} (h : IsIdentifier package) :
    SourceFile.ofText ("package " ++ package) = .ok ⟨package, []⟩ ∧
      ∃ front line last, tokenize ("package " ++ package) = .ok (front ++ [line, last]) ∧
        line.kind = .semicolon := by
  have hname : (Token.Kind.ident package).Printable := .ident h
  have hfit : Lexeme.AllFit (clauseLexemes package) := by
    have hkeyword : (Token.Kind.keyword .package).Printable := .fixed nofun nofun
    exact ⟨⟨hkeyword, hkeyword.endsAhead (by decide) _⟩, .blank (.inr (.inl rfl)),
      ⟨hname, nofun⟩, trivial⟩
  have htext : Lexeme.textOf (clauseLexemes package) = ("package " ++ package).toList := by
    rw [String.toList_append]
    simp [clauseLexemes, Lexeme.text]
  have hends : ∃ front line last,
      Lexeme.tokens 0 false (clauseLexemes package) = front ++ [line, last] ∧
      (front ++ [line, last]).map Token.kind =
        [.keyword .package, .ident package, .semicolon, .endOfFile] ∧ line.kind = .semicolon := by
    have hblank : '\n' ∉ [' '] := by decide
    rw [clauseLexemes, Lexeme.tokens, Lexeme.tokens, if_neg hblank, Lexeme.tokens, Lexeme.tokens]
    exact ⟨[_, _], _, _, rfl, rfl, rfl⟩
  obtain ⟨front, line, last, htokens, hkinds, hline⟩ := hends
  have hall := tokenize_eq_ok_iff.2 ⟨clauseLexemes package, htext, hfit, htokens⟩
  refine ⟨?_, front, line, last, hall, hline⟩
  rw [SourceFile.ofText, hall]
  exact ofTokens_spelled ⟨h, List.forall_mem_nil _⟩ hkinds

/-- **A source may be read in parts.** -/
theorem SourceFile.ofText_in_parts {first : String} {file : SourceFile}
    (hfile : SourceFile.ofText first = .ok file) {front : List Token} {line last : Token}
    (htokens : tokenize first = .ok (front ++ [line, last])) (hline : line.kind = .semicolon)
    (second : String) :
    ((∃ all, ofText (first ++ "\n" ++ second) = .ok all) ↔
      ∃ other, ofText ("package " ++ file.package ++ "\n" ++ second) = .ok other) ∧
    (∀ other, ofText ("package " ++ file.package ++ "\n" ++ second) = .ok other →
      other.package = file.package ∧
      ofText (first ++ "\n" ++ second) = .ok ⟨file.package, file.funcs ++ other.funcs⟩) ∧
    (∀ e, ofText ("package " ++ file.package ++ "\n" ++ second) = .error e →
      ∃ e', ofText (first ++ "\n" ++ second) = .error e' ∧ e'.message = e.message ∧
        e'.span.start + ("package " ++ file.package ++ "\n").utf8ByteSize =
          e.span.start + (first ++ "\n").utf8ByteSize ∧
        e'.span.stop + ("package " ++ file.package ++ "\n").utf8ByteSize =
          e.span.stop + (first ++ "\n").utf8ByteSize) := by
  obtain ⟨hclause, clause, clauseLine, clauseLast, hclauseTokens, hclauseLine⟩ :=
    ofText_packageClause (wellFormed_of_ofText hfile).package
  rw [ofText_append_line hfile htokens hline second,
    ofText_append_line hclause hclauseTokens hclauseLine second]
  have hsize : ∀ text : String, (text ++ "\n").utf8ByteSize = text.utf8ByteSize + 1 :=
    fun text => String.utf8ByteSize_append
  rw [hsize first, hsize]
  cases declaredIn second with
  | ok funcs =>
    refine ⟨⟨fun _ => ⟨_, rfl⟩, fun _ => ⟨_, rfl⟩⟩, ?_, ?_⟩
    · rintro _ ⟨⟩
      exact ⟨rfl, rfl⟩
    · rintro _ ⟨⟩
  | error e =>
    refine ⟨⟨?_, ?_⟩, ?_, ?_⟩
    · rintro ⟨_, ⟨⟩⟩
    · rintro ⟨_, ⟨⟩⟩
    · rintro _ ⟨⟩
    rintro _ ⟨⟩
    exact ⟨_, rfl, rfl, Nat.add_right_comm .., Nat.add_right_comm ..⟩

/-- A body with a bracket in a literal, and a declaration that is skipped ahead of a function. -/
theorem SourceFile.ofText_in_parts_sample :
    ∃ file other, ofText "package p; func F() \x7b '\x7d' \x7d" = .ok file ∧
      ofText ("package " ++ "p" ++ "\n" ++ "var s = \"func\"\nfunc G()") = .ok other ∧
      ofText ("package p; func F() \x7b '\x7d' \x7d" ++ "\n" ++ "var s = \"func\"\nfunc G()") =
        .ok ⟨"p", file.funcs ++ other.funcs⟩ ∧
      (file.funcs ++ other.funcs).map FuncDecl.name = ["F", "G"] := by
  have htokens : tokenize "package p; func F() \x7b '\x7d' \x7d" =
      .ok ([⟨.keyword .package, 0, 7⟩, ⟨.ident "p", 8, 9⟩, ⟨.semicolon, 9, 10⟩,
        ⟨.keyword .func, 11, 15⟩, ⟨.ident "F", 16, 17⟩, ⟨.opening .paren, 17, 18⟩,
        ⟨.closing .paren, 18, 19⟩, ⟨.opening .brace, 20, 21⟩, ⟨.literal .rune, 22, 25⟩,
        ⟨.closing .brace, 26, 27⟩] ++ [⟨.semicolon, 27, 27⟩, ⟨.endOfFile, 27, 27⟩]) := by
    decide +kernel
  have hfirst : ((ofText "package p; func F() \x7b '\x7d' \x7d").toOption.map fun file =>
      (file.package, file.funcs.map FuncDecl.name)) = some ("p", ["F"]) := by
    decide +kernel
  have hsecond : ((ofText ("package " ++ "p" ++ "\n" ++ "var s = \"func\"\nfunc G()")).toOption.map
      fun file => file.funcs.map FuncDecl.name) = some ["G"] := by
    decide +kernel
  obtain ⟨file, hfile, hseen⟩ := exists_of_toOption hfirst
  obtain ⟨other, hother, hothers⟩ := exists_of_toOption hsecond
  obtain ⟨hpackage, hfuncs⟩ := Prod.mk.inj hseen
  have hparts := (ofText_in_parts hfile htokens rfl "var s = \"func\"\nfunc G()").2.1 other
  rw [hpackage] at hparts
  refine ⟨file, other, hfile, hother, (hparts hother).2, ?_⟩
  rw [List.map_append, hfuncs, hothers]
  rfl

end ReactBridge.Go
