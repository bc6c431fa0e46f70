import ReactBridge.Go.Lexeme
import ReactBridge.Go.Syntax.Type

/-!
# Reading a source file

A file is a package clause and declarations. Imports are checked for their shape, functions are
kept without their bodies, and other declarations are skipped up to the semicolon that ends them.

* `readDeclarations`: the functions among the declarations of a file;
* `SourceFile.ofTokens`: the file that a token sequence is;
* `SourceFile.ofText`: the file that a text is.
-/

namespace ReactBridge.Go

/-- Reads the end of a declaration: a semicolon, or nothing at the end of the file. -/
def takeEnd (ts : List Token) : Except SyntaxError (Rest ts) :=
  match ts with
  | [] => .ok (Rest.all [])
  | t :: ts =>
    if t.kind = .semicolon then .ok ((Rest.all ts).behind t)
    else if t.kind = .endOfFile then .ok (Rest.all (t :: ts))
    else .error (unexpected (.token .semicolon) (t :: ts))

/-! ## Imports -/

def takeImportPath (ts : List Token) : Except SyntaxError (Rest ts) :=
  match ts with
  | [] => .error (unexpected .importPath [])
  | t :: ts =>
    match t.kind with
    | .literal .string | .literal .rawString => .ok ((Rest.all ts).behind t)
    | _ => .error (unexpected .importPath (t :: ts))

/-- Reads one import: its path, and a name or dot ahead of it. -/
def skipImport (ts : List Token) : Except SyntaxError (Rest ts) :=
  match ts with
  | [] => .error (unexpected .importPath [])
  | t :: ts =>
    match t.kind with
    | .ident _ | .dot => do
      let rest ← takeImportPath ts
      return rest.behind t
    | _ => takeImportPath (t :: ts)

theorem takeImportPath_length {ts : List Token} {rest : Rest ts}
    (h : takeImportPath ts = .ok rest) : rest.items.length < ts.length := by
  unfold takeImportPath at h
  split at h
  · simp at h
  · split at h <;> simp at h <;> subst h <;> simp

theorem skipImport_length {ts : List Token} {rest : Rest ts} (h : skipImport ts = .ok rest) :
    rest.items.length < ts.length := by
  unfold skipImport at h
  split at h
  · simp at h
  · next t ts =>
    have hpath : ∀ {r : Rest (t :: ts)},
        (do let rest ← takeImportPath ts; return rest.behind t) = Except.ok r →
          r.items.length < (t :: ts).length := by
      intro r hr
      cases hrest : takeImportPath ts with
      | error e => simp [hrest, bind, Except.bind] at hr
      | ok rest =>
        obtain rfl : rest.behind t = r := by
          simpa [hrest, bind, Except.bind, pure, Except.pure] using hr
        have := rest.length_le
        simp
        omega
    split at h
    · exact hpath h
    · exact hpath h
    · exact takeImportPath_length h

/-- Reads the imports of a group up to its closing parenthesis, inclusive. -/
def skipImports (ts : List Token) : Except SyntaxError (Rest ts) :=
  match ts with
  | [] => .error (unexpected .importPath [])
  | t :: us =>
    if t.kind = .closing .paren then .ok ((Rest.all us).behind t)
    else if t.kind = .semicolon then do
      let rest ← skipImports us
      return rest.behind t
    else
      match h : skipImport (t :: us) with
      | .error e => .error e
      | .ok rest =>
        have := skipImport_length h
        if (current rest.items).kind = .closing .paren then do
          let last ← skipImports rest.items
          return rest.within last
        else do
          let ended ← takeEnd rest.items
          let last ← skipImports ended.items
          return rest.within (ended.within last)
  termination_by ts.length
  decreasing_by all_goals grind

/-- Reads an import declaration behind its keyword. -/
def skipImportDeclaration (ts : List Token) : Except SyntaxError (Rest ts) :=
  match ts with
  | [] => .error (unexpected .importPath [])
  | t :: us =>
    if t.kind = .opening .paren then do
      let rest ← skipImports us
      let last ← takeEnd rest.items
      return (rest.within last).behind t
    else do
      let rest ← skipImport (t :: us)
      let last ← takeEnd rest.items
      return rest.within last

/-! ## Functions -/

/-- Reads the receiver of the function whose keyword starts at `start`, if it has one. Of several
receivers the first is kept. -/
def readReceiver (start : Nat) (ts : List Token) :
    Except SyntaxError (Option Field × Rest ts) :=
  if (current ts).kind = .opening .paren then do
    let (fields, rest) ← readParameters ts
    match fields with
    | [] => .error ⟨.missingReceiver, start, (current rest.items).span.start⟩
    | field :: _ => return (some field, rest)
  else .ok (none, Rest.all ts)

/-- Skips the bracket group of the given shape that opens at the first token, if one does, and
tells whether it does. -/
def skipOptional (shape : Bracket) (ts : List Token) : Except SyntaxError (Bool × Rest ts) :=
  match ts with
  | [] => .ok (false, Rest.all [])
  | t :: ts =>
    if t.kind = .opening shape then do
      let rest ← skipGroup t ts
      return (true, rest.behind t)
    else .ok (false, Rest.all (t :: ts))

/-- Reads a function behind its keyword, which starts at `start`. -/
def readFunc (start : Nat) (ts : List Token) : Except SyntaxError (FuncDecl × Rest ts) := do
  let (receiver, afterReceiver) ← readReceiver start ts
  let (name, afterName) ← takeName afterReceiver.items
  let (generic, afterGeneric) ← skipOptional .square afterName.items
  let (params, afterParams) ← readParameters afterGeneric.items
  let (results, afterResults) ← readResults afterParams.items
  let (_, afterBody) ← skipOptional .brace afterResults.items
  let last ← takeEnd afterBody.items
  return (⟨name, receiver, generic, params, results⟩,
    afterReceiver.within (afterName.within (afterGeneric.within (afterParams.within
      (afterResults.within (afterBody.within last))))))

/-! ## Other declarations -/

/-- Skips the rest of a type, variable or constant declaration, up to the semicolon outside of
brackets that ends it, inclusive, or up to the end of the file. -/
def skipDeclaration (ts : List Token) : Except SyntaxError (Rest ts) :=
  match ts with
  | [] => .ok (Rest.all [])
  | t :: us =>
    match t.kind with
    | .semicolon => .ok ((Rest.all us).behind t)
    | .endOfFile => .ok (Rest.all (t :: us))
    | .opening _ => do
      let rest ← skipGroup t us
      let last ← skipDeclaration rest.items
      return (rest.within last).behind t
    | .closing _ => .error (unexpected .declaration (t :: us))
    | _ => do
      let rest ← skipDeclaration us
      return rest.behind t
  termination_by ts.length
  decreasing_by all_goals grind

/-! ## Files -/

/-- Reads the declarations of a file up to its end and keeps the functions. -/
def readDeclarations (ts : List Token) : Except SyntaxError (List FuncDecl) :=
  match ts with
  | [] => .ok []
  | t :: us =>
    match t.kind with
    | .endOfFile => .ok []
    | .semicolon => readDeclarations us
    | .keyword .importDecl => do
      let rest ← skipImportDeclaration us
      readDeclarations rest.items
    | .keyword .func => do
      let (func, rest) ← readFunc t.span.start us
      let funcs ← readDeclarations rest.items
      return func :: funcs
    | .keyword .typeDecl | .keyword .varDecl | .keyword .constDecl => do
      let rest ← skipDeclaration us
      readDeclarations rest.items
    | _ => .error (unexpected .declaration (t :: us))
  termination_by ts.length
  decreasing_by all_goals grind

/-- Reads a file whose leading semicolons have been skipped. -/
def readSourceFile (ts : List Token) : Except SyntaxError SourceFile := do
  let (_, afterKeyword) ← takeToken (.keyword .package) ts
  let (package, afterName) ← takeName afterKeyword.items
  let afterClause ← takeEnd afterName.items
  let funcs ← readDeclarations afterClause.items
  return ⟨package, funcs⟩

def SourceFile.ofTokens (tokens : List Token) : Except SyntaxError SourceFile :=
  readSourceFile (tokens.dropWhile fun t => t.kind = .semicolon)

def SourceFile.ofText (source : String) : Except SyntaxError SourceFile :=
  match tokenize source with
  | .ok tokens => SourceFile.ofTokens tokens
  | .error e => .error (.ofLexError e)

end ReactBridge.Go
