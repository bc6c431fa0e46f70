import ReactBridge.Go.Syntax.File

/-!
# Reading with a cursor

The grammar once more, read by the place of a token that is moved on one by one. At the last token
there is nothing to move to, so a loop that would accept that token would never end. Whether a walk
ends is not known from its definition: it is cut short where loops and rules have gone into each
other more often than a bound, and ends if there is a bound at which that does not happen.

* `Cursor`, `Walk` : the place, the places behind it, the rounds of loops and what was read; what
  moves it;
* `Walk.peek`, `Walk.advance`, `Walk.startRound` : the moves;
* `Walk.type`, `Walk.func`, `Walk.file` and their companions : the rules of the grammar.
-/

namespace ReactBridge.Go

inductive Loop where
  /-- Over the semicolons ahead of the package clause. -/
  | leading
  /-- Over the declarations of a file. -/
  | declarations
  | imports
  /-- Over what stands in a type, variable or constant declaration. -/
  | declaration
  | group
  | entries
  | arguments
deriving DecidableEq, Repr

/-- A round of a loop, and the place at which it begins. -/
structure Round where
  loop : Loop
  place : Nat
deriving DecidableEq, Repr

inductive Rule where
  /-- A bracket group that is skipped. -/
  | group
  /-- The member list of a struct or interface. -/
  | block
  | name
  | type
  | arguments
  | parameters
  /-- An entry of a parameter list. -/
  | entry
  | results
  /-- The end of a declaration. -/
  | ending
  /-- One import of an import declaration. -/
  | importSpec
  | importDeclaration
  | func
  /-- A type, variable or constant declaration. -/
  | declaration
  | file
deriving DecidableEq, Repr

/-- What a rule has read: all from the place at which it started up to that at which it stopped. -/
structure Reading where
  rule : Rule
  start : Nat
  stop : Nat
deriving DecidableEq, Repr

/-- A place among tokens, and how it came about. -/
structure Cursor where
  place : Nat
  /-- The places that were left, the last one first. -/
  trail : List Nat
  /-- The rounds that were begun, the last one first. -/
  rounds : List Round
  /-- What rules have read, the last one first. -/
  readings : List Reading
deriving DecidableEq, Repr

def Cursor.startingAt (place : Nat) : Cursor :=
  ⟨place, [], [], []⟩

def Cursor.moved (cursor : Cursor) : Cursor :=
  { cursor with place := cursor.place + 1, trail := cursor.place :: cursor.trail }

def Cursor.inRound (cursor : Cursor) (loop : Loop) : Cursor :=
  { cursor with rounds := ⟨loop, cursor.place⟩ :: cursor.rounds }

/-- The cursor behind what the rule has read from `start` on. -/
def Cursor.noted (cursor : Cursor) (rule : Rule) (start : Nat) : Cursor :=
  { cursor with readings := ⟨rule, start, cursor.place⟩ :: cursor.readings }

/-- What moves a cursor and gives up or gives a value back, unless it is cut short. -/
abbrev Walk (α : Type) : Type :=
  ExceptT SyntaxError (StateT Cursor Option) α

def Walk.runAt {α : Type} (walk : Walk α) (cursor : Cursor) :
    Option (Except SyntaxError α × Cursor) :=
  walk.run.run cursor

/-- The token at a place; behind the last one, the last one again. -/
def tokenAt (tokens : List Token) (place : Nat) : Token :=
  current (tokens.drop (min place (tokens.length - 1)))

namespace Walk

variable (tokens : List Token)

/-! ## Moves -/

def peek : Walk Token := do
  return tokenAt tokens (← get).place

def peekBehind : Walk Token := do
  return tokenAt tokens ((← get).place + 1)

/-- The token at the cursor, which is moved behind it unless it is the last one. -/
def advance : Walk Token :=
  modifyGet fun cursor =>
    (tokenAt tokens cursor.place, if cursor.place < tokens.length - 1 then cursor.moved else cursor)

def cut {α : Type} : Walk α :=
  ExceptT.mk fun _ => none

/-- Begins a round of a loop. -/
def startRound (loop : Loop) : Walk Unit :=
  modify (Cursor.inRound · loop)

/-- Tells what a rule has read, if it has. -/
def noted {α : Type} (rule : Rule) (walk : Walk α) : Walk α := do
  let start ← get
  let value ← walk
  modify (Cursor.noted · rule start.place)
  return value

def refuse {α : Type} (expected : Expected) : Walk α := do
  let t ← peek tokens
  throw ⟨.unexpected expected t.kind, t.span⟩

/-- Moves behind a token of the kind, and tells whether there is one. -/
def eat (kind : Token.Kind) : Walk Bool := do
  let t ← peek tokens
  if t.kind = kind then
    let _ ← advance tokens
    return true
  else return false

def expect (kind : Token.Kind) : Walk Token := do
  let t ← peek tokens
  if t.kind = kind then advance tokens else refuse tokens (.token kind)

def name : Walk String := do
  let t ← peek tokens
  match t.kind with
  | .ident name => do
    let _ ← advance tokens
    return name
  | _ => refuse tokens .identifier

/-- Moves behind what closes `depth` groups. -/
def groupRounds (opening : Token) : (bound depth : Nat) → Walk Unit
  | 0, _ => cut
  | bound + 1, depth => do
    if depth = 0 then return ()
    else
      startRound .group
      let t ← advance tokens
      match t.kind with
      | .endOfFile => throw ⟨.unclosed opening.kind, opening.span⟩
      | .opening _ => groupRounds opening bound (depth + 1)
      | .closing _ => groupRounds opening bound (depth - 1)
      | _ => groupRounds opening bound depth

/-- Moves behind the group that starts at the cursor. -/
def group (bound : Nat) : Walk Unit :=
  noted .group do
    let opening ← advance tokens
    groupRounds tokens opening bound 1

/-! ## Types, parameters and results -/

def block (bound : Nat) : Walk Unit := do
  let t ← peek tokens
  if t.kind = .opening .brace then group tokens bound else refuse tokens (.token (.opening .brace))

def member (base : String) : Walk TypeExpr := do
  if ← eat tokens .dot then
    let member ← name tokens
    return .qualified base member
  else return .named base

mutual

def type : (bound : Nat) → Walk TypeExpr
  | 0 => cut
  | bound + 1 => noted .type do
    let t ← peek tokens
    match t.kind with
    | .ident base => do
      let _ ← advance tokens
      let named ← member tokens base
      let next ← peek tokens
      if next.kind = .opening .square then
        let args ← arguments bound
        return .generic named args
      else return named
    | .star => do
      let _ ← advance tokens
      let elem ← type bound
      return .pointer elem
    | .opening .square => do
      let next ← peekBehind tokens
      if next.kind = .closing .square then
        let _ ← advance tokens
        let _ ← advance tokens
        let elem ← type bound
        return .slice elem
      else
        group tokens bound
        let elem ← type bound
        return .array elem
    | .keyword .map => do
      let _ ← advance tokens
      let _ ← expect tokens (.opening .square)
      let key ← type bound
      let _ ← expect tokens (.closing .square)
      let value ← type bound
      return .map key value
    | .keyword .chan => do
      let _ ← advance tokens
      let sends ← eat tokens .arrow
      let elem ← type bound
      return .chan (if sends then .send else .both) elem
    | .arrow => do
      let _ ← advance tokens
      let _ ← expect tokens (.keyword .chan)
      let elem ← type bound
      return .chan .receive elem
    | .keyword .func => do
      let _ ← advance tokens
      let params ← parameters bound
      let results ← results bound
      return .func params results
    | .keyword .struct => do
      let _ ← advance tokens
      block tokens bound
      return .struct
    | .keyword .interface => do
      let _ ← advance tokens
      block tokens bound
      return .interface
    | .opening .paren => do
      let _ ← advance tokens
      let inner ← type bound
      let _ ← expect tokens (.closing .paren)
      return .paren inner
    | _ => refuse tokens .type

def arguments : (bound : Nat) → Walk (List TypeExpr)
  | 0 => cut
  | bound + 1 => noted .arguments do
    let _ ← expect tokens (.opening .square)
    let args ← argumentRounds bound
    let _ ← expect tokens (.closing .square)
    return args

def argumentRounds : (bound : Nat) → Walk (List TypeExpr)
  | 0 => cut
  | bound + 1 => do
    let t ← peek tokens
    if t.kind = .closing .square then return []
    else
      startRound .arguments
      let arg ← type bound
      if ← eat tokens .comma then
        let args ← argumentRounds bound
        return arg :: args
      else return [arg]

def parameters : (bound : Nat) → Walk (List Field)
  | 0 => cut
  | bound + 1 => noted .parameters do
    let opening ← expect tokens (.opening .paren)
    let entries ← entryRounds bound
    let closing ← expect tokens (.closing .paren)
    liftM (fieldsOfEntries entries ⟨opening.span.start, closing.span.stop⟩)

def entryRounds : (bound : Nat) → Walk (List Entry)
  | 0 => cut
  | bound + 1 => do
    let t ← peek tokens
    if t.kind = .closing .paren then return []
    else
      startRound .entries
      let entry ← entry bound
      if ← eat tokens .comma then
        let entries ← entryRounds bound
        return entry :: entries
      else return [entry]

def entry : (bound : Nat) → Walk Entry
  | 0 => cut
  | bound + 1 => noted .entry do
    let t ← peek tokens
    match t.kind with
    | .ident base => do
      let next ← peekBehind tokens
      match next.kind with
      | .dot => do
        let type ← type bound
        return .unnamed type
      | .comma | .closing .paren => do
        let t ← advance tokens
        return .bare base t.span
      | .ellipsis => do
        let _ ← advance tokens
        let _ ← advance tokens
        let elem ← type bound
        return .named base (.variadic elem)
      | _ => do
        let _ ← advance tokens
        let type ← type bound
        return .named base type
    | .ellipsis => do
      let _ ← advance tokens
      let elem ← type bound
      return .unnamed (.variadic elem)
    | _ => do
      let type ← type bound
      return .unnamed type

def results : (bound : Nat) → Walk (List Field)
  | 0 => cut
  | bound + 1 => do
    let t ← peek tokens
    if t.kind = .opening .paren then parameters bound
    else if beginsType t.kind then
      let type ← type bound
      return [⟨[], type⟩]
    else return []

end

/-! ## Declarations -/

def ending : Walk Unit := do
  if ← eat tokens .semicolon then return ()
  else
    let t ← peek tokens
    if t.kind = .endOfFile then return () else refuse tokens (.token .semicolon)

def importPath : Walk Unit := do
  let t ← peek tokens
  match t.kind with
  | .literal .string | .literal .rawString => do
    let _ ← advance tokens
    return ()
  | _ => refuse tokens .importPath

def importSpec : Walk Unit := do
  let t ← peek tokens
  match t.kind with
  | .ident _ | .dot => do
    let _ ← advance tokens
    importPath tokens
  | _ => importPath tokens

def importRounds : (bound : Nat) → Walk Unit
  | 0 => cut
  | bound + 1 => do
    if ← eat tokens (.closing .paren) then return ()
    else
      startRound .imports
      if ← eat tokens .semicolon then importRounds bound
      else
        importSpec tokens
        let t ← peek tokens
        if t.kind = .closing .paren then importRounds bound
        else
          ending tokens
          importRounds bound

def importDeclaration (bound : Nat) : Walk Unit :=
  noted .importDeclaration do
    let _ ← expect tokens (.keyword .importDecl)
    if ← eat tokens (.opening .paren) then
      importRounds tokens bound
      ending tokens
    else
      importSpec tokens
      ending tokens

def receiver (start bound : Nat) : Walk (Option Field) := do
  let t ← peek tokens
  if t.kind = .opening .paren then
    let fields ← parameters tokens bound
    match fields with
    | [] => do
      let next ← peek tokens
      throw ⟨.missingReceiver, start, next.span.start⟩
    | field :: _ => return some field
  else return none

/-- Moves behind a group of the shape, and tells whether one starts at the cursor. -/
def optionalGroup (shape : Bracket) (bound : Nat) : Walk Bool := do
  let t ← peek tokens
  if t.kind = .opening shape then
    group tokens bound
    return true
  else return false

def func (bound : Nat) : Walk FuncDecl :=
  noted .func do
    let keyword ← expect tokens (.keyword .func)
    let receiver ← receiver tokens keyword.span.start bound
    let name ← name tokens
    let generic ← optionalGroup tokens .square bound
    let params ← parameters tokens bound
    let results ← results tokens bound
    let _ ← optionalGroup tokens .brace bound
    ending tokens
    return ⟨name, receiver, generic, params, results⟩

def declarationRounds : (bound : Nat) → Walk Unit
  | 0 => cut
  | bound + 1 => do
    startRound .declaration
    let t ← peek tokens
    match t.kind with
    | .semicolon => do
      let _ ← advance tokens
      return ()
    | .endOfFile => return ()
    | .opening _ => do
      group tokens bound
      declarationRounds bound
    | .closing _ => refuse tokens .declaration
    | _ => do
      let _ ← advance tokens
      declarationRounds bound

/-- Moves behind a type, variable or constant declaration, or to the end of the file in it. -/
def declaration (bound : Nat) : Walk Unit :=
  noted .declaration do
    let _ ← advance tokens
    declarationRounds tokens bound

/-! ## Files -/

def declarations : (bound : Nat) → Walk (List FuncDecl)
  | 0 => cut
  | bound + 1 => do
    startRound .declarations
    let t ← peek tokens
    match t.kind with
    | .endOfFile => return []
    | .semicolon => do
      let _ ← advance tokens
      declarations bound
    | .keyword .importDecl => do
      importDeclaration tokens bound
      declarations bound
    | .keyword .func => do
      let func ← func tokens bound
      let funcs ← declarations bound
      return func :: funcs
    | .keyword .typeDecl | .keyword .varDecl | .keyword .constDecl => do
      declaration tokens bound
      declarations bound
    | _ => refuse tokens .declaration

def leading : (bound : Nat) → Walk Unit
  | 0 => cut
  | bound + 1 => do
    let t ← peek tokens
    if t.kind = .semicolon then
      startRound .leading
      let _ ← advance tokens
      leading bound
    else return ()

def file (bound : Nat) : Walk SourceFile := do
  leading tokens bound
  let _ ← expect tokens (.keyword .package)
  let package ← name tokens
  ending tokens
  let funcs ← declarations tokens bound
  return ⟨package, funcs⟩

end Walk

end ReactBridge.Go
