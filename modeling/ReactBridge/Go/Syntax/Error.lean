import ReactBridge.Go.Lexeme
import ReactBridge.Rest

/-!
# Syntax errors, and reading single tokens

* `SyntaxError`: why a text is no Go source file, and where;
* `current`: the token at which a reader stands;
* `takeToken`, `takeName`: reading a token of a given kind.
-/

namespace ReactBridge.Go

/-- What a rule asks for. -/
inductive Expected where
  | token (kind : Token.Kind)
  | identifier
  | importPath
  | type
  | declaration
deriving DecidableEq, Repr

def Expected.describe : Expected → String
  | token kind => kind.describe
  | identifier => "identifier"
  | importPath => "import path"
  | type => "type"
  | declaration => "declaration"

/-- What is wrong with a text that is no source file. -/
inductive SyntaxError.Cause where
  | lexical (cause : LexError.Cause)
  | unexpected (expected : Expected) (found : Token.Kind)
  /-- A bracket group without an end. -/
  | unclosed (opening : Token.Kind)
  | missingReceiver
  | mixedParameters
deriving DecidableEq, Repr

def SyntaxError.Cause.message : SyntaxError.Cause → String
  | lexical cause => cause.message
  | unexpected expected found =>
    "expected " ++ expected.describe ++ ", found " ++ found.describe
  | unclosed opening => "unclosed " ++ opening.describe
  | missingReceiver => "method has no receiver"
  | mixedParameters => "mixed named and unnamed parameters"

structure SyntaxError where
  cause : SyntaxError.Cause
  span : Span
deriving DecidableEq, Repr

def SyntaxError.message (e : SyntaxError) : String :=
  e.cause.message

def SyntaxError.ofLexError (e : LexError) : SyntaxError :=
  ⟨.lexical e.cause, e.span⟩

/-- The first token that is left. The tokens of a text never run out ahead of their last, the
end of the file; a list that has run out reads as that. -/
def current (ts : List Token) : Token :=
  ts.headD ⟨.endOfFile, 0, 0⟩

/-- The error of a reader that stands at a token for which it has no rule. -/
def unexpected (expected : Expected) (ts : List Token) : SyntaxError :=
  ⟨.unexpected expected (current ts).kind, (current ts).span⟩

def takeToken (kind : Token.Kind) (ts : List Token) : Except SyntaxError (Token × Rest ts) :=
  match ts with
  | [] => .error (unexpected (.token kind) [])
  | t :: ts =>
    if t.kind = kind then .ok (t, (Rest.all ts).behind t)
    else .error (unexpected (.token kind) (t :: ts))

def takeName (ts : List Token) : Except SyntaxError (String × Rest ts) :=
  match ts with
  | [] => .error (unexpected .identifier [])
  | t :: ts =>
    match t.kind with
    | .ident name => .ok (name, (Rest.all ts).behind t)
    | _ => .error (unexpected .identifier (t :: ts))

end ReactBridge.Go
