/-!
# Tokens of Go source text

* `Span`: a range of bytes in a source text;
* `Token.Kind`: what a token is, with its description for messages (`Kind.describe`);
* `Keyword.ofWord?`: the reserved words;
* `Kind.endsLine`: the tokens behind which a line end closes a statement.
-/

namespace ReactBridge.Go

/-- The bytes of a source text from `start` up to `stop`. -/
structure Span where
  start : Nat
  stop : Nat
deriving DecidableEq, Repr

/-- How many bytes the span covers. A span that stops ahead of its start covers none. -/
def Span.length (span : Span) : Nat :=
  span.stop - span.start

def Span.isEmpty (span : Span) : Bool :=
  span.length = 0

/-- The reserved words. Those that no rule of a declaration asks for are `other`. -/
inductive Keyword where
  | package
  | importDecl
  | func
  | typeDecl
  | varDecl
  | constDecl
  | struct
  | interface
  | map
  | chan
  | breakStmt
  | continueStmt
  | fallthroughStmt
  | returnStmt
  | other
deriving DecidableEq, Repr

def Keyword.ofWord? (word : String) : Option Keyword :=
  match word with
  | "package" => some .package
  | "import" => some .importDecl
  | "func" => some .func
  | "type" => some .typeDecl
  | "var" => some .varDecl
  | "const" => some .constDecl
  | "struct" => some .struct
  | "interface" => some .interface
  | "map" => some .map
  | "chan" => some .chan
  | "break" => some .breakStmt
  | "continue" => some .continueStmt
  | "fallthrough" => some .fallthroughStmt
  | "return" => some .returnStmt
  | "case" | "default" | "defer" | "else" | "for" | "go" | "goto" | "if" | "range" | "select"
  | "switch" => some .other
  | _ => none

def Keyword.describe : Keyword → String
  | .package => "`package`"
  | .importDecl => "`import`"
  | .func => "`func`"
  | .typeDecl => "`type`"
  | .varDecl => "`var`"
  | .constDecl => "`const`"
  | .struct => "`struct`"
  | .interface => "`interface`"
  | .map => "`map`"
  | .chan => "`chan`"
  | .breakStmt => "`break`"
  | .continueStmt => "`continue`"
  | .fallthroughStmt => "`fallthrough`"
  | .returnStmt => "`return`"
  | .other => "keyword"

inductive LiteralKind where
  | number
  | rune
  | string
  | rawString
deriving DecidableEq, Repr

inductive Bracket where
  | paren
  | brace
  | square
deriving DecidableEq, Repr

inductive Token.Kind where
  | ident (name : String)
  | literal (kind : LiteralKind)
  | keyword (word : Keyword)
  | opening (shape : Bracket)
  | closing (shape : Bracket)
  | comma
  | dot
  | ellipsis
  /-- A `;` of the text, or one that a line end stands for. -/
  | semicolon
  | star
  | arrow
  | increment
  | decrement
  /-- An operator that no rule of a declaration asks for. -/
  | operator
  | endOfFile
deriving DecidableEq, Repr

structure Token where
  kind : Token.Kind
  span : Span
deriving DecidableEq, Repr

namespace Token.Kind

/-- Whether a line end behind this token closes the statement. -/
def endsLine : Kind → Bool
  | ident _ | literal _ | closing _ | increment | decrement => true
  | keyword .breakStmt | keyword .continueStmt | keyword .fallthroughStmt
  | keyword .returnStmt => true
  | _ => false

def isOpener : Kind → Bool
  | opening _ => true
  | _ => false

def isCloser : Kind → Bool
  | closing _ => true
  | _ => false

def describe : Kind → String
  | ident name => "identifier `" ++ name ++ "`"
  | literal _ => "literal"
  | keyword word => word.describe
  | opening .paren => "`(`"
  | opening .brace => "`\x7b`"
  | opening .square => "`[`"
  | closing .paren => "`)`"
  | closing .brace => "`\x7d`"
  | closing .square => "`]`"
  | comma => "`,`"
  | dot => "`.`"
  | ellipsis => "`...`"
  | semicolon => "`;` or newline"
  | star => "`*`"
  | arrow => "`<-`"
  | increment => "`++`"
  | decrement => "`--`"
  | operator => "operator"
  | endOfFile => "end of file"

/-- The operators and delimiters, longer ones ahead of those that they start with. -/
def operators : List (String × Kind) :=
  [("<<=", operator), (">>=", operator), ("&^=", operator), ("...", ellipsis), ("&&", operator),
   ("||", operator), ("<-", arrow), ("++", increment), ("--", decrement), ("==", operator),
   ("!=", operator), ("<=", operator), (">=", operator), (":=", operator), ("+=", operator),
   ("-=", operator), ("*=", operator), ("/=", operator), ("%=", operator), ("&=", operator),
   ("|=", operator), ("^=", operator), ("<<", operator), (">>", operator), ("&^", operator),
   ("+", operator), ("-", operator), ("*", star), ("/", operator), ("%", operator),
   ("&", operator), ("|", operator), ("^", operator), ("<", operator), (">", operator),
   ("=", operator), ("!", operator), ("(", opening .paren), (")", closing .paren),
   ("[", opening .square), ("]", closing .square), ("\x7b", opening .brace),
   ("\x7d", closing .brace), (",", comma), (";", semicolon), (".", dot), (":", operator),
   ("~", operator)]

end Token.Kind

end ReactBridge.Go
