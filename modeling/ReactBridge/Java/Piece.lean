import ReactBridge.Java.Margin

/-!
# Pieces of a Java file

* `Param`: an entry of a parameter list;
* `Piece`: what a class is written from;
* `Piece.lines`: the lines of a piece, each with the effect that it has on the margin.
-/

namespace ReactBridge.Java

structure Param where
  type : String
  name : String
deriving DecidableEq, Repr

/-- The type and the name; the bare name if there is no type. -/
def Param.render (param : Param) : String :=
  if param.type.isEmpty then param.name else param.type ++ " " ++ param.name

def renderParams (params : List Param) : String :=
  ", ".intercalate (params.map Param.render)

inductive Piece where
  | packageLine (package : String)
  | importLine (name : String)
  /-- The head of a class. An empty superclass or interface counts as none. -/
  | classHeader (name : String) (superclass interface : Option String)
  | constructorHeader (name : String) (params : List Param)
  | superCall (argument : String)
  | annotate (name : String)
  | methodHeader (returnType name : String) (params : List Param)
  | statement (body : String)
  | tryHeader
  /-- The end of a block that was opened by `tryHeader`, with a handler of one statement. -/
  | catchAll (body : String)
  | returnLine (expression : String)
  /-- A `return` of a string. Nothing in the text is escaped. -/
  | returnText (text : String)
  | blank (count : Nat)
  | close
deriving DecidableEq, Repr

/-- A line, or a stretch of empty ones. -/
inductive Line where
  /-- A text that is written as it is, and does not touch the margin. -/
  | verbatim (text : String)
  /-- A line that is written at its margin. -/
  | placed (text : String) (mode : Margin.Mode)
deriving DecidableEq, Repr

/-- A modifier of a class head, with a blank before it. -/
def classClause (keyword : String) (name : Option String) : String :=
  match name with
  | some name => if name.isEmpty then "" else " " ++ keyword ++ " " ++ name
  | none => ""

def Piece.lines : Piece → List Line
  | packageLine package => [.verbatim ("package " ++ package ++ ";\n")]
  | importLine name => [.verbatim ("import " ++ name ++ ";\n")]
  | classHeader name superclass interface =>
    [.placed ("public class " ++ name ++ classClause "extends" superclass ++
      classClause "implements" interface ++ " \x7b") .stepping]
  | constructorHeader name params =>
    [.placed ("public " ++ name ++ "(" ++ renderParams params ++ ") \x7b") .stepping]
  | superCall argument => [.placed ("super(" ++ argument ++ ");") .stepping]
  | annotate name => [.placed ("@" ++ name) .level]
  | methodHeader returnType name params =>
    [.placed ("public " ++ returnType ++ " " ++ name ++ "(" ++ renderParams params ++ ") \x7b")
      .stepping]
  | statement body => [.placed (body ++ ";") .level]
  | tryHeader => [.placed "try \x7b" .stepping]
  | catchAll body =>
    [.placed "\x7d catch(Exception e) \x7b" .stepping, .placed (body ++ ";") .stepping,
      .placed "\x7d" .level]
  | returnLine expression => [.placed ("return " ++ expression ++ ";") .stepping]
  | returnText text => [.placed ("return \"" ++ text ++ "\";") .stepping]
  | blank count => [.verbatim (String.ofList (List.replicate count '\n'))]
  | close => [.placed "\x7d" .stepping]

end ReactBridge.Java
