import ReactBridge.Go.Token

/-!
# Syntax of a Go source file

Of a source file only the package name and the signatures of its functions are kept.

* `TypeExpr`, `Field`: types, and entries of parameter and result lists;
* `FuncDecl`, `SourceFile`: functions and files.
-/

namespace ReactBridge.Go

inductive ChanDir where
  | both
  | send
  | receive
deriving DecidableEq, Repr

/-- An entry of a parameter or result list: a type, and the names that share it. An unnamed entry
has no names. -/
structure FieldOf (α : Type) where
  names : List String
  type : α
deriving Repr

/-- A type, as far as signatures show it. Lengths of arrays, and the members of structs and
interfaces, are left out. -/
inductive TypeExpr where
  | named (name : String)
  | qualified (package name : String)
  | pointer (elem : TypeExpr)
  | slice (elem : TypeExpr)
  | array (elem : TypeExpr)
  | map (key value : TypeExpr)
  | chan (dir : ChanDir) (elem : TypeExpr)
  | func (params results : List (FieldOf TypeExpr))
  | struct
  | interface
  /-- An instantiated generic type. -/
  | generic (base : TypeExpr) (args : List TypeExpr)
  | paren (inner : TypeExpr)
  /-- The `...T` of a variadic parameter. -/
  | variadic (elem : TypeExpr)
deriving Repr

abbrev Field := FieldOf TypeExpr

/-- The name of a plain named type; no other type has one. -/
def TypeExpr.simpleName? : TypeExpr → Option String
  | .named name => some name
  | _ => none

structure FuncDecl where
  name : String
  /-- The receiver of a method. -/
  receiver : Option Field
  /-- Whether type parameters are declared. -/
  generic : Bool
  params : List Field
  results : List Field
deriving Repr

/-- Whether the function has a receiver. -/
def FuncDecl.isMethod (func : FuncDecl) : Bool :=
  func.receiver.isSome

/-- The package name and the functions of a source file, in order. -/
structure SourceFile where
  package : String
  funcs : List FuncDecl
deriving Repr

end ReactBridge.Go
