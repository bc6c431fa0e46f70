/-!
# Declarations

A declaration is what one source file exports: functions with the parameters and the result that
a bridge can pass on.

* `Parameter`, `Callable`: named types and function signatures;
* `Declaration`: a package name and entries, each a callable with its return slot;
* `Declaration.isValid`: whether there is anything to bridge.
-/

namespace ReactBridge

/-- A parameter or a return slot. Its type is a plain type name; either text may be empty. -/
structure Parameter where
  name : String
  typeName : String
deriving DecidableEq, Repr

def Parameter.empty : Parameter :=
  ⟨"", ""⟩

def Parameter.hasType (parameter : Parameter) : Bool :=
  !parameter.typeName.isEmpty

structure Callable where
  name : String
  parameters : List Parameter
deriving DecidableEq, Repr

/-- The exported functions of a source file, each with its return slot, in source order. -/
structure Declaration where
  packageName : String
  entries : List (Callable × Parameter)
deriving DecidableEq, Repr

namespace Declaration

def empty (packageName : String) : Declaration :=
  ⟨packageName, []⟩

def push (decl : Declaration) (callable : Callable) (result : Parameter) : Declaration :=
  { decl with entries := decl.entries ++ [(callable, result)] }

def callables (decl : Declaration) : List Callable :=
  decl.entries.map Prod.fst

def returns (decl : Declaration) : List Parameter :=
  decl.entries.map Prod.snd

/-- Whether the declaration names a package and exports a function. -/
def isValid (decl : Declaration) : Bool :=
  !decl.packageName.isEmpty && !decl.entries.isEmpty

end Declaration

end ReactBridge
