import ReactBridge.Declaration
import ReactBridge.Go.Syntax
import ReactBridge.Text.Uppercase

/-!
# The declaration of a source file

A declaration holds the exported functions of a file. What it cannot hold is left out: methods,
parameters whose type is no plain name, and all results but the first.

* `isExported`: the Go rule for exported names;
* `Declaration.ofFile`: the declaration of a file under a given rule.
-/

namespace ReactBridge

/-- Whether Go exports a name: it starts with an uppercase letter. -/
def isExported (name : String) : Bool :=
  name.toList.head?.any Text.isUppercase

namespace Declaration

/-- The parameters of one field. Fields of other than plain named types have none; an unnamed
field has one without a name. -/
def parametersOf (field : Go.Field) : List Parameter :=
  match field.type.simpleName? with
  | none => []
  | some typeName =>
    match field.names with
    | [] => [⟨"", typeName⟩]
    | names => names.map fun name => ⟨name, typeName⟩

def callableOf (func : Go.FuncDecl) : Callable :=
  ⟨func.name, func.params.flatMap parametersOf⟩

/-- The return slot of a function: the first name and the plain type name of its first result. -/
def returnOf (func : Go.FuncDecl) : Parameter :=
  match func.results with
  | [] => Parameter.empty
  | field :: _ => ⟨field.names.headD "", field.type.simpleName?.getD ""⟩

/-- The functions of a file, methods aside, whose names are exported. -/
def exportedFuncs (exported : String → Bool) (file : Go.SourceFile) : List Go.FuncDecl :=
  file.funcs.filter fun func => !func.isMethod && exported func.name

def ofFile (exported : String → Bool) (file : Go.SourceFile) (packageName : String) :
    Declaration :=
  ⟨packageName, (exportedFuncs exported file).map fun func => (callableOf func, returnOf func)⟩

end Declaration

end ReactBridge
