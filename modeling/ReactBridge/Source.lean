import ReactBridge.Declaration.Extract
import ReactBridge.Go.Package

/-!
# Sources of declarations

* `Source`: a Go package, named by an import path or by its directory;
* `Source.declarations`: what the package exports, one declaration for each of its files.
-/

namespace ReactBridge

inductive Source where
  /-- Below the first entry of `GOPATH`. -/
  | importPath (path : String)
  | directory (dir : Path)
deriving DecidableEq, Repr

namespace Source

def label : Source → String
  | importPath path => path
  | directory dir => dir.text

def dir (gopath : Option String) : Source → Except Go.PackageError Path
  | importPath path => Go.packageDir gopath path
  | directory dir => .ok dir

variable {m : Type → Type} {Handle : Type} [Monad m] [Files m Handle]

def packageDeclarations (files : List Go.PackageFile) : List Declaration :=
  files.map fun file => Declaration.ofFile isExported file.source file.source.package

def declarations (gopath : Option String) (source : Source) :
    m (Except Go.PackageError (List Declaration)) := do
  match source.dir gopath with
  | .error e => return .error e
  | .ok dir => return (← Go.readPackage dir).map packageDeclarations

end Source

end ReactBridge
