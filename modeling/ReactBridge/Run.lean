import ReactBridge.Bridge.Write
import ReactBridge.Source

/-!
# Runs over packages

* `Failure`: why a package has no bridge, with its message, code, help and labels;
* `Settings`: the packages of a run, and how their bridges are written;
* `generate`: the outcomes of all packages. A package that fails does not stop the run;
* `inspect`: the declarations of one package, with nothing written.
-/

namespace ReactBridge.Run

open ReactBridge.Bridge

inductive Failure where
  /-- The package cannot be read. -/
  | read (error : Go.PackageError)
  /-- A file of the bridge cannot be written. -/
  | write (error : Java.WriteError)
deriving DecidableEq, Repr

namespace Failure

def message : Failure → String
  | read error => error.message
  | write error => error.message

def code : Failure → Option String
  | read error => some error.code
  | write _ => none

def help : Failure → Option String
  | read error => error.help
  | write _ => none

def labels : Failure → List (Nat × Nat × String)
  | read error => error.labels
  | write _ => []

end Failure

structure Settings where
  bridge : Config
  sources : List Source
deriving DecidableEq, Repr

structure Outcome where
  label : String
  result : Except Failure (List BridgeFiles)

def sameFiles (a b : BridgeFiles) : Bool :=
  a.moduleFile.same b.moduleFile && a.packageFile.same b.packageFile

/-- The bridges with one more, unless its files are among theirs. -/
def addBridge (bridges : List BridgeFiles) (bridge : BridgeFiles) : List BridgeFiles :=
  if bridges.any (sameFiles bridge) then bridges else bridges ++ [bridge]

structure Inspection where
  label : String
  declarations : List Declaration
deriving DecidableEq, Repr

variable {m : Type → Type} {Handle : Type} [Monad m] [Files m Handle]

/-- Writes the bridges of declarations up to the first failure, and collects them behind those
of earlier ones. -/
def writeBridges (config : Config) (bridges : List BridgeFiles) :
    List Declaration → m (Except Failure (List BridgeFiles))
  | [] => return .ok bridges
  | decl :: decls => do
    match ← writeBridge config decl with
    | .error e => return .error (.write e)
    | .ok none => writeBridges config bridges decls
    | .ok (some bridge) => writeBridges config (addBridge bridges bridge) decls

/-- Writes the bridges of a package. Nothing is written unless all its files can be read. -/
def writePackage (config : Config) (gopath : Option String) (source : Source) :
    m (Except Failure (List BridgeFiles)) := do
  match ← source.declarations gopath with
  | .error e => return .error (.read e)
  | .ok decls => writeBridges config [] decls

def writePackages (config : Config) (gopath : Option String) : List Source → m (List Outcome)
  | [] => return []
  | source :: sources => do
    let result ← writePackage config gopath source
    return ⟨source.label, result⟩ :: (← writePackages config gopath sources)

def generate (gopath : Option String) (settings : Settings) : m (List Outcome) :=
  writePackages settings.bridge gopath settings.sources

def inspect (gopath : Option String) (source : Source) :
    m (Except Go.PackageError Inspection) := do
  return (← source.declarations gopath).map fun declarations => ⟨source.label, declarations⟩

end ReactBridge.Run
