import ReactBridge.Bridge.Classes
import ReactBridge.Java.Writer

/-!
# Builders of bridge files

A builder writes one file of a bridge, once: it is created, its file is opened, it emits the class,
and it is closed.

* `Builder.target`: the file that it would write for a package;
* `Builder.build`: writes the class of a declaration;
* `Builder.close`: gives the file back.
-/

namespace ReactBridge.Bridge

open ReactBridge.Java

/-- Which of the two classes a builder writes. -/
inductive Kind where
  /-- The module class, with the Java type of each Go type name. A type that it does not pass on has
  none, which is the empty text. -/
  | module (javaType : String → String)
  | package

def Kind.className : Kind → String → String
  | module _, packageName => moduleClass packageName
  | package, packageName => packageClass packageName

def Kind.pieces : Kind → Config → Declaration → List Piece
  | module javaType, config, decl => modulePieces config javaType decl
  | package, config, decl => packagePieces config decl

inductive Stage where
  | created
  /-- The file is open, and nothing has been written. -/
  | opened
  | emitting
  | closed
deriving DecidableEq, Repr

/-- A writer that writes one class. -/
structure Builder (Handle : Type) where
  kind : Kind
  config : Config
  stage : Stage
  writer : Writer Handle

namespace Builder

variable {m : Type → Type} {Handle : Type}

def create (kind : Kind) (config : Config) : Builder Handle :=
  ⟨kind, config, .created, .ofPath ⟨""⟩⟩

def target (builder : Builder Handle) (packageName : String) : Path :=
  javaFile builder.config.output (bridgePackage builder.config.packageRoot packageName)
    (builder.kind.className packageName)

/-- The file of the builder, once it has started. -/
def path? (builder : Builder Handle) : Option Path :=
  if builder.stage = .created then none else some builder.writer.path

variable [Monad m] [Files m Handle]

/-- Opens the file at a path. A builder that cannot open it may try again. -/
def start (builder : Builder Handle) (path : Path) :
    m (Except WriteError Unit × Builder Handle) := do
  match builder.stage with
  | .closed => return (.error .closed, builder)
  | .opened | .emitting => return (.error (.alreadyBuilt builder.writer.path), builder)
  | .created =>
    match builder.writer.retarget path with
    | (.error e, writer) => return (.error e, { builder with writer })
    | (.ok (), writer) =>
      match ← writer.openFile with
      | (.error e, writer) => return (.error e, { builder with writer })
      | (.ok (), writer) => return (.ok (), { builder with writer, stage := .opened })

/-- Writes the class of a declaration, and gives its path. The builder has to be closed afterwards,
also after a failure. -/
def build (builder : Builder Handle) (decl : Declaration) :
    m (Except WriteError Path × Builder Handle) := do
  let path := builder.target decl.packageName
  match ← builder.start path with
  | (.error e, builder) => return (.error e, builder)
  | (.ok (), builder) =>
    let (result, writer) ← builder.writer.writeAll (builder.kind.pieces builder.config decl)
    return (result.map fun _ => path, { builder with writer, stage := .emitting })

/-- Gives the file back. A builder that never opened one can be closed too, but none can twice. -/
def close (builder : Builder Handle) : m (Except WriteError Unit × Builder Handle) := do
  match builder.stage with
  | .closed => return (.error .closed, builder)
  | .created => return (.ok (), { builder with stage := .closed })
  | .opened | .emitting =>
    let (result, writer) ← builder.writer.close
    return (result, { builder with writer, stage := .closed })

end Builder

end ReactBridge.Bridge
