import ReactBridge.Bridge.Builder
import ReactBridge.Java.TypeMap

/-!
# Bridges of declarations

* `BridgeFiles`: the two files of a bridge;
* `writeBridge`: writes the bridge of a declaration, if there is anything to bridge.
-/

namespace ReactBridge.Bridge

open ReactBridge.Java

structure BridgeFiles where
  moduleFile : Path
  packageFile : Path
deriving DecidableEq, Repr

variable {m : Type → Type} {Handle : Type} [Monad m] [Files m Handle]

/-- Writes one file and gives it back. A failure to write it counts before one to give it back. -/
def writeFile (kind : Kind) (config : Config) (decl : Declaration) :
    m (Except WriteError Path) := do
  let (built, builder) ← (Builder.create kind config : Builder Handle).build decl
  let (closed, _) ← builder.close
  return do
    let path ← built
    closed
    return path

/-- Writes the bridge of a declaration, the module class first. Nothing is written for a
declaration with nothing to bridge. -/
def writeBridge (config : Config) (decl : Declaration) :
    m (Except WriteError (Option BridgeFiles)) := do
  if !decl.isValid then return .ok none
  match ← writeFile (.module goTypes.apply) config decl with
  | .error e => return .error e
  | .ok moduleFile =>
    match ← writeFile .package config decl with
    | .error e => return .error e
    | .ok packageFile => return .ok (some ⟨moduleFile, packageFile⟩)

end ReactBridge.Bridge
