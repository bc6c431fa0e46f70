import ReactBridge.Path
import ReactBridge.Text.Case

/-!
# Configuration and names of bridges

Everything that a bridge is called follows from the name of its Go package and from the dotted
Java package that it is nested in.

* `Config`: where bridges are written, and which names they use;
* `bridgePackage`, `packagePath`: the Java package, and its directory;
* `typeName`, `moduleClass`, `packageClass`: the Go class and the two generated classes;
* `goImport`, `methodName`: what the generated code refers to;
* `javaFile`: the file of a class.
-/

namespace ReactBridge.Bridge

structure Config where
  /-- The directory that the tree of Java packages is written below. -/
  output : Path := ⟨"app/src/main/java"⟩
  /-- The dotted Java package that all bridges are nested in; it may be empty. -/
  packageRoot : String := "com.reactgohybrid"
  /-- The name of the parameter that takes the application context. -/
  contextParam : String := "reactContext"
deriving DecidableEq, Repr

/-- The Java package of the bridge to a Go package, below `root` unless that is empty. -/
def bridgePackage (root packageName : String) : String :=
  if root.isEmpty then "bridge." ++ Text.lowercase packageName
  else root ++ ".bridge." ++ Text.lowercase packageName

/-- The names between the dots of a Java package, without empty ones. -/
def packageNames (javaPackage : String) : List String :=
  ((Text.split '.' javaPackage.toList).map String.ofList).filter fun name => !name.isEmpty

def packagePath (javaPackage : String) : Path :=
  Path.ofNames (packageNames javaPackage)

def typeName (packageName : String) : String :=
  Text.lowerTitleCase packageName

/-- The class that wraps the functions of a Go package. -/
def moduleClass (packageName : String) : String :=
  typeName packageName ++ "Module"

def packageClass (packageName : String) : String :=
  typeName packageName ++ "Package"

def goImport (packageName : String) : String :=
  Text.lowercase packageName ++ "." ++ typeName packageName

def methodName (function : String) : String :=
  Text.lowercase function

def javaFile (output : Path) (javaPackage className : String) : Path :=
  ((output.join (packagePath javaPackage)).join ⟨className⟩).withExtension "java"

end ReactBridge.Bridge
