import ReactBridge.Bridge.Name
import ReactBridge.Declaration
import ReactBridge.Java.Piece

/-!
# The classes of a bridge

* `modulePieces`: the class that wraps each function of a declaration in a method that settles a
  promise;
* `packagePieces`: the class that registers it.
-/

namespace ReactBridge.Bridge

open ReactBridge.Java

/-! ## The module class -/

/-- The classes that every module class refers to. -/
def moduleImports : List String :=
  ["com.facebook.react.bridge.ReactApplicationContext",
    "com.facebook.react.bridge.Promise",
    "com.facebook.react.bridge.ReactContextBaseJavaModule",
    "com.facebook.react.bridge.ReactMethod"]

def contextParam (config : Config) : Param :=
  ⟨"ReactApplicationContext", config.contextParam⟩

def constructorPieces (config : Config) (className : String) : List Piece :=
  [.constructorHeader className [contextParam config], .superCall config.contextParam, .close,
    .blank 1]

def namePieces (className : String) : List Piece :=
  [.annotate "Override", .methodHeader "String" "getName" [], .returnText className, .close,
    .blank 1]

/-- The parameters of the method for a function. The promise stands last. -/
def methodParams (javaType : String → String) (callable : Callable) : List Param :=
  callable.parameters.map (fun parameter => ⟨javaType parameter.typeName, parameter.name⟩) ++
    [⟨"Promise", "promise"⟩]

/-- The call of a function through the class that stands for its package. -/
def callExpression (target : String) (callable : Callable) : String :=
  target ++ "." ++ methodName callable.name ++ "(" ++
    ", ".intercalate (callable.parameters.map Parameter.name) ++ ")"

/-- The Java type of a result. A slot without a type or without a counterpart has none. -/
def resultType (javaType : String → String) (result : Parameter) : Option String :=
  if result.hasType && !(javaType result.typeName).isEmpty then
    some (javaType result.typeName)
  else none

/-- The statements that call a function, and resolve the promise if there is a result for it. -/
def callPieces (javaType : String → String) (call : String) (result : Parameter) : List Piece :=
  match resultType javaType result with
  | some type =>
    [.statement (type ++ " returnParam1 = " ++ call), .statement "promise.resolve(returnParam1)"]
  | none => [.statement call]

def methodPieces (javaType : String → String) (target : String) (entry : Callable × Parameter) :
    List Piece :=
  [.annotate "ReactMethod",
    .methodHeader "void" (methodName entry.1.name) (methodParams javaType entry.1), .tryHeader] ++
  callPieces javaType (callExpression target entry.1) entry.2 ++
  [.catchAll "promise.reject(\"Error\", e)", .close, .blank 1]

def modulePieces (config : Config) (javaType : String → String) (decl : Declaration) : List Piece :=
  let package := decl.packageName
  let className := moduleClass package
  [.packageLine (bridgePackage config.packageRoot package), .blank 1] ++
  moduleImports.map .importLine ++ [.importLine (goImport package), .blank 1] ++
  [.classHeader className (some "ReactContextBaseJavaModule") none, .blank 1] ++
  constructorPieces config className ++ namePieces className ++
  decl.entries.flatMap (methodPieces javaType (typeName package)) ++ [.close]

/-! ## The package class -/

def packageImports : List String :=
  ["com.facebook.react.ReactPackage",
    "com.facebook.react.bridge.JavaScriptModule",
    "com.facebook.react.bridge.NativeModule",
    "com.facebook.react.bridge.ReactApplicationContext",
    "com.facebook.react.uimanager.ViewManager",
    "java.util.ArrayList",
    "java.util.Collections",
    "java.util.List"]

def overridePieces (returnType name : String) (params : List Param) (body : List Piece) :
    List Piece :=
  [.annotate "Override", .methodHeader returnType name params] ++ body ++ [.close, .blank 1]

def packagePieces (config : Config) (decl : Declaration) : List Piece :=
  let package := decl.packageName
  [.packageLine (bridgePackage config.packageRoot package), .blank 1] ++
  packageImports.map .importLine ++ [.blank 1] ++
  [.classHeader (packageClass package) none (some "ReactPackage"), .blank 1] ++
  overridePieces "List<NativeModule>" "createNativeModules" [contextParam config]
    [.statement "List<NativeModule> modules = new ArrayList<>()",
      .statement ("modules.add(new " ++ moduleClass package ++ "(" ++ config.contextParam ++ "))"),
      .returnLine "modules"] ++
  overridePieces "List<Class<? extends JavaScriptModule>>" "createJSModules" []
    [.returnLine "Collections.emptyList()"] ++
  overridePieces "List<ViewManager>" "createViewManagers" [contextParam config]
    [.returnLine "Collections.emptyList()"] ++
  [.close]

end ReactBridge.Bridge
