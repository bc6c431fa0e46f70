/-!
# Java types for Go types

* `TypeMap`: a table from Go type names to Java types;
* `TypeMap.apply`: the Java type for a name, empty if there is none;
* `goTypes`: the types that a bridge can pass on.
-/

namespace ReactBridge.Java

abbrev TypeMap := List (String × String)

/-- The Java type that the table has first for a Go type name; empty if it has none. -/
def TypeMap.apply (types : TypeMap) (typeName : String) : String :=
  (types.lookup typeName).getD ""

instance : CoeFun TypeMap fun _ => String → String :=
  ⟨TypeMap.apply⟩

def goTypes : TypeMap :=
  [("string", "String"), ("int", "long")]

end ReactBridge.Java
