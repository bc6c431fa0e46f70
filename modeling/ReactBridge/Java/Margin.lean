/-!
# Margins of lines

Java text is written line by line, without a tree of its blocks. The margin of a line follows from
the braces of the lines before it.

* `Margin`: the depth of the last line, and whether the next plain line goes one deeper;
* `Margin.enter`: the margin that a line is written at;
* `Margin.settle`: the margin behind it;
* `Margin.place`: both, with the line as it is written.
-/

namespace ReactBridge.Java

/-- Depth in blocks, and whether the next plain line has to go one deeper first. -/
structure Margin where
  depth : Nat
  pending : Bool
deriving DecidableEq, Repr

namespace Margin

def start : Margin :=
  ⟨0, false⟩

/-- What a line does to the plain line behind it. -/
inductive Mode where
  /-- It goes one deeper. -/
  | stepping
  /-- It stays at this depth. -/
  | level
deriving DecidableEq, Repr

/-- What the braces of a line say about its own depth. -/
inductive Shape where
  /-- The line is `}`. -/
  | bareClose
  /-- The line holds a `}` among other text, and perhaps a `{`. -/
  | closing (opens : Bool)
  | plain
deriving DecidableEq, Repr

def Shape.of (line : String) : Shape :=
  if line = "\x7d" then .bareClose
  else if line.toList.contains '}' then .closing (line.toList.contains '{')
  else .plain

/-- The margin that a line is written at. A line with a closing brace stands one less deep. -/
def enter (margin : Margin) (line : String) : Margin :=
  match Shape.of line with
  | .bareClose => ⟨margin.depth - 1, false⟩
  | .closing opens => ⟨margin.depth - 1, opens⟩
  | .plain => if margin.pending then ⟨margin.depth + 1, false⟩ else margin

/-- The margin behind a line. -/
def settle (margin : Margin) (line : String) (mode : Mode) : Margin :=
  { margin with pending := mode = .stepping && Shape.of line ≠ .bareClose }

/-- The start of a line: one tab for each block around it. -/
def indentation (depth : Nat) : String :=
  String.ofList (List.replicate depth '\t')

/-- A line as it is written at its margin, and the margin behind it. -/
def place (margin : Margin) (line : String) (mode : Mode) : String × Margin :=
  let entered := margin.enter line
  (indentation entered.depth ++ line, entered.settle line mode)

end Margin

end ReactBridge.Java
