import ReactBridge.Text.Split

/-!
# Lexical paths

A path is a text. Its rules are lexical: no rule asks whether anything exists, and none
changes how a path is spelled unless it says so.

* `Path.components`: the path as names, `.`, `..` and the root; `Path.same` compares by them;
* `Path.join`, `Path.ofNames`: one path below another;
* `Path.fileName`, `Path.extension`, `Path.withExtension`: the final component;
* `Path.parent?`: the components above the final one;
* `Path.stripBase`: a path relative to a base that it starts with.
-/

namespace ReactBridge

/-- A path as it was written. -/
structure Path where
  text : String
deriving DecidableEq, Repr, Inhabited

namespace Path

inductive Component where
  /-- The leading separator of an absolute path. -/
  | root
  /-- A leading `.`; later ones are no components. -/
  | here
  /-- A `..`. -/
  | up
  | name (text : String)
deriving DecidableEq, Repr

/-- The texts between the separators. -/
def segments (path : Path) : List String :=
  (Text.split '/' path.text.toList).map String.ofList

def ofSegments (segments : List String) : Path :=
  ⟨String.ofList (Text.join '/' (segments.map String.toList))⟩

/-- Whether a segment leaves a walk along the path where it is. -/
def isStill (segment : String) : Bool :=
  segment = "" || segment = "."

/-- The component that a segment is when others precede it. -/
def Component.ofSegment? (segment : String) : Option Component :=
  if isStill segment then none
  else if segment = ".." then some .up
  else some (.name segment)

/-- The component of the first segment: an empty one is the root, unless it is all there is. -/
def Component.ofFirst (segment : String) (more : Bool) : Option Component :=
  if segment = "" then if more then some .root else none
  else if segment = "." then some .here
  else ofSegment? segment

def components (path : Path) : List Component :=
  match path.segments with
  | [] => []
  | first :: rest =>
    (Component.ofFirst first (!rest.isEmpty)).toList ++ rest.filterMap Component.ofSegment?

def same (a b : Path) : Bool :=
  a.components = b.components

def isAbsolute (path : Path) : Bool :=
  path.text.toList.head? = some '/'

/-- `path` below `base`. An absolute path stands for itself; otherwise one separator is put
between the two unless `base` is empty or ends in one. -/
def join (base path : Path) : Path :=
  if path.isAbsolute then path
  else if base.text.isEmpty || base.text.toList.getLast? = some '/' then
    ⟨base.text ++ path.text⟩
  else ⟨base.text ++ "/" ++ path.text⟩

def ofNames (names : List String) : Path :=
  names.foldl (fun path name => path.join ⟨name⟩) ⟨""⟩

def fileName (path : Path) : Option String :=
  match path.components.getLast? with
  | some (.name text) => some text
  | _ => none

/-- A file name cut at its last dot. A dot in first place, with no other, cuts nothing. -/
def cutExtension (name : String) : String × Option String :=
  match Text.cutLast '.' name.toList with
  | some (stem, ext) => (String.ofList stem, some (String.ofList ext))
  | none => (name, none)

/-- The file name up to its extension. -/
def stem (name : String) : String :=
  (cutExtension name).1

def extension (path : Path) : Option String :=
  path.fileName.bind fun name => (cutExtension name).2

/-- The list without the still segments at its end. -/
def trimEnd (segments : List String) : List String :=
  (segments.reverse.dropWhile isStill).reverse

/-- The path with the name in its final component replaced by the stem of that name and `ext`.
What follows that component is cut off; a path without a final name stays as it is. -/
def setExtension (path : Path) (ext : String) : Path :=
  match path.fileName with
  | none => path
  | some name => ofSegments ((trimEnd path.segments).dropLast ++ [stem name ++ "." ++ ext])

/-- The path with the extension of its final component replaced by `ext`. The old one is first cut
off the end of the text: a name that is `..` without it is no name any more, and stays `..`. -/
def withExtension (path : Path) (ext : String) : Path :=
  let kept := path.text.length - (path.extension.getD "").length
  (Path.mk (String.ofList (path.text.toList.take kept))).setExtension ext

/-- What is left of the segments behind the first `n` components among them. -/
def dropComponents : Nat → List String → List String
  | 0, segments => segments
  | _ + 1, [] => []
  | n + 1, segment :: segments =>
    if isStill segment then dropComponents (n + 1) segments else dropComponents n segments

/-- The path without the still segments at its end. A root and a lone `.` stay. -/
def trimmed (path : Path) : Path :=
  match path.segments with
  | [] => path
  | first :: rest =>
    match trimEnd rest with
    | [] => if first = "" && !rest.isEmpty then ⟨"/"⟩ else ⟨first⟩
    | rest => ofSegments (first :: rest)

/-- The path of the components above the final one. An empty path and a root have none. -/
def parent? (path : Path) : Option Path :=
  if path.components.isEmpty || path.components = [.root] then none
  else
    match (trimEnd path.segments).dropLast with
    | [""] => some ⟨"/"⟩
    | segments => some (ofSegments segments).trimmed

/-- What stands behind the last separator, if it is a proper name. -/
def lastName? (path : Path) : Option String :=
  match path.segments.getLast? with
  | some segment => if isStill segment || segment = ".." then none else some segment
  | none => none

/-- The path relative to `base`, if its components start with those of `base`. -/
def stripBase (path base : Path) : Option Path :=
  if base.components.isPrefixOf path.components then
    match base.components.length with
    | 0 => some path.trimmed
    | n + 1 => some (ofSegments (trimEnd ((dropComponents n path.segments.tail).dropWhile isStill)))
  else none

end Path

end ReactBridge
