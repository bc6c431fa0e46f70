import ReactBridge.Files
import ReactBridge.Go.Syntax.File

/-!
# Go packages

A package is made of the Go source files of one directory, test files aside. It is read as a
whole: the first file that fails, in the order of names, fails the package.

* `PackageError`: why a package cannot be read, with its code, help and labels;
* `packageDir`: the directory of an import path below the first entry of `GOPATH`;
* `isTestFile`, `isGoFile`: the files that a package is made of;
* `sourcePaths`: those of a directory, in the order of their names;
* `readAt`, `readPackage`: the syntax of one file and of all of them.
-/

namespace ReactBridge.Go

inductive PackageError where
  /-- A file or directory that cannot be read as what it should be. -/
  | unreadable (path : EntryPath)
  | invalid (path : EntryPath) (error : SyntaxError)
  | noGopath
deriving DecidableEq, Repr

namespace PackageError

def message : PackageError → String
  | unreadable path => "failed to read '" ++ path.text ++ "'"
  | invalid path error => "syntax error in '" ++ path.text ++ "': " ++ error.message
  | noGopath => "GOPATH is not set"

def code : PackageError → String
  | unreadable _ => "gobridge::io"
  | invalid _ _ => "gobridge::syntax_error"
  | noGopath => "gobridge::gopath_not_set"

def help : PackageError → Option String
  | noGopath => some "set GOPATH or pass --source-dir with the package directory"
  | _ => none

/-- The stretches of the source text that the error is about: offset, length and remark. -/
def labels : PackageError → List (Nat × Nat × String)
  | invalid _ error => [(error.span.start, error.span.length, error.message)]
  | _ => []

end PackageError

/-! ## Where packages lie -/

/-- The first entry of a list of directories with `:` between them, unless it is empty. -/
def firstEntry (value : String) : Option Path :=
  let entry := String.ofList (value.toList.takeWhile (· ≠ ':'))
  if entry.isEmpty then none else some ⟨entry⟩

/-- The directory of the package with a given import path. Leading separators of the import path
do not make it absolute. -/
def packageDir (gopath : Option String) (importPath : String) : Except PackageError Path :=
  match gopath.bind firstEntry with
  | some root =>
    .ok ((root.join ⟨"src"⟩).join ⟨String.ofList (importPath.toList.dropWhile (· = '/'))⟩)
  | none => .error .noGopath

/-- Whether the path of an entry names a Go test file. A name that is no text is the name of none. -/
def isTestEntry (path : EntryPath) : Bool :=
  (path.fileName.bind EntryName.text?).any fun name => "_test.go".toList.isSuffixOf name.toList

def isTestFile (path : Path) : Bool :=
  isTestEntry path

def isGoFile : EntryPath → Bool
  | .plain path => path.extension = some "go"
  | .odd _ name => name.extension = some "go".toUTF8.toList

/-! ## Reading packages -/

/-- A file of a package, with the path that it was read from. -/
structure PackageFile where
  path : EntryPath
  source : SourceFile

variable {m : Type → Type} {Handle : Type} [Monad m] [Files m Handle]

def readAt (path : EntryPath) : m (Except PackageError SourceFile) := do
  match ← Files.readText path with
  | none => return .error (.unreadable path)
  | some text => return (SourceFile.ofText text).mapError (.invalid path)

/-- The syntax of the file at a path that is written down. -/
def readSource (path : Path) : m (Except PackageError SourceFile) :=
  readAt path

def regularFiles : List EntryPath → m (List EntryPath)
  | [] => return []
  | path :: paths => do
    let regular ← Files.isFile path
    let rest ← regularFiles paths
    return if regular then path :: rest else rest

def sortNames (names : List EntryName) : List EntryName :=
  names.mergeSort fun a b => a.toBytes ≤ b.toBytes

def isPackageFile (path : EntryPath) : Bool :=
  isGoFile path && !isTestEntry path

def sourcePaths (dir : Path) (names : List EntryName) : m (List EntryPath) :=
  regularFiles (((sortNames names).map dir.entry).filter isPackageFile)

def readSources : List EntryPath → m (Except PackageError (List PackageFile))
  | [] => return .ok []
  | path :: paths => do
    match ← readAt path with
    | .error e => return .error e
    | .ok source => return (← readSources paths).map fun files => ⟨path, source⟩ :: files

def readPackage (dir : Path) : m (Except PackageError (List PackageFile)) := do
  match ← Files.names dir with
  | none => return .error (.unreadable dir)
  | some names => readSources (← sourcePaths dir names)

end ReactBridge.Go
