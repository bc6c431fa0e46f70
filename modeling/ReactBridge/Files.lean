import ReactBridge.Path

/-!
# What a run asks of files

* `EntryName`: what a directory calls its entries, which need not be a text;
* `EntryPath`: where an entry lies that a directory has listed;
* `Files m Handle`: reading a text, the names in a directory, and writing through handles, as
  actions in `m`.
-/

namespace ReactBridge

/-! ## Names of entries -/

/-- A name of an entry whose bytes are those of no text. It has no separator and no end mark. -/
@[ext]
structure ByteName where
  bytes : List UInt8
  noText : String.fromUTF8? ⟨bytes.toArray⟩ = none
  proper : ∀ byte ∈ bytes, byte ≠ 0x00 ∧ byte ≠ 0x2F
deriving DecidableEq, Repr

inductive EntryName where
  | text (name : String)
  | bytes (name : ByteName)
deriving DecidableEq, Repr

namespace EntryName

def toBytes : EntryName → List UInt8
  | text name => name.toUTF8.toList
  | bytes name => name.bytes

def text? : EntryName → Option String
  | text name => some name
  | bytes _ => none

end EntryName

namespace ByteName

/-- What follows the last dot. A dot in first place, with no other, is followed by no extension. -/
def extension (name : ByteName) : Option (List UInt8) :=
  (Text.cutLast 0x2E name.bytes).map Prod.snd

/-- A character of which the first bytes were read: its code so far, how many bytes it still takes,
and the bounds of the next one. -/
structure Begun where
  code : Nat
  owed : Nat
  low : UInt8
  high : UInt8

/-- The character that a byte begins, if it begins one of several bytes. The bounds keep out longer
forms of smaller codes, surrogates and codes that are too large. -/
def Begun.ofFirst? (byte : UInt8) : Option Begun :=
  if byte < 0xC2 then none
  else if byte < 0xE0 then some ⟨byte.toNat - 0xC0, 1, 0x80, 0xBF⟩
  else if byte < 0xF0 then
    some ⟨byte.toNat - 0xE0, 2, if byte = 0xE0 then 0xA0 else 0x80, if byte = 0xED then 0x9F else 0xBF⟩
  else if byte < 0xF5 then
    some ⟨byte.toNat - 0xF0, 3, if byte = 0xF0 then 0x90 else 0x80, if byte = 0xF4 then 0x8F else 0xBF⟩
  else none

/-- What stands for bytes that are no character. -/
def replacement : Char :=
  '\uFFFD'

/-- The characters that bytes are shown as, behind what was begun ahead of them. A character that
breaks off is replaced as a whole, and the byte that breaks it off is looked at once more. -/
def shownBehind (begun : Option Begun) : List UInt8 → List Char
  | [] => if begun.isSome then [replacement] else []
  | byte :: bytes =>
    match begun.filter fun c => c.low ≤ byte && byte ≤ c.high with
    | some c =>
      let code := 64 * c.code + byte.toNat % 64
      if c.owed = 1 then Char.ofNat code :: shownBehind none bytes
      else shownBehind (some ⟨code, c.owed - 1, 0x80, 0xBF⟩) bytes
    | none =>
      let broken := if begun.isSome then [replacement] else []
      if byte < 0x80 then broken ++ Char.ofNat byte.toNat :: shownBehind none bytes
      else
        match Begun.ofFirst? byte with
        | some c => broken ++ shownBehind (some c) bytes
        | none => broken ++ replacement :: shownBehind none bytes

def shown (name : ByteName) : String :=
  String.ofList (shownBehind none name.bytes)

end ByteName

/-! ## Paths of entries -/

/-- A path to read from: one that is written as a text, or that of an entry of a directory. -/
inductive EntryPath where
  | plain (path : Path)
  /-- Of an entry whose name is no text. -/
  | odd (dir : Path) (name : ByteName)
deriving DecidableEq, Repr

instance : Coe Path EntryPath :=
  ⟨.plain⟩

def Path.entry (dir : Path) : EntryName → EntryPath
  | .text name => dir.join ⟨name⟩
  | .bytes name => .odd dir name

namespace EntryPath

def text : EntryPath → String
  | plain path => path.text
  | odd dir name => (dir.join ⟨""⟩).text ++ name.shown

/-- The number of bytes of the path. -/
def size : EntryPath → Nat
  | plain path => path.text.utf8ByteSize
  | odd dir name => (dir.join ⟨""⟩).text.utf8ByteSize + name.bytes.length

def fileName : EntryPath → Option EntryName
  | plain path => path.fileName.map .text
  | odd _ name => some (.bytes name)

end EntryPath

/-- Files as a run sees them. Every action that can fail says so in its result. -/
class Files (m : Type → Type) (Handle : outParam Type) where
  /-- The text of a file, unless there is no such file or its bytes are no text. -/
  readText : EntryPath → m (Option String)
  /-- The names of the entries of a directory, in any order. -/
  names : Path → m (Option (List EntryName))
  /-- Whether the path leads to a regular file. -/
  isFile : EntryPath → m Bool
  /-- Makes the missing directories above a path, then an empty file in place of any old one. -/
  create : Path → m (Option Handle)
  /-- Writes a text behind the last one written through the handle, and leaves the handle to go
  on with. -/
  append : Handle → String → m (Option Handle)
  /-- Gives a handle back, and says whether all that was written through it is safe. -/
  release : Handle → m Bool

end ReactBridge
