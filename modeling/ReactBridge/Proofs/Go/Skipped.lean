import ReactBridge.Declaration.Extract
import ReactBridge.Proofs.Go.Routine.File

/-!
# What is skipped does not count

Function bodies, type parameters, array lengths, the members of structs and interfaces, and the
bracket groups of other declarations are skipped when a file is read. Another group in the place of
one of them leaves the file as it is.

* `SourceFile.skipped` : the groups that are skipped;
* `SourceFile.ofTokens_replace_skipped` : none of them has a part in the file.
-/

namespace ReactBridge.Go

namespace SourceFile

/-- The groups that are skipped while a file is read: what each is skipped for, and the tokens from
its first one on. -/
def skipped (tokens : List Token) : List (Site × List Token) :=
  (Routine.file (tokens.length + 1)).skipped tokens

variable {front group group' back start tokens : List Token} {site : Site} {file : SourceFile}

/-- The bound of the routine that tells what is skipped is enough for it to give the file back. -/
theorem exists_run_of_ofTokens (hfile : ofTokens tokens = .ok file) :
    ∃ rest, (Routine.file (tokens.length + 1)).run tokens = some (file, rest) := by
  have hcomes : Comes False (.file (tokens.length + 1)) tokens (ofTokens tokens) :=
    comes_file fun _ => Nat.lt_succ_self _
  rcases hcomes with hrun | ⟨hloose, -⟩
  · rw [hfile] at hrun
    obtain ⟨⟨file', rest⟩, hread, rfl⟩ := Option.map_eq_some_iff.1 hrun
    exact ⟨rest, hread⟩
  · exact hloose.elim

/-- A routine that gives a file back gives the right one, whatever its bound. -/
theorem ofTokens_of_run {bound : Nat} {rest : List Token}
    (hrun : (Routine.file bound).run tokens = some (file, rest)) : ofTokens tokens = .ok file := by
  have hcomes : Comes True (.file bound) tokens (ofTokens tokens) :=
    comes_file fun h => absurd trivial h
  rw [Comes, hrun] at hcomes
  rcases hcomes with hfile | ⟨-, hnone⟩
  · cases hresult : ofTokens tokens with
    | error e =>
      rw [hresult] at hfile
      cases hfile
    | ok file' =>
      rw [hresult] at hfile
      exact congrArg Except.ok (Option.some.inj hfile).symm
  · cases hnone

/-- **What is skipped does not count.** Where a group is skipped, any other group with the same
opening bracket leaves the file and its declaration as they are, if it is not empty in the place of
an array length, and wherever its tokens and those behind it stand in their text. -/
theorem ofTokens_replace_skipped (hfile : ofTokens (front ++ (group ++ back)) = .ok file)
    (hskipped : (site, group ++ back) ∈ skipped (front ++ (group ++ back)))
    (hgroup : IsGroup group) (hgroup' : IsGroup group')
    (hopen : (current group').kind = (current group).kind)
    (hlength : site = .arrayLength → 2 < group'.length)
    (hkinds : tokens.map Token.kind = (front ++ (group' ++ back)).map Token.kind) :
    ofTokens tokens = .ok file ∧ ∀ exported packageName,
      (ofTokens tokens).map (Declaration.ofFile exported · packageName) =
        .ok (Declaration.ofFile exported file packageName) := by
  obtain ⟨rest, hrun⟩ := exists_run_of_ofTokens hfile
  have hreplaced := Routine.run_replace hgroup hgroup' hopen hlength hrun hskipped
  obtain ⟨rest', hrun'⟩ := Routine.run_of_kinds hkinds hreplaced
  have hfile' := ofTokens_of_run hrun'
  refine ⟨hfile', fun exported packageName => ?_⟩
  rw [hfile']
  rfl

/-- The tokens of `package p; func F(a` ahead of an array type. -/
def arrayFront : List Token :=
  tokensOf [.keyword .package, .ident "p", .semicolon, .keyword .func, .ident "F", .opening .paren,
    .ident "a"]

def shortLength : List Token :=
  tokensOf [.opening .square, .literal .number, .closing .square]

/-- Brackets of all shapes, none with its partner. -/
def longLength : List Token :=
  tokensOf [.opening .square, .keyword .func, .opening .paren, .closing .brace, .semicolon,
    .closing .square]

/-- The tokens of `T) {}` behind the length of an array. -/
def arrayBack : List Token :=
  tokensOf [.ident "T", .closing .paren, .opening .brace, .closing .brace, .endOfFile]

def arrayFile : SourceFile :=
  ⟨"p", [⟨"F", none, false, [⟨["a"], .array (.named "T")⟩], []⟩]⟩

theorem ofTokens_replace_skipped_arrayLength :
    (.arrayLength, shortLength ++ arrayBack) ∈ skipped (arrayFront ++ (shortLength ++ arrayBack)) ∧
      ofTokens (arrayFront ++ (longLength ++ arrayBack)) = .ok arrayFile ∧ ∀ exported packageName,
        (ofTokens (arrayFront ++ (longLength ++ arrayBack))).map
            (Declaration.ofFile exported · packageName) =
          .ok (Declaration.ofFile exported arrayFile packageName) := by
  have hrun : (Routine.file 16).run (arrayFront ++ (shortLength ++ arrayBack)) =
      some (arrayFile, tokensOf [.endOfFile]) := rfl
  have hskipped : (.arrayLength, shortLength ++ arrayBack) ∈
      skipped (arrayFront ++ (shortLength ++ arrayBack)) := by decide
  have hgroup : IsGroup shortLength := by decide
  have hgroup' : IsGroup longLength := by decide
  exact ⟨hskipped, ofTokens_replace_skipped (ofTokens_of_run hrun) hskipped hgroup hgroup' rfl
    (fun _ => by decide) rfl⟩

end SourceFile

end ReactBridge.Go
