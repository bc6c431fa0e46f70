import ReactBridge.Proofs.Run.Underway

/-!
# Packages of a run are independent

Apart from what is read, a run writes files that are put over one another in the file system that
it started from. What becomes of a package depends on that file system only, and so does what a
second run leaves, and what the same packages leave in another order.

* `FileSystem.after_perm` : drafts of several items in another order, if no two items meet;
* `FileSystem.after_self` : drafts that are written twice;
* `Underway.generate_eq` : what a run comes to behind others, told from the file system before them;
* `generate_independent` : each package fares as it would alone, in any order of the packages;
* `generate_again` : a second run changes nothing, and reports the same.
-/

namespace ReactBridge

namespace FileSystem

/-! ## Drafts in another order -/

theorem filesAfter_flatMap {α : Type} (fs : FileSystem) (drafts : α → List Draft)
    (location : Location) (items : List α) (file : Option Entry) :
    (fs.filesAfter (items.flatMap drafts) location).or file =
      items.foldl (fun file item => (fs.filesAfter (drafts item) location).or file) file := by
  induction items generalizing file with
  | nil => rfl
  | cons item items ih =>
    rw [List.flatMap_cons, filesAfter_append, Option.or_assoc, ih, List.foldl_cons]

/-- The order of items does not matter if no two of them have a file at one location. -/
theorem filesAfter_perm {α : Type} {fs : FileSystem} {drafts : α → List Draft} {location : Location}
    {items items' : List α} (hperm : items.Perm items')
    (hdrafts : ∀ item ∈ items, ∀ other ∈ items, item ≠ other →
      fs.filesAfter (drafts item) location = none ∨ fs.filesAfter (drafts other) location = none) :
    fs.filesAfter (items'.flatMap drafts) location =
      fs.filesAfter (items.flatMap drafts) location := by
  have hfold : items.foldl (fun file item => (fs.filesAfter (drafts item) location).or file) none =
      items'.foldl (fun file item => (fs.filesAfter (drafts item) location).or file) none := by
    -- Items commute: of two different ones, at most one has a file there.
    refine hperm.foldl_eq' (fun item hitem other hother file => ?_) none
    by_cases hsame : item = other
    · rw [hsame]
    · rcases hdrafts item hitem other hother hsame with hnone | hnone <;>
        rw [hnone, Option.none_or, Option.none_or]
  rw [← filesAfter_flatMap, ← filesAfter_flatMap, Option.or_none, Option.or_none] at hfold
  exact hfold.symm

theorem directoriesAfter_perm {fs : FileSystem} {drafts drafts' : List Draft}
    (hperm : drafts.Perm drafts') (location : Location) :
    fs.directoriesAfter drafts' location = fs.directoriesAfter drafts location := by
  rw [directoriesAfter, directoriesAfter, hperm.any_eq]

theorem after_perm {α : Type} {fs : FileSystem} {drafts : α → List Draft} {location : Location}
    {items items' : List α} (hperm : items.Perm items')
    (hdrafts : ∀ item ∈ items, ∀ other ∈ items, item ≠ other →
      fs.filesAfter (drafts item) location = none ∨ fs.filesAfter (drafts other) location = none) :
    fs.after (items'.flatMap drafts) location = fs.after (items.flatMap drafts) location := by
  rw [after, after, filesAfter_perm hperm hdrafts, directoriesAfter_perm (hperm.flatMap_right drafts)]

/-- Drafts that are written twice leave what they leave when they are written once. -/
theorem after_self (fs : FileSystem) (drafts : List Draft) (location : Location) :
    fs.after (drafts ++ drafts) location = fs.after drafts location := by
  rw [after, after, filesAfter_append, directoriesAfter_append, Option.or_self, Option.or_self]

theorem Overlays.sameTree {base fs fs' : FileSystem} {drafts drafts' : List Draft}
    (h : Overlays base drafts fs) (h' : Overlays base drafts' fs')
    (hafter : ∀ location, base.after drafts' location = base.after drafts location) :
    SameTree fs fs' := by
  refine ⟨h'.workingDirectory.trans h.workingDirectory.symm, fun location => ?_⟩
  rw [h.find, h'.find, hafter]

end FileSystem

namespace Run
open Bridge Java
open FileSystem (Draft SameTree)

/-! ## Names of packages -/

def validOf (gopath : Option String) (fs : FileSystem) (source : Source) : List Declaration :=
  match source.declared gopath fs with
  | .error _ => []
  | .ok decls => decls.filter Declaration.isValid

/-- Packages that never have something to bridge under one name, or under two names that only differ
in case. -/
def NamedApart (gopath : Option String) (fs : FileSystem) (sources : List Source) : Prop :=
  ∀ source ∈ sources, ∀ other ∈ sources, source ≠ other →
    ∀ decl ∈ validOf gopath fs source, ∀ decl' ∈ validOf gopath fs other,
      Text.lowercase decl.packageName ≠ Text.lowercase decl'.packageName

instance {gopath : Option String} {fs : FileSystem} {sources : List Source} :
    Decidable (NamedApart gopath fs sources) :=
  inferInstanceAs (Decidable (∀ source ∈ sources, ∀ other ∈ sources, source ≠ other →
    ∀ decl ∈ validOf gopath fs source, ∀ decl' ∈ validOf gopath fs other,
      Text.lowercase decl.packageName ≠ Text.lowercase decl'.packageName))

/-- The classes of a package lie below the directory of its name. -/
theorem exists_of_mem_attemptsOf {config : Config} (hroot : '/' ∉ config.packageRoot.toList)
    {gopath : Option String} {fs : FileSystem} {source : Source} {draft : Draft}
    (h : draft ∈ attemptsOf fs config gopath source) : ∃ decl ∈ validOf gopath fs source,
      ∃ file, fs.locate draft.path =
        fs.locate config.root ++ [Text.lowercase decl.packageName, file] := by
  unfold attemptsOf at h
  unfold validOf
  cases hdecls : source.declared gopath fs with
  | error e =>
    rw [hdecls] at h
    cases h
  | ok decls =>
    rw [hdecls] at h
    obtain ⟨decl, hdecl, hdraft⟩ := List.mem_flatMap.1 (fs.attempted_subset _ h)
    have hname := Source.isPackageName_of_declared hdecls decl hdecl
    obtain ⟨file, hfile, -, hpath⟩ := path_of_mem_drafts hroot hname hdraft
    have hnames : ∀ name ∈ [Text.lowercase decl.packageName, file], Path.IsName name :=
      List.forall_mem_cons.2 ⟨isName_lowercase hname, List.forall_mem_singleton.2 hfile⟩
    refine ⟨decl, List.mem_filter.2 ⟨hdecl, (mem_drafts_iff.1 hdraft).1⟩, file, ?_⟩
    rw [hpath]
    exact fs.locate_below config.root hnames

/-- Packages that are named apart have no files at one location. -/
theorem NamedApart.filesAfter {config : Config} (hroot : '/' ∉ config.packageRoot.toList)
    {gopath : Option String} {fs : FileSystem} {sources : List Source}
    (h : NamedApart gopath fs sources) (location : Location) :
    ∀ source ∈ sources, ∀ other ∈ sources, source ≠ other →
      fs.filesAfter (attemptsOf fs config gopath source) location = none ∨
        fs.filesAfter (attemptsOf fs config gopath other) location = none := by
  intro source hsource other hother hne
  cases hfile : fs.filesAfter (attemptsOf fs config gopath source) location with
  | none => exact .inl rfl
  | some entry =>
    cases hfile' : fs.filesAfter (attemptsOf fs config gopath other) location with
    | none => exact .inr rfl
    | some entry' =>
      obtain ⟨draft, hdraft, -, hlocate, -⟩ := FileSystem.filesAfter_eq_some hfile
      obtain ⟨draft', hdraft', -, hlocate', -⟩ := FileSystem.filesAfter_eq_some hfile'
      obtain ⟨decl, hdecl, file, hplace⟩ := exists_of_mem_attemptsOf hroot hdraft
      obtain ⟨decl', hdecl', file', hplace'⟩ := exists_of_mem_attemptsOf hroot hdraft'
      rw [hlocate] at hplace
      rw [hlocate', hplace] at hplace'
      have hnames := List.append_cancel_left hplace'
      exact absurd (List.cons.inj hnames).1 (h source hsource other hother hne decl hdecl decl' hdecl')

/-! ## Whole runs -/

def outcomesOf (gopath : Option String) (settings : Settings) (fs : FileSystem) : List Outcome :=
  ((generate gopath settings : StateM FileSystem _).run fs).1

def leaves (gopath : Option String) (settings : Settings) (fs : FileSystem) : FileSystem :=
  ((generate gopath settings : StateM FileSystem _).run fs).2

namespace Separate

variable {config : Config} {gopath : Option String} {fs : FileSystem} {sources : List Source}

/-- Some of the packages of a run are separate as well, in any order. -/
theorem subset (h : Separate config gopath fs sources) {sources' : List Source}
    (hsources : sources' ⊆ sources) : Separate config gopath fs sources' :=
  ⟨h.tree, h.output, h.packageRoot, fun source hsource => h.sources source (hsources hsource)⟩

end Separate

/-- **A run on the way** comes to what each package would come to in the first file system. -/
theorem Underway.generate_eq {config : Config} {gopath : Option String} {fs mid : FileSystem}
    {sources : List Source} {attempts : List Draft} (h : Underway fs config attempts mid)
    (hseparate : Separate config gopath fs sources) :
    outcomesOf gopath ⟨config, sources⟩ mid =
        sources.map (fun source => ⟨source.label, resultOf fs config gopath source⟩) ∧
      Underway fs config (attempts ++ sources.flatMap (attemptsOf fs config gopath))
        (leaves gopath ⟨config, sources⟩ mid) := by
  obtain ⟨final, hrun, hfinal⟩ :=
    h.writePackages hseparate.tree hseparate.packageRoot hseparate.output hseparate.sources
  rw [outcomesOf, leaves, generate, hrun]
  exact ⟨rfl, hfinal⟩

/-- **A run** comes to what each package would come to in the file system before it. -/
theorem Separate.generate_eq {config : Config} {gopath : Option String} {fs : FileSystem}
    {sources : List Source} (h : Separate config gopath fs sources) :
    outcomesOf gopath ⟨config, sources⟩ fs =
        sources.map (fun source => ⟨source.label, resultOf fs config gopath source⟩) ∧
      Underway fs config (sources.flatMap (attemptsOf fs config gopath))
        (leaves gopath ⟨config, sources⟩ fs) :=
  (Underway.start h.tree).generate_eq h

section
variable {gopath : Option String} {settings : Settings} {fs : FileSystem}

/-- **Packages are independent.** In a run whose sources are apart from what it writes, each package
has the outcome that it has in a run of its own, whatever becomes of the others. If they are named
apart as well, they leave the same tree in any order. -/
theorem generate_independent (h : Separate settings.bridge gopath fs settings.sources) :
    ((outcomesOf gopath settings fs).length = settings.sources.length ∧
      ∀ (i : Nat) (source : Source), settings.sources[i]? = some source → ∃ outcome,
        (outcomesOf gopath settings fs)[i]? = some outcome ∧
          outcomesOf gopath { settings with sources := [source] } fs = [outcome]) ∧
      ∀ sources', settings.sources.Perm sources' → NamedApart gopath fs settings.sources →
        SameTree (leaves gopath settings fs)
          (leaves gopath { settings with sources := sources' } fs) := by
  obtain ⟨houtcomes, hleaves⟩ := h.generate_eq
  refine ⟨⟨?_, fun i source hsource => ?_⟩, fun sources' hperm hnamed => ?_⟩
  · rw [houtcomes, List.length_map]
  · have hmem : [source] ⊆ settings.sources :=
      List.cons_subset.2 ⟨List.mem_of_getElem? hsource, List.nil_subset _⟩
    refine ⟨⟨source.label, resultOf fs settings.bridge gopath source⟩, ?_, (h.subset hmem).generate_eq.1⟩
    rw [houtcomes, List.getElem?_map, hsource]
    rfl
  · have hleaves' := (h.subset hperm.symm.subset).generate_eq.2
    refine hleaves.overlays.sameTree hleaves'.overlays fun location => ?_
    exact FileSystem.after_perm hperm (hnamed.filesAfter h.packageRoot location)

/-- Two directories with a package each. -/
def farewells : FileSystem :=
  ⟨[([], .directory),
    (["one"], .directory),
    (["one", "a.go"], .file (FileSystem.bytesOf "package hi\nfunc Greet()\n")),
    (["two"], .directory),
    (["two", "b.go"], .file (FileSystem.bytesOf "package bye\nfunc Wave()\n"))], []⟩

/-- A run on both directories, and on one that is not there. -/
def farewellSettings : Settings :=
  ⟨{ output := ⟨"out"⟩, packageRoot := "com.example" },
    [.directory ⟨"one"⟩, .directory ⟨"gone"⟩, .directory ⟨"two"⟩]⟩

theorem separate_farewells :
    Separate farewellSettings.bridge none farewells farewellSettings.sources := by
  refine ⟨by decide, by decide, by decide, List.forall_mem_cons.2 ⟨?_, List.forall_mem_cons.2 ⟨?_,
    List.forall_mem_singleton.2 ?_⟩⟩⟩
  · rintro dir ⟨⟩
    exact ⟨by decide, .inl (by decide)⟩
  · rintro dir ⟨⟩
    exact ⟨by decide, .inr ⟨by decide, by decide⟩⟩
  · rintro dir ⟨⟩
    exact ⟨by decide, .inl (by decide)⟩

theorem generate_independent_farewells :
    Separate farewellSettings.bridge none farewells farewellSettings.sources ∧
      NamedApart none farewells farewellSettings.sources ∧
        (∃ outcome, (outcomesOf none farewellSettings farewells)[1]? = some outcome ∧
          outcomesOf none { farewellSettings with sources := [.directory ⟨"gone"⟩] } farewells =
            [outcome]) ∧
          SameTree (leaves none farewellSettings farewells)
            (leaves none { farewellSettings with sources := farewellSettings.sources.reverse }
              farewells) := by
  have hnamed : NamedApart none farewells farewellSettings.sources := by decide +kernel
  obtain ⟨⟨-, halone⟩, hperm⟩ := generate_independent separate_farewells
  exact ⟨separate_farewells, hnamed, halone 1 _ rfl,
    hperm _ (List.reverse_perm _).symm hnamed⟩

/-- **A second run** reports what the first one did, and leaves the tree as it is. -/
theorem generate_again (h : Separate settings.bridge gopath fs settings.sources) :
    outcomesOf gopath settings (leaves gopath settings fs) = outcomesOf gopath settings fs ∧
      SameTree (leaves gopath settings fs)
        (leaves gopath settings (leaves gopath settings fs)) := by
  obtain ⟨houtcomes, hleaves⟩ := h.generate_eq
  obtain ⟨houtcomes', hleaves'⟩ := hleaves.generate_eq h
  refine ⟨houtcomes'.trans houtcomes.symm, ?_⟩
  exact hleaves.overlays.sameTree hleaves'.overlays (FileSystem.after_self fs _)

theorem generate_again_farewells :
    Separate farewellSettings.bridge none farewells farewellSettings.sources ∧
      outcomesOf none farewellSettings (leaves none farewellSettings farewells) =
          outcomesOf none farewellSettings farewells ∧
        SameTree (leaves none farewellSettings farewells)
          (leaves none farewellSettings (leaves none farewellSettings farewells)) :=
  ⟨separate_farewells, generate_again separate_farewells⟩

end

end Run

end ReactBridge
