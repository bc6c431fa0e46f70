import ReactBridge.Proofs.Run.Generate

/-!
# What a run leaves

A run in which no package fails has stored the classes of all declarations that it met, one after
the other. Classes with one file overwrite one another, so the last one stays.

* `met` : the declarations that a run meets, in the order of the packages and of their files;
* `lastFor` : the last one of them whose class goes to a file;
* `generate_contents` : the files that are reported hold the classes of these, and nothing else
  changes but for new directories.
-/

namespace ReactBridge.Run
open Bridge Java
open FileSystem (Draft bytesOf)

/-- The declarations that a run meets, each package read after the bridges of the ones before it
were written. -/
def met (config : Config) (gopath : Option String) : List Source → FileSystem → List Declaration
  | [], _ => []
  | source :: sources, fs =>
    ((source.declarations gopath : StateM FileSystem _).run fs).1.toOption.getD [] ++
      met config gopath sources
        ((writePackage config gopath source : StateM FileSystem _).run fs).2

/-- The last one of declarations with something to bridge whose class goes to a file. -/
def lastFor (kind : Kind) (config : Config) (decls : List Declaration) (path : Path) :
    Option Declaration :=
  (decls.filter fun decl =>
    decl.isValid && (kind.target config decl.packageName).same path).getLast?

/-! ## Runs without failures -/

/-- What a run without failures has done: the classes of all declarations that it met are stored,
and each outcome tells of the bridges of some of them. -/
structure Completes (config : Config) (fs final : FileSystem) (decls : List Declaration)
    (outcomes : List Outcome) : Prop where
  named : ∀ decl ∈ decls, IsPackageName decl.packageName
  stored : fs.storeAll (decls.flatMap (drafts config)) = (.ok (), final)
  told : ∀ outcome ∈ outcomes, ∀ bridge ∈ Report.bridgesOf outcome, ∃ decl ∈ decls,
    decl.isValid = true ∧ bridge = bridgeOf config decl
  telling : ∀ decl ∈ decls, decl.isValid = true → ∃ outcome ∈ outcomes,
    ∃ bridge ∈ Report.bridgesOf outcome, sameFiles (bridgeOf config decl) bridge = true

theorem completes_cons {config : Config} {fs mid final : FileSystem} {label : String}
    {decls more : List Declaration} {outcomes : List Outcome}
    (hnames : ∀ decl ∈ decls, IsPackageName decl.packageName)
    (hstored : fs.storeAll (decls.flatMap (drafts config)) = (.ok (), mid))
    (hrest : Completes config mid final more outcomes) :
    Completes config fs final (decls ++ more)
      (⟨label, .ok (collect config [] decls)⟩ :: outcomes) := by
  refine ⟨List.forall_mem_append.2 ⟨hnames, hrest.named⟩, ?_, ?_, ?_⟩
  · rw [List.flatMap_append, FileSystem.storeAll_append, hstored]
    exact hrest.stored
  · refine List.forall_mem_cons.2 ⟨fun bridge hbridge => ?_, fun outcome houtcome bridge hbridge => ?_⟩
    · obtain ⟨decl, hdecl, hvalid, heq⟩ := (exists_of_mem_collect hbridge).resolve_left (by simp)
      exact ⟨decl, List.mem_append_left _ hdecl, hvalid, heq⟩
    · obtain ⟨decl, hdecl, hvalid, heq⟩ := hrest.told outcome houtcome bridge hbridge
      exact ⟨decl, List.mem_append_right _ hdecl, hvalid, heq⟩
  · refine List.forall_mem_append.2 ⟨fun decl hdecl hvalid => ?_, fun decl hdecl hvalid => ?_⟩
    · exact ⟨_, List.mem_cons_self, exists_mem_collect hdecl hvalid⟩
    · obtain ⟨outcome, houtcome, hbridge⟩ := hrest.telling decl hdecl hvalid
      exact ⟨outcome, List.mem_cons_of_mem _ houtcome, hbridge⟩

/-- A run in which no package fails completes. -/
theorem completes_of_ok {config : Config} {gopath : Option String} {sources : List Source}
    {fs final : FileSystem} {outcomes : List Outcome}
    (hrun : (writePackages config gopath sources : StateM FileSystem _).run fs = (outcomes, final))
    (hok : ∀ outcome ∈ outcomes, outcome.result.isOk = true) :
    Completes config fs final (met config gopath sources fs) outcomes := by
  induction sources generalizing fs outcomes with
  | nil =>
    obtain ⟨rfl, rfl⟩ := Prod.mk.inj hrun
    exact ⟨List.forall_mem_nil _, rfl, List.forall_mem_nil _, List.forall_mem_nil _⟩
  | cons source sources ih =>
    have hfirst := writePackage_run config gopath source fs
    rcases hpackage : (writePackage config gopath source : StateM FileSystem _).run fs with
      ⟨result, mid⟩
    rcases hrest : (writePackages config gopath sources : StateM FileSystem _).run mid with
      ⟨others, last⟩
    obtain ⟨rfl, rfl⟩ := Prod.mk.inj
      ((writePackages_cons config gopath source sources hpackage hrest).symm.trans hrun)
    rw [List.forall_mem_cons] at hok
    rw [met, source.declarations_run gopath fs, hpackage]
    rw [hpackage] at hfirst
    cases hdecls : source.declared gopath fs with
    | error e =>
      rw [hdecls] at hfirst
      obtain rfl : result = .error (.read e) := congrArg Prod.fst hfirst
      cases hok.1
    | ok decls =>
      rw [hdecls] at hfirst
      dsimp only at hfirst
      rcases hstored : fs.storeAll (decls.flatMap (drafts config)) with ⟨stored, mid'⟩
      rw [hstored] at hfirst
      obtain rfl : mid = mid' := congrArg Prod.snd hfirst
      cases stored with
      | error e =>
        obtain rfl : result = .error (.write e) := congrArg Prod.fst hfirst
        cases hok.1
      | ok =>
        obtain rfl : result = .ok (collect config [] decls) := congrArg Prod.fst hfirst
        dsimp only [Except.toOption, Option.getD_some]
        exact completes_cons (Source.isPackageName_of_declared hdecls) hstored (ih hrest hok.2)

/-! ## The last class of a file -/

/-- Two classes go to one place if their paths have the same components. -/
theorem locate_target_iff (fs : FileSystem) (kind kind' : Kind) {config : Config}
    (hroot : '/' ∉ config.packageRoot.toList) {packageName packageName' : String}
    (h : IsPackageName packageName) (h' : IsPackageName packageName') :
    fs.locate (kind.target config packageName) = fs.locate (kind'.target config packageName') ↔
      (kind.target config packageName).same (kind'.target config packageName') = true := by
  rw [kind.target_same_iff kind' config h h', kind.locate_target hroot h, kind'.locate_target hroot h',
    List.append_cancel_left_eq]

theorem locate_module_ne_package (fs : FileSystem) {config : Config}
    (hroot : '/' ∉ config.packageRoot.toList) {packageName packageName' : String}
    (h : IsPackageName packageName) (h' : IsPackageName packageName') :
    fs.locate ((Kind.module goTypes.apply).target config packageName) ≠
      fs.locate (Kind.package.target config packageName') := by
  rw [Kind.locate_target _ hroot h, Kind.locate_target _ hroot h', ne_eq, List.append_cancel_left_eq]
  exact module_targetNames_ne _ config packageName packageName'

theorem lastAt_drafts (fs : FileSystem) {config : Config} (hroot : '/' ∉ config.packageRoot.toList)
    {decls : List Declaration} (hnames : ∀ decl ∈ decls, IsPackageName decl.packageName)
    {kind : Kind} (hkind : kind = .module goTypes.apply ∨ kind = .package) {packageName : String}
    (hname : IsPackageName packageName) :
    fs.lastAt (decls.flatMap (drafts config)) (fs.locate (kind.target config packageName)) =
      (lastFor kind config decls (kind.target config packageName)).map (kind.draft config) := by
  have hdrafts : ∀ decl ∈ decls, (drafts config decl).filter (fun draft =>
      fs.locate draft.path = fs.locate (kind.target config packageName)) =
        if decl.isValid && (kind.target config decl.packageName).same
          (kind.target config packageName) then [kind.draft config decl] else [] := by
    intro decl hdecl
    have hdecl := hnames decl hdecl
    unfold drafts
    cases decl.isValid with
    | false => rfl
    | true =>
      rw [if_pos rfl, Bool.true_and]
      rcases hkind with rfl | rfl
      · have hpackage := (locate_module_ne_package fs hroot hname hdecl).symm
        have hmodule := locate_target_iff fs (.module goTypes.apply) (.module goTypes.apply) hroot
          hdecl hname
        simp only [List.filter_cons, List.filter_nil, Kind.draft, hpackage, hmodule]
        simp
      · have hmodule := locate_module_ne_package fs hroot hdecl hname
        have hpackage := locate_target_iff fs .package .package hroot hdecl hname
        simp only [List.filter_cons, List.filter_nil, Kind.draft, hpackage, hmodule]
        simp
  rw [FileSystem.lastAt, lastFor, ← List.getLast?_map]
  congr 1
  induction decls with
  | nil => rfl
  | cons decl decls ih =>
    rw [List.forall_mem_cons] at hnames hdrafts
    rw [List.flatMap_cons, List.filter_append, hdrafts.1, ih hnames.2 hdrafts.2, List.filter_cons]
    split <;> rfl

/-! ## What is left -/

/-- A path leads to the class of the last declaration that has its class there, and to nothing
else. -/
def HoldsLast (fs : FileSystem) (kind : Kind) (config : Config) (decls : List Declaration)
    (path : Path) : Prop :=
  ∃ decl, lastFor kind config decls path = some decl ∧
    fs.entryAt path = some (.file (bytesOf (kind.text config decl)))

namespace Completes

variable {config : Config} {fs final : FileSystem} {decls : List Declaration}
  {outcomes : List Outcome} {decl : Declaration}

theorem mem_flatMap_drafts {kind : Kind} (hkind : kind = .module goTypes.apply ∨ kind = .package)
    (hdecl : decl ∈ decls) (hvalid : decl.isValid = true) :
    kind.draft config decl ∈ decls.flatMap (drafts config) :=
  List.mem_flatMap.2 ⟨decl, hdecl, mem_drafts_iff.2 ⟨hvalid, kind, hkind, rfl⟩⟩

theorem resolve_target (h : Completes config fs final decls outcomes) {kind : Kind}
    (hkind : kind = .module goTypes.apply ∨ kind = .package) (hdecl : decl ∈ decls)
    (hvalid : decl.isValid = true) : final.resolve (kind.target config decl.packageName) =
      some (fs.locate (kind.target config decl.packageName)) :=
  (FileSystem.storeAll_eq_ok h.stored).2.1 (kind.draft config decl)
    (mem_flatMap_drafts hkind hdecl hvalid)

theorem holdsLast (h : Completes config fs final decls outcomes)
    (hroot : '/' ∉ config.packageRoot.toList) {kind : Kind}
    (hkind : kind = .module goTypes.apply ∨ kind = .package) (hdecl : decl ∈ decls)
    (hvalid : decl.isValid = true) :
    HoldsLast final kind config decls (kind.target config decl.packageName) := by
  have hfind := (FileSystem.storeAll_eq_ok h.stored).2.2
    (fs.locate (kind.target config decl.packageName))
  have hlast := lastAt_drafts fs hroot h.named hkind (h.named decl hdecl)
  cases hsome : lastFor kind config decls (kind.target config decl.packageName) with
  | none =>
    rw [hsome, Option.map_none, FileSystem.lastAt_eq_none] at hlast
    have hhere : (kind.draft config decl).path = kind.target config decl.packageName := rfl
    exact absurd (congrArg fs.locate hhere) (hlast _ (mem_flatMap_drafts hkind hdecl hvalid))
  | some last =>
    rw [hlast, hsome, Option.map_some] at hfind
    refine ⟨last, hsome, ?_⟩
    rw [FileSystem.entryAt, h.resolve_target hkind hdecl hvalid, Option.bind_some]
    exact hfind

theorem mem_filesOf {outcome : Outcome} (houtcome : outcome ∈ outcomes) {bridge : BridgeFiles}
    (hbridge : bridge ∈ Report.bridgesOf outcome) :
    bridge.moduleFile ∈ Report.filesOf outcomes ∧ bridge.packageFile ∈ Report.filesOf outcomes := by
  have hmem : bridge ∈ outcomes.flatMap Report.bridgesOf :=
    List.mem_flatMap.2 ⟨outcome, houtcome, hbridge⟩
  constructor <;> exact List.mem_flatMap.2 ⟨bridge, hmem, by simp⟩

/-- Each class that was stored stands where a file that is told of lies. -/
theorem exists_reported (h : Completes config fs final decls outcomes)
    (hroot : '/' ∉ config.packageRoot.toList) {kind : Kind}
    (hkind : kind = .module goTypes.apply ∨ kind = .package) (hdecl : decl ∈ decls)
    (hvalid : decl.isValid = true) : ∃ path ∈ Report.filesOf outcomes,
      final.resolve path = some (fs.locate (kind.target config decl.packageName)) := by
  obtain ⟨outcome, houtcome, bridge, hbridge, hsame⟩ := h.telling decl hdecl hvalid
  obtain ⟨hmodule, hpackage⟩ := mem_filesOf houtcome hbridge
  obtain ⟨other, hother, hother', rfl⟩ := h.told outcome houtcome bridge hbridge
  rw [sameFiles, Bool.and_eq_true] at hsame
  have hnames := h.named decl hdecl
  have hnames' := h.named other hother
  rcases hkind with rfl | rfl
  · refine ⟨_, hmodule, (h.resolve_target (.inl rfl) hother hother').trans (congrArg some ?_)⟩
    exact ((locate_target_iff fs _ _ hroot hnames hnames').2 hsame.1).symm
  · refine ⟨_, hpackage, (h.resolve_target (.inr rfl) hother hother').trans (congrArg some ?_)⟩
    exact ((locate_target_iff fs _ _ hroot hnames hnames').2 hsame.2).symm

theorem unchanged (h : Completes config fs final decls outcomes)
    (hroot : '/' ∉ config.packageRoot.toList) {location : Location}
    (hlocation : ∀ path ∈ Report.filesOf outcomes, final.resolve path ≠ some location) :
    final.find location = fs.find location ∨
      (fs.find location = none ∧ final.find location = some .directory) := by
  have hfind := (FileSystem.storeAll_eq_ok h.stored).2.2 location
  have hnone : fs.lastAt (decls.flatMap (drafts config)) location = none := by
    rw [FileSystem.lastAt_eq_none]
    intro draft hdraft heq
    obtain ⟨decl, hdecl, hdraft⟩ := List.mem_flatMap.1 hdraft
    obtain ⟨hvalid, kind, hkind, rfl⟩ := mem_drafts_iff.1 hdraft
    obtain ⟨path, hpath, hresolve⟩ := h.exists_reported hroot hkind hdecl hvalid
    exact hlocation path hpath (hresolve.trans (congrArg some heq))
  rw [hnone] at hfind
  exact hfind

end Completes

/-- **What a run leaves** in which no package fails. Each file that it reports holds the class of the
last declaration met that has its class there, and no other text. Everything else is as it was, but
for new directories. -/
theorem generate_contents {gopath : Option String} {settings : Settings} {fs final : FileSystem}
    {outcomes : List Outcome} (hroot : '/' ∉ settings.bridge.packageRoot.toList)
    (hrun : (generate gopath settings : StateM FileSystem _).run fs = (outcomes, final))
    (hok : ∀ outcome ∈ outcomes, outcome.result.isOk = true) :
    (∀ outcome ∈ outcomes, ∀ bridge ∈ Report.bridgesOf outcome,
      HoldsLast final (.module goTypes.apply) settings.bridge
          (met settings.bridge gopath settings.sources fs) bridge.moduleFile ∧
        HoldsLast final .package settings.bridge
          (met settings.bridge gopath settings.sources fs) bridge.packageFile) ∧
      ∀ location, (∀ path ∈ Report.filesOf outcomes, final.resolve path ≠ some location) →
        final.find location = fs.find location ∨
          (fs.find location = none ∧ final.find location = some .directory) := by
  have h := completes_of_ok hrun hok
  refine ⟨fun outcome houtcome bridge hbridge => ?_, fun location => h.unchanged hroot⟩
  obtain ⟨decl, hdecl, hvalid, rfl⟩ := h.told outcome houtcome bridge hbridge
  exact ⟨h.holdsLast hroot (.inl rfl) hdecl hvalid, h.holdsLast hroot (.inr rfl) hdecl hvalid⟩

/-- Two directories with a file each of one package. -/
def greetings : FileSystem :=
  ⟨[([], .directory),
    (["one"], .directory), (["one", "a.go"], .file (bytesOf "package hi\nfunc Greet()\n")),
    (["two"], .directory), (["two", "b.go"], .file (bytesOf "package hi\nfunc Wave()\n"))], []⟩

/-- A run on both directories. -/
def greetingSettings : Settings :=
  ⟨{ output := ⟨"out"⟩, packageRoot := "" }, [.directory ⟨"one"⟩, .directory ⟨"two"⟩]⟩

/-- The declaration of a function without parameters and without a result. -/
def lone (name : String) : Declaration :=
  ⟨"hi", [(⟨name, []⟩, Parameter.empty)]⟩

theorem generate_contents_greetings : ∃ outcomes final,
    (generate none greetingSettings : StateM FileSystem _).run greetings = (outcomes, final) ∧
      (∀ outcome ∈ outcomes, outcome.result.isOk = true) ∧
        final.entryAt ⟨"out/bridge/hi/HiModule.java"⟩ = some (.file (bytesOf
          ((Kind.module goTypes.apply).text greetingSettings.bridge (lone "Wave")))) := by
  have hread : (Source.directory ⟨"one"⟩).declared none greetings = .ok [lone "Greet"] := by
    decide +kernel
  obtain ⟨mid, hstored, hread', hmid⟩ : ∃ mid,
      greetings.storeAll ([lone "Greet"].flatMap (drafts greetingSettings.bridge)) = (.ok (), mid) ∧
      (Source.directory ⟨"two"⟩).declared none mid = .ok [lone "Wave"] ∧
      (mid.storeAll ([lone "Wave"].flatMap (drafts greetingSettings.bridge))).1 = .ok () :=
    ⟨_, Prod.ext (by decide +kernel) rfl, by decide +kernel, by decide +kernel⟩
  have hfirst := writePackage_of_stored hread hstored
  have hsecond := writePackage_of_stored hread' (Prod.ext hmid rfl)
  have hrun : (generate none greetingSettings : StateM FileSystem _).run greetings = _ :=
    writePackages_cons greetingSettings.bridge none _ _ hfirst
      (writePackages_cons greetingSettings.bridge none _ _ hsecond rfl)
  have hmet : met greetingSettings.bridge none greetingSettings.sources greetings =
      [lone "Greet", lone "Wave"] := by
    change met greetingSettings.bridge none [.directory ⟨"one"⟩, .directory ⟨"two"⟩] greetings = _
    rw [met, Source.declarations_run, hread, hfirst, met, Source.declarations_run, hread', met]
    rfl
  refine ⟨_, _, hrun, by simp [Except.isOk, Except.toBool], ?_⟩
  have hbridge : bridgeOf greetingSettings.bridge (lone "Greet") ∈
      collect greetingSettings.bridge [] [lone "Greet"] := by
    decide +kernel
  have hfile : (bridgeOf greetingSettings.bridge (lone "Greet")).moduleFile =
      ⟨"out/bridge/hi/HiModule.java"⟩ := by
    decide +kernel
  have hlast : lastFor (.module goTypes.apply) greetingSettings.bridge [lone "Greet", lone "Wave"]
      ⟨"out/bridge/hi/HiModule.java"⟩ = some (lone "Wave") := by
    decide +kernel
  obtain ⟨decl, hdecl, hentry⟩ := ((generate_contents (by decide) hrun
    (by simp [Except.isOk, Except.toBool])).1 _ List.mem_cons_self _ hbridge).1
  rw [hmet, hfile, hlast] at hdecl
  obtain rfl := Option.some.inj hdecl
  rw [hfile] at hentry
  exact hentry

end ReactBridge.Run
