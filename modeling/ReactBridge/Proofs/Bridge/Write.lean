import ReactBridge.Bridge.Write
import ReactBridge.Proofs.Bridge.Name
import ReactBridge.Proofs.Bridge.Template
import ReactBridge.Proofs.Java.Append

/-!
# Bridges as whole files

A bridge is written line by line, each line through the handle that the one before it left. What
this comes to is that two whole files are stored.

* `Kind.text`, `Kind.draft` : the text of a class, and the file that it is written to;
* `Builder.build_run_of_no_file`, `Builder.build_run_of_full`, `Builder.build_run_of_file` : what a
  build comes to;
* `writeFile_run`, `writeBridge_run` : one class, and both of them, as files stored as a whole.
-/

namespace ReactBridge

namespace Bridge
open Java
open FileSystem (Handle Draft bytesOf)

@[irreducible]
def Kind.text (kind : Kind) (config : Config) (decl : Declaration) : String :=
  Margin.start.written (pieceLines (kind.pieces config decl))

def Kind.draft (kind : Kind) (config : Config) (decl : Declaration) : Draft :=
  ⟨kind.target config decl.packageName, kind.text config decl⟩

theorem Kind.locate_target (kind : Kind) {config : Config} (hroot : '/' ∉ config.packageRoot.toList)
    {packageName : String} (h : IsPackageName packageName) (fs : FileSystem) :
    fs.locate (kind.target config packageName) =
      fs.locate config.output ++ kind.targetNames config packageName := by
  rw [kind.target_eq hroot h, fs.locate_below _ (kind.isName_targetNames hroot h)]

theorem Kind.pieceLines_ne_nil (kind : Kind) (config : Config) (decl : Declaration) :
    pieceLines (kind.pieces config decl) ≠ [] := by
  rw [kind.pieces_eq]
  exact List.cons_ne_nil _ _

theorem Builder.start_run (kind : Kind) (config : Config) (path : Path) (fs : FileSystem) :
    ((Builder.create kind config : Builder Handle).start path : StateM FileSystem _).run fs =
      match fs.create path with
      | (fs, none) => ((.error (.create path), ⟨kind, config, .created, path, none, .start⟩), fs)
      | (fs, some handle) =>
        ((.ok (), ⟨kind, config, .opened, path, some handle, .start⟩), fs) := by
  rcases hcreate : fs.create path with ⟨made, created⟩
  have hfiles : (Files.create path : StateM FileSystem _).run fs = (created, made) :=
    congrArg Prod.swap hcreate
  cases created with
  | none =>
    have hopen : (Writer.openFile ⟨path, none, .start⟩ : StateM FileSystem _).run fs =
        ((.error (.create path), ⟨path, none, .start⟩), made) := by
      rw [Writer.openFile, if_neg (by exact Bool.false_ne_true)]
      exact run_bind_of_run hfiles _
    exact run_bind_of_run hopen _
  | some handle =>
    have hopen : (Writer.openFile ⟨path, none, .start⟩ : StateM FileSystem _).run fs =
        ((.ok (), ⟨path, some handle, .start⟩), made) := by
      rw [Writer.openFile, if_neg (by exact Bool.false_ne_true)]
      exact run_bind_of_run hfiles _
    exact run_bind_of_run hopen _

theorem writeFile_of_build {σ Handle : Type} [Files (StateM σ) Handle] {kind : Kind}
    {config : Config} {decl : Declaration} {s mid s' : σ} {result : Except WriteError Path}
    {builder closed : Builder Handle} {safe : Except WriteError Unit}
    (hbuild : ((Builder.create kind config : Builder Handle).build decl : StateM σ _).run s =
      ((result, builder), mid))
    (hclose : (builder.close : StateM σ _).run mid = ((safe, closed), s')) :
    (writeFile kind config decl : StateM σ _).run s =
      ((do let path ← result; safe; return path), s') := by
  rw [writeFile, run_bind_of_run hbuild, run_bind_of_run hclose]
  rfl

theorem Builder.close_run (builder : Builder Handle) (fs : FileSystem) :
    ∃ (safe : Except WriteError Unit) (closed : Builder Handle),
      (builder.close : StateM FileSystem _).run fs = ((safe, closed), fs) ∧
        ∀ handle, builder.stage = .emitting → builder.writer.handle = some handle →
          fs.isSafe handle = true → safe = .ok () := by
  have hwriter : ∃ (safe : Except WriteError Unit) (closed : Writer Handle),
      (builder.writer.close : StateM FileSystem _).run fs = ((safe, closed), fs) ∧
        ∀ handle, builder.writer.handle = some handle → fs.isSafe handle = true → safe = .ok () := by
    rw [Writer.close]
    cases builder.writer.handle with
    | none => exact ⟨_, _, rfl, nofun⟩
    | some handle =>
      have hrelease : (Files.release handle : StateM FileSystem Bool).run fs =
          (fs.isSafe handle, fs) := rfl
      refine ⟨_, _, run_bind_of_run hrelease _, ?_⟩
      rintro _ hhandle hsafe
      obtain rfl := Option.some.inj hhandle
      rw [if_pos hsafe]
  obtain ⟨safe, closed, hclose, hsafe⟩ := hwriter
  rw [Builder.close]
  cases hstage : builder.stage with
  | created => exact ⟨_, _, rfl, nofun⟩
  | closed => exact ⟨_, _, rfl, nofun⟩
  | opened => exact ⟨_, _, run_bind_of_run hclose _, nofun⟩
  | emitting => exact ⟨_, _, run_bind_of_run hclose _, fun handle _ => hsafe handle⟩

/-! ## Outcomes of a build -/

@[simp]
theorem Builder.target_create (kind : Kind) (config : Config) (packageName : String) :
    (Builder.create kind config : Builder Handle).target packageName =
      kind.target config packageName :=
  Builder.target_eq _ _

section
variable {kind : Kind} {config : Config} {decl : Declaration} {fs made : FileSystem} {handle : Handle}

theorem Builder.build_run_of_no_file
    (hcreate : fs.create (kind.target config decl.packageName) = (made, none)) :
    ∃ builder : Builder Handle,
      ((Builder.create kind config : Builder Handle).build decl : StateM FileSystem _).run fs =
        ((.error (.create (kind.target config decl.packageName)), builder), made) := by
  have hstart := Builder.start_run kind config (kind.target config decl.packageName) fs
  rw [hcreate] at hstart
  refine ⟨⟨kind, config, .created, kind.target config decl.packageName, none, .start⟩, ?_⟩
  rw [Builder.build, Builder.target_create]
  exact run_bind_of_run hstart _

/-- No piece of a class reaches a device. -/
theorem Builder.build_run_of_full
    (hcreate : fs.create (kind.target config decl.packageName) = (made, some handle))
    (hfull : made.find handle.location = some .full) :
    ∃ builder : Builder Handle,
      ((Builder.create kind config : Builder Handle).build decl : StateM FileSystem _).run fs =
        ((.error (.write (kind.target config decl.packageName)), builder), made) := by
  have hstart := Builder.start_run kind config (kind.target config decl.packageName) fs
  rw [hcreate] at hstart
  obtain ⟨failed, hwrite⟩ := Writer.writeLines_run_full
    (show (Writer.mk (kind.target config decl.packageName) (some handle) .start).handle = some handle
      from rfl) hfull (kind.pieceLines_ne_nil config decl)
  refine ⟨⟨kind, config, .emitting, failed⟩, ?_⟩
  rw [Builder.build, Builder.target_create, run_bind_of_run hstart]
  exact run_bind_of_run hwrite _

/-- The pieces of a class are written into an empty file. -/
theorem Builder.build_run_of_file
    (hcreate : fs.create (kind.target config decl.packageName) = (made, some handle))
    (hfile : made.find handle.location = some (.file [])) (hoffset : handle.offset = 0) :
    ∃ builder : Builder Handle, builder.stage = .emitting ∧
      builder.writer.handle = some ⟨handle.location, (bytesOf (kind.text config decl)).length⟩ ∧
      ((Builder.create kind config : Builder Handle).build decl : StateM FileSystem _).run fs =
        ((.ok (kind.target config decl.packageName), builder),
          made.put handle.location (.file (bytesOf (kind.text config decl)))) := by
  have hstart := Builder.start_run kind config (kind.target config decl.packageName) fs
  rw [hcreate] at hstart
  have hwrite := Writer.writeLines_run
    (show (Writer.mk (kind.target config decl.packageName) (some handle) .start).handle = some handle
      from rfl) (FileSystem.holds_empty hfile hoffset) (pieceLines (kind.pieces config decl))
  have htext : Margin.start.written (pieceLines (kind.pieces config decl)) = kind.text config decl := by
    unfold Kind.text
    rfl
  rw [String.empty_append, htext] at hwrite
  refine ⟨⟨kind, config, .emitting, kind.target config decl.packageName,
    some ⟨handle.location, (bytesOf (kind.text config decl)).length⟩,
    Margin.start.behind (pieceLines (kind.pieces config decl))⟩, rfl, rfl, ?_⟩
  rw [Builder.build, Builder.target_create, run_bind_of_run hstart]
  exact run_bind_of_run hwrite _

end

/-- **One class of a bridge** is a whole file that is stored. -/
theorem writeFile_run (kind : Kind) (config : Config) (decl : Declaration) (fs : FileSystem) :
    (writeFile kind config decl : StateM FileSystem _).run fs =
      ((fs.store (kind.draft config decl)).1.map fun _ => kind.target config decl.packageName,
        (fs.store (kind.draft config decl)).2) := by
  rcases hcreate : fs.create (kind.target config decl.packageName) with ⟨made, created⟩
  cases created with
  | none =>
    have hstore : fs.store (kind.draft config decl) = _ := FileSystem.store_of_not_created hcreate
    obtain ⟨builder, hbuild⟩ := Builder.build_run_of_no_file hcreate
    obtain ⟨safe, closed, hclose, -⟩ := builder.close_run made
    rw [hstore]
    exact writeFile_of_build hbuild hclose
  | some handle =>
    obtain ⟨-, hoffset, -, hentry⟩ := FileSystem.create_eq hcreate
    rcases hentry with hfull | hfile
    · have hstore : fs.store (kind.draft config decl) = _ := FileSystem.store_of_full hcreate hfull
      obtain ⟨builder, hbuild⟩ := Builder.build_run_of_full hcreate hfull
      obtain ⟨safe, closed, hclose, -⟩ := builder.close_run made
      rw [hstore]
      exact writeFile_of_build hbuild hclose
    · have hstore : fs.store (kind.draft config decl) = _ := FileSystem.store_of_file hcreate hfile
      obtain ⟨builder, hstage, hhandle, hbuild⟩ :=
        Builder.build_run_of_file hcreate hfile hoffset
      obtain ⟨safe, closed, hclose, hsafe⟩ := builder.close_run
        (made.put handle.location (.file (bytesOf (kind.text config decl))))
      obtain rfl := hsafe _ hstage hhandle (by simp [FileSystem.isSafe])
      rw [hstore]
      exact writeFile_of_build hbuild hclose

/-! ## Both classes -/

def bridgeOf (config : Config) (decl : Declaration) : BridgeFiles :=
  ⟨(Kind.module goTypes.apply).target config decl.packageName,
    Kind.package.target config decl.packageName⟩

def drafts (config : Config) (decl : Declaration) : List Draft :=
  if decl.isValid then
    [(Kind.module goTypes.apply).draft config decl, Kind.package.draft config decl]
  else []

theorem mem_drafts_iff {config : Config} {decl : Declaration} {draft : Draft} :
    draft ∈ drafts config decl ↔ decl.isValid = true ∧
      ∃ kind : Kind, (kind = .module goTypes.apply ∨ kind = .package) ∧
        draft = kind.draft config decl := by
  unfold drafts
  by_cases hvalid : decl.isValid = true
  · rw [if_pos hvalid, List.mem_cons, List.mem_singleton]
    constructor
    · rintro (hmodule | hpackage)
      · exact ⟨hvalid, _, .inl rfl, hmodule⟩
      · exact ⟨hvalid, _, .inr rfl, hpackage⟩
    · rintro ⟨-, kind, rfl | rfl, rfl⟩
      · exact .inl rfl
      · exact .inr rfl
  · rw [if_neg hvalid]
    exact ⟨fun hmem => absurd hmem List.not_mem_nil, fun h => absurd h.1 hvalid⟩

/-- **A bridge** is two whole files that are stored, the module class first. -/
theorem writeBridge_run (config : Config) (decl : Declaration) (fs : FileSystem) :
    (writeBridge config decl : StateM FileSystem _).run fs =
      ((fs.storeAll (drafts config decl)).1.map fun _ =>
          if decl.isValid then some (bridgeOf config decl) else none,
        (fs.storeAll (drafts config decl)).2) := by
  have hmodule := writeFile_run (.module goTypes.apply) config decl
  have hpackage := writeFile_run .package config decl
  rw [writeBridge, drafts, bridgeOf]
  generalize (Kind.module goTypes.apply).draft config decl = moduleDraft at hmodule ⊢
  generalize Kind.package.draft config decl = packageDraft at hpackage ⊢
  cases hvalid : decl.isValid with
  | false => rfl
  | true =>
    rw [if_neg (by decide), run_bind_of_run (hmodule fs)]
    simp only [if_true]
    rw [FileSystem.storeAll_cons]
    rcases fs.store moduleDraft with ⟨result, mid⟩
    cases result with
    | error e => rfl
    | ok =>
      dsimp only [Except.map]
      rw [run_bind_of_run (hpackage mid)]
      rw [FileSystem.storeAll_cons]
      rcases mid.store packageDraft with ⟨result, last⟩
      cases result with
      | error e => rfl
      | ok => rfl

end Bridge

end ReactBridge
