import ReactBridge.Bridge.Builder
import ReactBridge.Proofs.Java.Writer

/-!
# The life of a builder

Whatever is called on a builder, in any order and whatever fails on the way, it writes one file at most
and is done when it is closed.

* `Watched` : files of any kind, and which of them have been made and given back;
* `Watched.lift` : actions that do neither, and what a writer does with an open file among them;
* `Visit`, `visits`, `Visit.Genuine` : what a caller sees of each of its calls;
* `Builder.Settled`, `Visit.Orderly` : what holds between calls, and what each call does;
* `Standing.orderly` : one call; `Builder.lifecycle` : all of them.
-/

namespace ReactBridge

/-! ## Watching files -/

/-- Files, with the paths at which one has been made or emptied so far, and the handles that have been
given back. -/
structure Watched (σ Handle : Type) where
  state : σ
  created : List Path
  released : List Handle

namespace Watched

variable {σ Handle α β : Type}

/-- An action, as one that makes no file and gives none back. -/
def lift (action : StateM σ α) : StateM (Watched σ Handle) α := fun watched =>
  let (result, state) := action watched.state
  (result, { watched with state })

instance [Files (StateM σ) Handle] : Files (StateM (Watched σ Handle)) Handle where
  readText path := lift (Files.readText path)
  names path := lift (Files.names path)
  isFile path := lift (Files.isFile path)
  create path := fun watched =>
    let (handle, state) := (Files.create path : StateM σ _) watched.state
    let created := if handle.isSome then watched.created ++ [path] else watched.created
    (handle, { watched with state, created })
  append handle text := lift (Files.append handle text)
  release handle := fun watched =>
    let (safe, state) := (Files.release handle : StateM σ _) watched.state
    (safe, { watched with state, released := watched.released ++ [handle] })

theorem lift_bind (action : StateM σ α) (next : α → StateM σ β) :
    (lift (action >>= next) : StateM (Watched σ Handle) β) =
      lift action >>= fun result => lift (next result) :=
  rfl

theorem lift_run {action : StateM σ α} {watched : Watched σ Handle} {result : α} {s : σ}
    (h : action.run watched.state = (result, s)) :
    (lift action).run watched = (result, { watched with state := s }) := by
  change (fun outcome : α × σ => (outcome.1, { watched with state := outcome.2 }))
    (action.run watched.state) = _
  rw [h]

theorem create_run [Files (StateM σ) Handle] {path : Path} {watched : Watched σ Handle}
    {handle : Option Handle} {s : σ}
    (h : (Files.create path : StateM σ _).run watched.state = (handle, s)) :
    (Files.create path : StateM (Watched σ Handle) _).run watched =
      (handle, { watched with
        state := s
        created := if handle.isSome then watched.created ++ [path] else watched.created }) := by
  change (fun outcome : Option Handle × σ => (outcome.1, { watched with
    state := outcome.2
    created := if outcome.1.isSome then watched.created ++ [path] else watched.created }))
      ((Files.create path : StateM σ _).run watched.state) = _
  rw [h]

theorem release_run [Files (StateM σ) Handle] {handle : Handle} {watched : Watched σ Handle}
    {safe : Bool} {s : σ} (h : (Files.release handle : StateM σ _).run watched.state = (safe, s)) :
    (Files.release handle : StateM (Watched σ Handle) _).run watched =
      (safe, { watched with state := s, released := watched.released ++ [handle] }) := by
  change (fun outcome : Bool × σ => (outcome.1,
    { watched with state := outcome.2, released := watched.released ++ [handle] }))
      ((Files.release handle : StateM σ _).run watched.state) = _
  rw [h]

/-- Whether an action on watched files does what it does without watching. -/
def Same (watched : StateM (Watched σ Handle) α) (plain : StateM σ α) : Prop :=
  ∀ files, ((watched.run files).1, (watched.run files).2.state) = plain.run files.state

theorem same_lift (action : StateM σ α) : Same (lift action : StateM (Watched σ Handle) α) action :=
  fun _ => rfl

theorem same_create [Files (StateM σ) Handle] (path : Path) :
    Same (Files.create path : StateM (Watched σ Handle) (Option Handle)) (Files.create path) :=
  fun _ => rfl

theorem same_release [Files (StateM σ) Handle] (handle : Handle) :
    Same (Files.release handle : StateM (Watched σ Handle) Bool) (Files.release handle) :=
  fun _ => rfl

theorem same_pure (value : α) :
    Same (pure value : StateM (Watched σ Handle) α) (pure value) :=
  fun _ => rfl

theorem Same.bind {first : StateM (Watched σ Handle) α} {plain : StateM σ α} (h : Same first plain)
    {next : α → StateM (Watched σ Handle) β} {plainNext : α → StateM σ β}
    (hnext : ∀ a, Same (next a) (plainNext a)) : Same (first >>= next) (plain >>= plainNext) := by
  intro files
  have hfirst := h files
  rcases hrun : first.run files with ⟨a, files'⟩
  rw [hrun] at hfirst
  rw [StateT.run_bind, StateT.run_bind, hrun, ← hfirst]
  exact hnext a files'

end Watched

namespace Java.Writer

variable {σ Handle : Type} [Files (StateM σ) Handle]

/-! ## Writers among watched files -/

theorem append_watched (writer : Writer Handle) (text : String) :
    (writer.append text : StateM (Watched σ Handle) _) = Watched.lift (writer.append text) := by
  unfold append
  cases writer.handle with
  | none => rfl
  | some handle =>
    dsimp only
    rw [Watched.lift_bind]
    refine congrArg _ (funext fun next => ?_)
    cases next <;> rfl

theorem writeLine_watched (writer : Writer Handle) (line : Line) :
    (writer.writeLine line : StateM (Watched σ Handle) _) = Watched.lift (writer.writeLine line) := by
  cases line with
  | verbatim text => exact append_watched writer text
  | placed text mode =>
    rw [writeLine, writeLine]
    dsimp only
    rw [append_watched, Watched.lift_bind]
    rfl

theorem writeLines_watched (writer : Writer Handle) (lines : List Line) :
    (writer.writeLines lines : StateM (Watched σ Handle) _) = Watched.lift (writer.writeLines lines) := by
  induction lines generalizing writer with
  | nil => rfl
  | cons line lines ih =>
    rw [writeLines, writeLines, writeLine_watched, Watched.lift_bind]
    refine congrArg _ (funext fun outcome => ?_)
    obtain ⟨result, next⟩ := outcome
    cases result with
    | error e => rfl
    | ok => exact ih next

theorem close_watched (writer : Writer Handle) :
    Watched.Same (writer.close : StateM (Watched σ Handle) _) writer.close := by
  unfold close
  cases writer.handle with
  | none => exact Watched.same_pure _
  | some handle => exact (Watched.same_release handle).bind fun _ => Watched.same_pure _

theorem openFile_watched (writer : Writer Handle) :
    Watched.Same (writer.openFile : StateM (Watched σ Handle) _) writer.openFile := by
  unfold openFile
  split
  · exact Watched.same_pure _
  · refine (Watched.same_create writer.path).bind fun handle => ?_
    cases handle <;> exact Watched.same_pure _

end Java.Writer

namespace Bridge
open Java

variable {σ Handle : Type} [Files (StateM σ) Handle]

/-! ## Watching changes nothing -/

namespace Builder

theorem start_watched (builder : Builder Handle) (path : Path) :
    Watched.Same (builder.start path : StateM (Watched σ Handle) _) (builder.start path) := by
  unfold start
  cases builder.stage with
  | closed | opened | emitting => exact Watched.same_pure _
  | created =>
    dsimp only
    rcases builder.writer.retarget path with ⟨result, writer⟩
    cases result with
    | error e => exact Watched.same_pure _
    | ok =>
      refine (Writer.openFile_watched writer).bind ?_
      rintro ⟨result, writer⟩
      cases result <;> exact Watched.same_pure _

theorem build_watched (builder : Builder Handle) (decl : Declaration) :
    Watched.Same (builder.build decl : StateM (Watched σ Handle) _) (builder.build decl) := by
  unfold build
  refine (start_watched builder _).bind ?_
  rintro ⟨result, builder⟩
  cases result with
  | error e => exact Watched.same_pure _
  | ok =>
    dsimp only
    rw [Writer.writeAll, Writer.writeLines_watched]
    exact (Watched.same_lift _).bind fun _ => Watched.same_pure _

theorem close_watched (builder : Builder Handle) :
    Watched.Same (builder.close : StateM (Watched σ Handle) _) builder.close := by
  unfold close
  cases builder.stage with
  | closed | created => exact Watched.same_pure _
  | opened | emitting =>
    exact builder.writer.close_watched.bind fun _ => Watched.same_pure _

end Builder

/-! ## Calls of a builder -/

inductive Call where
  | build (decl : Declaration)
  | close

structure Standing (σ Handle : Type) where
  builder : Builder Handle
  files : Watched σ Handle

/-- One call: what it found, what it gave back, and what it left. -/
structure Visit (σ Handle : Type) where
  call : Call
  before : Standing σ Handle
  result : Except WriteError (Option Path)
  after : Standing σ Handle

def Call.run {m : Type → Type} [Monad m] [Files m Handle] (call : Call) (builder : Builder Handle) :
    m (Except WriteError (Option Path) × Builder Handle) :=
  match call with
  | build decl => do
    let (result, next) ← builder.build decl
    return (result.map some, next)
  | close => do
    let (result, next) ← builder.close
    return (result.map fun _ => none, next)

def Call.visit (call : Call) (standing : Standing σ Handle) : Visit σ Handle :=
  let ((result, builder), files) :=
    (call.run standing.builder : StateM (Watched σ Handle) _).run standing.files
  ⟨call, standing, result, builder, files⟩

theorem Call.visit_of_run {call : Call} {builder next : Builder Handle}
    {files files' : Watched σ Handle} {result : Except WriteError (Option Path)}
    (h : (call.run builder : StateM (Watched σ Handle) _).run files = ((result, next), files')) :
    call.visit ⟨builder, files⟩ = ⟨call, ⟨builder, files⟩, result, next, files'⟩ := by
  rw [visit]
  dsimp only
  rw [h]

theorem Call.visit_build {decl : Declaration} {builder next : Builder Handle}
    {files files' : Watched σ Handle} {result : Except WriteError Path}
    (h : (builder.build decl : StateM (Watched σ Handle) _).run files = ((result, next), files')) :
    (build decl).visit ⟨builder, files⟩ =
      ⟨build decl, ⟨builder, files⟩, result.map some, next, files'⟩ :=
  visit_of_run (run_bind_of_run h _)

theorem Call.visit_close {builder next : Builder Handle} {files files' : Watched σ Handle}
    {result : Except WriteError Unit}
    (h : (builder.close : StateM (Watched σ Handle) _).run files = ((result, next), files')) :
    close.visit ⟨builder, files⟩ =
      ⟨close, ⟨builder, files⟩, result.map fun _ => none, next, files'⟩ :=
  visit_of_run (run_bind_of_run h _)

def visits (standing : Standing σ Handle) : List Call → List (Visit σ Handle)
  | [] => []
  | call :: calls => call.visit standing :: visits (call.visit standing).after calls

/-- Whether the call does what the visit says also where nobody watches the files. -/
def Visit.Genuine (visit : Visit σ Handle) : Prop :=
  (visit.call.run visit.before.builder : StateM σ _).run visit.before.files.state =
    ((visit.result, visit.after.builder), visit.after.files.state)

theorem Call.run_watched (call : Call) (builder : Builder Handle) :
    Watched.Same (call.run builder : StateM (Watched σ Handle) _) (call.run builder) := by
  cases call with
  | build decl => exact (builder.build_watched decl).bind fun _ => Watched.same_pure _
  | close => exact builder.close_watched.bind fun _ => Watched.same_pure _

theorem Call.genuine_visit (call : Call) (standing : Standing σ Handle) :
    (call.visit standing).Genuine :=
  (call.run_watched standing.builder standing.files).symm

theorem genuine_visits (standing : Standing σ Handle) (calls : List Call) :
    ∀ visit ∈ visits standing calls, visit.Genuine := by
  induction calls generalizing standing with
  | nil => exact List.forall_mem_nil _
  | cons call calls ih => exact List.forall_mem_cons.2 ⟨call.genuine_visit standing, ih _⟩

def Visit.Creates (visit : Visit σ Handle) : Prop :=
  visit.after.files.created ≠ visit.before.files.created

instance : DecidablePred (Visit.Creates : Visit σ Handle → Prop) := fun visit =>
  inferInstanceAs (Decidable (visit.after.files.created ≠ visit.before.files.created))

/-! ## What each call does -/

/-- How a call may move a builder on. -/
inductive Stage.Leads : Stage → Stage → Prop
  | stay (stage : Stage) : Leads stage stage
  | emit : Leads .created .emitting
  | finish : Leads .emitting .closed
  | abandon : Leads .created .closed

theorem Stage.Leads.created {stage stage' : Stage} (h : stage.Leads stage')
    (hstage : stage' = .created) : stage = .created := by
  subst hstage
  cases h with
  | stay => rfl

/-- What holds of a builder between calls: it is never seen with a file that nothing was written to,
its writer is open as long as it emits, and it has a path as soon as it has started. -/
structure Builder.Settled (builder : Builder Handle) : Prop where
  not_opened : builder.stage ≠ .opened
  isOpen_iff : builder.writer.isOpen = true ↔ builder.stage = .opened ∨ builder.stage = .emitting
  path_iff : builder.path? = none ↔ builder.stage = .created
  fresh : builder.stage = .created → builder.writer = .ofPath builder.writer.path

/-- What a call does. -/
structure Visit.Orderly (visit : Visit σ Handle) : Prop where
  before_settled : visit.before.builder.Settled
  after_settled : visit.after.builder.Settled
  leads : visit.before.builder.stage.Leads visit.after.builder.stage
  kind : visit.after.builder.kind = visit.before.builder.kind
  config : visit.after.builder.config = visit.before.builder.config
  /-- A file is made by a builder that starts to emit, and nowhere but at its target. -/
  creates : visit.Creates → ∃ decl, visit.call = .build decl ∧
    visit.before.builder.stage = .created ∧ visit.after.builder.stage = .emitting ∧
      visit.after.files.created =
        visit.before.files.created ++ [visit.before.builder.target decl.packageName]
  /-- The path that is given back is the target, and the path of the builder. -/
  built : ∀ decl path, visit.call = .build decl → visit.result = .ok (some path) →
    path = visit.before.builder.target decl.packageName ∧ visit.after.builder.path? = some path
  /-- The writer takes the target. A builder whose file cannot be made is as good as a new one. -/
  created : ∀ decl, visit.call = .build decl → visit.before.builder.stage = .created →
    (∀ path, (visit.before.builder.writer.retarget path).1 = .ok ()) ∧
      ∀ path, visit.result = .error (.create path) → visit.after.builder.stage = .created ∧
        ∀ decl, (visit.after.builder.build decl : StateM (Watched σ Handle) _) =
          (Builder.create visit.before.builder.kind visit.before.builder.config).build decl
  emitting : ∀ decl, visit.call = .build decl → visit.before.builder.stage = .emitting →
    visit.result = .error (.alreadyBuilt visit.before.builder.writer.path) ∧
      visit.after = visit.before
  closed : visit.before.builder.stage = .closed →
    visit.result = .error .closed ∧ visit.after = visit.before
  /-- A call that closes gives the file back in any case, whatever comes of it. -/
  closes : visit.call = .close →
    visit.after.builder.stage = .closed ∧ visit.after.builder.writer.isOpen = false ∧
      visit.after.files.released =
        visit.before.files.released ++ visit.before.builder.writer.handle.toList

namespace Builder

/-! ## Single calls -/

def unstarted (kind : Kind) (config : Config) (path : Path) : Builder Handle :=
  ⟨kind, config, .created, .ofPath path⟩

theorem settled_unstarted (kind : Kind) (config : Config) (path : Path) :
    (unstarted kind config path : Builder Handle).Settled where
  not_opened := nofun
  isOpen_iff := ⟨nofun, nofun⟩
  path_iff := ⟨fun _ => rfl, fun _ => rfl⟩
  fresh _ := rfl

theorem settled_emitting (kind : Kind) (config : Config) {writer : Writer Handle}
    (h : writer.isOpen = true) : (Builder.mk kind config .emitting writer).Settled where
  not_opened := nofun
  isOpen_iff := ⟨fun _ => .inr rfl, fun _ => h⟩
  path_iff := ⟨nofun, nofun⟩
  fresh := nofun

theorem settled_closed (kind : Kind) (config : Config) {writer : Writer Handle}
    (h : writer.isOpen = false) : (Builder.mk kind config .closed writer).Settled where
  not_opened := nofun
  isOpen_iff := ⟨fun hopen => absurd hopen (by rw [h]; nofun), nofun⟩
  path_iff := ⟨nofun, nofun⟩
  fresh := nofun

/-- Between calls a builder has not started, or emits into an open file, or is closed. -/
theorem Settled.elim {motive : Builder Handle → Prop} {builder : Builder Handle} (h : builder.Settled)
    (unstarted : ∀ kind config path, motive (unstarted kind config path))
    (emitting : ∀ kind config writer, writer.isOpen = true → motive ⟨kind, config, .emitting, writer⟩)
    (closed : ∀ kind config writer, writer.isOpen = false → motive ⟨kind, config, .closed, writer⟩) :
    motive builder := by
  obtain ⟨kind, config, stage, writer⟩ := builder
  cases stage with
  | created =>
    have hfresh : writer = .ofPath writer.path := h.fresh rfl
    rw [hfresh]
    exact unstarted kind config writer.path
  | opened => exact absurd rfl h.not_opened
  | emitting => exact emitting kind config writer (h.isOpen_iff.2 (.inr rfl))
  | closed =>
    cases hopen : writer.isOpen with
    | true => rcases h.isOpen_iff.1 hopen with hstage | hstage <;> cases hstage
    | false => exact closed kind config writer hopen

section Builds

variable {kind : Kind} {config : Config} {decl : Declaration} {path : Path} {files : Watched σ Handle}
  {s : σ}

/-- A builder whose file cannot be made has not started, and may try again. -/
theorem build_of_no_file (old : Path)
    (hpath : (create kind config : Builder Handle).target decl.packageName = path)
    (h : (Files.create path : StateM σ (Option Handle)).run files.state = (none, s)) :
    ((unstarted kind config old : Builder Handle).build decl : StateM (Watched σ Handle) _).run files =
      ((.error (.create path), unstarted kind config path), { files with state := s }) := by
  have hopen : (Writer.openFile (.ofPath path) : StateM (Watched σ Handle) _).run files =
      ((.error (.create path), (.ofPath path : Writer Handle)), { files with state := s }) := by
    rw [Writer.openFile, if_neg (by exact Bool.false_ne_true)]
    exact run_bind_of_run (Watched.create_run h) _
  have hstart : ((unstarted kind config old : Builder Handle).start path :
      StateM (Watched σ Handle) _).run files =
      ((.error (.create path), unstarted kind config path), { files with state := s }) := by
    exact run_bind_of_run hopen _
  have htarget : (unstarted kind config old : Builder Handle).target decl.packageName = path := hpath
  rw [build, htarget]
  exact run_bind_of_run hstart _

/-- A builder whose file is made has its path from then on, and emits also if it fails to write. -/
theorem build_of_file (old : Path)
    (hpath : (create kind config : Builder Handle).target decl.packageName = path)
    {handle : Handle} (h : (Files.create path : StateM σ _).run files.state = (some handle, s)) :
    ∃ (result : Except WriteError Unit) (writer : Writer Handle) (s' : σ),
      ((unstarted kind config old : Builder Handle).build decl : StateM (Watched σ Handle) _).run files =
        ((result.map fun _ => path, ⟨kind, config, .emitting, writer⟩),
          { files with state := s', created := files.created ++ [path] }) ∧
      writer.path = path ∧ writer.isOpen = true ∧ ∀ e, result = .error e → e = .write path := by
  have hopen : (Writer.openFile (.ofPath path) : StateM (Watched σ Handle) _).run files =
      ((.ok (), (⟨path, some handle, .start⟩ : Writer Handle)),
        { files with state := s, created := files.created ++ [path] }) := by
    rw [Writer.openFile, if_neg (by exact Bool.false_ne_true)]
    exact run_bind_of_run (Watched.create_run h) _
  have hstart : ((unstarted kind config old : Builder Handle).start path :
      StateM (Watched σ Handle) _).run files =
      ((.ok (), ⟨kind, config, .opened, path, some handle, .start⟩),
        { files with state := s, created := files.created ++ [path] }) := by
    exact run_bind_of_run hopen _
  let lines := (kind.pieces config decl).flatMap Piece.lines
  have hfollows := Writer.writeLines_follows (⟨path, some handle, .start⟩ : Writer Handle) lines s
  rcases hwrite : (Writer.writeLines ⟨path, some handle, .start⟩ lines : StateM σ _).run s with
    ⟨⟨result, writer⟩, s'⟩
  rw [hwrite] at hfollows
  refine ⟨result, writer, s', ?_, hfollows.path, hfollows.isOpen, hfollows.error⟩
  have hlines : (Writer.writeAll ⟨path, some handle, .start⟩ (kind.pieces config decl) :
      StateM (Watched σ Handle) _).run { files with state := s, created := files.created ++ [path] } =
        ((result, writer), { files with state := s', created := files.created ++ [path] }) := by
    rw [Writer.writeAll, Writer.writeLines_watched]
    exact Watched.lift_run hwrite
  have htarget : (unstarted kind config old : Builder Handle).target decl.packageName = path := hpath
  rw [build, htarget, run_bind_of_run hstart]
  exact run_bind_of_run hlines _

end Builds

theorem close_of_emitting {kind : Kind} {config : Config} {writer : Writer Handle}
    (hopen : writer.isOpen = true) (files : Watched σ Handle) :
    ∃ (result : Except WriteError Unit) (files' : Watched σ Handle),
      ((Builder.mk kind config .emitting writer).close : StateM (Watched σ Handle) _).run files =
        ((result, ⟨kind, config, .closed, { writer with handle := none }⟩), files') ∧
      files'.created = files.created ∧ files'.released = files.released ++ writer.handle.toList := by
  obtain ⟨handle, hhandle⟩ := Option.isSome_iff_exists.1 hopen
  rcases hrelease : (Files.release handle : StateM σ Bool).run files.state with ⟨safe, s⟩
  have hclose : (writer.close : StateM (Watched σ Handle) _).run files =
      ((if safe then .ok () else .error (.write writer.path), { writer with handle := none }),
        { files with state := s, released := files.released ++ [handle] }) := by
    rw [Writer.close, hhandle]
    exact run_bind_of_run (Watched.release_run hrelease) _
  refine ⟨_, _, run_bind_of_run hclose _, rfl, ?_⟩
  rw [hhandle]
  rfl

end Builder

namespace Visit

open Builder (unstarted settled_unstarted settled_emitting settled_closed)

variable {kind : Kind} {config : Config} {files files' : Watched σ Handle}

/-! ## Each call in each state -/

/-- A file that cannot be made leaves the builder as it was, but for its path. -/
theorem orderly_of_no_file {decl : Declaration} {path target : Path}
    (h : files'.created = files.created) :
    (Visit.mk (.build decl) ⟨unstarted kind config path, files⟩ (.error (.create target))
      ⟨unstarted kind config target, files'⟩ : Visit σ Handle).Orderly where
  before_settled := settled_unstarted kind config path
  after_settled := settled_unstarted kind config target
  leads := .stay .created
  kind := rfl
  config := rfl
  creates hcreates := absurd h hcreates
  built := nofun
  created _ _ _ := ⟨fun _ => rfl, fun _ _ => ⟨rfl, fun _ => rfl⟩⟩
  emitting := nofun
  closed := nofun
  closes := nofun

theorem orderly_of_file {decl : Declaration} {path target : Path}
    (htarget : (Builder.create kind config : Builder Handle).target decl.packageName = target)
    {result : Except WriteError Unit} (hresult : ∀ e, result = .error e → e = .write target)
    {writer : Writer Handle} (hpath : writer.path = target) (hopen : writer.isOpen = true)
    (hcreated : files'.created = files.created ++ [target]) :
    (Visit.mk (.build decl) ⟨unstarted kind config path, files⟩
      ((result.map fun _ => target).map some) ⟨⟨kind, config, .emitting, writer⟩, files'⟩ :
        Visit σ Handle).Orderly where
  before_settled := settled_unstarted kind config path
  after_settled := settled_emitting kind config hopen
  leads := .emit
  kind := rfl
  config := rfl
  creates _ := ⟨decl, rfl, rfl, rfl, by rw [hcreated, ← htarget]; rfl⟩
  built := by
    rintro _ found ⟨⟩ hfound
    cases result with
    | error e => cases hfound
    | ok =>
      obtain rfl : target = found := Option.some.inj (Except.ok.inj hfound)
      exact ⟨htarget.symm, congrArg some hpath⟩
  created _ _ _ := by
    refine ⟨fun _ => rfl, fun found hfound => ?_⟩
    -- A file that was made can only fail to be written.
    cases result with
    | error e =>
      rw [hresult e rfl] at hfound
      cases hfound
    | ok => cases hfound
  emitting := nofun
  closed := nofun
  closes := nofun

theorem orderly_of_started {decl : Declaration} {writer : Writer Handle}
    (hopen : writer.isOpen = true) :
    (Visit.mk (.build decl) ⟨⟨kind, config, .emitting, writer⟩, files⟩
      (.error (.alreadyBuilt writer.path)) ⟨⟨kind, config, .emitting, writer⟩, files⟩ :
        Visit σ Handle).Orderly where
  before_settled := settled_emitting kind config hopen
  after_settled := settled_emitting kind config hopen
  leads := .stay .emitting
  kind := rfl
  config := rfl
  creates hcreates := absurd rfl hcreates
  built := nofun
  created := nofun
  emitting _ _ _ := ⟨rfl, rfl⟩
  closed := nofun
  closes := nofun

theorem orderly_of_closed {call : Call} {writer : Writer Handle} (hopen : writer.isOpen = false) :
    (Visit.mk call ⟨⟨kind, config, .closed, writer⟩, files⟩ (.error .closed)
      ⟨⟨kind, config, .closed, writer⟩, files⟩ : Visit σ Handle).Orderly where
  before_settled := settled_closed kind config hopen
  after_settled := settled_closed kind config hopen
  leads := .stay .closed
  kind := rfl
  config := rfl
  creates hcreates := absurd rfl hcreates
  built := nofun
  created := nofun
  emitting := nofun
  closed _ := ⟨rfl, rfl⟩
  closes _ := by
    have hhandle : writer.handle = none :=
      Option.isNone_iff_eq_none.1 (Option.isSome_eq_false_iff.1 hopen)
    refine ⟨rfl, hopen, ?_⟩
    change files.released = files.released ++ writer.handle.toList
    rw [hhandle]
    exact (List.append_nil _).symm

/-- Closing a builder that is not closed yet. -/
theorem orderly_of_close {before : Builder Handle} (hbefore : before.Settled)
    (hstage : before.stage.Leads .closed) (hclosed : before.stage ≠ .closed)
    (writer : Writer Handle) (hopen : writer.isOpen = false)
    (hcreated : files'.created = files.created)
    (hreleased : files'.released = files.released ++ before.writer.handle.toList)
    (result : Except WriteError Unit) :
    (Visit.mk .close ⟨before, files⟩ (result.map fun _ => none)
      ⟨⟨before.kind, before.config, .closed, writer⟩, files'⟩ : Visit σ Handle).Orderly where
  before_settled := hbefore
  after_settled := settled_closed before.kind before.config hopen
  leads := hstage
  kind := rfl
  config := rfl
  creates hcreates := absurd hcreated hcreates
  built := nofun
  created := nofun
  emitting := nofun
  closed h := absurd h hclosed
  closes _ := ⟨rfl, hopen, hreleased⟩

end Visit

theorem Builder.orderly_unstarted (kind : Kind) (config : Config) (path : Path)
    (files : Watched σ Handle) (call : Call) :
    (call.visit ⟨(unstarted kind config path : Builder Handle), files⟩).Orderly := by
  cases call with
  | build decl =>
    generalize htarget : (create kind config : Builder Handle).target decl.packageName = target
    rcases hcreate : (Files.create target : StateM σ (Option Handle)).run files.state with ⟨handle, s⟩
    cases handle with
    | none =>
      rw [Call.visit_build (build_of_no_file path htarget hcreate)]
      exact Visit.orderly_of_no_file rfl
    | some handle =>
      obtain ⟨result, writer, s', hbuild, hpath, hopen, hresult⟩ := build_of_file path htarget hcreate
      rw [Call.visit_build hbuild]
      exact Visit.orderly_of_file htarget hresult hpath hopen rfl
  | close =>
    exact Visit.orderly_of_close (settled_unstarted kind config path) .abandon nofun (.ofPath path) rfl
      rfl (List.append_nil _).symm (.ok ())

theorem Builder.orderly_emitting (kind : Kind) (config : Config) {writer : Writer Handle}
    (hopen : writer.isOpen = true) (files : Watched σ Handle) (call : Call) :
    (call.visit ⟨⟨kind, config, .emitting, writer⟩, files⟩).Orderly := by
  cases call with
  | build decl =>
    have hbuild : ((Builder.mk kind config .emitting writer).build decl :
        StateM (Watched σ Handle) _).run files =
          ((.error (.alreadyBuilt writer.path), ⟨kind, config, .emitting, writer⟩), files) := rfl
    rw [Call.visit_build hbuild]
    exact Visit.orderly_of_started hopen
  | close =>
    obtain ⟨result, files', hclose, hcreated, hreleased⟩ := close_of_emitting hopen files
    rw [Call.visit_close hclose]
    exact Visit.orderly_of_close (settled_emitting kind config hopen) .finish nofun
      { writer with handle := none } rfl hcreated hreleased result

theorem Builder.orderly_closed (kind : Kind) (config : Config) {writer : Writer Handle}
    (hopen : writer.isOpen = false) (files : Watched σ Handle) (call : Call) :
    (call.visit ⟨⟨kind, config, .closed, writer⟩, files⟩).Orderly := by
  cases call with
  | build decl =>
    have hbuild : ((Builder.mk kind config .closed writer).build decl :
        StateM (Watched σ Handle) _).run files =
          ((.error .closed, ⟨kind, config, .closed, writer⟩), files) := rfl
    rw [Call.visit_build hbuild]
    exact Visit.orderly_of_closed hopen
  | close =>
    have hclose : ((Builder.mk kind config .closed writer).close :
        StateM (Watched σ Handle) _).run files =
          ((.error .closed, ⟨kind, config, .closed, writer⟩), files) := rfl
    rw [Call.visit_close hclose]
    exact Visit.orderly_of_closed hopen

/-- **One call** on a builder between calls. -/
theorem Standing.orderly {standing : Standing σ Handle} (h : standing.builder.Settled) (call : Call) :
    (call.visit standing).Orderly := by
  obtain ⟨builder, files⟩ := standing
  refine h.elim (motive := fun builder => (call.visit ⟨builder, files⟩).Orderly) ?_ ?_ ?_
  · exact fun kind config path => Builder.orderly_unstarted kind config path files call
  · exact fun kind config writer hopen => Builder.orderly_emitting kind config hopen files call
  · exact fun kind config writer hopen => Builder.orderly_closed kind config hopen files call

/-! ## Whole lives -/

/-- Calls find what the calls ahead of them left. -/
theorem orderly_visits {standing : Standing σ Handle} (h : standing.builder.Settled)
    (calls : List Call) : ∀ visit ∈ visits standing calls, visit.Orderly := by
  induction calls generalizing standing with
  | nil => exact List.forall_mem_nil _
  | cons call calls ih =>
    have hcall := Standing.orderly h call
    exact List.forall_mem_cons.2 ⟨hcall, ih hcall.after_settled⟩

/-- A builder that has started makes no file any more. -/
theorem countP_creates {standing : Standing σ Handle} (h : standing.builder.Settled)
    (calls : List Call) :
    (visits standing calls).countP (Visit.Creates ·) ≤
      if standing.builder.stage = .created then 1 else 0 := by
  induction calls generalizing standing with
  | nil => exact Nat.zero_le _
  | cons call calls ih =>
    have hcall := Standing.orderly h call
    have hmore := ih hcall.after_settled
    have hcreates := hcall.creates
    have hleads := hcall.leads
    rw [visits, List.countP_cons]
    by_cases hnew : (call.visit standing).Creates
    · obtain ⟨-, -, hstage, hnext, -⟩ := hcreates hnew
      rw [hnext, if_neg nofun] at hmore
      rw [if_pos (decide_eq_true hnew), if_pos (show standing.builder.stage = .created from hstage)]
      omega
    · rw [if_neg (by simpa using hnew), Nat.add_zero]
      refine hmore.trans ?_
      split
      · next hnext => rw [if_pos (show standing.builder.stage = .created from hleads.created hnext)]
      · exact Nat.zero_le _

/-- **The life of a builder**, from its creation on. Each of its calls does what it does where nobody
watches the files, and keeps to the stages, and one of them at most makes a file. -/
theorem Builder.lifecycle (kind : Kind) (config : Config) (s : σ) (calls : List Call) :
    (create kind config : Builder Handle).Settled ∧
      (∀ visit ∈ visits ⟨(create kind config : Builder Handle), ⟨s, [], []⟩⟩ calls,
        visit.Genuine ∧ visit.Orderly) ∧
        (visits ⟨(create kind config : Builder Handle), ⟨s, [], []⟩⟩ calls).countP
          (Visit.Creates ·) ≤ 1 := by
  have hsettled : (create kind config : Builder Handle).Settled := settled_unstarted kind config ⟨""⟩
  refine ⟨hsettled, fun visit hvisit => ?_, countP_creates hsettled calls⟩
  exact ⟨genuine_visits _ calls visit hvisit, orderly_visits hsettled calls visit hvisit⟩

end Bridge

end ReactBridge
