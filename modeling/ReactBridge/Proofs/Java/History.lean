import ReactBridge.Proofs.Java.Append

/-!
# Writers over whole histories

Whatever is asked of a writer, in any order, its failures tell only whether a file is open, and change
no file. A file that it opens starts afresh: its text and the margins in it come from the actions
behind its opening, and from nothing ahead of that.

* `Action`, `Scene` : what is asked of a writer, and a writer among files;
* `Scene.Unclosed`, `linesWritten`, `linesPlaced` : what a history comes to, read off its actions;
* `Scene.Step`, `Scene.Sound.step` : all that an action can come to;
* `Scene.Apart.run`, `Scene.textAt_run`, `Scene.margin_run`, `Scene.isOpen_run_iff` : runs of actions;
* `Scene.history` : every action of a history, and the files that it leaves.
-/

namespace ReactBridge.Java
open FileSystem (Handle Holds bytesOf Keeps)

/-! ## Actions -/

inductive Action where
  | openFile
  | close
  | retarget (path : Path)
  | write (piece : Piece)
deriving DecidableEq

def Action.run (action : Action) (writer : Writer Handle) : StateM FileSystem (Writer.Outcome Handle) :=
  match action with
  | openFile => writer.openFile
  | close => writer.close
  | retarget path => return writer.retarget path
  | write piece => writer.write piece

structure Scene where
  writer : Writer Handle
  fs : FileSystem

namespace Scene

def start (path : Path) (fs : FileSystem) : Scene :=
  ⟨.ofPath path, fs⟩

def result (s : Scene) (action : Action) : Except WriteError Unit :=
  ((action.run s.writer).run s.fs).1.1

def next (s : Scene) (action : Action) : Scene :=
  ⟨((action.run s.writer).run s.fs).1.2, ((action.run s.writer).run s.fs).2⟩

def run (s : Scene) : List Action → Scene
  | [] => s
  | action :: actions => (s.next action).run actions

def place (s : Scene) : Option Location :=
  s.fs.resolve s.writer.path

/-- Whether a regular file can be made at the path of the writer. -/
def CanOpen (s : Scene) : Prop :=
  ∃ fs' handle, s.fs.create s.writer.path = (fs', some handle) ∧
    fs'.find handle.location = some (.file [])

/-- Whether each file that is opened can be made. -/
def CanOpenAll (s : Scene) : List Action → Prop
  | [] => True
  | action :: actions =>
    (action = .openFile → s.writer.isOpen = false → s.CanOpen) ∧ (s.next action).CanOpenAll actions

/-- Whether `p` holds of what each opening that succeeds leaves. -/
def Openings (p : Scene → Prop) (s : Scene) : List Action → Prop
  | [] => True
  | action :: actions =>
    (action = .openFile → s.result action = .ok () → p (s.next action)) ∧
      (s.next action).Openings p actions

/-- Whether the last file that was opened has not been closed. -/
def Unclosed (s : Scene) (actions : List Action) : Prop :=
  ∃ front back, actions = front ++ .openFile :: back ∧ (s.run front).result .openFile = .ok () ∧
    .close ∉ back

end Scene

/-- The lines that actions write into a file that is open: those of all writes up to its close. -/
def linesWritten : List Action → List Line
  | [] => []
  | .close :: _ => []
  | .write piece :: actions => piece.lines ++ linesWritten actions
  | .openFile :: actions | .retarget _ :: actions => linesWritten actions

/-- The lines that actions move the margin by. Without an open file that is the first line of each
write, which fails there. -/
def linesPlaced (isOpen : Bool) : List Action → List Line
  | [] => []
  | .close :: actions => linesPlaced false actions
  | .write piece :: actions =>
    (if isOpen then piece.lines else piece.lines.take 1) ++ linesPlaced isOpen actions
  | .openFile :: actions | .retarget _ :: actions => linesPlaced isOpen actions

theorem linesWritten_cons {action : Action} (h : action ≠ .close) (actions : List Action) :
    linesWritten (action :: actions) = linesWritten [action] ++ linesWritten actions := by
  cases action with
  | close => exact absurd rfl h
  | write piece => rw [linesWritten, linesWritten, linesWritten, List.append_nil]
  | openFile | retarget path => rfl

theorem linesPlaced_cons (isOpen : Bool) (action : Action) (actions : List Action) :
    linesPlaced isOpen (action :: actions) =
      linesPlaced isOpen [action] ++ linesPlaced (isOpen && action != .close) actions := by
  have hopen : action ≠ .close → (isOpen && action != .close) = isOpen := fun h => by
    rw [bne_iff_ne.2 h, Bool.and_true]
  cases action with
  | close =>
    rw [bne_self_eq_false, Bool.and_false]
    rfl
  | write piece =>
    rw [hopen nofun, linesPlaced, linesPlaced, linesPlaced, List.append_nil]
  | openFile | retarget path =>
    rw [hopen nofun]
    rfl

/-! ## Single actions -/

theorem Piece.lines_ne_nil (piece : Piece) : piece.lines ≠ [] := by
  cases piece <;> exact List.cons_ne_nil _ _

namespace Writer

theorem write_of_not_open {writer : Writer Handle} (h : writer.handle = none) (piece : Piece)
    (fs : FileSystem) :
    (writer.write piece : StateM FileSystem _).run fs =
      ((.error (.notOpen writer.path), { writer with margin := writer.margin.behind (piece.lines.take 1) }),
        fs) := by
  obtain ⟨path, _, margin⟩ := writer
  obtain rfl : _ = none := h
  obtain ⟨line, lines, hlines⟩ := List.exists_cons_of_ne_nil piece.lines_ne_nil
  rw [write, hlines]
  cases line <;> rfl

end Writer

namespace Scene

variable {s : Scene}

/-- Whether an open writer stands at the end of a file. -/
def Sound (s : Scene) : Prop :=
  s.writer.isOpen = true → ∃ text, s.writer.HasText s.fs text

theorem handle_eq_none (h : s.writer.isOpen = false) : s.writer.handle = none :=
  Option.isNone_iff_eq_none.1 (by simpa [Writer.isOpen] using h)

/-! ### While no file is open -/

theorem openFile_of_closed (h : s.writer.isOpen = false) {fs' : FileSystem} {handle : Handle}
    (hcreate : s.fs.create s.writer.path = (fs', some handle)) :
    s.result .openFile = .ok () ∧ s.next .openFile = ⟨⟨s.writer.path, some handle, .start⟩, fs'⟩ := by
  have hfiles : (Files.create s.writer.path : StateM FileSystem _).run s.fs = (some handle, fs') :=
    congrArg Prod.swap hcreate
  have hrun : (Action.openFile.run s.writer).run s.fs =
      ((.ok (), ⟨s.writer.path, some handle, .start⟩), fs') := by
    rw [Action.run, Writer.openFile, if_neg (h ▸ Bool.false_ne_true)]
    exact run_bind_of_run hfiles _
  rw [result, next, hrun]
  exact ⟨rfl, rfl⟩

theorem retarget_of_closed (h : s.writer.isOpen = false) (path : Path) :
    s.result (.retarget path) = .ok () ∧
      s.next (.retarget path) = ⟨{ s.writer with path }, s.fs⟩ := by
  have hrun : ((Action.retarget path).run s.writer).run s.fs =
      ((.ok (), { s.writer with path }), s.fs) := by
    rw [Action.run, Writer.retarget, if_neg (h ▸ Bool.false_ne_true)]
    rfl
  rw [result, next, hrun]
  exact ⟨rfl, rfl⟩

theorem close_of_closed (h : s.writer.isOpen = false) :
    s.result .close = .error (.notOpen s.writer.path) ∧ s.next .close = s := by
  have hrun : (Action.close.run s.writer).run s.fs =
      ((.error (.notOpen s.writer.path), s.writer), s.fs) := by
    rw [Action.run, Writer.close, handle_eq_none h]
    rfl
  rw [result, next, hrun]
  exact ⟨rfl, rfl⟩

theorem write_of_closed (h : s.writer.isOpen = false) (piece : Piece) :
    s.result (.write piece) = .error (.notOpen s.writer.path) ∧
      s.next (.write piece) =
        ⟨{ s.writer with margin := s.writer.margin.behind (piece.lines.take 1) }, s.fs⟩ := by
  have hrun : ((Action.write piece).run s.writer).run s.fs = _ :=
    Writer.write_of_not_open (handle_eq_none h) piece s.fs
  rw [result, next, hrun]
  exact ⟨rfl, rfl⟩

/-! ### While a file is open -/

theorem openFile_of_open (h : s.writer.isOpen = true) :
    s.result .openFile = .error (.alreadyOpen s.writer.path) ∧ s.next .openFile = s := by
  have hrun : (Action.openFile.run s.writer).run s.fs =
      ((.error (.alreadyOpen s.writer.path), s.writer), s.fs) := by
    rw [Action.run, Writer.openFile, if_pos h]
    rfl
  rw [result, next, hrun]
  exact ⟨rfl, rfl⟩

theorem retarget_of_open (h : s.writer.isOpen = true) (path : Path) :
    s.result (.retarget path) = .error (.alreadyOpen s.writer.path) ∧ s.next (.retarget path) = s := by
  have hrun : ((Action.retarget path).run s.writer).run s.fs =
      ((.error (.alreadyOpen s.writer.path), s.writer), s.fs) := by
    rw [Action.run, Writer.retarget, if_pos h]
    rfl
  rw [result, next, hrun]
  exact ⟨rfl, rfl⟩

theorem close_of_open {text : String} (h : s.writer.HasText s.fs text) :
    s.result .close = .ok () ∧ s.next .close = ⟨{ s.writer with handle := none }, s.fs⟩ := by
  obtain ⟨handle, hhandle, -, hholds⟩ := h
  have hrelease : (Files.release handle : StateM FileSystem Bool).run s.fs = (true, s.fs) := by
    change (s.fs.isSafe handle, s.fs) = _
    rw [FileSystem.isSafe, hholds.file]
  have hrun : (Action.close.run s.writer).run s.fs =
      ((.ok (), { s.writer with handle := none }), s.fs) := by
    rw [Action.run, Writer.close, hhandle]
    exact run_bind_of_run hrelease _
  rw [result, next, hrun]
  exact ⟨rfl, rfl⟩

/-- A write puts its lines behind the text of the file, and touches no other place. -/
theorem write_of_open {text : String} (h : s.writer.HasText s.fs text) (piece : Piece) :
    s.result (.write piece) = .ok () ∧
      (s.next (.write piece)).writer.HasText (s.next (.write piece)).fs
        (text ++ s.writer.margin.written piece.lines) ∧
      (s.next (.write piece)).writer.path = s.writer.path ∧
      (s.next (.write piece)).writer.margin = s.writer.margin.behind piece.lines ∧
      Keeps s.fs (s.next (.write piece)).fs ∧
      ∀ other, some other ≠ s.place → (s.next (.write piece)).fs.find other = s.fs.find other := by
  obtain ⟨handle, hhandle, hplace, hholds⟩ := h
  have hrun : ((Action.write piece).run s.writer).run s.fs = _ :=
    Writer.writeLines_run hhandle hholds piece.lines
  have hkeeps : ∀ entry, Keeps s.fs (s.fs.put handle.location entry) :=
    .put (by rw [FileSystem.isDirectory, hholds.file]; rfl)
  rw [result, next, hrun]
  refine ⟨rfl, ⟨_, rfl, (hkeeps _).resolve hplace, ?_, rfl⟩, rfl, rfl, hkeeps _, fun other hother => ?_⟩
  · rw [FileSystem.find_put, if_pos rfl]
  · have hne : other ≠ handle.location := fun heq => hother (by rw [place, hplace, heq])
    rw [FileSystem.find_put, if_neg hne]

theorem place_of_keeps {text : String} (h : s.writer.HasText s.fs text) {s' : Scene}
    (hpath : s'.writer.path = s.writer.path) (hkeeps : Keeps s.fs s'.fs) : s'.place = s.place := by
  obtain ⟨handle, -, hplace, -⟩ := h
  rw [place, place, hpath, hplace]
  exact hkeeps.resolve hplace

/-! ### All that can happen -/

inductive Step (s : Scene) : Action → Except WriteError Unit → Scene → Prop
  | opens {fs' : FileSystem} {handle : Handle} (hclosed : s.writer.isOpen = false)
      (hcreate : s.fs.create s.writer.path = (fs', some handle))
      (hfile : fs'.find handle.location = some (.file [])) :
      Step s .openFile (.ok ()) ⟨⟨s.writer.path, some handle, .start⟩, fs'⟩
  | retargets (hclosed : s.writer.isOpen = false) (path : Path) :
      Step s (.retarget path) (.ok ()) ⟨{ s.writer with path }, s.fs⟩
  | closes {text : String} (htext : s.writer.HasText s.fs text) :
      Step s .close (.ok ()) ⟨{ s.writer with handle := none }, s.fs⟩
  | writes {text : String} {next : Scene} (htext : s.writer.HasText s.fs text) (piece : Piece)
      (hnext : next.writer.HasText next.fs (text ++ s.writer.margin.written piece.lines))
      (hpath : next.writer.path = s.writer.path)
      (hmargin : next.writer.margin = s.writer.margin.behind piece.lines) (hkeeps : Keeps s.fs next.fs)
      (hfind : ∀ other, some other ≠ s.place → next.fs.find other = s.fs.find other) :
      Step s (.write piece) (.ok ()) next
  | refused {action : Action} (hopen : s.writer.isOpen = true)
      (haction : action = .openFile ∨ ∃ path, action = .retarget path) :
      Step s action (.error (.alreadyOpen s.writer.path)) s
  | nothing (hclosed : s.writer.isOpen = false) : Step s .close (.error (.notOpen s.writer.path)) s
  | lost (hclosed : s.writer.isOpen = false) (piece : Piece) :
      Step s (.write piece) (.error (.notOpen s.writer.path))
        ⟨{ s.writer with margin := s.writer.margin.behind (piece.lines.take 1) }, s.fs⟩

theorem Sound.step (h : s.Sound) {action : Action}
    (hcan : action = .openFile → s.writer.isOpen = false → s.CanOpen) :
    s.Step action (s.result action) (s.next action) := by
  cases hopen : s.writer.isOpen with
  | false =>
    cases action with
    | openFile =>
      obtain ⟨fs', handle, hcreate, hfile⟩ := hcan rfl hopen
      obtain ⟨hresult, hnext⟩ := openFile_of_closed hopen hcreate
      rw [hresult, hnext]
      exact .opens hopen hcreate hfile
    | close =>
      obtain ⟨hresult, hnext⟩ := close_of_closed hopen
      rw [hresult, hnext]
      exact .nothing hopen
    | retarget path =>
      obtain ⟨hresult, hnext⟩ := retarget_of_closed hopen path
      rw [hresult, hnext]
      exact .retargets hopen path
    | write piece =>
      obtain ⟨hresult, hnext⟩ := write_of_closed hopen piece
      rw [hresult, hnext]
      exact .lost hopen piece
  | true =>
    obtain ⟨text, htext⟩ := h hopen
    cases action with
    | openFile =>
      obtain ⟨hresult, hnext⟩ := openFile_of_open hopen
      rw [hresult, hnext]
      exact .refused hopen (.inl rfl)
    | close =>
      obtain ⟨hresult, hnext⟩ := close_of_open htext
      rw [hresult, hnext]
      exact .closes htext
    | retarget path =>
      obtain ⟨hresult, hnext⟩ := retarget_of_open hopen path
      rw [hresult, hnext]
      exact .refused hopen (.inr ⟨path, rfl⟩)
    | write piece =>
      obtain ⟨hresult, hnext, hpath, hmargin, hkeeps, hfind⟩ := write_of_open htext piece
      rw [hresult]
      exact .writes htext piece hnext hpath hmargin hkeeps hfind

namespace Step

variable {action : Action} {result : Except WriteError Unit} {s' : Scene}

theorem fresh (h : s.Step .openFile (.ok ()) s') :
    s'.writer.HasText s'.fs "" ∧ s'.writer.margin = .start := by
  cases h with
  | opens hclosed hcreate hfile =>
    obtain ⟨-, hoffset, hplace, -⟩ := FileSystem.create_eq hcreate
    exact ⟨⟨_, rfl, hplace, FileSystem.holds_empty hfile hoffset⟩, rfl⟩

theorem sound (h : s.Step action result s') (hsound : s.Sound) : s'.Sound := by
  cases h with
  | opens hclosed hcreate hfile => exact fun _ => ⟨"", (fresh (.opens hclosed hcreate hfile)).1⟩
  | retargets hclosed path =>
    exact fun hopen => absurd (hclosed.symm.trans hopen) Bool.false_ne_true
  | closes htext => nofun
  | writes htext piece hnext => exact fun _ => ⟨_, hnext⟩
  | refused hopen haction => exact hsound
  | nothing hclosed => exact hsound
  | lost hclosed piece => exact fun hopen => absurd (hclosed.symm.trans hopen) Bool.false_ne_true

/-- A writer is open behind an action if it was open already and is not closed, or opens a file. -/
theorem isOpen_iff (h : s.Step action result s') :
    s'.writer.isOpen = true ↔
      (s.writer.isOpen = true ∧ action ≠ .close) ∨ (action = .openFile ∧ result = .ok ()) := by
  cases h with
  | opens hclosed hcreate hfile => exact ⟨fun _ => .inr ⟨rfl, rfl⟩, fun _ => rfl⟩
  | retargets hclosed path =>
    exact ⟨fun hopen => .inl ⟨hopen, nofun⟩, fun h => h.elim And.left fun h => nomatch h.1⟩
  | closes htext => exact ⟨nofun, fun h => h.elim (fun h => absurd rfl h.2) fun h => nomatch h.1⟩
  | writes htext piece hnext =>
    exact ⟨fun _ => .inl ⟨htext.isOpen, nofun⟩, fun _ => hnext.isOpen⟩
  | refused hopen haction =>
    refine ⟨fun _ => .inl ⟨hopen, ?_⟩, fun _ => hopen⟩
    rintro rfl
    rcases haction with haction | ⟨_, haction⟩ <;> cases haction
  | nothing hclosed =>
    exact ⟨fun hopen => absurd (hclosed.symm.trans hopen) Bool.false_ne_true,
      fun h => h.elim (fun h => absurd rfl h.2) fun h => nomatch h.1⟩
  | lost hclosed piece =>
    exact ⟨fun hopen => .inl ⟨hopen, nofun⟩, fun h => h.elim And.left fun h => nomatch h.1⟩

end Step

/-! ## Files that are out of reach -/

/-- Whether a path leads to a file with these bytes, and the writer has no hold of it. -/
structure Apart (s : Scene) (path : Path) (place : Location) (bytes : List UInt8) : Prop where
  resolve : s.fs.resolve path = some place
  find : s.fs.find place = some (.file bytes)
  apart : s.writer.isOpen = true → s.place ≠ some place

theorem Step.apart {action : Action} {result : Except WriteError Unit} {s' : Scene}
    (h : s.Step action result s') {path : Path} {place : Location} {bytes : List UInt8}
    (hapart : s.Apart path place bytes)
    (hspare : action = .openFile → result = .ok () → s'.place ≠ some place) :
    s'.Apart path place bytes := by
  obtain ⟨hresolve, hfind, happart⟩ := hapart
  cases h with
  | opens hclosed hcreate hfile =>
    obtain ⟨hkeeps, -, hplace, -⟩ := FileSystem.create_eq hcreate
    have hspare := hspare rfl rfl
    refine ⟨hkeeps.resolve hresolve, ?_, fun _ => hspare⟩
    have hother : place ≠ _ := fun heq => hspare (heq ▸ hplace)
    rcases FileSystem.find_create hcreate hother with hsame | ⟨hnone, -⟩
    · exact hsame.trans hfind
    · rw [hfind] at hnone
      cases hnone
  | retargets hclosed path =>
    exact ⟨hresolve, hfind, fun hopen => absurd (hclosed.symm.trans hopen) Bool.false_ne_true⟩
  | closes htext => exact ⟨hresolve, hfind, nofun⟩
  | writes htext piece hnext hpath hmargin hkeeps hsame =>
    have hother := happart htext.isOpen
    refine ⟨hkeeps.resolve hresolve, (hsame place hother.symm).trans hfind, fun _ => ?_⟩
    rwa [place_of_keeps htext hpath hkeeps]
  | refused hopen haction => exact ⟨hresolve, hfind, happart⟩
  | nothing hclosed => exact ⟨hresolve, hfind, happart⟩
  | lost hclosed piece => exact ⟨hresolve, hfind, happart⟩

/-- A file that the writer has no hold of stays until one is opened in its place. -/
theorem Apart.run {path : Path} {place : Location} {bytes : List UInt8} {actions : List Action}
    (h : s.Apart path place bytes) (hsound : s.Sound) (hcan : s.CanOpenAll actions)
    (hspare : s.Openings (fun opened => opened.place ≠ some place) actions) :
    (s.run actions).Apart path place bytes := by
  induction actions generalizing s with
  | nil => exact h
  | cons action actions ih =>
    have hstep := hsound.step hcan.1
    exact ih (hstep.apart h hspare.1) (hstep.sound hsound) hcan.2 hspare.2

/-! ## The file that is open -/

/-- While a file is open, an action that does not close it writes its lines behind the text. -/
theorem Step.hasText {action : Action} {result : Except WriteError Unit} {s' : Scene}
    (h : s.Step action result s') {text : String} (htext : s.writer.HasText s.fs text)
    (hclose : action ≠ .close) :
    s'.writer.HasText s'.fs (text ++ s.writer.margin.written (linesWritten [action])) ∧
      s'.writer.path = s.writer.path ∧ s'.place = s.place ∧
        s'.writer.margin = s.writer.margin.behind (linesWritten [action]) := by
  have hopen := htext.isOpen
  have hnone : ∀ margin : Margin, text ++ margin.written [] = text := fun _ => String.append_empty
  cases h with
  | opens hclosed | retargets hclosed | nothing hclosed | lost hclosed =>
    exact absurd (hclosed.symm.trans hopen) Bool.false_ne_true
  | closes => exact absurd rfl hclose
  | writes htext' piece hnext hpath hmargin hkeeps =>
    obtain rfl := Option.some.inj (htext'.textAt.symm.trans htext.textAt)
    have hlines : linesWritten [.write piece] = piece.lines := List.append_nil _
    rw [hlines]
    exact ⟨hnext, hpath, place_of_keeps htext hpath hkeeps, hmargin⟩
  | refused _ haction =>
    have hlines : linesWritten [action] = [] := by
      rcases haction with rfl | ⟨path, rfl⟩ <;> rfl
    rw [hlines, hnone]
    exact ⟨htext, rfl, rfl, rfl⟩

/-- An open file holds its text and the lines of all writes up to its close, until one is opened in
its place. -/
theorem textAt_run {text : String} (htext : s.writer.HasText s.fs text) {actions : List Action}
    (hcan : s.CanOpenAll actions) (hspare : s.Openings (fun opened => opened.place ≠ s.place) actions) :
    (s.run actions).fs.textAt s.writer.path =
      some (text ++ s.writer.margin.written (linesWritten actions)) := by
  induction actions generalizing s text with
  | nil =>
    rw [linesWritten, Margin.written_nil, String.append_empty]
    exact htext.textAt
  | cons action actions ih =>
    have hsound : s.Sound := fun _ => ⟨text, htext⟩
    have hstep := hsound.step hcan.1
    by_cases hclose : action = .close
    · subst hclose
      obtain ⟨-, hnext⟩ := close_of_open htext
      have hclosed : (s.next .close).writer.isOpen = false := by
        rw [hnext]
        rfl
      obtain ⟨handle, hhandle, hplace, hholds⟩ := htext
      have hapart : (s.next .close).Apart s.writer.path handle.location (bytesOf text) := by
        refine ⟨?_, ?_, fun hopen => absurd (hclosed.symm.trans hopen) Bool.false_ne_true⟩
        · rw [hnext]
          exact hplace
        · rw [hnext]
          exact hholds.file
      rw [show s.place = some handle.location from hplace] at hspare
      have hlast := hapart.run (hstep.sound hsound) hcan.2 hspare.2
      rw [linesWritten, Margin.written_nil, String.append_empty]
      have hlastHolds : Holds ((s.next .close).run actions).fs handle text := ⟨hlast.find, hholds.offset⟩
      exact hlastHolds.textAt hlast.resolve
    · obtain ⟨hnext, hpath, hplace, hmargin⟩ := hstep.hasText htext hclose
      have hspare' := hspare.2
      rw [← hplace] at hspare'
      have hmore := ih hnext hcan.2 hspare'
      rw [hpath, hmargin] at hmore
      rw [run, hmore, linesWritten_cons hclose actions, Margin.written_append, String.append_assoc]

/-! ## The margin -/

theorem Step.margin {action : Action} {result : Except WriteError Unit} {s' : Scene}
    (h : s.Step action result s') (hopening : ¬ (action = .openFile ∧ result = .ok ())) :
    s'.writer.margin = s.writer.margin.behind (linesPlaced s.writer.isOpen [action]) := by
  cases h with
  | opens => exact absurd ⟨rfl, rfl⟩ hopening
  | retargets | closes | nothing => rfl
  | writes htext piece _ _ hmargin =>
    rw [htext.isOpen, hmargin, linesPlaced, linesPlaced, List.append_nil]
    rfl
  | refused _ haction => rcases haction with rfl | ⟨path, rfl⟩ <;> rfl
  | lost hclosed piece =>
    rw [hclosed, linesPlaced, linesPlaced, List.append_nil]
    rfl

theorem margin_run {actions : List Action} (hsound : s.Sound) (hcan : s.CanOpenAll actions)
    (hopenings : s.Openings (fun _ => False) actions) :
    (s.run actions).writer.margin =
      s.writer.margin.behind (linesPlaced s.writer.isOpen actions) := by
  induction actions generalizing s with
  | nil => rfl
  | cons action actions ih =>
    have hstep := hsound.step hcan.1
    have hopening : ¬ (action = .openFile ∧ s.result action = .ok ()) :=
      fun ⟨haction, hresult⟩ => hopenings.1 haction hresult
    have hopen : (s.next action).writer.isOpen = (s.writer.isOpen && action != .close) := by
      rw [Bool.eq_iff_iff, hstep.isOpen_iff, or_iff_left hopening, Bool.and_eq_true, bne_iff_ne]
    rw [run, ih (hstep.sound hsound) hcan.2 hopenings.2, hstep.margin hopening, hopen,
      linesPlaced_cons _ action actions, Margin.behind_append]

/-! ## Open and closed -/

@[simp]
theorem run_append (s : Scene) (front back : List Action) :
    s.run (front ++ back) = (s.run front).run back := by
  induction front generalizing s with
  | nil => rfl
  | cons action front ih => exact ih (s.next action)

theorem canOpenAll_append {front back : List Action} :
    s.CanOpenAll (front ++ back) ↔ s.CanOpenAll front ∧ (s.run front).CanOpenAll back := by
  induction front generalizing s with
  | nil => exact (and_iff_right trivial).symm
  | cons action front ih =>
    rw [List.cons_append, CanOpenAll, CanOpenAll, ih, and_assoc]
    rfl

theorem Sound.run {actions : List Action} (h : s.Sound) (hcan : s.CanOpenAll actions) :
    (s.run actions).Sound := by
  induction actions generalizing s with
  | nil => exact h
  | cons action actions ih => exact ih ((h.step hcan.1).sound h) hcan.2

theorem unclosed_cons {action : Action} {actions : List Action} :
    s.Unclosed (action :: actions) ↔
      (action = .openFile ∧ s.result action = .ok () ∧ .close ∉ actions) ∨
        (s.next action).Unclosed actions := by
  constructor
  · rintro ⟨front, back, hsplit, hresult, hback⟩
    cases front with
    | nil =>
      obtain ⟨rfl, rfl⟩ := List.cons.inj hsplit
      exact .inl ⟨rfl, hresult, hback⟩
    | cons first front =>
      obtain ⟨rfl, rfl⟩ := List.cons.inj hsplit
      exact .inr ⟨front, back, rfl, hresult, hback⟩
  · rintro (⟨rfl, hresult, hback⟩ | ⟨front, back, rfl, hresult, hback⟩)
    · exact ⟨[], actions, rfl, hresult, hback⟩
    · exact ⟨action :: front, back, rfl, hresult, hback⟩

/-- A writer is open behind actions if its file was not closed, or one that they opened was not. -/
theorem isOpen_run_iff {actions : List Action} (hsound : s.Sound) (hcan : s.CanOpenAll actions) :
    (s.run actions).writer.isOpen = true ↔
      (s.writer.isOpen = true ∧ .close ∉ actions) ∨ s.Unclosed actions := by
  induction actions generalizing s with
  | nil =>
    have hnone : ¬ s.Unclosed [] := fun ⟨front, back, hsplit, _⟩ => by simp at hsplit
    rw [or_iff_left hnone]
    exact (and_iff_left List.not_mem_nil).symm
  | cons action actions ih =>
    have hstep := hsound.step hcan.1
    rw [run, ih (hstep.sound hsound) hcan.2, hstep.isOpen_iff, unclosed_cons, List.mem_cons, not_or,
      ← or_assoc, or_and_right, and_assoc, and_assoc, ne_comm]

/-! ## Laws -/

/-- What an action does, where `unclosed` tells whether the file that was opened last has not been
closed. -/
structure Lawful (s : Scene) (action : Action) (unclosed : Prop) : Prop where
  isOpen_iff : s.writer.isOpen = true ↔ unclosed
  alreadyOpen : action = .openFile ∨ (∃ path, action = .retarget path) →
    (s.result action = .error (.alreadyOpen s.writer.path) ↔ unclosed) ∧
      (s.result action = .ok () ↔ ¬ unclosed)
  notOpen : action = .close ∨ (∃ piece, action = .write piece) →
    (s.result action = .error (.notOpen s.writer.path) ↔ ¬ unclosed) ∧
      (s.result action = .ok () ↔ unclosed)
  /-- A failure changes neither the path, nor whether a file is open, nor any file. -/
  unchanged : s.result action ≠ .ok () →
    (s.next action).writer.path = s.writer.path ∧
      (s.next action).writer.isOpen = s.writer.isOpen ∧ (s.next action).fs = s.fs

section Laws

variable {action : Action} {result : Except WriteError Unit} {s' : Scene}

theorem Step.result_of_opening (h : s.Step action result s')
    (haction : action = .openFile ∨ ∃ path, action = .retarget path) :
    result = if s.writer.isOpen then .error (.alreadyOpen s.writer.path) else .ok () := by
  cases h with
  | opens hclosed | retargets hclosed => rw [hclosed]; rfl
  | refused hopen => rw [hopen]; rfl
  | closes | writes | nothing | lost => rcases haction with haction | ⟨_, haction⟩ <;> cases haction

theorem Step.result_of_writing (h : s.Step action result s')
    (haction : action = .close ∨ ∃ piece, action = .write piece) :
    result = if s.writer.isOpen then .ok () else .error (.notOpen s.writer.path) := by
  cases h with
  | opens | retargets => rcases haction with haction | ⟨_, haction⟩ <;> cases haction
  | refused _ hrefused =>
    rcases haction with rfl | ⟨_, rfl⟩ <;> rcases hrefused with hrefused | ⟨_, hrefused⟩ <;>
      cases hrefused
  | closes htext | writes htext => rw [htext.isOpen]; rfl
  | nothing hclosed | lost hclosed => rw [hclosed]; rfl

theorem Step.unchanged (h : s.Step action result s') (hresult : result ≠ .ok ()) :
    s'.writer.path = s.writer.path ∧ s'.writer.isOpen = s.writer.isOpen ∧ s'.fs = s.fs := by
  cases h with
  | opens | retargets | closes | writes => exact absurd rfl hresult
  | refused | nothing | lost => exact ⟨rfl, rfl, rfl⟩

theorem Step.lawful (h : s.Step action (s.result action) (s.next action)) {unclosed : Prop}
    (hopen : s.writer.isOpen = true ↔ unclosed) : s.Lawful action unclosed where
  isOpen_iff := hopen
  alreadyOpen haction := by
    rw [h.result_of_opening haction, ← hopen]
    cases s.writer.isOpen <;> simp
  notOpen haction := by
    rw [h.result_of_writing haction, ← hopen]
    cases s.writer.isOpen <;> simp
  unchanged := h.unchanged

end Laws

/-- **A writer over its whole history**, where each file that it opens can be made. An action does what
it does by whether a file is open. A file that was opened holds the lines of the writes behind its
opening, up to its close, until one is opened at the same place, and the margin of the writer is that
of the actions behind the last opening. -/
theorem history (path : Path) (fs : FileSystem) (actions : List Action) (action : Action)
    (hcan : (start path fs).CanOpenAll (actions ++ [action])) :
    ((start path fs).run actions).Lawful action ((start path fs).Unclosed actions) ∧
      ∀ front back, actions = front ++ .openFile :: back →
        ((start path fs).run front).result .openFile = .ok () →
          ∀ opened, ((start path fs).run front).next .openFile = opened →
            (opened.Openings (fun later => later.place ≠ opened.place) back →
              ((start path fs).run actions).fs.textAt opened.writer.path =
                some (Margin.start.written (linesWritten back))) ∧
            (opened.Openings (fun _ => False) back →
              ((start path fs).run actions).writer.margin =
                Margin.start.behind (linesPlaced true back)) := by
  have hsound : (start path fs).Sound := nofun
  obtain ⟨hactions, haction⟩ := canOpenAll_append.1 hcan
  refine ⟨((hsound.run hactions).step haction.1).lawful ?_, ?_⟩
  · rw [isOpen_run_iff hsound hactions]
    exact or_iff_right fun h => nomatch h.1
  · rintro front back rfl hresult opened rfl
    obtain ⟨hfront, hopening, hback⟩ := canOpenAll_append.1 hactions
    have hstep := (hsound.run hfront).step hopening
    rw [hresult] at hstep
    obtain ⟨htext, hmargin⟩ := hstep.fresh
    rw [run_append]
    refine ⟨fun hspare => ?_, fun hnone => ?_⟩
    · have hlast := textAt_run htext hback hspare
      rwa [hmargin, String.empty_append] at hlast
    · have hlast := margin_run (hstep.sound (hsound.run hfront)) hback hnone
      rwa [hmargin, htext.isOpen] at hlast

/-- A write that is lost ahead of a file, a file with a handler, and another lost write behind it. -/
def attempts : List Action :=
  [.write .tryHeader, .openFile, .write .tryHeader, .write (.catchAll "f()"), .close, .write .close]

def bareRoot : FileSystem :=
  ⟨[([], .directory)], []⟩

def emptyFile : FileSystem :=
  ⟨[([], .directory), (["A.java"], .file [])], []⟩

theorem history_attempts :
    (start ⟨"A.java"⟩ bareRoot).CanOpenAll (attempts ++ [.openFile]) ∧
      ((start ⟨"A.java"⟩ bareRoot).run attempts).Lawful .openFile
        ((start ⟨"A.java"⟩ bareRoot).Unclosed attempts) ∧
      ((start ⟨"A.java"⟩ bareRoot).run attempts).fs.textAt ⟨"A.java"⟩ =
        some "try \x7b\n\x7d catch(Exception e) \x7b\n\tf();\n\x7d\n" := by
  have hcan : (start ⟨"A.java"⟩ bareRoot).CanOpenAll (attempts ++ [.openFile]) :=
    ⟨nofun, fun _ _ => ⟨emptyFile, ⟨["A.java"], 0⟩, rfl, rfl⟩, nofun, nofun, nofun, nofun,
      fun _ _ => ⟨emptyFile, ⟨["A.java"], 0⟩, by decide +kernel, rfl⟩, trivial⟩
  obtain ⟨hlawful, hfiles⟩ := history ⟨"A.java"⟩ bareRoot attempts .openFile hcan
  have htext := (hfiles [.write .tryHeader]
    [.write .tryHeader, .write (.catchAll "f()"), .close, .write .close] rfl rfl _ rfl).1
    ⟨nofun, nofun, nofun, nofun, trivial⟩
  exact ⟨hcan, hlawful, htext.trans (congrArg some (by decide))⟩

end Scene

end ReactBridge.Java
