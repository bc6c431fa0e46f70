import ReactBridge.Java.Writer
import ReactBridge.Proofs.FileSystem
import ReactBridge.Proofs.Java.Document

/-!
# What a writer writes

* `Writer.Follows` : what writing keeps, whatever the files do;
* `Writer.HasText` : a writer stands at the end of a file with a text, where its path leads;
* `Writer.HasText.writeLines` : lines are put behind that text, at their margins;
* `Writer.textAt_of_writeAll` : what stands in a file that has been written;
* `Writer.writeAll_document` : a document in a fresh file, and the depth while it is written.
-/

namespace ReactBridge.Java.Writer
open FileSystem (Handle)

/-! ## What writing keeps -/

section Keeping

variable {σ Handle : Type} [Files (StateM σ) Handle]

/-- What writing may come to: the path stays, the writer is open afterwards if it was before, and a
failure says which of the two it was. -/
structure Follows (writer : Writer Handle) (outcome : Outcome Handle) : Prop where
  path : outcome.2.path = writer.path
  isOpen : outcome.2.isOpen = writer.isOpen
  error : ∀ e, outcome.1 = .error e →
    e = if writer.isOpen then .write writer.path else .notOpen writer.path

theorem Follows.trans {writer next : Writer Handle} {outcome : Outcome Handle}
    (h : writer.Follows (.ok (), next)) (hnext : next.Follows outcome) : writer.Follows outcome where
  path := hnext.path.trans h.path
  isOpen := hnext.isOpen.trans h.isOpen
  error e he := by
    have herror := hnext.error e he
    rwa [show next.isOpen = writer.isOpen from h.isOpen,
      show next.path = writer.path from h.path] at herror

theorem append_follows (writer : Writer Handle) (text : String) (s : σ) :
    writer.Follows ((writer.append text : StateM σ _).run s).1 := by
  unfold append
  cases hhandle : writer.handle with
  | none =>
    refine ⟨rfl, rfl, ?_⟩
    rintro _ ⟨⟩
    rw [Writer.isOpen, hhandle]
    rfl
  | some handle =>
    have hopen : writer.isOpen = true := by
      rw [Writer.isOpen, hhandle]
      rfl
    rcases hrun : (Files.append handle text : StateM σ _).run s with ⟨next, s'⟩
    dsimp only
    rw [StateT.run_bind, hrun]
    cases next with
    | none =>
      refine ⟨rfl, rfl, ?_⟩
      rintro _ ⟨⟩
      rw [if_pos hopen]
    | some next => exact ⟨rfl, hopen.symm, nofun⟩

theorem writeLine_follows (writer : Writer Handle) (line : Line) (s : σ) :
    writer.Follows ((writer.writeLine line : StateM σ _).run s).1 := by
  cases line with
  | verbatim text => exact append_follows writer text s
  | placed text mode =>
    have happend := append_follows writer ((writer.margin.place text mode).1 ++ "\n") s
    exact ⟨happend.path, happend.isOpen, happend.error⟩

theorem writeLines_follows (writer : Writer Handle) (lines : List Line) (s : σ) :
    writer.Follows ((writer.writeLines lines : StateM σ _).run s).1 := by
  induction lines generalizing writer s with
  | nil => exact ⟨rfl, rfl, nofun⟩
  | cons line lines ih =>
    have hline := writeLine_follows writer line s
    rw [writeLines, StateT.run_bind]
    rcases hrun : (writer.writeLine line : StateM σ _).run s with ⟨⟨result, next⟩, s'⟩
    rw [hrun] at hline
    cases result with
    | error e => exact hline
    | ok => exact hline.trans (ih next s')

end Keeping

/-! ## The text of a file -/

/-- The writer stands at the end of a file with this text, and its path leads there. -/
def HasText (writer : Writer Handle) (fs : FileSystem) (text : String) : Prop :=
  ∃ handle, writer.handle = some handle ∧ fs.resolve writer.path = some handle.location ∧
    fs.Holds handle text

theorem HasText.textAt {writer : Writer Handle} {fs : FileSystem} {text : String}
    (h : writer.HasText fs text) : fs.textAt writer.path = some text := by
  obtain ⟨handle, -, hpath, hholds⟩ := h
  exact hholds.textAt hpath

theorem HasText.isOpen {writer : Writer Handle} {fs : FileSystem} {text : String}
    (h : writer.HasText fs text) : writer.isOpen = true := by
  obtain ⟨handle, hhandle, -⟩ := h
  rw [Writer.isOpen, hhandle]
  rfl

theorem HasText.append {writer : Writer Handle} {fs : FileSystem} {text : String}
    (h : writer.HasText fs text) (more : String) :
    ∃ writer' fs', (writer.append more : StateM FileSystem _).run fs = ((.ok (), writer'), fs') ∧
      writer'.HasText fs' (text ++ more) ∧ writer'.margin = writer.margin ∧
        writer'.path = writer.path := by
  obtain ⟨handle, hhandle, hpath, hholds⟩ := h
  obtain ⟨fs', handle', happend, hkeeps, hlocation, hholds'⟩ := hholds.append more
  refine ⟨{ writer with handle := some handle' }, fs', ?_, ⟨handle', rfl, ?_, hholds'⟩, rfl, rfl⟩
  · have hfiles : (Files.append handle more : StateM FileSystem _).run fs = (some handle', fs') :=
      congrArg Prod.swap happend
    rw [Writer.append, hhandle]
    exact run_bind_of_run hfiles _
  · rw [hlocation]
    exact hkeeps.resolve hpath

theorem HasText.writeLine {writer : Writer Handle} {fs : FileSystem} {text : String}
    (h : writer.HasText fs text) (line : Line) :
    ∃ writer' fs', (writer.writeLine line : StateM FileSystem _).run fs = ((.ok (), writer'), fs') ∧
      writer'.HasText fs' (text ++ writer.margin.written [line]) ∧
        writer'.margin = writer.margin.behind [line] ∧ writer'.path = writer.path := by
  cases line with
  | verbatim more =>
    have hwritten : writer.margin.written [.verbatim more] = more := by simp
    rw [hwritten]
    exact h.append more
  | placed line mode =>
    obtain ⟨writer', fs', hrun, htext, -, hpath⟩ :=
      h.append ((writer.margin.place line mode).1 ++ "\n")
    refine ⟨{ writer' with margin := (writer.margin.place line mode).2 }, fs', ?_, ?_, rfl, hpath⟩
    · exact run_bind_of_run hrun _
    · simp only [Margin.written_placed, Margin.written_nil, String.append_empty]
      exact htext

/-- Lines are put behind the text of the file, at their margins. -/
theorem HasText.writeLines {writer : Writer Handle} {fs : FileSystem} {text : String}
    (h : writer.HasText fs text) (lines : List Line) :
    ∃ writer' fs', (writer.writeLines lines : StateM FileSystem _).run fs = ((.ok (), writer'), fs') ∧
      writer'.HasText fs' (text ++ writer.margin.written lines) ∧
        writer'.margin = writer.margin.behind lines ∧ writer'.path = writer.path := by
  induction lines generalizing writer fs text with
  | nil =>
    refine ⟨writer, fs, rfl, ?_, rfl, rfl⟩
    simpa using h
  | cons line lines ih =>
    obtain ⟨mid, fs₁, hline, htext, hmargin, hpath⟩ := h.writeLine line
    obtain ⟨writer', fs', hlines, htext', hmargin', hpath'⟩ := ih htext
    refine ⟨writer', fs', ?_, ?_, ?_, hpath'.trans hpath⟩
    · rw [Writer.writeLines, run_bind_of_run hline]
      exact hlines
    · rw [Margin.written_cons, ← hmargin, ← String.append_assoc]
      exact htext'
    · rw [Margin.behind_cons, ← hmargin]
      exact hmargin'

/-! ## Fresh files -/

/-- A writer that has opened a file starts at the left margin of an empty file, where its path
leads, unless that is a device. -/
theorem openFile_eq_ok {writer opened : Writer Handle} {fs fs' : FileSystem}
    (h : (writer.openFile : StateM FileSystem _).run fs = ((.ok (), opened), fs')) :
    opened.path = writer.path ∧ opened.margin = .start ∧
      (opened.HasText fs' "" ∨ ∃ handle, opened.handle = some handle ∧
        fs'.resolve opened.path = some handle.location ∧
          fs'.find handle.location = some .full) := by
  rw [openFile] at h
  split at h
  · cases h
  rcases hcreate : fs.create writer.path with ⟨fs₁, created⟩
  have hfiles : (Files.create writer.path : StateM FileSystem _).run fs = (created, fs₁) :=
    congrArg Prod.swap hcreate
  rw [run_bind_of_run hfiles] at h
  cases created with
  | none => cases h
  | some handle =>
    obtain ⟨houtcome, rfl⟩ := Prod.mk.inj h
    obtain rfl := (Prod.mk.inj houtcome).2
    obtain ⟨-, hoffset, hpath, hentry⟩ := FileSystem.create_eq hcreate
    refine ⟨rfl, rfl, ?_⟩
    rcases hentry with hfull | hempty
    · exact .inr ⟨handle, rfl, hpath, hfull⟩
    · exact .inl ⟨handle, rfl, hpath, FileSystem.holds_empty hempty hoffset⟩

theorem hasText_of_openFile {writer opened : Writer Handle} {fs fs' : FileSystem}
    (h : (writer.openFile : StateM FileSystem _).run fs = ((.ok (), opened), fs'))
    (hfile : fs'.isFileAt opened.path = true) : opened.HasText fs' "" := by
  obtain ⟨-, -, htext | ⟨handle, -, hpath, hfull⟩⟩ := openFile_eq_ok h
  · exact htext
  · rw [FileSystem.isFileAt, FileSystem.entryAt, hpath, Option.bind_some, hfull] at hfile
    cases hfile

theorem writeLines_run_full {writer : Writer Handle} {fs : FileSystem} {handle : Handle}
    (hhandle : writer.handle = some handle) (hfull : fs.find handle.location = some .full)
    {lines : List Line} (hlines : lines ≠ []) : ∃ failed : Writer Handle,
      (writer.writeLines lines : StateM FileSystem _).run fs =
        ((.error (.write writer.path), failed), fs) := by
  have happend : ∀ text, (writer.append text : StateM FileSystem _).run fs =
      ((.error (.write writer.path), writer), fs) := by
    intro text
    have hfiles : (Files.append handle text : StateM FileSystem _).run fs = (none, fs) :=
      congrArg Prod.swap (FileSystem.append_full hfull _)
    rw [Writer.append, hhandle]
    exact run_bind_of_run hfiles _
  have hline : ∀ line, ∃ failed, (writer.writeLine line : StateM FileSystem _).run fs =
      ((.error (.write writer.path), failed), fs) := by
    intro line
    cases line with
    | verbatim text => exact ⟨writer, happend text⟩
    | placed text mode => exact ⟨_, run_bind_of_run (happend _) _⟩
  obtain ⟨line, lines, rfl⟩ := List.exists_cons_of_ne_nil hlines
  obtain ⟨failed, hfailed⟩ := hline line
  rw [Writer.writeLines]
  exact ⟨failed, run_bind_of_run hfailed _⟩

theorem writeLines_of_full {writer written : Writer Handle} {fs fs' : FileSystem} {handle : Handle}
    (hhandle : writer.handle = some handle) (hfull : fs.find handle.location = some .full)
    {lines : List Line}
    (h : (writer.writeLines lines : StateM FileSystem _).run fs = ((.ok (), written), fs')) :
    lines = [] := by
  by_contra hlines
  obtain ⟨failed, hfailed⟩ := writeLines_run_full hhandle hfull hlines
  rw [hfailed] at h
  cases h

/-- A writer that has written pieces into the file that it opened leaves their lines there, and no
other text. -/
theorem textAt_of_writeAll {writer opened written : Writer Handle} {fs fs' fs'' : FileSystem}
    {pieces : List Piece}
    (hopen : (writer.openFile : StateM FileSystem _).run fs = ((.ok (), opened), fs'))
    (hwrite : (opened.writeAll pieces : StateM FileSystem _).run fs' = ((.ok (), written), fs''))
    (hlines : pieceLines pieces ≠ []) :
    fs''.textAt writer.path = some (Margin.start.written (pieceLines pieces)) ∧
      written.margin = Margin.start.behind (pieceLines pieces) := by
  obtain ⟨hpath, hmargin, htext | ⟨handle, hhandle, -, hfull⟩⟩ := openFile_eq_ok hopen
  · obtain ⟨writer', fs₁, hrun, htext', hmargin', hpath'⟩ := htext.writeLines (pieceLines pieces)
    obtain ⟨houtcome, rfl⟩ := Prod.mk.inj (hrun.symm.trans hwrite)
    obtain rfl := (Prod.mk.inj houtcome).2
    have hcontent := htext'.textAt
    rw [hpath', hpath, hmargin, String.empty_append] at hcontent
    exact ⟨hcontent, hmargin ▸ hmargin'⟩
  · -- A device refuses the first line, so the writer cannot have gone through them all.
    exact absurd (writeLines_of_full hhandle hfull hwrite) hlines

/-- How many blocks are open behind pieces. -/
def openBlocks (pieces : List Piece) : Nat :=
  pieces.countP Piece.opens - pieces.countP Piece.closes

/-- **A document in a fresh file** is written as the text of its tree. On the way, the writer is at
the left margin behind each item of the document, and behind each line that closes a block its depth
is the number of blocks still open. -/
theorem writeAll_document {items : List Item} (hfilled : ∀ item ∈ items, item.Filled)
    (hfree : ∀ piece ∈ itemsPieces items, piece.BraceFree) {writer opened : Writer Handle}
    {fs fs' : FileSystem}
    (hopen : (writer.openFile : StateM FileSystem _).run fs = ((.ok (), opened), fs'))
    (hfile : fs'.isFileAt opened.path = true) :
    (∃ written fs'',
      (opened.writeAll (itemsPieces items) : StateM FileSystem _).run fs' =
          ((.ok (), written), fs'') ∧
        fs''.textAt opened.path = some (renderItems 0 items)) ∧
    (∀ front, front <+: items → ∃ written fs'',
      (opened.writeAll (itemsPieces front) : StateM FileSystem _).run fs' =
          ((.ok (), written), fs'') ∧
        written.margin.depth = 0) ∧
    ∀ ahead, ahead <+: itemsPieces items → (∃ last ∈ ahead.getLast?, last.closes = true) →
      ∃ written fs'',
        (opened.writeAll ahead : StateM FileSystem _).run fs' = ((.ok (), written), fs'') ∧
          written.margin.depth = openBlocks ahead := by
  have htext := hasText_of_openFile hopen hfile
  obtain ⟨-, hmargin, -⟩ := openFile_eq_ok hopen
  have htraces := traces_document hfilled hfree
  refine ⟨?_, fun front hfront => ?_, fun ahead hahead hlast => ?_⟩
  · obtain ⟨written, fs'', hrun, hwritten, -, hpath⟩ :=
      htext.writeLines (pieceLines (itemsPieces items))
    refine ⟨written, fs'', hrun, ?_⟩
    have hcontent := hwritten.textAt
    rwa [hmargin, htraces.written, String.empty_append, hpath] at hcontent
  · obtain ⟨written, fs'', hrun, -, hbehind, -⟩ := htext.writeLines (pieceLines (itemsPieces front))
    have hfront' : itemsPieces front ⊆ itemsPieces items := by
      obtain ⟨back, rfl⟩ := hfront
      rw [itemsPieces_append]
      exact List.subset_append_left _ _
    have hleft := traces_document (fun item hitem => hfilled item (hfront.subset hitem))
      fun piece hpiece => hfree piece (hfront' hpiece)
    refine ⟨written, fs'', hrun, ?_⟩
    rw [hbehind, hmargin, hleft.behind]
    rfl
  · obtain ⟨written, fs'', hrun, -, hbehind, -⟩ := htext.writeLines (pieceLines ahead)
    have hblocks := htraces.closings ahead hahead hlast
    refine ⟨written, fs'', hrun, ?_⟩
    rw [hbehind, hmargin, openBlocks]
    omega

/-- A class with a method that tries a call. -/
def nestedItems : List Item :=
  [.block (.classHead "Nested" none none)
    ⟨[.blank 1, .annotate "ReactMethod",
      .block (.methodHead "void" "run" [])
        ⟨[.attempt ⟨[.statement "work()"], none⟩ "fail(e)"], none⟩], none⟩]

theorem writeAll_document_nested :
    ∃ opened fs', ((Writer.ofPath ⟨"Nested.java"⟩).openFile : StateM FileSystem _).run
        ⟨[([], .directory)], []⟩ = ((.ok (), opened), fs') ∧
      fs'.isFileAt opened.path = true ∧
        (∀ item ∈ nestedItems, item.Filled) ∧ (∀ piece ∈ itemsPieces nestedItems, piece.BraceFree) ∧
          ∃ written fs'',
            (opened.writeAll (itemsPieces nestedItems) : StateM FileSystem _).run fs' =
                ((.ok (), written), fs'') ∧
              fs''.textAt opened.path = some ("public class Nested \x7b\n\n\t@ReactMethod\n" ++
                "\tpublic void run() \x7b\n\t\ttry \x7b\n\t\t\twork();\n" ++
                "\t\t\x7d catch(Exception e) \x7b\n\t\t\tfail(e);\n\t\t\x7d\n\t\x7d\n\x7d\n") := by
  have hfilled : ∀ item ∈ nestedItems, item.Filled := by
    have hattempt : Item.Filled (.attempt ⟨[.statement "work()"], none⟩ "fail(e)") :=
      .attempt "fail(e)" (List.forall_mem_singleton.2 (.statement "work()"))
        (.inr ⟨_, List.mem_cons_self, rfl⟩)
    have hmethod : Item.Filled (.block (.methodHead "void" "run" [])
        ⟨[.attempt ⟨[.statement "work()"], none⟩ "fail(e)"], none⟩) :=
      .block _ (List.forall_mem_singleton.2 hattempt) (.inr ⟨_, List.mem_cons_self, rfl⟩)
    refine List.forall_mem_singleton.2 (.block _ ?_ (.inr ⟨.annotate "ReactMethod", ?_, rfl⟩))
    · exact List.forall_mem_cons.2 ⟨.blank 1, List.forall_mem_cons.2 ⟨.annotate "ReactMethod",
        List.forall_mem_singleton.2 hmethod⟩⟩
    · exact List.mem_cons_of_mem _ List.mem_cons_self
  have hfree : ∀ piece ∈ itemsPieces nestedItems, piece.BraceFree := by decide
  have hopen : ((Writer.ofPath ⟨"Nested.java"⟩).openFile : StateM FileSystem (Outcome Handle)).run
      ⟨[([], .directory)], []⟩ =
        ((.ok (), ⟨⟨"Nested.java"⟩, some ⟨["Nested.java"], 0⟩, .start⟩),
          ⟨[([], .directory), (["Nested.java"], .file [])], []⟩) := rfl
  refine ⟨_, _, hopen, by decide, hfilled, hfree, ?_⟩
  obtain ⟨⟨written, fs'', hrun, htext⟩, -⟩ := writeAll_document hfilled hfree hopen (by decide)
  exact ⟨written, fs'', hrun, htext.trans (congrArg some (by decide))⟩

end ReactBridge.Java.Writer
