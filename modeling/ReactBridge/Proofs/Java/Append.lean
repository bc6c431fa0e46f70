import ReactBridge.Proofs.FileSystem.Store
import ReactBridge.Proofs.Java.Writer

/-!
# Lines at the end of a file

* `Holds.append_eq` : a text written at the end of a file, as one entry in place of another;
* `Writer.append_run`, `Writer.writeLines_run` : the same for a writer and its lines.
-/

namespace ReactBridge

namespace FileSystem

/-- A text written at the end of a file, as one entry put in place of another. -/
theorem Holds.append_eq {fs : FileSystem} {handle : Handle} {text : String}
    (h : Holds fs handle text) (more : String) :
    fs.append handle (bytesOf more) =
      (fs.put handle.location (.file (bytesOf (text ++ more))),
        some ⟨handle.location, (bytesOf (text ++ more)).length⟩) := by
  rw [FileSystem.append, h.file]
  dsimp only
  split
  · next hempty =>
    rw [List.isEmpty_iff] at hempty
    rw [bytesOf_append, hempty, List.append_nil, put_of_find h.file, ← h.offset]
  · rw [bytesOf_append, h.offset, overwrite_end, List.length_append]

end FileSystem

namespace Java.Writer
open FileSystem (Handle Holds bytesOf)

theorem append_run {writer : Writer Handle} {fs : FileSystem} {handle : Handle} {text : String}
    (hhandle : writer.handle = some handle) (h : Holds fs handle text) (more : String) :
    (writer.append more : StateM FileSystem _).run fs =
      ((.ok (), { writer with
          handle := some ⟨handle.location, (bytesOf (text ++ more)).length⟩ }),
        fs.put handle.location (.file (bytesOf (text ++ more)))) := by
  have hfiles : (Files.append handle more : StateM FileSystem _).run fs =
      (some ⟨handle.location, (bytesOf (text ++ more)).length⟩,
        fs.put handle.location (.file (bytesOf (text ++ more)))) :=
    congrArg Prod.swap (h.append_eq more)
  rw [Writer.append, hhandle]
  exact run_bind_of_run hfiles _

/-- Lines written behind a text are put there at once, at their margins. -/
theorem writeLines_run {writer : Writer Handle} {fs : FileSystem} {handle : Handle} {text : String}
    (hhandle : writer.handle = some handle) (h : Holds fs handle text) (lines : List Line) :
    (writer.writeLines lines : StateM FileSystem _).run fs =
      ((.ok (), ⟨writer.path,
          some ⟨handle.location, (bytesOf (text ++ writer.margin.written lines)).length⟩,
          writer.margin.behind lines⟩),
        fs.put handle.location (.file (bytesOf (text ++ writer.margin.written lines)))) := by
  induction lines generalizing writer fs handle text with
  | nil =>
    rw [Margin.written_nil, String.append_empty, FileSystem.put_of_find h.file, ← h.offset]
    obtain ⟨path, opened, margin⟩ := writer
    obtain rfl : opened = some handle := hhandle
    rfl
  | cons line lines ih =>
    have hline : ∀ {next : Writer Handle} {more : String},
        (writer.writeLine line : StateM FileSystem _).run fs =
          ((.ok (), next), fs.put handle.location (.file (bytesOf (text ++ more)))) →
        next.handle = some ⟨handle.location, (bytesOf (text ++ more)).length⟩ →
        next.path = writer.path → next.margin = writer.margin.behind [line] →
        writer.margin.written [line] = more →
        (writer.writeLines (line :: lines) : StateM FileSystem _).run fs =
          ((.ok (), ⟨writer.path, some ⟨handle.location,
              (bytesOf (text ++ writer.margin.written (line :: lines))).length⟩,
              writer.margin.behind (line :: lines)⟩),
            fs.put handle.location
              (.file (bytesOf (text ++ writer.margin.written (line :: lines))))) := by
      rintro next _ hrun hnext hpath hmargin rfl
      have hholds : Holds (fs.put handle.location
            (.file (bytesOf (text ++ writer.margin.written [line]))))
          ⟨handle.location, (bytesOf (text ++ writer.margin.written [line])).length⟩
          (text ++ writer.margin.written [line]) := ⟨by simp, rfl⟩
      rw [Writer.writeLines, run_bind_of_run hrun]
      dsimp only
      rw [ih hnext hholds, FileSystem.put_put, hpath, hmargin, String.append_assoc,
        ← Margin.written_cons, ← Margin.behind_cons]
    cases line with
    | verbatim more =>
      exact hline (append_run hhandle h more) rfl rfl rfl (by simp)
    | placed line mode =>
      have hrun := append_run hhandle h ((writer.margin.place line mode).1 ++ "\n")
      exact hline (run_bind_of_run hrun _) rfl rfl rfl (by simp)

end Java.Writer

end ReactBridge
