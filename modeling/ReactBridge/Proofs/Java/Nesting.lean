import ReactBridge.Proofs.Java.Writer

/-!
# Nested lines and the depth behind them

The braces of a run of lines can match, whatever the lines are, and then one expects the left margin
behind them. A line that ends a body keeps that from being so: the line behind it goes one deeper,
unless it closes the body.

* `braces`, `Nested` : how often a brace stands in lines, and lines whose braces match;
* `Piece.Looks` : what the lines of a piece look like, and the margin behind them;
* `strays` : how many last lines of bodies are not the last;
* `Margin.Within.depth_behind_le` : how deep pieces end, by induction;
* `Writer.depth_le_strays` : the depth behind nested lines in a fresh file.
-/

namespace ReactBridge.Java

/-! ## Nested lines -/

/-- The text of a line, without the tabs before it. -/
def Line.text : Line → String
  | verbatim text => text
  | placed text _ => text

/-- How often a character stands in lines. -/
def braces (brace : Char) (lines : List Line) : Nat :=
  (lines.flatMap fun line => line.text.toList).count brace

/-- Whether no front of the lines closes more than it opens, and all of them close as much. -/
def Nested (lines : List Line) : Prop :=
  (∀ front, front <+: lines → braces '\x7d' front ≤ braces '\x7b' front) ∧
    braces '\x7d' lines = braces '\x7b' lines

instance : DecidablePred Nested := fun lines =>
  decidable_of_iff ((∀ front ∈ lines.inits, braces '\x7d' front ≤ braces '\x7b' front) ∧
      braces '\x7d' lines = braces '\x7b' lines) <| by
    simp only [List.mem_inits, Nested]

@[simp, grind =]
theorem braces_append (brace : Char) (first second : List Line) :
    braces brace (first ++ second) = braces brace first + braces brace second := by
  rw [braces, List.flatMap_append, List.count_append]
  rfl

@[simp]
theorem braces_singleton (brace : Char) (line : Line) :
    braces brace [line] = line.text.toList.count brace := by
  rw [braces, List.flatMap_singleton]

theorem braces_of_braceFree {line : Line} (h : BraceFree line.text) :
    braces '\x7b' [line] = 0 ∧ braces '\x7d' [line] = 0 := by
  rw [braces_singleton, braces_singleton]
  exact ⟨List.count_eq_zero.2 h.1, List.count_eq_zero.2 h.2⟩

theorem braces_of_opening {text : String} (h : BraceFree text) (mode : Margin.Mode) :
    braces '\x7b' [.placed (text ++ " \x7b") mode] = 1 ∧
      braces '\x7d' [.placed (text ++ " \x7b") mode] = 0 := by
  have hcount : ∀ brace, braces brace [.placed (text ++ " \x7b") mode] =
      text.toList.count brace + " \x7b".toList.count brace := by
    intro brace
    rw [braces_singleton, ← List.count_append, ← String.toList_append]
    rfl
  rw [hcount, hcount, List.count_eq_zero.2 h.1, List.count_eq_zero.2 h.2]
  decide

/-! ## Pieces -/

namespace Piece

/-- Whether the piece is the last line of a body, as `Ending` has them. -/
def isEnding : Piece → Bool
  | superCall _ | returnLine _ | returnText _ => true
  | _ => false

def isPlaced : Piece → Bool
  | packageLine _ | importLine _ | blank _ => false
  | _ => true

inductive Looks (piece : Piece) : Prop
  | verbatim {text : String} (hlines : piece.lines = [.verbatim text]) (hfree : Java.BraceFree text)
      (hplaced : piece.isPlaced = false) (hopens : piece.opens = false)
      (hcloses : piece.closes = false) (hending : piece.isEnding = false)
  | plain {line : String} {mode : Margin.Mode} (hlines : piece.lines = [.placed line mode])
      (hfree : Java.BraceFree line) (hplaced : piece.isPlaced = true) (hopens : piece.opens = false)
      (hcloses : piece.closes = false) (hending : piece.isEnding = decide (mode = .stepping))
  | opening {text : String} (hlines : piece.lines = [.placed (text ++ " \x7b") .stepping])
      (hfree : Java.BraceFree text) (hplaced : piece.isPlaced = true) (hopens : piece.opens = true)
      (hcloses : piece.closes = false) (hending : piece.isEnding = false)
  | catchAll {body : String} (hpiece : piece = .catchAll body) (hfree : Java.BraceFree body)
  | close (hpiece : piece = .close)

theorem Looks.head {head : Head} (h : head.piece.BraceFree) : head.piece.Looks := by
  obtain ⟨text, hfree, hline⟩ := exists_headLine h
  have hlines : head.piece.lines = [.placed (text ++ " \x7b") .stepping] := by
    rw [← hline]
    cases head <;> rfl
  cases head <;> exact .opening hlines hfree rfl rfl rfl rfl

theorem Looks.ending {ending : Ending} (h : ending.piece.BraceFree) : ending.piece.Looks := by
  have hlines : ending.piece.lines = [.placed ending.line .stepping] := by
    cases ending <;> rfl
  cases ending <;> exact .plain hlines (braceFree_endingLine h) rfl rfl rfl rfl

/-- The lines of a piece whose texts have no brace. -/
theorem BraceFree.looks {piece : Piece} (h : piece.BraceFree) : piece.Looks := by
  cases piece with
  | packageLine =>
    exact .verbatim rfl (.append (.append (by decide) h) (by decide)) rfl rfl rfl rfl
  | importLine =>
    exact .verbatim rfl (.append (.append (by decide) h) (by decide)) rfl rfl rfl rfl
  | blank count =>
    have hfree : ∀ brace ∈ (String.ofList (List.replicate count '\n')).toList, brace = '\n' := by
      rw [String.toList_ofList]
      exact fun brace => List.eq_of_mem_replicate
    exact .verbatim rfl ⟨fun hmem => absurd (hfree _ hmem) (by decide),
      fun hmem => absurd (hfree _ hmem) (by decide)⟩ rfl rfl rfl rfl
  | classHeader name superclass interface =>
    exact (.head h : (Head.classHead name superclass interface).piece.Looks)
  | constructorHeader name params => exact (.head h : (Head.constructorHead name params).piece.Looks)
  | methodHeader returnType name params =>
    exact (.head h : (Head.methodHead returnType name params).piece.Looks)
  | superCall argument => exact (.ending h : (Ending.superCall argument).piece.Looks)
  | returnLine expression => exact (.ending h : (Ending.returnLine expression).piece.Looks)
  | returnText text => exact (.ending h : (Ending.returnText text).piece.Looks)
  | tryHeader =>
    have htext : Java.BraceFree "try" := by decide
    exact .opening rfl htext rfl rfl rfl rfl
  | annotate => exact .plain rfl (.append (by decide) h) rfl rfl rfl rfl
  | statement => exact .plain rfl (.append h (by decide)) rfl rfl rfl rfl
  | catchAll => exact .catchAll rfl h
  | close => exact .close rfl

theorem Looks.braces_lines {piece : Piece} (h : piece.Looks) :
    braces '\x7b' piece.lines + [piece].countP closes =
      braces '\x7d' piece.lines + [piece].countP opens := by
  rw [List.countP_singleton, List.countP_singleton]
  cases h with
  | verbatim hlines hfree hplaced hopens hcloses hending =>
    have hline : Java.BraceFree (Line.verbatim _).text := hfree
    rw [hlines, (braces_of_braceFree hline).1, (braces_of_braceFree hline).2, hopens, hcloses]
  | @plain line mode hlines hfree hplaced hopens hcloses hending =>
    have hline : Java.BraceFree (Line.placed line mode).text := hfree
    rw [hlines, (braces_of_braceFree hline).1, (braces_of_braceFree hline).2, hopens, hcloses]
  | opening hlines hfree hplaced hopens hcloses hending =>
    rw [hlines, (braces_of_opening hfree .stepping).1, (braces_of_opening hfree .stepping).2, hopens,
      hcloses]
    rfl
  | @catchAll body hpiece hfree =>
    have hline : Java.BraceFree (Line.placed (body ++ ";") .stepping).text :=
      BraceFree.append hfree (by decide)
    have hlines : piece.lines = [.placed "\x7d catch(Exception e) \x7b" .stepping] ++
        ([.placed (body ++ ";") .stepping] ++ [.placed "\x7d" .level]) := hpiece ▸ rfl
    rw [hlines, braces_append, braces_append, braces_append, braces_append,
      (braces_of_braceFree hline).1, (braces_of_braceFree hline).2, hpiece]
    rfl
  | close hpiece =>
    rw [hpiece]
    decide

theorem Looks.behind_lines {piece : Piece} (h : piece.Looks) (margin : Margin) :
    margin.behind piece.lines =
      if piece.closes then ⟨margin.depth - 1, false⟩
      else if piece.isPlaced then ⟨margin.next, piece.opens || piece.isEnding⟩
      else margin := by
  cases h with
  | verbatim hlines hfree hplaced hopens hcloses hending =>
    rw [hlines, hcloses, hplaced]
    rfl
  | @plain line mode hlines hfree hplaced hopens hcloses hending =>
    simp [hlines, hcloses, hplaced, hopens, hending, (Margin.place_plain hfree.2 margin mode).2]
  | @opening text hlines hfree hplaced hopens hcloses hending =>
    have hline : Unclosed (text ++ " \x7b") := .append hfree.2 (by decide)
    simp [hlines, hcloses, hplaced, hopens, hending, (Margin.place_plain hline margin .stepping).2]
  | @catchAll body hpiece hfree =>
    have hline : Unclosed (body ++ ";") := .append hfree.2 (by decide)
    simp [hpiece, lines, closes, (Margin.place_catch margin).2,
      (Margin.place_plain hline _ .stepping).2, (Margin.place_close _ .level).2, Margin.next]
  | close hpiece =>
    simp [hpiece, lines, closes, (Margin.place_close margin .stepping).2]

end Piece

/-! ## Depths -/

/-- Whether the first of the pieces that is written at its margin closes no block. Lines that are
written as they are, such as empty ones, do not count. -/
def staysInside (pieces : List Piece) : Bool :=
  (pieces.find? Piece.isPlaced).any (!·.closes)

/-- How many last lines of bodies are followed by another line of the body. -/
def strays : List Piece → Nat
  | [] => 0
  | piece :: pieces => (piece.isEnding && staysInside pieces).toNat + strays pieces

theorem staysInside_of_placed {piece : Piece} (h : piece.isPlaced = true) (pieces : List Piece) :
    staysInside (piece :: pieces) = !piece.closes := by
  rw [staysInside, List.find?_cons_of_pos h]
  rfl

theorem staysInside_of_not_placed {piece : Piece} (h : piece.isPlaced = false)
    (pieces : List Piece) : staysInside (piece :: pieces) = staysInside pieces := by
  rw [staysInside, List.find?_cons_of_neg (by rw [h]; exact nofun)]
  rfl

/-- Whether the margin ahead of pieces is at most `limit` deep, and the next line too if it stays
inside the block. -/
structure Margin.Within (margin : Margin) (limit : Nat) (pieces : List Piece) : Prop where
  depth : margin.depth ≤ limit
  next : staysInside pieces = true → margin.next ≤ limit

/-- One piece. A last line that is followed by another counts as a block that is never closed. -/
theorem Piece.Looks.within {piece : Piece} (hpiece : piece.Looks) {pieces : List Piece}
    {margin : Margin} {limit : Nat} (h : margin.Within limit (piece :: pieces)) :
    (margin.behind piece.lines).Within
      (limit + piece.opens.toNat + (piece.isEnding && staysInside pieces).toNat -
        piece.closes.toNat) pieces := by
  have hbehind := hpiece.behind_lines margin
  have hclosing : Margin.Within ⟨margin.depth - 1, false⟩ (limit - 1) pieces :=
    ⟨Nat.sub_le_sub_right h.depth 1, fun _ => Nat.sub_le_sub_right h.depth 1⟩
  cases hpiece with
  | verbatim hlines hfree hplaced hopens hcloses hending =>
    rw [hcloses, hplaced] at hbehind
    rw [hbehind, hopens, hcloses, hending]
    exact ⟨h.depth, fun hstays => h.next ((staysInside_of_not_placed hplaced pieces).trans hstays)⟩
  | @plain line mode hlines hfree hplaced hopens hcloses hending =>
    have hnext := h.next (by rw [staysInside_of_placed hplaced, hcloses]; rfl)
    rw [hcloses, hplaced, hopens] at hbehind
    rw [hbehind, hopens, hcloses]
    refine ⟨Nat.le_add_right_of_le hnext, fun hstays => ?_⟩
    rw [hstays]
    cases piece.isEnding
    · exact hnext
    · exact Nat.succ_le_succ hnext
  | opening hlines hfree hplaced hopens hcloses hending =>
    have hnext := h.next (by rw [staysInside_of_placed hplaced, hcloses]; rfl)
    rw [hcloses, hplaced, hopens, hending] at hbehind
    rw [hbehind, hopens, hcloses, hending]
    exact ⟨Nat.le_succ_of_le hnext, fun _ => Nat.succ_le_succ hnext⟩
  | catchAll hpiece hfree =>
    rw [hbehind, hpiece]
    exact hclosing
  | close hpiece =>
    rw [hbehind, hpiece]
    exact hclosing

/-- **How deep pieces end**: no deeper than by the blocks they leave open and their strays. -/
theorem Margin.Within.depth_behind_le {pieces : List Piece} (hlooks : ∀ piece ∈ pieces, piece.Looks)
    {margin : Margin} {limit : Nat} (h : margin.Within limit pieces)
    (hfront : ∀ front, front <+: pieces →
      front.countP Piece.closes ≤ limit + front.countP Piece.opens) :
    (margin.behind (pieceLines pieces)).depth + pieces.countP Piece.closes ≤
      limit + pieces.countP Piece.opens + strays pieces := by
  induction pieces generalizing margin limit with
  | nil => exact h.depth
  | cons piece pieces ih =>
    rw [List.forall_mem_cons] at hlooks
    have hcount : ∀ (p : Piece → Bool) (rest : List Piece),
        (piece :: rest).countP p = rest.countP p + (p piece).toNat := by
      intro p rest
      rw [List.countP_cons]
      cases p piece <;> rfl
    have hfront' : ∀ front, front <+: pieces → front.countP Piece.closes + piece.closes.toNat ≤
        limit + (front.countP Piece.opens + piece.opens.toNat) := by
      intro front hprefix
      rw [← hcount, ← hcount]
      exact hfront (piece :: front) ((List.prefix_cons_inj piece).2 hprefix)
    have hhere := hfront' [] List.nil_prefix
    have hrest := ih hlooks.2 (hlooks.1.within h) fun front hprefix => by
      have hle := hfront' front hprefix
      omega
    rw [List.countP_nil, List.countP_nil] at hhere
    rw [pieceLines_cons, Margin.behind_append, hcount, hcount, strays]
    omega

/-! ## Nested pieces -/

theorem braces_pieceLines {pieces : List Piece} (h : ∀ piece ∈ pieces, piece.Looks) :
    braces '\x7b' (pieceLines pieces) + pieces.countP Piece.closes =
      braces '\x7d' (pieceLines pieces) + pieces.countP Piece.opens := by
  induction pieces with
  | nil => rfl
  | cons piece pieces ih =>
    rw [List.forall_mem_cons] at h
    have hpiece := h.1.braces_lines
    have hpieces := ih h.2
    rw [pieceLines_cons, braces_append, braces_append, ← List.singleton_append, List.countP_append,
      List.countP_append]
    omega

/-- Nested lines leave as many blocks open as there were, and the depth grows by strays only. -/
theorem Nested.depth_le {pieces : List Piece} (hfree : ∀ piece ∈ pieces, piece.BraceFree)
    (h : Nested (pieceLines pieces)) :
    (Margin.start.behind (pieceLines pieces)).depth ≤ strays pieces := by
  have hlooks : ∀ piece ∈ pieces, piece.Looks := fun piece hpiece => (hfree piece hpiece).looks
  have hstart : Margin.start.Within 0 pieces := ⟨Nat.le_refl 0, fun _ => Nat.le_refl 0⟩
  have hall := braces_pieceLines hlooks
  have hbehind := hstart.depth_behind_le hlooks fun front hprefix => by
    obtain ⟨back, rfl⟩ := hprefix
    have hfront := braces_pieceLines fun piece hpiece => hlooks piece (List.mem_append_left _ hpiece)
    have hnested := h.1 (pieceLines front) (pieceLines_append front back ▸ List.prefix_append _ _)
    omega
  have htotal := h.2
  omega

namespace Writer
open FileSystem (Handle)

/-- **Nested lines in a fresh file** are all written, and the writer ends no deeper than there are
strays among them: at the left margin, if there are none. -/
theorem depth_le_strays {pieces : List Piece} (hfree : ∀ piece ∈ pieces, piece.BraceFree)
    (hnested : Nested (pieceLines pieces)) {writer opened : Writer Handle} {fs fs' : FileSystem}
    (hopen : (writer.openFile : StateM FileSystem _).run fs = ((.ok (), opened), fs'))
    (hfile : fs'.isFileAt opened.path = true) :
    ∃ written fs'',
      (opened.writeAll pieces : StateM FileSystem _).run fs' = ((.ok (), written), fs'') ∧
        written.margin.depth ≤ strays pieces := by
  obtain ⟨-, hmargin, -⟩ := openFile_eq_ok hopen
  obtain ⟨written, fs'', hrun, -, hbehind, -⟩ :=
    (hasText_of_openFile hopen hfile).writeLines (pieceLines pieces)
  refine ⟨written, fs'', hrun, ?_⟩
  rw [hbehind, hmargin]
  exact hnested.depth_le hfree

theorem openFile_answer :
    ((Writer.ofPath ⟨"Answer.java"⟩).openFile : StateM FileSystem (Outcome Handle)).run
        ⟨[([], .directory)], []⟩ =
      ((.ok (), ⟨⟨"Answer.java"⟩, some ⟨["Answer.java"], 0⟩, .start⟩),
        ⟨[([], .directory), (["Answer.java"], .file [])], []⟩) :=
  rfl

/-- A class with a method that returns once. -/
def returningPieces : List Piece :=
  [.classHeader "Answer" none none, .methodHeader "int" "answer" [], .returnLine "42", .close,
    .blank 1, .close]

theorem depth_le_strays_returning :
    ∃ opened fs' written fs'',
      ((Writer.ofPath ⟨"Answer.java"⟩).openFile : StateM FileSystem (Outcome Handle)).run
          ⟨[([], .directory)], []⟩ = ((.ok (), opened), fs') ∧
        fs'.isFileAt opened.path = true ∧
          (∀ piece ∈ returningPieces, piece.BraceFree) ∧ Nested (pieceLines returningPieces) ∧
            (opened.writeAll returningPieces : StateM FileSystem _).run fs' =
                ((.ok (), written), fs'') ∧
              written.margin.depth ≤ 0 := by
  have hfree : ∀ piece ∈ returningPieces, piece.BraceFree := by decide
  have hnested : Nested (pieceLines returningPieces) := by decide
  obtain ⟨written, fs'', hrun, hdepth⟩ := depth_le_strays hfree hnested openFile_answer (by decide)
  exact ⟨_, _, written, fs'', openFile_answer, by decide, hfree, hnested, hrun, hdepth⟩

/-- A method that returns twice. -/
def returningTwicePieces : List Piece :=
  [.methodHeader "int" "answer" [], .returnLine "1", .returnLine "2", .close]

/-- The second of two `return` lines stands one deeper than the first, so that the brace behind it
does not come back to the left margin. -/
theorem depth_of_returning_twice :
    ∃ opened fs' written fs'',
      ((Writer.ofPath ⟨"Answer.java"⟩).openFile : StateM FileSystem (Outcome Handle)).run
          ⟨[([], .directory)], []⟩ = ((.ok (), opened), fs') ∧
        fs'.isFileAt opened.path = true ∧
          (∀ piece ∈ returningTwicePieces, piece.BraceFree) ∧
            Nested (pieceLines returningTwicePieces) ∧
              (opened.writeAll returningTwicePieces : StateM FileSystem _).run fs' =
                  ((.ok (), written), fs'') ∧
                written.margin.depth = 1 := by
  obtain ⟨written, fs'', hrun, -, hbehind, -⟩ :=
    (hasText_of_openFile openFile_answer (by decide)).writeLines (pieceLines returningTwicePieces)
  refine ⟨_, _, written, fs'', openFile_answer, by decide, by decide, by decide, hrun, ?_⟩
  rw [hbehind]
  decide

end Writer

end ReactBridge.Java
