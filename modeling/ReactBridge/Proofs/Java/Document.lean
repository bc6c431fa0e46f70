import Mathlib.Data.List.Infix
import ReactBridge.Java.Piece

/-!
# Texts with a tree of blocks

The writer of Java text sees lines, and no blocks. Here the blocks are a tree, and the tree says
how deep each line stands.

* `Item`, `BodyOf`: blocks and what stands in them;
* `Item.pieces`, `Item.render` : the pieces that an item is written from, and its text;
* `Margin.written`, `Margin.behind` : the text of lines at a margin, and the margin behind them;
* `Traces` : pieces that write a text and lead from one depth to another;
* `Item.Settles` : an item that writes its text wherever it stands;
* `traces_document` : a whole document.
-/

namespace ReactBridge.Java

/-! ## Documents -/

inductive Head where
  | classHead (name : String) (superclass interface : Option String)
  | constructorHead (name : String) (params : List Param)
  | methodHead (returnType name : String) (params : List Param)

/-- The last line of a body, if it is none of its items. -/
inductive Ending where
  | superCall (argument : String)
  | returnLine (expression : String)
  | returnText (text : String)

/-- What stands between two braces: items, and perhaps a last line. Behind that line only blanks
can follow. -/
structure BodyOf (α : Type) where
  items : List α
  ending : Option (Ending × List Nat)

inductive Item where
  | blank (count : Nat)
  | annotate (name : String)
  | statement (text : String)
  | block (head : Head) (body : BodyOf Item)
  /-- A `try` with a handler of one statement. -/
  | attempt (body : BodyOf Item) (handler : String)

abbrev Body := BodyOf Item

def Item.isBlank : Item → Bool
  | blank _ => true
  | _ => false

/-- Whether a line stands in the body. -/
def BodyOf.HasLine (body : Body) : Prop :=
  body.ending.isSome = true ∨ ∃ item ∈ body.items, item.isBlank = false

/-- Whether a line stands in each body of the item. -/
inductive Item.Filled : Item → Prop
  | blank (count : Nat) : Filled (.blank count)
  | annotate (name : String) : Filled (.annotate name)
  | statement (text : String) : Filled (.statement text)
  | block (head : Head) {body : Body} (hitems : ∀ item ∈ body.items, Filled item)
      (hline : body.HasLine) : Filled (.block head body)
  | attempt {body : Body} (handler : String) (hitems : ∀ item ∈ body.items, Filled item)
      (hline : body.HasLine) : Filled (.attempt body handler)

/-! ## Pieces -/

def Head.piece : Head → Piece
  | classHead name superclass interface => .classHeader name superclass interface
  | constructorHead name params => .constructorHeader name params
  | methodHead returnType name params => .methodHeader returnType name params

def Ending.piece : Ending → Piece
  | superCall argument => .superCall argument
  | returnLine expression => .returnLine expression
  | returnText text => .returnText text

/-- The pieces of a last line and of the blanks behind it. -/
def endingPieces : Option (Ending × List Nat) → List Piece
  | some (ending, blanks) => ending.piece :: blanks.map .blank
  | none => []

mutual

def Item.pieces : Item → List Piece
  | .blank count => [.blank count]
  | .annotate name => [.annotate name]
  | .statement text => [.statement text]
  | .block head body => head.piece :: (bodyPieces body ++ [.close])
  | .attempt body handler => .tryHeader :: (bodyPieces body ++ [.catchAll handler])

def bodyPieces : Body → List Piece
  | ⟨items, ending⟩ => itemsPieces items ++ endingPieces ending

def itemsPieces : List Item → List Piece
  | [] => []
  | item :: items => item.pieces ++ itemsPieces items

end

/-! ## Texts -/

def Head.line : Head → String
  | classHead name superclass interface =>
    "public class " ++ name ++ classClause "extends" superclass ++
      classClause "implements" interface ++ " \x7b"
  | constructorHead name params => "public " ++ name ++ "(" ++ renderParams params ++ ") \x7b"
  | methodHead returnType name params =>
    "public " ++ returnType ++ " " ++ name ++ "(" ++ renderParams params ++ ") \x7b"

def Ending.line : Ending → String
  | superCall argument => "super(" ++ argument ++ ");"
  | returnLine expression => "return " ++ expression ++ ";"
  | returnText text => "return \"" ++ text ++ "\";"

def tabbed (depth : Nat) (line : String) : String :=
  String.ofList (List.replicate depth '\t') ++ line ++ "\n"

def emptyLines (count : Nat) : String :=
  String.ofList (List.replicate count '\n')

def renderEnding (depth : Nat) : Option (Ending × List Nat) → String
  | some (ending, blanks) => tabbed depth ending.line ++ String.join (blanks.map emptyLines)
  | none => ""

mutual

/-- The text of an item inside `depth` blocks. -/
def Item.render (depth : Nat) : Item → String
  | .blank count => emptyLines count
  | .annotate name => tabbed depth ("@" ++ name)
  | .statement text => tabbed depth (text ++ ";")
  | .block head body =>
    tabbed depth head.line ++ renderBody (depth + 1) body ++ tabbed depth "\x7d"
  | .attempt body handler =>
    tabbed depth "try \x7b" ++ renderBody (depth + 1) body ++
      tabbed depth "\x7d catch(Exception e) \x7b" ++ tabbed (depth + 1) (handler ++ ";") ++
        tabbed depth "\x7d"

def renderBody (depth : Nat) : Body → String
  | ⟨items, ending⟩ => renderItems depth items ++ renderEnding depth ending

def renderItems (depth : Nat) : List Item → String
  | [] => ""
  | item :: items => item.render depth ++ renderItems depth items

end

/-! ## Braces -/

def BraceFree (text : String) : Prop :=
  '\x7b' ∉ text.toList ∧ '\x7d' ∉ text.toList

def Param.BraceFree (param : Param) : Prop :=
  Java.BraceFree param.type ∧ Java.BraceFree param.name

/-- Whether none of the texts that a piece is made from has a brace. -/
def Piece.BraceFree : Piece → Prop
  | packageLine package => Java.BraceFree package
  | importLine name => Java.BraceFree name
  | classHeader name superclass interface =>
    Java.BraceFree name ∧ (∀ text ∈ superclass, Java.BraceFree text) ∧
      ∀ text ∈ interface, Java.BraceFree text
  | constructorHeader name params => Java.BraceFree name ∧ ∀ param ∈ params, param.BraceFree
  | superCall argument => Java.BraceFree argument
  | annotate name => Java.BraceFree name
  | methodHeader returnType name params =>
    Java.BraceFree returnType ∧ Java.BraceFree name ∧ ∀ param ∈ params, param.BraceFree
  | statement body => Java.BraceFree body
  | tryHeader => True
  | catchAll body => Java.BraceFree body
  | returnLine expression => Java.BraceFree expression
  | returnText text => Java.BraceFree text
  | blank _ => True
  | close => True

instance : DecidablePred BraceFree := fun text =>
  inferInstanceAs (Decidable ('\x7b' ∉ text.toList ∧ '\x7d' ∉ text.toList))

instance : DecidablePred Param.BraceFree := fun param =>
  inferInstanceAs (Decidable (BraceFree param.type ∧ BraceFree param.name))

instance : DecidablePred Piece.BraceFree
  | .packageLine text | .importLine text | .superCall text | .annotate text | .statement text
  | .catchAll text | .returnLine text | .returnText text =>
    inferInstanceAs (Decidable (BraceFree text))
  | .classHeader name superclass interface =>
    inferInstanceAs (Decidable (BraceFree name ∧ (∀ text ∈ superclass, BraceFree text) ∧
      ∀ text ∈ interface, BraceFree text))
  | .constructorHeader name params =>
    inferInstanceAs (Decidable (BraceFree name ∧ ∀ param ∈ params, param.BraceFree))
  | .methodHeader returnType name params =>
    inferInstanceAs (Decidable (BraceFree returnType ∧ BraceFree name ∧
      ∀ param ∈ params, param.BraceFree))
  | .tryHeader | .blank _ | .close => inferInstanceAs (Decidable True)

theorem BraceFree.append {s t : String} (hs : BraceFree s) (ht : BraceFree t) :
    BraceFree (s ++ t) := by
  rw [BraceFree, String.toList_append, List.mem_append, List.mem_append, not_or, not_or]
  exact ⟨⟨hs.1, ht.1⟩, hs.2, ht.2⟩

theorem BraceFree.of_append {s t : String} (h : BraceFree (s ++ t)) : BraceFree s := by
  rw [BraceFree, String.toList_append, List.mem_append, List.mem_append, not_or, not_or] at h
  exact ⟨h.1.1, h.2.1⟩

theorem braceFree_intercalate {separator : String} (hseparator : BraceFree separator)
    {texts : List String} (h : ∀ text ∈ texts, BraceFree text) :
    BraceFree (separator.intercalate texts) := by
  induction texts with
  | nil =>
    rw [String.intercalate_nil]
    decide
  | cons text texts ih =>
    rw [List.forall_mem_cons] at h
    cases texts with
    | nil =>
      rw [String.intercalate_singleton]
      exact h.1
    | cons next texts =>
      rw [String.intercalate_cons_cons]
      exact .append (.append h.1 hseparator) (ih h.2)

/-- Whether a text closes no block. -/
def Unclosed (text : String) : Prop :=
  '\x7d' ∉ text.toList

instance (text : String) : Decidable (Unclosed text) :=
  inferInstanceAs (Decidable ('\x7d' ∉ text.toList))

theorem Unclosed.append {s t : String} (hs : Unclosed s) (ht : Unclosed t) : Unclosed (s ++ t) := by
  rw [Unclosed, String.toList_append, List.mem_append, not_or]
  exact ⟨hs, ht⟩

theorem braceFree_renderParams {params : List Param} (h : ∀ param ∈ params, param.BraceFree) :
    BraceFree (renderParams params) := by
  have hparams : ∀ text ∈ params.map Param.render, BraceFree text := by
    intro text htext
    obtain ⟨param, hmem, rfl⟩ := List.mem_map.1 htext
    obtain ⟨htype, hname⟩ := h param hmem
    rw [Param.render]
    split
    · exact hname
    · exact .append (.append htype (by decide)) hname
  exact braceFree_intercalate (by decide) hparams

theorem braceFree_classClause {keyword : String} (hkeyword : BraceFree keyword)
    {name : Option String} (h : ∀ text ∈ name, BraceFree text) :
    BraceFree (classClause keyword name) := by
  unfold classClause
  split
  · next text =>
    split
    · decide
    · exact .append (.append (.append (by decide) hkeyword) (by decide)) (h text rfl)
  · decide

theorem append_closing_paren (text : String) :
    text ++ ") \x7b" = text ++ ")" ++ " \x7b" := by
  rw [String.append_assoc]
  rfl

/-- The one brace in the head of a block is its last character. -/
theorem exists_headLine {head : Head} (h : head.piece.BraceFree) :
    ∃ text, BraceFree text ∧ head.line = text ++ " \x7b" := by
  cases head with
  | classHead name superclass interface =>
    obtain ⟨hname, hsuperclass, hinterface⟩ := h
    refine ⟨_, .append (.append (.append (by decide) hname) ?_) ?_, rfl⟩
    · exact braceFree_classClause (by decide) hsuperclass
    · exact braceFree_classClause (by decide) hinterface
  | constructorHead name params =>
    refine ⟨"public " ++ name ++ "(" ++ renderParams params ++ ")", ?_, ?_⟩
    · exact .append (.append (.append (.append (by decide) h.1) (by decide))
        (braceFree_renderParams h.2)) (by decide)
    · exact append_closing_paren _
  | methodHead returnType name params =>
    obtain ⟨htype, hname, hparams⟩ := h
    refine ⟨"public " ++ returnType ++ " " ++ name ++ "(" ++ renderParams params ++ ")", ?_, ?_⟩
    · exact .append (.append (.append (.append (.append (.append (by decide) htype) (by decide))
        hname) (by decide)) (braceFree_renderParams hparams)) (by decide)
    · exact append_closing_paren _

theorem unclosed_headLine {head : Head} (h : head.piece.BraceFree) : Unclosed head.line := by
  obtain ⟨text, htext, hline⟩ := exists_headLine h
  rw [hline]
  exact .append htext.2 (by decide)

theorem braceFree_endingLine {ending : Ending} (h : ending.piece.BraceFree) :
    BraceFree ending.line := by
  cases ending <;> exact .append (.append (by decide) h) (by decide)

/-! ## Margins -/

namespace Margin

def written (margin : Margin) : List Line → String
  | [] => ""
  | .verbatim text :: lines => text ++ margin.written lines
  | .placed text mode :: lines =>
    (margin.place text mode).1 ++ "\n" ++ (margin.place text mode).2.written lines

def behind (margin : Margin) : List Line → Margin
  | [] => margin
  | .verbatim _ :: lines => margin.behind lines
  | .placed text mode :: lines => (margin.place text mode).2.behind lines

section
variable (margin : Margin) (text : String) (mode : Mode) (lines : List Line)

@[simp, grind =]
theorem written_nil : margin.written [] = "" := rfl

@[simp, grind =]
theorem written_verbatim :
    margin.written (.verbatim text :: lines) = text ++ margin.written lines := rfl

@[simp, grind =]
theorem written_placed : margin.written (.placed text mode :: lines) =
    (margin.place text mode).1 ++ "\n" ++ (margin.place text mode).2.written lines := rfl

@[simp, grind =]
theorem behind_nil : margin.behind [] = margin := rfl

@[simp, grind =]
theorem behind_verbatim : margin.behind (.verbatim text :: lines) = margin.behind lines := rfl

@[simp, grind =]
theorem behind_placed : margin.behind (.placed text mode :: lines) =
    (margin.place text mode).2.behind lines := rfl

end

@[simp, grind =]
theorem written_append (margin : Margin) (first second : List Line) :
    margin.written (first ++ second) =
      margin.written first ++ (margin.behind first).written second := by
  induction first generalizing margin with
  | nil => simp
  | cons line first ih => cases line <;> simp [ih, String.append_assoc]

@[simp, grind =]
theorem behind_append (margin : Margin) (first second : List Line) :
    margin.behind (first ++ second) = (margin.behind first).behind second := by
  induction first generalizing margin with
  | nil => rfl
  | cons line first ih => cases line <;> exact ih _

theorem written_cons (margin : Margin) (line : Line) (lines : List Line) :
    margin.written (line :: lines) = margin.written [line] ++ (margin.behind [line]).written lines :=
  written_append margin [line] lines

theorem behind_cons (margin : Margin) (line : Line) (lines : List Line) :
    margin.behind (line :: lines) = (margin.behind [line]).behind lines :=
  behind_append margin [line] lines

/-- The depth of the next plain line. -/
def next (margin : Margin) : Nat :=
  if margin.pending then margin.depth + 1 else margin.depth

/-- The margin behind items: that ahead of them if they are `blank`, else that of the blocks around
them. -/
def past (margin : Margin) (blank : Bool) : Margin :=
  if blank then margin else ⟨margin.next, false⟩

theorem next_past (margin : Margin) (blank : Bool) : (margin.past blank).next = margin.next := by
  cases blank <;> rfl

theorem past_past (margin : Margin) (blank blank' : Bool) :
    (margin.past blank).past blank' = margin.past (blank && blank') := by
  cases blank <;> cases blank' <;> rfl

theorem shape_of_unclosed {line : String} (h : Unclosed line) : Shape.of line = .plain := by
  have hclose : line ≠ "\x7d" := by
    rintro rfl
    exact h (by decide)
  rw [Shape.of, if_neg hclose, if_neg (by rwa [List.contains_iff_mem])]

theorem place_plain {line : String} (h : Unclosed line) (margin : Margin) (mode : Mode) :
    (margin.place line mode).1 ++ "\n" = tabbed margin.next line ∧
      (margin.place line mode).2 = ⟨margin.next, decide (mode = .stepping)⟩ := by
  obtain ⟨depth, pending⟩ := margin
  rw [place, enter, settle, shape_of_unclosed h]
  cases pending <;> cases mode <;> exact ⟨rfl, rfl⟩

theorem place_close (margin : Margin) (mode : Mode) :
    (margin.place "\x7d" mode).1 ++ "\n" = tabbed (margin.depth - 1) "\x7d" ∧
      (margin.place "\x7d" mode).2 = ⟨margin.depth - 1, false⟩ := by
  cases mode <;> exact ⟨rfl, rfl⟩

theorem place_catch (margin : Margin) :
    (margin.place "\x7d catch(Exception e) \x7b" .stepping).1 ++ "\n" =
        tabbed (margin.depth - 1) "\x7d catch(Exception e) \x7b" ∧
      (margin.place "\x7d catch(Exception e) \x7b" .stepping).2 = ⟨margin.depth - 1, true⟩ := by
  have hshape : Shape.of "\x7d catch(Exception e) \x7b" = .closing true := by decide
  rw [place, enter, settle, hshape]
  exact ⟨rfl, rfl⟩

end Margin

/-! ## Traces -/

def pieceLines (pieces : List Piece) : List Line :=
  pieces.flatMap Piece.lines

def Piece.opens : Piece → Bool
  | classHeader _ _ _ | constructorHeader _ _ | methodHeader _ _ _ | tryHeader => true
  | _ => false

/-- Whether the piece ends in the line that closes a block. -/
def Piece.closes : Piece → Bool
  | close | catchAll _ => true
  | _ => false

/-- Pieces from inside `depth` blocks to inside `depth'` blocks: they write `text`, and wherever a
block is closed on the way, the margin is that of the blocks still open. -/
structure Traces (depth depth' : Nat) (before after : Margin) (pieces : List Piece)
    (text : String) : Prop where
  written : before.written (pieceLines pieces) = text
  behind : before.behind (pieceLines pieces) = after
  blocks : depth' + pieces.countP Piece.closes = depth + pieces.countP Piece.opens
  closings : ∀ ahead, ahead <+: pieces → (∃ last ∈ ahead.getLast?, last.closes = true) →
    (before.behind (pieceLines ahead)).depth + ahead.countP Piece.closes =
      depth + ahead.countP Piece.opens

@[simp]
theorem pieceLines_nil : pieceLines [] = [] := rfl

@[simp]
theorem pieceLines_cons (piece : Piece) (pieces : List Piece) :
    pieceLines (piece :: pieces) = piece.lines ++ pieceLines pieces :=
  List.flatMap_cons

@[simp]
theorem pieceLines_append (first second : List Piece) :
    pieceLines (first ++ second) = pieceLines first ++ pieceLines second :=
  List.flatMap_append

namespace Traces

variable {depth depth' depth'' : Nat} {before mid after : Margin} {first second : List Piece}
  {text text' : String}

theorem nil (depth : Nat) (margin : Margin) : Traces depth depth margin margin [] "" := by
  refine ⟨rfl, rfl, rfl, fun ahead hahead ⟨last, hlast, _⟩ => ?_⟩
  rw [List.prefix_nil.1 hahead] at hlast
  cases hlast

theorem append (h : Traces depth depth' before mid first text)
    (h' : Traces depth' depth'' mid after second text') :
    Traces depth depth'' before after (first ++ second) (text ++ text') where
  written := by simp [h.written, h.behind, h'.written]
  behind := by simp [h.behind, h'.behind]
  blocks := by
    have hfirst := h.blocks
    have hsecond := h'.blocks
    rw [List.countP_append, List.countP_append]
    omega
  closings := by
    intro ahead hahead hlast
    obtain ⟨rest, hrest⟩ := hahead
    rcases List.append_eq_append_iff.1 hrest with ⟨more, hfirst, -⟩ | ⟨more, rfl, hsecond⟩
    · exact h.closings ahead ⟨more, hfirst.symm⟩ hlast
    rcases eq_or_ne more [] with rfl | hmore
    · rw [List.append_nil] at hlast ⊢
      exact h.closings first List.prefix_rfl hlast
    · rw [List.getLast?_append_of_ne_nil _ hmore] at hlast
      have hinner := h'.closings more ⟨rest, hsecond.symm⟩ hlast
      have houter := h.blocks
      rw [pieceLines_append, Margin.behind_append, h.behind, List.countP_append, List.countP_append]
      omega

theorem single {piece : Piece} (hwritten : before.written piece.lines = text)
    (hbehind : before.behind piece.lines = after)
    (hblocks : depth' + [piece].countP Piece.closes = depth + [piece].countP Piece.opens)
    (hclosing : piece.closes = true → after.depth = depth') :
    Traces depth depth' before after [piece] text := by
  have hlines : pieceLines [piece] = piece.lines := List.append_nil _
  refine ⟨by rw [hlines, hwritten], by rw [hlines, hbehind], hblocks, ?_⟩
  rintro ahead hahead ⟨last, hlast, hcloses⟩
  rcases List.prefix_cons_iff.1 hahead with rfl | ⟨more, rfl, hmore⟩
  · cases hlast
  · rw [List.prefix_nil.1 hmore] at hlast ⊢
    obtain rfl := Option.some.inj hlast
    rw [hlines, hbehind, hclosing hcloses, hblocks]

theorem plain (margin : Margin) (piece : Piece) (mode : Margin.Mode) {line : String}
    (hlines : piece.lines = [.placed line mode]) (hline : Unclosed line)
    (hcloses : piece.closes = false) (hopens : depth = margin.next + [piece].countP Piece.opens) :
    Traces margin.next depth margin ⟨margin.next, decide (mode = .stepping)⟩ [piece]
      (tabbed margin.next line) := by
  obtain ⟨htext, hmargin⟩ := Margin.place_plain hline margin mode
  refine single ?_ ?_ ?_ fun h => ?_
  · simp [hlines, htext]
  · simp [hlines, hmargin]
  · have hnone : [piece].countP Piece.closes = 0 := List.countP_eq_zero.2 (by simp [hcloses])
    rw [hopens, hnone, Nat.add_zero]
  · rw [hcloses] at h
    cases h

theorem verbatim {piece : Piece} (hlines : piece.lines = [.verbatim text])
    (hopens : piece.opens = false) (hcloses : piece.closes = false) (margin : Margin) :
    Traces depth depth margin margin [piece] text := by
  refine single ?_ ?_ ?_ fun h => ?_
  · simp [hlines]
  · simp [hlines]
  · rw [List.countP_singleton, List.countP_singleton, hopens, hcloses]
  · rw [hcloses] at h
    cases h

theorem close (h : before.depth = depth + 1) :
    Traces (depth + 1) depth before ⟨depth, false⟩ [.close] (tabbed depth "\x7d") := by
  obtain ⟨htext, hmargin⟩ := Margin.place_close before .stepping
  rw [h, Nat.add_sub_cancel] at htext hmargin
  refine single ?_ ?_ rfl fun _ => rfl
  · simp [Piece.lines, htext]
  · simp [Piece.lines, hmargin]

theorem catchAll {handler : String} (hhandler : Unclosed handler)
    (h : before.depth = depth + 1) :
    Traces (depth + 1) depth before ⟨depth, false⟩ [.catchAll handler]
      (tabbed depth "\x7d catch(Exception e) \x7b" ++ tabbed (depth + 1) (handler ++ ";") ++
        tabbed depth "\x7d") := by
  obtain ⟨hcatch, hcatch'⟩ := Margin.place_catch before
  rw [h, Nat.add_sub_cancel] at hcatch hcatch'
  have hline : Unclosed (handler ++ ";") := hhandler.append (by decide)
  obtain ⟨hbody, hbody'⟩ : (Margin.place ⟨depth, true⟩ (handler ++ ";") .stepping).1 ++ "\n" =
        tabbed (depth + 1) (handler ++ ";") ∧
      (Margin.place ⟨depth, true⟩ (handler ++ ";") .stepping).2 = ⟨depth + 1, true⟩ :=
    Margin.place_plain hline ⟨depth, true⟩ .stepping
  obtain ⟨hclose, hclose'⟩ : (Margin.place ⟨depth + 1, true⟩ "\x7d" .level).1 ++ "\n" =
        tabbed depth "\x7d" ∧
      (Margin.place ⟨depth + 1, true⟩ "\x7d" .level).2 = ⟨depth, false⟩ :=
    Margin.place_close ⟨depth + 1, true⟩ .level
  refine single ?_ ?_ rfl fun _ => rfl
  · simp [Piece.lines, hcatch, hcatch', hbody, hbody', hclose, String.append_assoc]
  · simp [Piece.lines, hcatch', hbody', hclose']

end Traces

/-! ## Items -/

theorem itemsPieces_eq_flatMap (items : List Item) : itemsPieces items = items.flatMap Item.pieces := by
  induction items with
  | nil => rfl
  | cons item items ih => rw [itemsPieces, ih, List.flatMap_cons]

@[simp]
theorem itemsPieces_append (first second : List Item) :
    itemsPieces (first ++ second) = itemsPieces first ++ itemsPieces second := by
  simp only [itemsPieces_eq_flatMap, List.flatMap_append]

theorem pieces_subset_itemsPieces {item : Item} {items : List Item} (h : item ∈ items) :
    item.pieces ⊆ itemsPieces items := by
  rw [itemsPieces_eq_flatMap]
  exact fun piece hpiece => List.mem_flatMap_of_mem h hpiece

/-- Whether an item writes its text wherever it stands, and leaves the margin of the blocks around
it; empty lines leave the margin that they find. -/
def Item.Settles (item : Item) : Prop :=
  ∀ margin : Margin, Traces margin.next margin.next margin (margin.past item.isBlank) item.pieces
    (item.render margin.next)

theorem traces_items {items : List Item} (h : ∀ item ∈ items, item.Settles) (margin : Margin) :
    Traces margin.next margin.next margin (margin.past (items.all Item.isBlank))
      (itemsPieces items) (renderItems margin.next items) := by
  induction items generalizing margin with
  | nil => exact .nil margin.next margin
  | cons item items ih =>
    rw [List.forall_mem_cons] at h
    have hitems := ih h.2 (margin.past item.isBlank)
    rw [Margin.next_past, Margin.past_past] at hitems
    exact (h.1 margin).append hitems

theorem traces_blanks (depth : Nat) (margin : Margin) (counts : List Nat) :
    Traces depth depth margin margin (counts.map .blank) (String.join (counts.map emptyLines)) := by
  induction counts with
  | nil => exact .nil depth margin
  | cons count counts ih =>
    rw [List.map_cons, List.map_cons, String.join_cons]
    exact Traces.append (.verbatim rfl rfl rfl margin) ih

theorem traces_ending {ending : Ending} (hfree : ending.piece.BraceFree) (margin : Margin) :
    Traces margin.next margin.next margin ⟨margin.next, true⟩ [ending.piece]
      (tabbed margin.next ending.line) := by
  cases ending with
  | superCall | returnLine | returnText =>
    exact .plain margin _ .stepping rfl (braceFree_endingLine hfree).2 rfl rfl

/-- What a body needs to end at its own depth: its items settle, its last line closes no block, and
it has a line. -/
structure BodyOf.Settles (body : Body) : Prop where
  items : ∀ item ∈ body.items, item.Settles
  ending : ∀ last ∈ body.ending, last.1.piece.BraceFree
  line : body.HasLine

theorem BodyOf.Settles.of_ending {items : List Item} {ending : Ending} {blanks : List Nat}
    (hitems : ∀ item ∈ items, item.Settles) (hending : ending.piece.BraceFree) :
    (⟨items, some (ending, blanks)⟩ : Body).Settles := by
  refine ⟨hitems, ?_, .inl rfl⟩
  rintro last ⟨⟩
  exact hending

theorem BodyOf.Settles.of_items {items : List Item} (hitems : ∀ item ∈ items, item.Settles)
    (item : Item) (hitem : item ∈ items) (hblank : item.isBlank = false) :
    (⟨items, none⟩ : Body).Settles :=
  ⟨hitems, nofun, .inr ⟨item, hitem, hblank⟩⟩

/-- A body ends at its own depth. -/
theorem BodyOf.Settles.traces {body : Body} (h : body.Settles) (margin : Margin) :
    ∃ after, after.depth = margin.next ∧ Traces margin.next margin.next margin after
      (bodyPieces body) (renderBody margin.next body) := by
  obtain ⟨items, ending⟩ := body
  have htraces := traces_items h.items margin
  rw [bodyPieces, renderBody]
  cases ending with
  | none =>
    obtain ⟨item, hitem, hblank⟩ : ∃ item ∈ items, item.isBlank = false :=
      h.line.resolve_left nofun
    have hall : items.all Item.isBlank = false := by
      rw [List.all_eq_false]
      exact ⟨item, hitem, by rw [hblank]; exact nofun⟩
    rw [hall] at htraces
    exact ⟨⟨margin.next, false⟩, rfl, htraces.append (.nil margin.next _)⟩
  | some last =>
    have hending := traces_ending (h.ending last rfl) (margin.past (items.all Item.isBlank))
    rw [Margin.next_past] at hending
    exact ⟨⟨margin.next, true⟩, rfl,
      htraces.append (hending.append (traces_blanks margin.next _ last.2))⟩

theorem traces_head {head : Head} (hfree : head.piece.BraceFree) (margin : Margin) :
    Traces margin.next (margin.next + 1) margin ⟨margin.next, true⟩ [head.piece]
      (tabbed margin.next head.line) := by
  cases head with
  | classHead | constructorHead | methodHead =>
    exact .plain margin _ .stepping rfl (unclosed_headLine hfree) rfl rfl

namespace Item.Settles

theorem blank (count : Nat) : (Item.blank count).Settles :=
  fun margin => .verbatim rfl rfl rfl margin

theorem annotate {name : String} (h : BraceFree name) : (Item.annotate name).Settles := by
  have hline : Unclosed ("@" ++ name) := .append (by decide) h.2
  exact fun margin => .plain margin (.annotate name) .level rfl hline rfl rfl

theorem statement {text : String} (h : BraceFree text) : (Item.statement text).Settles := by
  have hline : Unclosed (text ++ ";") := .append h.2 (by decide)
  exact fun margin => .plain margin (.statement text) .level rfl hline rfl rfl

theorem block {head : Head} {body : Body} (hhead : head.piece.BraceFree) (hbody : body.Settles) :
    (Item.block head body).Settles := by
  intro margin
  obtain ⟨after, hdepth, htraces⟩ := hbody.traces ⟨margin.next, true⟩
  rw [Item.render, String.append_assoc]
  exact (traces_head hhead margin).append (htraces.append (.close hdepth))

theorem attempt {body : Body} {handler : String} (hbody : body.Settles)
    (hhandler : BraceFree handler) : (Item.attempt body handler).Settles := by
  intro margin
  obtain ⟨after, hdepth, htraces⟩ := hbody.traces ⟨margin.next, true⟩
  have htry := Traces.plain margin .tryHeader .stepping rfl (by decide) rfl rfl
  have hall := htry.append (htraces.append (.catchAll hhandler.2 hdepth))
  rw [Item.render]
  simp only [String.append_assoc] at hall ⊢
  exact hall

end Item.Settles

theorem BodyOf.Settles.of_braceFree {body : Body} (hfree : ∀ piece ∈ bodyPieces body, piece.BraceFree)
    (hitems : ∀ item ∈ body.items, (∀ piece ∈ item.pieces, piece.BraceFree) → item.Settles)
    (hline : body.HasLine) : body.Settles := by
  obtain ⟨items, ending⟩ := body
  rw [bodyPieces, List.forall_mem_append] at hfree
  refine ⟨fun item hitem => hitems item hitem fun piece hpiece => ?_, ?_, hline⟩
  · exact hfree.1 piece (pieces_subset_itemsPieces hitem hpiece)
  · rintro last rfl
    exact hfree.2 _ List.mem_cons_self

/-- **Items settle**, by induction on the tree. -/
theorem Item.Filled.settles {item : Item} (h : item.Filled)
    (hfree : ∀ piece ∈ item.pieces, piece.BraceFree) : item.Settles := by
  induction h with
  | blank count => exact .blank count
  | annotate name => exact .annotate (hfree _ List.mem_cons_self)
  | statement text => exact .statement (hfree _ List.mem_cons_self)
  | @block head body hitems hline ih =>
    rw [Item.pieces, List.forall_mem_cons, List.forall_mem_append] at hfree
    obtain ⟨hhead, hbody, -⟩ := hfree
    exact .block hhead (.of_braceFree hbody ih hline)
  | @attempt body handler hitems hline ih =>
    rw [Item.pieces, List.forall_mem_cons, List.forall_mem_append, List.forall_mem_singleton]
      at hfree
    obtain ⟨-, hbody, hhandler⟩ := hfree
    exact .attempt (.of_braceFree hbody ih hline) hhandler

/-- Items at the left margin write their text, and end at the left margin. -/
theorem traces_start {items : List Item} (h : ∀ item ∈ items, item.Settles) :
    Traces 0 0 .start .start (itemsPieces items) (renderItems 0 items) := by
  have htraces := traces_items h .start
  have hpast : Margin.start.past (items.all Item.isBlank) = .start := by
    cases items.all Item.isBlank <;> rfl
  rwa [hpast] at htraces

/-- **A document at the left margin** writes the text of its tree, and ends at the left margin. -/
theorem traces_document {items : List Item} (hfilled : ∀ item ∈ items, item.Filled)
    (hfree : ∀ piece ∈ itemsPieces items, piece.BraceFree) :
    Traces 0 0 .start .start (itemsPieces items) (renderItems 0 items) :=
  traces_start fun item hitem => (hfilled item hitem).settles fun piece hpiece =>
    hfree piece (pieces_subset_itemsPieces hitem hpiece)

end ReactBridge.Java
