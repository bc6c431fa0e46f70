import ReactBridge.Go.Syntax
import ReactBridge.Proofs.Go.Relex

/-!
# Files that can be written down

* `TypeExpr.WellFormed`, `FuncDecl.WellFormed`, `SourceFile.WellFormed` : what a file can hold;
* `TypeExpr.kinds`, `Field.kinds`, `FuncDecl.kinds` : the tokens of its parts, in order;
* `SourceFile.print` : the file as text, a line for the package and one for each function;
* `tokenize_print` : the tokens of that text are the tokens of the parts, with a semicolon behind
  each line.
-/

namespace ReactBridge.Go

/-! ## Well-formed files -/

namespace TypeExpr

/-- The type of one argument for a field of this type. -/
def item : TypeExpr → TypeExpr
  | variadic elem => elem
  | type => type

/-- Whether the type is a name, plain or qualified. -/
def isName : TypeExpr → Bool
  | named _ | qualified _ _ => true
  | _ => false

/-- Whether the type is an instance of a type with a plain name. In a parameter list its text reads
as a name in front of an array type. -/
def isPlainInstance : TypeExpr → Bool
  | generic (named _) _ => true
  | _ => false

def isReceiver : TypeExpr → Bool
  | chan .receive _ => true
  | _ => false

end TypeExpr

/-- What lists of parameters and of results have in common: either no field has a name or each field
has one, and names are identifiers. -/
structure NamedAlike (fields : List Field) : Prop where
  identifiers : ∀ field ∈ fields, ∀ name ∈ field.names, IsIdentifier name
  alike : (∀ field ∈ fields, field.names = []) ∨ ∀ field ∈ fields, field.names ≠ []

/-- The names of a list of parameters. -/
structure IsParameters (fields : List Field) : Prop extends NamedAlike fields where
  noInstance : ∀ field ∈ fields, field.names = [] → field.type.isPlainInstance = false

/-- The names of a list of results. One result can go without parentheses. -/
structure IsResults (fields : List Field) : Prop extends NamedAlike fields where
  soleInstance :
    ∀ field ∈ fields, field.names = [] → field.type.isPlainInstance = true → fields = [field]

/-- The types that a file can show. There is no variadic one: only a field has such a type. -/
inductive TypeExpr.WellFormed : TypeExpr → Prop
  | named {name : String} (hname : IsIdentifier name) : WellFormed (.named name)
  | qualified {package name : String} (hpackage : IsIdentifier package)
      (hname : IsIdentifier name) : WellFormed (.qualified package name)
  | pointer {elem : TypeExpr} (helem : WellFormed elem) : WellFormed (.pointer elem)
  | slice {elem : TypeExpr} (helem : WellFormed elem) : WellFormed (.slice elem)
  | array {elem : TypeExpr} (helem : WellFormed elem) : WellFormed (.array elem)
  | map {key value : TypeExpr} (hkey : WellFormed key) (hvalue : WellFormed value) :
      WellFormed (.map key value)
  | chan {dir : ChanDir} {elem : TypeExpr} (helem : WellFormed elem)
      (hdir : dir = .both → elem.isReceiver = false) : WellFormed (.chan dir elem)
  | func {params results : List Field}
      (hparamTypes : ∀ field ∈ params, WellFormed field.type.item) (hparams : IsParameters params)
      (hresultTypes : ∀ field ∈ results, WellFormed field.type.item)
      (hresults : IsResults results) : WellFormed (.func params results)
  | struct : WellFormed .struct
  | interface : WellFormed .interface
  | generic {base : TypeExpr} {args : List TypeExpr} (hname : base.isName = true)
      (hbase : WellFormed base) (hargs : ∀ arg ∈ args, WellFormed arg) :
      WellFormed (.generic base args)
  | paren {inner : TypeExpr} (hinner : WellFormed inner) : WellFormed (.paren inner)

structure WellFormedParameters (fields : List Field) : Prop extends IsParameters fields where
  types : ∀ field ∈ fields, field.type.item.WellFormed

structure WellFormedResults (fields : List Field) : Prop extends IsResults fields where
  types : ∀ field ∈ fields, field.type.item.WellFormed

theorem TypeExpr.WellFormed.item {type : TypeExpr} (h : type.WellFormed) :
    type.item.WellFormed := by
  have hitem : type.item = type := by cases h <;> rfl
  rwa [hitem]

theorem namedAlike_nil : NamedAlike [] :=
  ⟨List.forall_mem_nil _, .inl (List.forall_mem_nil _)⟩

theorem wellFormedParameters_nil : WellFormedParameters [] :=
  ⟨⟨namedAlike_nil, List.forall_mem_nil _⟩, List.forall_mem_nil _⟩

theorem wellFormedResults_nil : WellFormedResults [] :=
  ⟨⟨namedAlike_nil, List.forall_mem_nil _⟩, List.forall_mem_nil _⟩

theorem wellFormedParameters_singleton {name : String} (hname : IsIdentifier name)
    {type : TypeExpr} (h : type.WellFormed) : WellFormedParameters [⟨[name], type⟩] := by
  refine ⟨⟨⟨?_, .inr ?_⟩, ?_⟩, List.forall_mem_singleton.2 h.item⟩
  · exact List.forall_mem_singleton.2 (List.forall_mem_singleton.2 hname)
  · exact List.forall_mem_singleton.2 (List.cons_ne_nil _ _)
  · exact List.forall_mem_singleton.2 fun hnone => absurd hnone (List.cons_ne_nil _ _)

theorem wellFormedResults_singleton {type : TypeExpr} (h : type.WellFormed) :
    WellFormedResults [⟨[], type⟩] := by
  refine ⟨⟨⟨?_, .inl ?_⟩, ?_⟩, List.forall_mem_singleton.2 h.item⟩
  · exact List.forall_mem_singleton.2 (List.forall_mem_nil _)
  · exact List.forall_mem_singleton.2 rfl
  · exact List.forall_mem_singleton.2 fun _ _ => rfl

/-- The functions that a file can hold. A receiver is written like one parameter. -/
structure FuncDecl.WellFormed (func : FuncDecl) : Prop where
  name : IsIdentifier func.name
  receiver : ∀ field ∈ func.receiver, WellFormedParameters [field]
  params : WellFormedParameters func.params
  results : WellFormedResults func.results

/-- A file whose names are identifiers and whose types can be written down. -/
structure SourceFile.WellFormed (file : SourceFile) : Prop where
  package : IsIdentifier file.package
  funcs : ∀ func ∈ file.funcs, func.WellFormed

/-! ## Tokens of a file -/

def commas (parts : List (List Token.Kind)) : List Token.Kind :=
  [Token.Kind.comma].intercalate parts

def bracketed (shape : Bracket) (kinds : List Token.Kind) : List Token.Kind :=
  .opening shape :: (kinds ++ [.closing shape])

def ChanDir.kinds : ChanDir → List Token.Kind
  | both => [.keyword .chan]
  | send => [.keyword .chan, .arrow]
  | receive => [.arrow, .keyword .chan]

def namesKinds (names : List String) : List Token.Kind :=
  commas (names.map fun name => [.ident name])

/-- Whether results are written without parentheses: one result without a name, unless its text
would start with a parenthesis or is no type. -/
def isBareResult : List Field → Bool
  | [⟨[], .paren _⟩] | [⟨[], .variadic _⟩] => false
  | [⟨[], _⟩] => true
  | _ => false

/-- The results `fields`, where `parts` are the tokens of each. -/
def resultsFrom (fields : List Field) (parts : List (List Token.Kind)) : List Token.Kind :=
  if fields = [] then [] else if isBareResult fields then commas parts
  else bracketed .paren (commas parts)

mutual

def TypeExpr.kinds : TypeExpr → List Token.Kind
  | .named name => [.ident name]
  | .qualified package name => [.ident package, .dot, .ident name]
  | .pointer elem => .star :: elem.kinds
  | .slice elem => bracketed .square [] ++ elem.kinds
  | .array elem => bracketed .square [.literal .number] ++ elem.kinds
  | .map key value => .keyword .map :: (bracketed .square key.kinds ++ value.kinds)
  | .chan dir elem => dir.kinds ++ elem.kinds
  | .func params results =>
    .keyword .func ::
      (bracketed .paren (commas (fieldsKinds params)) ++ resultsFrom results (fieldsKinds results))
  | .struct => .keyword .struct :: bracketed .brace []
  | .interface => .keyword .interface :: bracketed .brace []
  | .generic base args => base.kinds ++ bracketed .square (commas (typesKinds args))
  | .paren inner => bracketed .paren inner.kinds
  | .variadic elem => .ellipsis :: elem.kinds

def typesKinds : List TypeExpr → List (List Token.Kind)
  | [] => []
  | type :: types => type.kinds :: typesKinds types

def fieldKinds : Field → List Token.Kind
  | ⟨names, type⟩ => namesKinds names ++ type.kinds

def fieldsKinds : List Field → List (List Token.Kind)
  | [] => []
  | field :: fields => fieldKinds field :: fieldsKinds fields

end

/-- The tokens of type parameters, if there are any. They are not kept, so these stand for all. -/
def typeParametersKinds (generic : Bool) : List Token.Kind :=
  if generic then bracketed .square [.ident "T", .ident "any"] else []

def receiverKinds (receiver : Option Field) : List Token.Kind :=
  receiver.elim [] fun field => bracketed .paren (fieldKinds field)

def FuncDecl.signature (func : FuncDecl) : List Token.Kind :=
  receiverKinds func.receiver ++ .ident func.name :: (typeParametersKinds func.generic ++
    (bracketed .paren (commas (fieldsKinds func.params)) ++
      resultsFrom func.results (fieldsKinds func.results)))

def FuncDecl.kinds (func : FuncDecl) : List Token.Kind :=
  .keyword .func :: func.signature

def SourceFile.lines (file : SourceFile) : List (List Token.Kind) :=
  [.keyword .package, .ident file.package] :: file.funcs.map FuncDecl.kinds

/-! ## Text of a file -/

def Keyword.spelling : Keyword → String
  | package => "package"
  | importDecl => "import"
  | func => "func"
  | typeDecl => "type"
  | varDecl => "var"
  | constDecl => "const"
  | struct => "struct"
  | interface => "interface"
  | map => "map"
  | chan => "chan"
  | breakStmt => "break"
  | continueStmt => "continue"
  | fallthroughStmt => "fallthrough"
  | returnStmt => "return"
  | other => "case"

/-- A text of a token. The end of the file has none. -/
def Token.Kind.spelling : Token.Kind → String
  | ident name => name
  | keyword word => word.spelling
  | literal .number => "0"
  | literal .rune => "'0'"
  | literal .string => "\"\""
  | literal .rawString => String.ofList [rawQuote, rawQuote]
  | opening .paren => "("
  | opening .brace => "\x7b"
  | opening .square => "["
  | closing .paren => ")"
  | closing .brace => "\x7d"
  | closing .square => "]"
  | comma => ","
  | dot => "."
  | ellipsis => "..."
  | semicolon => ";"
  | star => "*"
  | arrow => "<-"
  | increment => "++"
  | decrement => "--"
  | operator => "="
  | endOfFile => ""

/-- A line: the text of each token, with a blank between each two. -/
def printLine (kinds : List Token.Kind) : String :=
  " ".intercalate (kinds.map Token.Kind.spelling) ++ "\n"

def SourceFile.print (file : SourceFile) : String :=
  String.join (file.lines.map printLine)

example :
    SourceFile.print ⟨"p", [⟨"F", none, false, [⟨["a", "b"], .array (.named "T")⟩],
      [⟨[], .named "error"⟩]⟩]⟩ =
    "package p\nfunc F ( a , b [ 0 ] T ) error\n" := by
  decide

/-! ## Tokens of a text -/

namespace Token.Kind

/-- Whether the text of a token is read as that token. -/
def Printable (kind : Kind) : Prop :=
  kind.Spells kind.spelling.toList

theorem printable_of_mem_operators {kind : Kind} (h : (kind.spelling, kind) ∈ operators) :
    kind.Printable := by
  rw [Printable, spells_iff_mem_operators (isOperator_of_mem_operators _ h), String.ofList_toList]
  exact h

theorem Printable.ident {name : String} (h : IsIdentifier name) : Printable (.ident name) :=
  ⟨String.ofList_toList, h⟩

theorem Printable.fixed {kind : Kind} (hname : ∀ name, kind ≠ .ident name)
    (hend : kind ≠ .endOfFile) : kind.Printable := by
  cases kind with
  | ident name => exact absurd rfl (hname name)
  | keyword word =>
    change Keyword.ofWord? (String.ofList word.spelling.toList) = some word
    rw [String.ofList_toList]
    cases word <;> rfl
  | literal kind =>
    cases kind with
    | number => exact ⟨rfl, List.isChain_singleton _⟩
    | rune => exact ⟨['0', '\''], rfl, .plain (by decide) (by decide) (by decide) .close⟩
    | string => exact ⟨['"'], rfl, .close⟩
    | rawString => exact ⟨[], String.toList_ofList, List.not_mem_nil⟩
  | opening shape => exact printable_of_mem_operators (by cases shape <;> decide)
  | closing shape => exact printable_of_mem_operators (by cases shape <;> decide)
  | endOfFile => exact absurd rfl hend
  | _ => exact printable_of_mem_operators (by decide)

end Token.Kind

/-- A line that is read as it is written: each token has a text, and a line end closes the
statement. -/
structure IsLine (kinds : List Token.Kind) : Prop where
  printable : ∀ kind ∈ kinds, kind.Printable
  ends : ∃ last ∈ kinds.getLast?, last.endsLine = true

def lineLexemes : List Token.Kind → List Lexeme
  | [] => [.layout ['\n']]
  | [kind] => [.token kind kind.spelling.toList, .layout ['\n']]
  | kind :: next :: kinds =>
    .token kind kind.spelling.toList :: .layout [' '] :: lineLexemes (next :: kinds)

/-- A line is its tokens with blanks between them, and a line end. -/
theorem lineLexemes_eq (kinds : List Token.Kind) :
    lineLexemes kinds =
      spaced (kinds.map fun kind => ⟨kind, kind.spelling.toList⟩) ++ [.layout ['\n']] := by
  induction kinds using lineLexemes.induct with
  | case1 => rfl
  | case2 kind => rfl
  | case3 kind next kinds ih =>
    rw [lineLexemes, ih]
    rfl

theorem textOf_lineLexemes (kinds : List Token.Kind) :
    Lexeme.textOf (lineLexemes kinds) = (printLine kinds).toList := by
  rw [printLine, String.toList_append, String.toList_intercalate, lineLexemes_eq,
    Lexeme.textOf_append, Lexeme.textOf_spaced, List.map_map, List.map_map]
  rfl

theorem allFit_lineLexemes {kinds : List Token.Kind} (h : ∀ kind ∈ kinds, kind.Printable)
    {more : List Lexeme} (hmore : Lexeme.AllFit more) : Lexeme.AllFit (lineLexemes kinds ++ more) := by
  rw [lineLexemes_eq, List.append_assoc]
  refine Lexeme.allFit_spaced_append (List.forall_mem_map.2 h) ⟨.blank (.inl rfl), hmore⟩ ?_
  rintro c ⟨⟩
  decide

theorem tokens_lineLexemes {kinds : List Token.Kind}
    (h : ∃ last ∈ kinds.getLast?, last.endsLine = true) (offset : Nat) (ends : Bool)
    (more : List Lexeme) :
    ∃ behind, (Lexeme.tokens offset ends (lineLexemes kinds ++ more)).map Token.kind =
      kinds ++ .semicolon :: (Lexeme.tokens behind false more).map Token.kind := by
  induction kinds using lineLexemes.induct generalizing offset ends with
  | case1 =>
    obtain ⟨last, hlast, -⟩ := h
    cases hlast
  | case2 kind =>
    obtain ⟨last, hlast, hends⟩ := h
    obtain rfl : kind = last := Option.some.inj hlast
    refine ⟨offset + width kind.spelling.toList + width ['\n'], ?_⟩
    rw [lineLexemes, List.cons_append, List.cons_append, Lexeme.tokens, Lexeme.tokens, hends,
      if_pos List.mem_cons_self]
    rfl
  | case3 kind next kinds ih =>
    rw [List.getLast?_cons_cons] at h
    have hblank : '\n' ∉ [' '] := by decide
    obtain ⟨behind, ih⟩ := ih h (offset + width kind.spelling.toList + width [' ']) kind.endsLine
    refine ⟨behind, ?_⟩
    rw [lineLexemes, List.cons_append, List.cons_append, Lexeme.tokens, Lexeme.tokens,
      if_neg hblank, List.map_cons, ih]
    rfl

theorem allFit_lines {lines : List (List Token.Kind)} (h : ∀ line ∈ lines, IsLine line) :
    Lexeme.AllFit (lines.flatMap lineLexemes) := by
  induction lines with
  | nil => trivial
  | cons line lines ih =>
    rw [List.forall_mem_cons] at h
    exact allFit_lineLexemes h.1.printable (ih h.2)

theorem tokens_lines {lines : List (List Token.Kind)} (h : ∀ line ∈ lines, IsLine line)
    (offset : Nat) :
    (Lexeme.tokens offset false (lines.flatMap lineLexemes)).map Token.kind =
      lines.flatMap (· ++ [.semicolon]) ++ [.endOfFile] := by
  induction lines generalizing offset with
  | nil => rfl
  | cons line lines ih =>
    rw [List.forall_mem_cons] at h
    obtain ⟨behind, hline⟩ := tokens_lineLexemes h.1.ends offset false (lines.flatMap lineLexemes)
    rw [List.flatMap_cons, hline, ih h.2]
    simp

theorem tokenize_lines {lines : List (List Token.Kind)} (h : ∀ line ∈ lines, IsLine line) :
    ∃ tokens, tokenize (String.join (lines.map printLine)) = .ok tokens ∧
      tokens.map Token.kind = lines.flatMap (· ++ [.semicolon]) ++ [.endOfFile] := by
  have htext : Lexeme.textOf (lines.flatMap lineLexemes) =
      (String.join (lines.map printLine)).toList := by
    rw [String.toList_join, List.flatMap_map, Lexeme.textOf, List.flatMap_assoc]
    exact congrArg (List.flatMap · lines) (funext textOf_lineLexemes)
  exact ⟨_, tokenize_eq_ok_iff.2 ⟨lines.flatMap lineLexemes, htext, allFit_lines h, rfl⟩,
    tokens_lines h 0⟩

/-! ## Tokens of parts -/

theorem typesKinds_eq_map (types : List TypeExpr) : typesKinds types = types.map TypeExpr.kinds := by
  induction types with
  | nil => rfl
  | cons type types ih => rw [typesKinds, ih, List.map_cons]

theorem fieldsKinds_eq_map (fields : List Field) : fieldsKinds fields = fields.map fieldKinds := by
  induction fields with
  | nil => rfl
  | cons field fields ih => rw [fieldsKinds, ih, List.map_cons]

@[simp]
theorem commas_singleton (part : List Token.Kind) : commas [part] = part :=
  List.intercalate_singleton

theorem commas_cons_cons (part next : List Token.Kind) (parts : List (List Token.Kind)) :
    commas (part :: next :: parts) = part ++ .comma :: commas (next :: parts) := by
  rw [commas, List.intercalate_cons_cons, List.append_assoc, List.singleton_append, ← commas]

theorem forall_mem_commas {p : Token.Kind → Prop} (hcomma : p .comma)
    {parts : List (List Token.Kind)} (h : ∀ part ∈ parts, ∀ kind ∈ part, p kind) :
    ∀ kind ∈ commas parts, p kind := by
  induction parts with
  | nil => exact List.forall_mem_nil p
  | cons part parts ih =>
    rw [List.forall_mem_cons] at h
    cases parts with
    | nil =>
      rw [commas_singleton]
      exact h.1
    | cons next parts =>
      rw [commas_cons_cons, List.forall_mem_append, List.forall_mem_cons]
      exact ⟨h.1, hcomma, ih h.2⟩

theorem resultsFrom_cases (fields : List Field) :
    (fields = [] ∧ resultsFrom fields (fieldsKinds fields) = []) ∨
      (∃ type, fields = [⟨[], type⟩] ∧ type.item = type ∧ (∀ inner, type ≠ .paren inner) ∧
        resultsFrom fields (fieldsKinds fields) = type.kinds) ∨
      (isBareResult fields = false ∧ resultsFrom fields (fieldsKinds fields) =
        bracketed .paren (commas (fieldsKinds fields))) := by
  unfold resultsFrom
  split
  · next h => exact .inl ⟨h, rfl⟩
  split
  · next hbare =>
    right; left
    unfold isBareResult at hbare
    split at hbare
    · cases hbare
    · cases hbare
    · next type hparen hvariadic _ =>
      refine ⟨type, rfl, ?_, hparen, ?_⟩
      · cases type <;> first | rfl | exact absurd rfl (hvariadic _)
      · rw [fieldsKinds, fieldsKinds, commas_singleton, fieldKinds]
        rfl
    · cases hbare
  · next hbare => exact .inr (.inr ⟨Bool.eq_false_iff.2 hbare, rfl⟩)

theorem TypeExpr.item_eq_or_variadic (type : TypeExpr) :
    type.item = type ∨ ∃ elem, type = .variadic elem := by
  cases type <;> first | exact .inl rfl | exact .inr ⟨_, rfl⟩

/-! ## The lines of a well-formed file -/

theorem IsLine.append {ahead kinds : List Token.Kind} (hahead : ∀ kind ∈ ahead, kind.Printable)
    (h : IsLine kinds) : IsLine (ahead ++ kinds) := by
  obtain ⟨last, hlast, hends⟩ := h.ends
  refine ⟨List.forall_mem_append.2 ⟨hahead, h.printable⟩, last, ?_, hends⟩
  rw [Option.mem_def] at hlast ⊢
  rw [List.getLast?_append, hlast, Option.some_or]

theorem IsLine.cons {kind : Token.Kind} {kinds : List Token.Kind} (hkind : kind.Printable)
    (h : IsLine kinds) : IsLine (kind :: kinds) :=
  .append (List.forall_mem_singleton.2 hkind) h

theorem forall_mem_bracketed {shape : Bracket} {kinds : List Token.Kind}
    (h : ∀ kind ∈ kinds, kind.Printable) : ∀ kind ∈ bracketed shape kinds, kind.Printable := by
  rw [bracketed, List.forall_mem_cons, List.forall_mem_append, List.forall_mem_singleton]
  exact ⟨.fixed nofun nofun, h, .fixed nofun nofun⟩

theorem IsLine.bracketed {shape : Bracket} {kinds : List Token.Kind}
    (h : ∀ kind ∈ kinds, kind.Printable) : IsLine (bracketed shape kinds) := by
  refine ⟨forall_mem_bracketed h, .closing shape, ?_, rfl⟩
  rw [Go.bracketed, ← List.cons_append, List.getLast?_concat]
  rfl

theorem printable_fieldsKinds {fields : List Field}
    (hnames : ∀ field ∈ fields, ∀ name ∈ field.names, IsIdentifier name)
    (htypes : ∀ field ∈ fields, IsLine field.type.item.kinds) :
    ∀ part ∈ fieldsKinds fields, ∀ kind ∈ part, kind.Printable := by
  rw [fieldsKinds_eq_map, List.forall_mem_map]
  intro field hfield
  rw [fieldKinds, List.forall_mem_append]
  constructor
  · refine forall_mem_commas (.fixed nofun nofun) ?_
    rw [List.forall_mem_map]
    intro name hname
    exact List.forall_mem_singleton.2 (.ident (hnames field hfield name hname))
  · have htype := (htypes field hfield).printable
    rcases field.type.item_eq_or_variadic with h | ⟨elem, h⟩
    · rwa [h] at htype
    · rw [h] at htype ⊢
      exact List.forall_mem_cons.2 ⟨.fixed nofun nofun, htype⟩

theorem IsLine.append_results {kinds : List Token.Kind} (h : IsLine kinds) {results : List Field}
    (hnames : ∀ field ∈ results, ∀ name ∈ field.names, IsIdentifier name)
    (htypes : ∀ field ∈ results, IsLine field.type.item.kinds) :
    IsLine (kinds ++ resultsFrom results (fieldsKinds results)) := by
  rcases resultsFrom_cases results with ⟨-, hkinds⟩ | ⟨type, rfl, hitem, -, hkinds⟩ | ⟨-, hkinds⟩
  · rwa [hkinds, List.append_nil]
  · have htype := htypes _ List.mem_cons_self
    rw [hitem] at htype
    rw [hkinds]
    exact .append h.printable htype
  · rw [hkinds]
    refine .append h.printable (.bracketed (forall_mem_commas (.fixed nofun nofun) ?_))
    exact printable_fieldsKinds hnames htypes

theorem TypeExpr.WellFormed.isLine {type : TypeExpr} (h : type.WellFormed) : IsLine type.kinds := by
  induction h with
  | named hname => exact ⟨List.forall_mem_singleton.2 (.ident hname), _, rfl, rfl⟩
  | qualified hpackage hname =>
    refine .cons (.ident hpackage) (.cons (.fixed nofun nofun) ?_)
    exact ⟨List.forall_mem_singleton.2 (.ident hname), _, rfl, rfl⟩
  | pointer helem ih => exact .cons (.fixed nofun nofun) ih
  | slice helem ih => exact .append (forall_mem_bracketed (List.forall_mem_nil _)) ih
  | array helem ih =>
    refine .append (forall_mem_bracketed ?_) ih
    exact List.forall_mem_singleton.2 (.fixed nofun nofun)
  | map hkey hvalue ihkey ihvalue =>
    exact .cons (.fixed nofun nofun) (.append (forall_mem_bracketed ihkey.printable) ihvalue)
  | @chan dir elem helem hdir ih =>
    refine .append ?_ ih
    cases dir <;> simp [ChanDir.kinds, Token.Kind.Printable.fixed]
  | func hparamTypes hparams hresultTypes hresults ihparams ihresults =>
    refine .cons (.fixed nofun nofun) (.append_results (.bracketed ?_) hresults.identifiers ihresults)
    exact forall_mem_commas (.fixed nofun nofun)
      (printable_fieldsKinds hparams.identifiers ihparams)
  | struct | interface => exact .cons (.fixed nofun nofun) (.bracketed (List.forall_mem_nil _))
  | generic hname hbase hargs ihbase ihargs =>
    refine .append ihbase.printable (.bracketed (forall_mem_commas (.fixed nofun nofun) ?_))
    rw [typesKinds_eq_map, List.forall_mem_map]
    exact fun arg harg => (ihargs arg harg).printable
  | paren hinner ih => exact .bracketed ih.printable

theorem printable_typeParametersKinds (generic : Bool) :
    ∀ kind ∈ typeParametersKinds generic, kind.Printable := by
  cases generic with
  | false => exact List.forall_mem_nil _
  | true =>
    have hnames : ∀ name ∈ ["T", "any"], IsIdentifier name := by decide
    refine forall_mem_bracketed ?_
    intro kind hkind
    obtain ⟨name, hname, rfl⟩ : ∃ name ∈ ["T", "any"], .ident name = kind := by
      simpa [@eq_comm _ kind] using hkind
    exact .ident (hnames name hname)

theorem FuncDecl.WellFormed.isLine {func : FuncDecl} (h : func.WellFormed) : IsLine func.kinds := by
  have hlist : ∀ {fields}, WellFormedParameters fields →
      ∀ part ∈ fieldsKinds fields, ∀ kind ∈ part, kind.Printable := fun hfields =>
    printable_fieldsKinds hfields.identifiers fun field hfield => (hfields.types field hfield).isLine
  have hreceiver : ∀ kind ∈ receiverKinds func.receiver, kind.Printable := by
    cases hfield : func.receiver with
    | none => exact List.forall_mem_nil _
    | some field =>
      exact forall_mem_bracketed (List.forall_mem_singleton.1 (hlist (h.receiver field hfield)))
  refine .cons (.fixed nofun nofun) (.append hreceiver (.cons (.ident h.name) ?_))
  refine .append (printable_typeParametersKinds func.generic) ?_
  exact .append_results (.bracketed (forall_mem_commas (.fixed nofun nofun) (hlist h.params)))
    h.results.identifiers fun field hfield => (h.results.types field hfield).isLine

theorem SourceFile.WellFormed.isLine {file : SourceFile} (h : file.WellFormed) :
    ∀ line ∈ file.lines, IsLine line := by
  refine List.forall_mem_cons.2 ⟨.cons (.fixed nofun nofun) ?_, ?_⟩
  · exact ⟨List.forall_mem_singleton.2 (.ident h.package), _, rfl, rfl⟩
  · rw [List.forall_mem_map]
    exact fun func hfunc => (h.funcs func hfunc).isLine

/-- The tokens of the text of a file are those of its lines. -/
theorem tokenize_print {file : SourceFile} (h : file.WellFormed) :
    ∃ tokens, tokenize file.print = .ok tokens ∧
      tokens.map Token.kind = file.lines.flatMap (· ++ [.semicolon]) ++ [.endOfFile] :=
  tokenize_lines h.isLine

end ReactBridge.Go
