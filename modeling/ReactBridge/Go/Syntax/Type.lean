import ReactBridge.Go.Syntax.Error
import ReactBridge.Go.Syntax.Parameter

/-!
# Reading types, parameters and results

Readers for the part of the grammar where types nest. Each returns what it read and the tokens
behind it; each recursive reading starts further on in the tokens. Bodies, type parameters, array
lengths, the members of structs and interfaces, and the brackets of other declarations carry nothing
that is kept. They are skipped by counting brackets, of all three shapes alike.

* `afterGroup depth ts`: what follows the bracket that closes `depth` further groups and one more;
* `skipGroup`: skips the group that opens at the first token;
* `readType`, `readParameters`, `readResults`: the readers that declarations use;
* `readEntry`, `readEntries`, `readInstance`, `readTypeArguments`: their parts.
-/

namespace ReactBridge.Go

/-! ## Groups that are skipped -/

/-- What follows the closing bracket of the group that the tokens are inside of, where `depth`
groups inside it are open. -/
def afterGroup (depth : Nat) : (ts : List Token) → Option (Rest ts)
  | [] => none
  | t :: ts =>
    match t.kind with
    | .endOfFile => none
    | .opening _ => (afterGroup (depth + 1) ts).map (Rest.behind t)
    | .closing _ =>
      match depth with
      | 0 => some ((Rest.all ts).behind t)
      | depth + 1 => (afterGroup depth ts).map (Rest.behind t)
    | _ => (afterGroup depth ts).map (Rest.behind t)

/-- Skips the bracket group that `opening` opens, where `ts` follows it. -/
def skipGroup (opening : Token) (ts : List Token) : Except SyntaxError (Rest ts) :=
  match afterGroup 0 ts with
  | some rest => .ok rest
  | none => .error ⟨.unclosed opening.kind, opening.span⟩

/-! ## Parts of types -/

/-- Reads the member of a qualified name, if a dot follows the name. -/
def readMember (name : String) (ts : List Token) : Except SyntaxError (TypeExpr × Rest ts) :=
  match ts with
  | [] => .ok (.named name, Rest.all [])
  | t :: ts =>
    if t.kind = .dot then do
      let (member, rest) ← takeName ts
      return (.qualified name member, rest.behind t)
    else .ok (.named name, Rest.all (t :: ts))

/-- Skips the member list of a struct or interface. -/
def skipBlock (ts : List Token) : Except SyntaxError (Rest ts) :=
  match ts with
  | [] => .error (unexpected (.token (.opening .brace)) [])
  | t :: ts =>
    if t.kind = .opening .brace then do
      let rest ← skipGroup t ts
      return rest.behind t
    else .error (unexpected (.token (.opening .brace)) (t :: ts))

def readDirection (ts : List Token) : ChanDir × Rest ts :=
  match ts with
  | [] => (.both, Rest.all [])
  | t :: ts =>
    if t.kind = .arrow then (.send, (Rest.all ts).behind t) else (.both, Rest.all (t :: ts))

def beginsType : Token.Kind → Bool
  | .ident _ | .star | .opening .square | .opening .paren | .arrow
  | .keyword .map | .keyword .chan | .keyword .func | .keyword .struct
  | .keyword .interface => true
  | _ => false

mutual

def readType (ts : List Token) : Except SyntaxError (TypeExpr × Rest ts) :=
  match ts with
  | [] => .error (unexpected .type [])
  | t :: ts =>
    match t.kind with
    | .ident name => do
      let (base, rest) ← readMember name ts
      let (type, last) ← readInstance base rest.items
      return (type, (rest.within last).behind t)
    | .star => do
      let (elem, rest) ← readType ts
      return (.pointer elem, rest.behind t)
    | .opening .square =>
      match ts with
      | [] => .error ⟨.unclosed t.kind, t.span⟩
      | u :: us =>
        if u.kind = .closing .square then do
          let (elem, rest) ← readType us
          return (.slice elem, (rest.behind u).behind t)
        else do
          let size ← skipGroup t (u :: us)
          let (elem, rest) ← readType size.items
          return (.array elem, (size.within rest).behind t)
    | .keyword .map => do
      let (_, opened) ← takeToken (.opening .square) ts
      let (key, rest) ← readType opened.items
      let (_, close) ← takeToken (.closing .square) rest.items
      let (value, last) ← readType close.items
      return (.map key value, (opened.within (rest.within (close.within last))).behind t)
    | .keyword .chan => do
      let (dir, rest) := readDirection ts
      let (elem, last) ← readType rest.items
      return (.chan dir elem, (rest.within last).behind t)
    | .arrow => do
      let (_, rest) ← takeToken (.keyword .chan) ts
      let (elem, last) ← readType rest.items
      return (.chan .receive elem, (rest.within last).behind t)
    | .keyword .func => do
      let (params, rest) ← readParameters ts
      let (results, last) ← readResults rest.items
      return (.func params results, (rest.within last).behind t)
    | .keyword .struct => do
      let rest ← skipBlock ts
      return (.struct, rest.behind t)
    | .keyword .interface => do
      let rest ← skipBlock ts
      return (.interface, rest.behind t)
    | .opening .paren => do
      let (inner, rest) ← readType ts
      let (_, last) ← takeToken (.closing .paren) rest.items
      return (.paren inner, (rest.within last).behind t)
    | _ => .error (unexpected .type (t :: ts))
  termination_by 5 * ts.length
  decreasing_by all_goals grind

def readInstance (base : TypeExpr) (ts : List Token) :
    Except SyntaxError (TypeExpr × Rest ts) :=
  match ts with
  | [] => .ok (base, Rest.all [])
  | t :: ts =>
    if t.kind = .opening .square then do
      let (args, rest) ← readTypeArguments ts
      let (_, last) ← takeToken (.closing .square) rest.items
      return (.generic base args, (rest.within last).behind t)
    else .ok (base, Rest.all (t :: ts))
  termination_by 5 * ts.length
  decreasing_by all_goals grind

/-- Reads type arguments up to the closing bracket. -/
def readTypeArguments (ts : List Token) : Except SyntaxError (List TypeExpr × Rest ts) :=
  if (current ts).kind = .closing .square then .ok ([], Rest.all ts)
  else do
    let (arg, rest) ← readType ts
    match rest with
    | ⟨t :: us, h⟩ =>
      if t.kind = .comma then do
        let (args, last) ← readTypeArguments us
        return (arg :: args, (⟨t :: us, h⟩ : Rest ts).within (last.behind t))
      else return ([arg], ⟨t :: us, h⟩)
    | rest => return ([arg], rest)
  termination_by 5 * ts.length + 1
  decreasing_by all_goals grind

def readParameters (ts : List Token) : Except SyntaxError (List Field × Rest ts) := do
  let (opened, start) ← takeToken (.opening .paren) ts
  let (entries, rest) ← readEntries start.items
  let (close, last) ← takeToken (.closing .paren) rest.items
  let fields ← fieldsOfEntries entries ⟨opened.span.start, close.span.stop⟩
  return (fields, start.within (rest.within last))
  termination_by 5 * ts.length + 3
  decreasing_by all_goals grind

def readEntries (ts : List Token) : Except SyntaxError (List Entry × Rest ts) :=
  if (current ts).kind = .closing .paren then .ok ([], Rest.all ts)
  else do
    let (entry, rest) ← readEntry ts
    match rest with
    | ⟨t :: us, h⟩ =>
      if t.kind = .comma then do
        let (entries, last) ← readEntries us
        return (entry :: entries, (⟨t :: us, h⟩ : Rest ts).within (last.behind t))
      else return ([entry], ⟨t :: us, h⟩)
    | rest => return ([entry], rest)
  termination_by 5 * ts.length + 2
  decreasing_by all_goals grind

def readEntry (ts : List Token) : Except SyntaxError (Entry × Rest ts) :=
  match ts with
  | [] => .error (unexpected .type [])
  | t :: ts =>
    match t.kind with
    | .ident name =>
      match (current ts).kind with
      | .dot => do
        let (type, rest) ← readType (t :: ts)
        return (.unnamed type, rest)
      | .comma | .closing .paren => .ok (.bare name t.span, (Rest.all ts).behind t)
      | .ellipsis => do
        let (_, rest) ← takeToken .ellipsis ts
        let (elem, last) ← readType rest.items
        return (.named name (.variadic elem), (rest.within last).behind t)
      | _ => do
        let (type, rest) ← readType ts
        return (.named name type, rest.behind t)
    | .ellipsis => do
      let (elem, rest) ← readType ts
      return (.unnamed (.variadic elem), rest.behind t)
    | _ => do
      let (type, rest) ← readType (t :: ts)
      return (.unnamed type, rest)
  termination_by 5 * ts.length + 1
  decreasing_by all_goals grind

/-- Reads results: a list in parentheses, one type, or nothing. -/
def readResults (ts : List Token) : Except SyntaxError (List Field × Rest ts) :=
  if (current ts).kind = .opening .paren then readParameters ts
  else if beginsType (current ts).kind then do
    let (type, rest) ← readType ts
    return ([⟨[], type⟩], rest)
  else .ok ([], Rest.all ts)
  termination_by 5 * ts.length + 4
  decreasing_by all_goals grind

end

theorem readType_of_not_begins {t : Token} (h : beginsType t.kind = false) (ts : List Token) :
    readType (t :: ts) = .error (unexpected .type (t :: ts)) := by
  rw [readType.eq_def]
  cases hkind : t.kind with
  | opening shape =>
    cases shape with
    | brace => simp only [hkind]
    | paren | square => simp [hkind, beginsType] at h
  | keyword word =>
    cases word with
    | map | chan | func | struct | interface => simp [hkind, beginsType] at h
    | _ => simp only [hkind]
  | ident _ | star | arrow => simp [hkind, beginsType] at h
  | _ => simp only [hkind]
end ReactBridge.Go
