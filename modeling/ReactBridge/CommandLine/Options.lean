import ReactBridge.Text.Split

/-!
# Options on a command line

Arguments are read from left to right. One with two dashes is an option by name, one with a single
dash is a row of options by letter, and `--` makes all later ones plain.

* `Rule`: an option that a command knows;
* `Stop`: what ends the reading early: a request for help or the version, or an error;
* `Given`: the options and the plain arguments that are given;
* `readArguments`: reads them, at most as many plain ones as are taken.
-/

namespace ReactBridge.CommandLine

/-- What an option does with the argument behind it. -/
inductive Effect where
  | flag
  | help
  | version
  /-- Takes any text. -/
  | text
  /-- Takes a path, which must not be empty. -/
  | path
deriving DecidableEq, Repr

structure Rule where
  name : String
  letter : Option Char
  effect : Effect
deriving DecidableEq, Repr

def Rule.takesValue (rule : Rule) : Bool :=
  rule.effect = .text || rule.effect = .path

inductive UsageError where
  | noCommand
  | unknownCommand (name : String)
  | unexpected (argument : String)
  | repeated (option : String)
  | missingValue (option : String)
  | unwantedValue (option : String)
  | unknownShell (name : String)
  | noShell
deriving DecidableEq, Repr

def UsageError.message : UsageError → String
  | noCommand => "a command is required"
  | unknownCommand name => "unknown command '" ++ name ++ "'"
  | unexpected argument => "unexpected argument '" ++ argument ++ "'"
  | repeated option => "'--" ++ option ++ "' is given twice"
  | missingValue option => "'--" ++ option ++ "' needs a value"
  | unwantedValue option => "'--" ++ option ++ "' takes no value"
  | unknownShell name => "unknown shell '" ++ name ++ "'"
  | noShell => "a shell is required"

inductive Stop where
  | help
  | version
  | usage (error : UsageError)
deriving DecidableEq, Repr

/-- Options by name, with the empty text for a flag, and plain arguments. -/
structure Given where
  options : List (String × String) := []
  plain : List String := []
deriving DecidableEq, Repr

def Given.has (given : Given) (name : String) : Bool :=
  (given.options.lookup name).isSome

def Given.value? (given : Given) (name : String) : Option String :=
  given.options.lookup name

/-- The given options with one more. None may be given twice, and no path may be empty. -/
def Given.add (given : Given) (rule : Rule) (value : String) : Except Stop Given :=
  match rule.effect with
  | .help => .error .help
  | .version => .error .version
  | effect =>
    if effect = .path && value.isEmpty then .error (.usage (.missingValue rule.name))
    else if given.has rule.name then .error (.usage (.repeated rule.name))
    else .ok { given with options := given.options ++ [(rule.name, value)] }

/-- What has been read, and the option that waits for its value. -/
abbrev Progress := Given × Option Rule

/-- Whether an argument is an option or a row of them. A lone dash is a plain argument. -/
def isDashed (argument : String) : Bool :=
  match argument.toList with
  | '-' :: _ :: _ => true
  | _ => false

/-- Reads a row of options by letter. The first that takes a value takes the rest of the row, less
one `=`, or waits for the next argument. -/
def readLetters (rules : List Rule) (given : Given) (argument : String) :
    List Char → Except Stop Progress
  | [] => .ok (given, none)
  | c :: cs =>
    match rules.find? fun rule => rule.letter = some c with
    | none => .error (.usage (.unexpected argument))
    | some rule =>
      if rule.takesValue then
        match cs with
        | [] => .ok (given, some rule)
        | '=' :: value => (given.add rule (String.ofList value)).map fun given => (given, none)
        | value => (given.add rule (String.ofList value)).map fun given => (given, none)
      else
        match given.add rule "" with
        | .ok given => readLetters rules given argument cs
        | .error stop => .error stop

/-- Reads an option by name, with its value behind a `=` or in the next argument. -/
def readName (rules : List Rule) (given : Given) (argument : String) (text : List Char) :
    Except Stop Progress :=
  let name := String.ofList (text.takeWhile (· ≠ '='))
  match rules.find? fun rule => rule.name = name, text.dropWhile (· ≠ '=') with
  | none, _ => .error (.usage (.unexpected argument))
  | some rule, [] =>
    if rule.takesValue then .ok (given, some rule)
    else (given.add rule "").map fun given => (given, none)
  | some rule, _ :: value =>
    if rule.takesValue then
      (given.add rule (String.ofList value)).map fun given => (given, none)
    else .error (.usage (.unwantedValue rule.name))

/-- Reads arguments behind earlier ones. `accept` says whether a plain argument is taken, from the
plain ones before it. -/
def readArguments (rules : List Rule) (accept : List String → String → Except Stop Unit) :
    Progress → List String → Except Stop Given
  | (given, none), [] => .ok given
  | (_, some rule), [] => .error (.usage (.missingValue rule.name))
  | (given, some rule), argument :: arguments =>
    if isDashed argument then .error (.usage (.missingValue rule.name))
    else
      match given.add rule argument with
      | .ok given => readArguments rules accept (given, none) arguments
      | .error stop => .error stop
  | (given, none), argument :: arguments =>
    match argument.toList with
    | ['-', '-'] => readPlain accept given arguments
    | '-' :: '-' :: text =>
      match readName rules given argument text with
      | .ok progress => readArguments rules accept progress arguments
      | .error stop => .error stop
    | '-' :: c :: cs =>
      match readLetters rules given argument (c :: cs) with
      | .ok progress => readArguments rules accept progress arguments
      | .error stop => .error stop
    | _ =>
      match accept given.plain argument with
      | .ok () =>
        readArguments rules accept ({ given with plain := given.plain ++ [argument] }, none)
          arguments
      | .error stop => .error stop
where
  /-- Reads arguments that are all plain. -/
  readPlain (accept : List String → String → Except Stop Unit) (given : Given) :
      List String → Except Stop Given
    | [] => .ok given
    | argument :: arguments =>
      match accept given.plain argument with
      | .ok () => readPlain accept { given with plain := given.plain ++ [argument] } arguments
      | .error stop => .error stop

end ReactBridge.CommandLine
