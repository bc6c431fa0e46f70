import ReactBridge.CommandLine.Options
import ReactBridge.Settings.Load

/-!
# Requests

* `Command`, `Request`: what a command line asks for;
* `Request.ofArguments`: the request of a command line.
-/

namespace ReactBridge.CommandLine

inductive Shell where
  | bash
  | elvish
  | fish
  | powershell
  | zsh
deriving DecidableEq, Repr

def Shell.ofName? : String → Option Shell
  | "bash" => some bash
  | "elvish" => some elvish
  | "fish" => some fish
  | "powershell" => some powershell
  | "zsh" => some zsh
  | _ => none

inductive Command where
  /-- Writes bridges, with settings from a file unless they are given. -/
  | generate (file : Option Path) (overrides : Settings.Overrides)
  /-- Shows what a package exports. -/
  | inspect (source : Source) (json : Bool)
  /-- Writes a script that completes command lines. -/
  | completions (shell : Shell) (output : Option Path)
deriving DecidableEq, Repr

inductive Request where
  | run (command : Command)
  | help
  | version
  | refuse (error : UsageError)
deriving DecidableEq, Repr

/-! ## Rules -/

/-- A flag that every command takes. It changes neither the files nor what is shown. -/
def verboseRule : Rule :=
  ⟨"verbose", some 'v', .flag⟩

def helpRule : Rule :=
  ⟨"help", some 'h', .help⟩

def programRules : List Rule :=
  [verboseRule, helpRule, ⟨"version", some 'V', .version⟩]

def generateRules : List Rule :=
  [verboseRule, helpRule, ⟨"config", some 'c', .path⟩, ⟨"output", some 'o', .path⟩,
    ⟨"package-root", none, .text⟩, ⟨"source-dir", none, .path⟩]

def inspectRules : List Rule :=
  [verboseRule, helpRule, ⟨"source-dir", none, .path⟩, ⟨"json", none, .flag⟩]

def completionsRules : List Rule :=
  [verboseRule, helpRule, ⟨"output", some 'o', .path⟩]

def acceptAll (_ : List String) (_ : String) : Except Stop Unit :=
  .ok ()

def acceptNone (_ : List String) (argument : String) : Except Stop Unit :=
  .error (.usage (.unexpected argument))

def acceptOne (before : List String) (argument : String) : Except Stop Unit :=
  if before.isEmpty then .ok () else .error (.usage (.unexpected argument))

def acceptShell (before : List String) (argument : String) : Except Stop Unit :=
  if !before.isEmpty then .error (.usage (.unexpected argument))
  else if (Shell.ofName? argument).isSome then .ok ()
  else .error (.usage (.unknownShell argument))

/-! ## Commands -/

def pathOf (given : Given) (name : String) : Option Path :=
  (given.value? name).map Path.mk

def defaultPackage : String :=
  "golang.org/x/mobile/example/bind/hello"

def generateCommand (given : Given) : Command :=
  .generate (pathOf given "config")
    { packages := given.plain
      output := pathOf given "output"
      packageRoot := given.value? "package-root"
      sourceDir := pathOf given "source-dir" }

/-- The command of given arguments of `inspect`. A directory counts before an import path. -/
def inspectCommand (given : Given) : Command :=
  let source := match pathOf given "source-dir" with
    | some dir => .directory dir
    | none => .importPath (given.plain.headD defaultPackage)
  .inspect source (given.has "json")

def completionsCommand (given : Given) : Except Stop Command :=
  match given.plain.head?.bind Shell.ofName? with
  | some shell => .ok (.completions shell (pathOf given "output"))
  | none => .error (.usage .noShell)

def commandNames : List String :=
  ["generate", "inspect", "completions", "help"]

/-- Help is asked for on the program or on one of its commands. -/
def readHelp : List String → Except Stop Command
  | [] => .error .help
  | [name] =>
    if commandNames.contains name then .error .help
    else .error (.usage (.unknownCommand name))
  | _ :: name :: _ => .error (.usage (.unknownCommand name))

def readCommand (name : String) (arguments : List String) : Except Stop Command := do
  match name with
  | "generate" =>
    return generateCommand (← readArguments generateRules acceptAll ({}, none) arguments)
  | "inspect" =>
    return inspectCommand (← readArguments inspectRules acceptOne ({}, none) arguments)
  | "completions" =>
    completionsCommand (← readArguments completionsRules acceptShell ({}, none) arguments)
  | "help" => readHelp arguments
  | _ => .error (.usage (.unknownCommand name))

/-- The command of a command line: options of the program, then the name of a command. -/
def readProgram (arguments : List String) : Except Stop Command := do
  let options := arguments.takeWhile isDashed
  let _ ← readArguments programRules acceptNone ({}, none) options
  match arguments.dropWhile isDashed with
  | [] => .error (.usage .noCommand)
  | name :: behind =>
    if options.contains "--" then .error (.usage (.unexpected name))
    else readCommand name behind

def Request.ofArguments (arguments : List String) : Request :=
  match readProgram arguments with
  | .ok command => .run command
  | .error .help => .help
  | .error .version => .version
  | .error (.usage error) => .refuse error

end ReactBridge.CommandLine
