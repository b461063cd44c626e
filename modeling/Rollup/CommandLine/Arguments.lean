/-!
# Arguments of the command line

A command is a word with options behind it; each option has a value, given as the next argument or behind
an equals sign. The configuration may be named before or behind the command, and the one named behind it
counts. Anything else – unknown words or options, options missing, repeated or without a value – makes no
invocation.

Instead of running a command the program may be asked for its version. That question is answered as soon
as it is met, whatever follows, but only in front of the command.
-/

namespace Rollup

/-- **A command.** -/
inductive Command where
  /-- Computes and publishes the rows of a report. -/
  | materialize (fixture report : String)
  /-- Gives a page of a report, asked for on standard input. -/
  | query (fixture : String)
  /-- Counts the rows that access groups see. -/
  | count (fixture report : String) (owners : List String)
  /-- Gives all rows of a report, asked for on standard input. -/
  | download (fixture : String)
  deriving DecidableEq, Repr

/-- The file with the documents that the command works on. -/
def Command.fixture : Command → String
  | .materialize fixture _ | .query fixture | .count fixture _ _ | .download fixture => fixture

/-- Whether the command reads a query from standard input. -/
def Command.readsQuery : Command → Bool
  | .query _ | .download _ => true
  | _ => false

/-- **A command and its configuration.** -/
structure Invocation where
  /-- The file with the configuration. -/
  config : Option String
  /-- The command. -/
  command : Command
  deriving DecidableEq, Repr

/-- **What the program is called for.** -/
inductive Call where
  /-- To tell its version. -/
  | version
  /-- To run a command. -/
  | run (invocation : Invocation)
  deriving DecidableEq, Repr

/-- An argument: a word, or an option with its value. -/
inductive Argument where
  /-- A word. -/
  | word (text : String)
  /-- An option, without its dashes, and its value. -/
  | option (name value : String)
  deriving DecidableEq, Repr

namespace Argument

/-- Whether an argument begins like an option; a single dash is a word. -/
def isDashed (text : String) : Bool := text.startsWith "-" && text ≠ "-"

/-- The name of an option and its value, where that stands in the same argument. -/
def splitOption (cs : List Char) : String × Option String :=
  match cs.dropWhile (· ≠ '=') with
  | [] => (String.ofList cs, none)
  | _ :: value => (String.ofList (cs.takeWhile (· ≠ '=')), some (String.ofList value))

/-- **Reads arguments.** A double dash ends the options, and no word may follow it. -/
def readAll? : List String → Option (List Argument)
  | [] => some []
  | text :: rest =>
    if text = "--" then if rest.isEmpty then some [] else none
    else
      match text.toList with
      | '-' :: '-' :: cs =>
        match splitOption cs, rest with
        | (name, some value), rest => (readAll? rest).map (.option name value :: ·)
        | (name, none), value :: rest =>
          if isDashed value then none else (readAll? rest).map (.option name value :: ·)
        | (_, none), [] => none
      | _ => if isDashed text then none else (readAll? rest).map (.word text :: ·)

/-- The name and value of an option. -/
def asOption? : Argument → Option (String × String)
  | .option name value => some (name, value)
  | .word _ => none

end Argument

namespace Invocation

/-- Options by name and value. -/
abbrev Options := List (String × String)

/-- The values of an option. -/
def valuesOf (name : String) (options : Options) : List String :=
  (options.filter fun (n, _) => n == name).map Prod.snd

/-- The value of an option that may be given once. -/
def atMostOnce? (name : String) (options : Options) : Option (Option String) :=
  match valuesOf name options with
  | [] => some none
  | [value] => some (some value)
  | _ => none

/-- The value of an option that must be given once. -/
def once? (name : String) (options : Options) : Option String :=
  (atMostOnce? name options).bind fun value => value

/-- A path that may be given once; no path is empty. -/
def optionalPath? (name : String) (options : Options) : Option (Option String) :=
  (atMostOnce? name options).filter fun path => path ≠ some ""

/-- A path that must be given once. -/
def path? (name : String) (options : Options) : Option String :=
  (once? name options).filter fun path => path ≠ ""

/-- The access groups that all mentions of an option list together. -/
def groups (name : String) (options : Options) : List String :=
  (valuesOf name options).flatMap fun value => (value.splitOn ",")

/-- The options of a command. -/
def known? : String → Option (List String)
  | "materialize" => some ["config", "fixture", "report"]
  | "query" | "download" => some ["config", "fixture"]
  | "count" => some ["config", "fixture", "report", "owners"]
  | _ => none

/-- The command of a word and the options behind it. -/
def command? (word : String) (options : Options) : Option Command := do
  let known ← known? word
  if options.all fun (name, _) => known.contains name then
    let fixture ← path? "fixture" options
    match word with
    | "materialize" => return .materialize fixture (← once? "report" options)
    | "query" => return .query fixture
    | "count" => return .count fixture (← once? "report" options) (groups "owners" options)
    | _ => return .download fixture
  else none

/-- **Reads an invocation**: options, one word, options. -/
def read? (texts : List String) : Option Invocation := do
  let arguments ← Argument.readAll? texts
  let before := arguments.takeWhile fun a => a.asOption?.isSome
  match arguments.dropWhile fun a => a.asOption?.isSome with
  | .word word :: behind =>
    let before ← before.mapM Argument.asOption?
    let behind ← behind.mapM Argument.asOption?
    if before.all fun (name, _) => name == "config" then
      let first ← optionalPath? "config" before
      let second ← optionalPath? "config" behind
      return { config := second.or first, command := ← command? word behind }
    else none
  | _ => none

end Invocation

namespace Call

/-- Whether an argument asks for the version; a short option may have others behind it. -/
def isVersion (text : String) : Bool := text = "--version" || text.startsWith "-V"

/-- Whether the first thing asked for is the version. In front of it only the configuration may be named,
and that once. -/
def asksVersion (mayConfigure : Bool) : List String → Bool
  | [] => false
  | text :: rest =>
    if isVersion text then true
    else if text = "--config" then
      match rest with
      | [] => false
      | value :: rest =>
        mayConfigure && !Argument.isDashed value && value ≠ "" && asksVersion false rest
    else mayConfigure && text.startsWith "--config=" && text ≠ "--config=" && asksVersion false rest

/-- **Reads what the program is called for.** -/
def read? (texts : List String) : Option Call :=
  if asksVersion true texts then some .version else (Invocation.read? texts).map .run

end Call

end Rollup
