/-
  FlowBench.Command.Line
  ──────────────────────
  **The command line.**

  Words say which command to carry out on what.  Options may stand anywhere
  behind what they belong to, with their value in the next word or behind an
  equals sign; behind two hyphens no word is an option.
-/
import FlowBench.Command.Basic
import FlowBench.Settings.File

namespace FlowBench

/-! ## §1. Options. -/

/-- What may be given besides the words of a command: options with a value,
and those without. -/
structure OptionNames where
  valued : List String := []
  plain : List String := []

/-- The words of a line, sorted. -/
structure Arguments where
  /-- The options with a value, by name. -/
  values : List (String × String) := []
  /-- The options without one. -/
  plain : List String := []
  words : List String := []

/-- What is wrong with a line. -/
inductive Misuse where
  | unknownOption (word : String)
  | noValue (option : String)
  | twice (option : String)
  | tooMany (word : String)
  | missing (what : String)
  | unknownCommand (word : String)
  deriving DecidableEq, Repr

namespace Misuse

/-- The text of a fault. -/
def text : Misuse → String
  | unknownOption word => "unexpected argument '" ++ word ++ "'"
  | noValue option => "a value is required for '" ++ option ++ "'"
  | twice option => "'" ++ option ++ "' cannot be used more than once"
  | tooMany word => "unexpected argument '" ++ word ++ "'"
  | missing what => "a required argument was not provided: " ++ what
  | unknownCommand word => "unrecognized subcommand '" ++ word ++ "'"

end Misuse

namespace Arguments

/-- The long name of an option in short form. -/
def longName? : Char → Option String
  | 't' => some "--text"
  | 'h' => some "--help"
  | 'V' => some "--version"
  | _ => none

/-- An option in its long form, and the value written with it. -/
def spelledOut (word : String) : Option (String × Option String) :=
  match word.toList with
  | '-' :: '-' :: cs =>
      let name := cs.takeWhile (· ≠ '=')
      some ("--" ++ String.ofList name,
        match cs.drop name.length with
        | _ :: value => some (String.ofList value)
        | [] => none)
  | '-' :: c :: cs =>
      (longName? c).map fun name =>
        (name,
          match cs with
          | [] => none
          | '=' :: value => some (String.ofList value)
          | value => some (String.ofList value))
  | _ => none

/-- Whether a word looks like an option. -/
def looksLikeOption (word : String) : Bool := word.startsWith "-" && word ≠ "-"

/-- The value of an option. -/
def value? (s : Arguments) (name : String) : Option String := s.values.lookup name

/-- Whether an option was given. -/
def has (s : Arguments) (name : String) : Bool := s.plain.contains name

/-- Adds an option with its value. -/
def addValue (s : Arguments) (name value : String) : Except Misuse Arguments :=
  if (s.value? name).isSome then .error (.twice name)
  else .ok { s with values := s.values ++ [(name, value)] }

/-- Adds an option without a value. -/
def addPlain (s : Arguments) (name : String) : Except Misuse Arguments :=
  if s.has name then .error (.twice name) else .ok { s with plain := s.plain ++ [name] }

/-- Sorts words.  With a limit, sorting stops at the first word that is no
option; it and the words behind it are left. -/
def sort (names : OptionNames) (stop : Bool) :
    Arguments → List String → Except Misuse (Arguments × List String)
  | s, [] => .ok (s, [])
  | s, "--" :: rest => .ok ({ s with words := s.words ++ rest }, [])
  | s, word :: rest =>
      if looksLikeOption word then
        match spelledOut word, rest with
        | none, _ => .error (.unknownOption word)
        | some (name, value), rest =>
            if names.plain.contains name then
              if value.isSome then .error (.unknownOption word)
              else
                match s.addPlain name with
                | .ok s => sort names stop s rest
                | .error m => .error m
            else if names.valued.contains name then
              match value, rest with
              | some value, rest =>
                  match s.addValue name value with
                  | .ok s => sort names stop s rest
                  | .error m => .error m
              | none, [] => .error (.noValue name)
              | none, value :: rest =>
                  if looksLikeOption value then .error (.noValue name)
                  else
                    match s.addValue name value with
                    | .ok s => sort names stop s rest
                    | .error m => .error m
            else .error (.unknownOption word)
      else if stop then .ok (s, word :: rest)
      else sort names stop { s with words := s.words ++ [word] } rest

end Arguments

/-! ## §2. Lines. -/

/-- What a line asks for. -/
inductive CommandLine where
  | run (config : Option String) (command : Command)
  | version
  | help
  deriving DecidableEq, Repr

namespace CommandLine

/-- The options that a command knows. -/
def optionsOf (name : String) : OptionNames :=
  let own : OptionNames :=
    if name = "resolve" then ⟨["--text"], []⟩
    else if name = "test" then ⟨[], ["--mock", "--save"]⟩
    else {}
  ⟨"--config" :: own.valued, "--help" :: own.plain⟩

/-- A path, which must not be empty. -/
def path (what value : String) : Except Misuse String :=
  if value.isEmpty then .error (.noValue what) else .ok value

/-- A command on a file. -/
def onFile (words : List String) (make : String → Command) : Except Misuse Command :=
  match words with
  | [] => .error (.missing "<FILE>")
  | [file] => (path "<FILE>" file).map make
  | _ :: word :: _ => .error (.tooMany word)

/-- A command on a node. -/
def onNode (words : List String) (make : String → String → Command) : Except Misuse Command :=
  match words with
  | [] => .error (.missing "<FILE>")
  | [_] => .error (.missing "<NODE>")
  | [file, node] => (path "<FILE>" file).map fun file => make file node
  | _ :: _ :: word :: _ => .error (.tooMany word)

/-- The command with a name. -/
def commandOf (name : String) (s : Arguments) : Except Misuse Command :=
  match name with
  | "validate" => onFile s.words .validate
  | "upstream" => onNode s.words .context
  | "resolve" => onNode s.words fun file node => .resolve file node (s.value? "--text")
  | "branches" => onFile s.words .branches
  | "test" => onNode s.words fun file node => .test file node (s.has "--mock") (s.has "--save")
  | name => .error (.unknownCommand name)

/-- The names of the commands. -/
def commandNames : List String := ["validate", "upstream", "resolve", "branches", "test"]

/-- Reads a line. -/
def parse (words : List String) : Except Misuse CommandLine := do
  let (before, rest) ← Arguments.sort ⟨["--config"], ["--help", "--version"]⟩ true {} words
  if before.has "--help" then return .help
  if before.has "--version" then return .version
  match rest with
  | [] =>
      match before.words with
      | [] => .error (.missing "<COMMAND>")
      | word :: _ => .error (.unknownCommand word)
  | "help" :: _ => return .help
  | name :: rest =>
      if !commandNames.contains name then .error (.unknownCommand name)
      let (behind, _) ← Arguments.sort (optionsOf name) false {} rest
      if behind.has "--help" then return .help
      let config ← ((behind.value? "--config").or (before.value? "--config")).mapM (path "--config")
      return .run config (← commandOf name behind)

/-! ## §3. Running. -/

/-- What the program is called. -/
def programName : String := "nodewire"

/-- The version of the program. -/
def programVersion : String := "0.1.0"

/-- How the program is used. -/
def usage : List String :=
  ["Usage: " ++ programName ++ " [--config <CONFIG>] <COMMAND>", "",
    "Commands:",
    "  validate <FILE>                      Validate a session file",
    "  upstream <FILE> <NODE>               Print the outputs visible to a node",
    "  resolve <FILE> <NODE> [-t <TEXT>]    Resolve a node's config (or free text)",
    "  branches <FILE>                      Show each node's active branch and the live edges",
    "  test <FILE> <NODE> [--mock] [--save] Test one node against the executor backend"]

/-- The settings at a place, with the variables in front. -/
def settings (place : String) (lookup? : String → Option String) : Plan.Fallible Settings := do
  let s ← Settings.load place
  return s.withVariables lookup?

/-- What is said of a failure. -/
def failureLines (e : Error) : List String :=
  ("Error: " ++ e.message) :: (e.fix?.map fun fix => "  Fix: " ++ fix).toList

/-- Carries a command out under the settings at a place; gives the exit code. -/
def carryOut (clock place : String) (lookup? : String → Option String) (c : Command) : Plan Nat :=
  (do c.plan clock (← settings place lookup?) : Plan.Fallible Unit).run.bind fun
    | .ok () => .done 0
    | .error e => (Plan.noteAll (failureLines e)).bind fun () => .done 1

/-- What a line does; `place` is where the settings usually are. -/
def plan (clock place : String) (lookup? : String → Option String) (words : List String) :
    Plan Nat :=
  match parse words with
  | .ok (.run config c) => carryOut clock (config.getD place) lookup? c
  | .ok .version =>
      (Plan.printAll [programName ++ " " ++ programVersion]).bind fun () => .done 0
  | .ok .help => (Plan.printAll usage).bind fun () => .done 0
  | .error m =>
      (Plan.noteAll (("error: " ++ m.text) :: "" :: usage)).bind fun () => .done 2

end CommandLine

end FlowBench
