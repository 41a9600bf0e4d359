import CamelSpell.CommandLine.Help

/-!
# Requests

The command line is read as a request: to carry out a command, or to show help.  The options of the
log may stand anywhere.  Without the name of a command, files are checked.
-/

namespace CamelSpell
namespace Program

open CommandLine

/-- What the command line does not tell: the settings from outside, and how many arguments a call
can be given. -/
structure Environment where
  logLevel : Option String
  logFormat : Option String
  dictionary : Option String
  maxArguments : Nat

inductive CommandName
  | check
  | init
  | words
deriving DecidableEq, Repr

namespace CommandName

def all : List CommandName := [check, init, words]

def text : CommandName -> String
  | check => "check"
  | init => "init"
  | words => "words"

def ofText? (name : String) : Option CommandName :=
  all.find? fun c => c.text = name

def description : CommandName -> String
  | check => "Check every file under the given paths"
  | init => "Create a sample configuration file"
  | words => "Show how a token is split into words"

def operands : CommandName -> List (String × String × String)
  | check => [("paths", "[paths...]", "Files or directories to check (default: .)")]
  | init => []
  | words => [("token", "<token>", "Identifier or word to split")]

def options : CommandName -> List OptionSpec
  | check => [
      ⟨"--config", "path",
        "Configuration file (.toml, .yaml, .yml, .json, pyproject.toml or package.json)", none⟩,
      ⟨"--dictionary", "path", "Newline-delimited word list to use instead of the bundled one",
        none⟩,
      ⟨"--exclude", "glob", "Additional exclusion glob, repeatable", some (.list [])⟩,
      ⟨"--format", "format", "Report format (text|json)", some (.text "text")⟩,
      ⟨"--concurrency", "number", "Files checked at once", none⟩]
  | init => [⟨"--config", "path", "Config path", some (.text ".spellsweep.toml")⟩]
  | words => []

def operandTerms (c : CommandName) : List String :=
  c.operands.map fun (_, term, _) => term

def term (c : CommandName) : String :=
  String.intercalate " " <|
    [c.text] ++ (if c.options.isEmpty then [] else ["[options]"]) ++ c.operandTerms

end CommandName

def programName : String := "spellsweep"

/-- The options of the log, which belong to the program as a whole.  Their values are taken from the
environment where the command line has none. -/
def logOptions (env : Environment) : List OptionSpec :=
  [⟨"--log-level", "level", "Log level (silent|error|warn|info|debug)", env.logLevel.map .text⟩,
    ⟨"--log-format", "format", "Log format (plain|text|json)", env.logFormat.map .text⟩]

/-!
## Help

Help is given where an option asks for it, where the help command does, or where that command is
asked about a command that there is not.
-/

def helpPage (env : Environment) : Option CommandName -> HelpPage
  | none =>
      { usage := programName ++ " [options] [command]"
        description :=
          "Spell-check source trees, splitting camelCase, PascalCase and acronyms into words"
        arguments := []
        options := optionItems (logOptions env)
        commands :=
          CommandName.all.map (fun c => ⟨c.term, c.description⟩) ++
            [⟨"help [command]", helpDescription⟩] }
  | some c =>
      { usage := String.intercalate " " ([programName, c.text, "[options]"] ++ c.operandTerms)
        description := c.description
        arguments := c.operands.map fun (name, _, what) => ⟨name, what⟩
        options := optionItems c.options
        commands := [] }

inductive HelpCause
  | option
  | command
  | unknownCommand
deriving DecidableEq, Repr

/-!
## Commands

The values of its options become the options of a command, and the operands its arguments.  The
names that the log is given come from the options, or else from the environment.
-/

structure CheckOptions where
  paths : List String
  config : Option String
  dictionary : Option String
  exclude : List String
  format : String
  concurrency : Option String
deriving DecidableEq, Repr

inductive Command
  | check (options : CheckOptions)
  | init (config : String)
  | words (token : String)
deriving DecidableEq, Repr

structure LogNames where
  level : Option String
  format : Option String
deriving DecidableEq, Repr

inductive Request
  | help (command : Option CommandName) (cause : HelpCause)
  | perform (log : LogNames) (command : Command)
deriving DecidableEq, Repr

def Command.ofArguments (env : Environment) (c : CommandName) (a : Arguments) :
    Except UsageError Command :=
  match c with
  | .check =>
      .ok <| .check
        { paths := a.operands
          config := a.value? "--config"
          dictionary := (a.value? "--dictionary").or env.dictionary
          exclude := a.valuesOf "--exclude"
          format := (a.value? "--format").getD "text"
          concurrency := a.value? "--concurrency" }
  | .init => .ok (.init ((a.value? "--config").getD ".spellsweep.toml"))
  | .words =>
      match a.operands with
      | token :: _ => .ok (.words token)
      | [] => .error (.missingOperand "token")

namespace Request

def readCommand (env : Environment) (log : LogNames) (c : CommandName)
    (operands rest : List String) : Except UsageError Request := do
  let a <- CommandLine.read c.options false rest
  if asksForHelp a.unknown then return .help (some c) .option
  match a.unknown with
  | option :: _ =>
      let known := (c.options ++ logOptions env).map OptionSpec.name ++ ["--help"]
      .error (.unknownOption option (similarOptions option known))
  | [] =>
      let command <- Command.ofArguments env c { a with operands := operands ++ a.operands }
      return .perform log command

def readHelp : List String -> Request
  | [] => .help none .command
  | name :: _ =>
      if name.isEmpty then .help none .command
      else
        match CommandName.ofText? name with
        | some c => .help (some c) .command
        | none => .help none .unknownCommand

def read (env : Environment) (args : List String) : Except UsageError Request := do
  let a <- CommandLine.read (logOptions env) false args
  let log : LogNames :=
    ⟨(a.value? "--log-level").or env.logLevel, (a.value? "--log-format").or env.logFormat⟩
  let standard : Except UsageError Request :=
    if asksForHelp a.unknown then return .help none .option
    else readCommand env log .check a.operands a.unknown
  match a.operands with
  | [] => standard
  | name :: operands =>
      match CommandName.ofText? name with
      | some c => readCommand env log c operands a.unknown
      | none => if name = "help" then return readHelp operands else standard

end Request
end Program
end CamelSpell
