import CamelSpell.Config.Search
import CamelSpell.Dictionary.Load
import CamelSpell.Log.Logger
import CamelSpell.Number.Literal
import CamelSpell.Program.Request
import CamelSpell.Program.Sample
import CamelSpell.Report

/-!
# Sessions

A session carries out command lines one after another.  It keeps the file system and the logger of
the program: a level or a format that one command line sets stays in force for those after it.
-/

namespace CamelSpell
namespace Program

open CommandLine Log

structure Session where
  fileSystem : FileSystem
  log : Logger

structure Output where
  code : ExitCode
  stdout : String
  stderr : String
deriving DecidableEq, Repr

namespace Output

def refusal (message : String) : Output := ⟨.failure, "", message ++ "\n"⟩

def help (page : HelpPage) : HelpCause -> Output
  | .option => ⟨.clean, page.render, ""⟩
  | .command => ⟨.failure, page.render, ""⟩
  | .unknownCommand => ⟨.failure, "", page.render⟩

end Output

/-!
## Checking

A check finds its settings, loads its dictionary and runs, in this order.  The first failure ends
it.
-/

inductive CheckError
  | format (error : UnknownReportFormat)
  | concurrency (value : String)
  | failure (cause : Failure)
  | run (error : RunError)
deriving DecidableEq, Repr

namespace CheckError

def message : CheckError -> String
  | format error => error.message
  | concurrency value =>
      "Unsupported concurrency \"" ++ value ++ "\". Use a positive integer."
  | failure cause => cause.message
  | run error => error.message

def details : CheckError -> List String
  | failure cause => cause.details
  | run error => error.details
  | _ => []

def fields (e : CheckError) : Fields :=
  if e.details.isEmpty then [] else [("details", .list (e.details.map .text))]

end CheckError

def checkScope : Option String := some "cli:check"

def readConcurrency : Option String -> Except CheckError (Option Number)
  | none => .ok none
  | some value =>
      match Number.ofText? value.toList with
      | none => .error (.concurrency value)
      | some n =>
          match n.toNat? with
          | some (_ + 1) => .ok (some n)
          | _ => .error (.concurrency value)

def findSettings (fs : FileSystem) : Option String -> Logged Failure Config.Found
  | none => Config.find fs fs.workingDirectory
  | some name =>
      if name.isEmpty then Config.find fs fs.workingDirectory
      else do
        let source := fs.resolve name.toList
        let config <- Config.load fs source
        return ⟨config, some source⟩

def check (fs : FileSystem) (maxArguments : Nat) (o : CheckOptions) :
    Logged CheckError (ExitCode × String) := do
  let format <- Logged.ofExcept ((ReportFormat.read o.format).mapError .format)
  let concurrency <- Logged.ofExcept (readConcurrency o.concurrency)
  let found <- (findSettings fs o.config).mapError .failure
  match found.source with
  | some source =>
      Logged.debug checkScope ("Loaded configuration from " ++ source.toString)
  | none => pure ()
  let dictionary <- Logged.ofExcept <|
    (Dictionary.loadOrEnglish fs (o.dictionary.map String.toList)).mapError .failure
  let roots := if o.paths.isEmpty then [Path.here] else o.paths.map String.toList
  let outcome <- (RunRequest.run
    { fileSystem := fs
      roots := roots
      dictionary := dictionary
      config := found.config.addExclusions o.exclude
      concurrency := concurrency
      scope := some "run"
      maxArguments := maxArguments }).mapError .run
  return (.ofStatus outcome.status, outcome.report format)

namespace Session

def render (s : Session) (time : String) (records : List Record) : String :=
  s.log.written time records

def runCheck (s : Session) (time : String) (maxArguments : Nat) (o : CheckOptions) : Output :=
  let done := check s.fileSystem maxArguments o
  match done.result with
  | .ok (code, report) => ⟨code, report, s.render time done.records⟩
  | .error e =>
      ⟨.failure, "",
        s.render time (done.records ++ [⟨.error, checkScope, e.message, e.fields⟩])⟩

def runInit (s : Session) (time : String) (config : String) : Session × Output :=
  let target := s.fileSystem.resolve config.toList
  match s.fileSystem.create target (Utf8.encode sampleText) with
  | .ok fs =>
      ({ s with fileSystem := fs }, ⟨.clean, "Created config at " ++ target.toString ++ "\n", ""⟩)
  | .error (.system .exists _ _) =>
      (s, ⟨.failure, "",
        s.render time
          [⟨.error, some "cli:init", "Config file already exists at " ++ target.toString, []⟩]⟩)
  | .error e => (s, .refusal e.message)

def runWords (token : String) : Output :=
  let line (w : SubWord) : String := toString w.offset ++ "\t" ++ String.ofList w.text ++ "\n"
  ⟨.clean, String.join ((splitToken token.toList).map line), ""⟩

def runCommand (s : Session) (time : String) (env : Environment) : Command -> Session × Output
  | .check o => (s, s.runCheck time env.maxArguments o)
  | .init config => s.runInit time config
  | .words token => (s, runWords token)

/-- Changes the logger of the program as a command line asks, and points it to its error stream. -/
def configure (s : Session) (names : LogNames) : Except NameError Session := do
  let level <- readLevel (names.level.getD "")
  let format <- readFormat (names.format.getD "")
  return { s with log := s.log.configure ⟨level, format, none, some .own⟩ }

def run (s : Session) (time : String) (env : Environment) (args : List String) :
    Session × Output :=
  let s := { s with log := s.log.left }
  match Request.read env args with
  | .error e => (s, .refusal e.message)
  | .ok (.help command cause) => (s, .help (helpPage env command) cause)
  | .ok (.perform names command) =>
      match s.configure names with
      | .error e => (s, .refusal e.message)
      | .ok s => s.runCommand time env command

end Session
end Program
end CamelSpell
