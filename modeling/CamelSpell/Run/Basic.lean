import CamelSpell.Config.Settings
import CamelSpell.Discovery
import CamelSpell.FileCheck
import CamelSpell.Run.Pool

/-!
# Runs

A run discovers the files below its roots and checks each of them.  Rules that are no patterns and
files that cannot be checked become warnings.  Discovery can fail, and so can the gathering of what
was found: the findings of a file are handed over as the arguments of one call, and a call can be
given only so many.
-/

namespace CamelSpell

open Log

inductive Warning
  | invalidExclusion (rule : RejectedRule)
  | notUtf8 (path : Path)
  | unreadable (path : Path) (error : FileError)
deriving DecidableEq, Repr

namespace Warning

open CamelSpell.Path

def kind : Warning -> String
  | invalidExclusion _ => "invalid-exclusion"
  | notUtf8 _ => "not-utf8"
  | unreadable .. => "io-error"

def message : Warning -> String
  | invalidExclusion r =>
      "Invalid exclusion glob \"" ++ r.rule ++ "\" ignored: " ++ r.error.message
  | notUtf8 path => path.toString ++ " did not contain valid UTF-8."
  | unreadable path error => path.toString ++ " could not be opened: " ++ error.message

def path? : Warning -> Option Path
  | invalidExclusion _ => none
  | notUtf8 path | unreadable path _ => some path

end Warning

namespace CheckedFile

def warning? (c : CheckedFile) : Option Warning :=
  match c.status with
  | .notUtf8 => some (.notUtf8 c.path)
  | .unreadable e => some (.unreadable c.path e)
  | _ => none

end CheckedFile

inductive RunStatus
  | clean
  | mistakes
deriving DecidableEq, Repr

namespace RunStatus

def name : RunStatus -> String
  | clean => "clean"
  | mistakes => "mistakes"

end RunStatus

structure RunOutcome where
  status : RunStatus
  files : List Path
  findings : List Finding
  warnings : List Warning
deriving DecidableEq, Repr

inductive RunError
  | failure (cause : Failure)
  | tooManyArguments
deriving DecidableEq, Repr

namespace RunError

def message : RunError -> String
  | failure cause => cause.message
  | tooManyArguments => "Maximum call stack size exceeded"

def details : RunError -> List String
  | failure cause => cause.details
  | tooManyArguments => []

end RunError

structure RunRequest where
  fileSystem : FileSystem
  roots : List Path
  dictionary : Dictionary
  config : Config
  concurrency : Option Number
  scope : Option String
  maxArguments : Nat

namespace RunRequest

def standardConcurrency : Number := Number.ofNat 4

/-- As many arguments as a stack of the usual size has room for. -/
def usualMaxArguments : Nat := 125000

/-- The number of workers for a number of files: at least one, whatever number is asked for, and not
more than there are files.  What is not a number asks for nobody. -/
def workers (q : RunRequest) (files : Nat) : Nat :=
  match q.concurrency.getD standardConcurrency with
  | .notANumber => 0
  | wanted =>
      match wanted.floor? with
      | some n => min (max n 1) files
      | none => files

def rules (q : RunRequest) : Rules :=
  ⟨q.dictionary.extend (q.config.allowedWords.map String.toList), q.config.minLength⟩

def report {ε : Type} (q : RunRequest) : List Warning -> Logged ε Unit
  | [] => pure ()
  | w :: rest => do
      Logged.warn q.scope w.message
      q.report rest

/-!
## Checked files

The first file with too many findings ends a run, and nothing is said of the files behind it.
-/

/-- Goes through files that have been checked, in their order.  The findings of a file are the
arguments of one call; a file without findings may have a warning. -/
def gather (q : RunRequest) : List CheckedFile -> Logged RunError (List Finding × List Warning)
  | [] => pure ([], [])
  | c :: rest =>
      if q.maxArguments < c.findings.length then Logged.fail .tooManyArguments
      else do
        let warnings := c.warning?.toList
        q.report warnings
        let (findings, others) <- q.gather rest
        return (c.findings ++ findings, warnings ++ others)

def outcome (files : List Path) (findings : List Finding) (warnings : List Warning) : RunOutcome :=
  { status := if findings.isEmpty then .clean else .mistakes
    files := files
    findings := findings
    warnings := warnings }

def conclude (q : RunRequest) (invalid : List Warning) (files : List Path)
    (checked : List CheckedFile) : Logged RunError RunOutcome := do
  let (findings, warnings) <- q.gather checked
  Logged.write q.scope .info
    ("Checked " ++ toString files.length ++ " files, " ++ toString findings.length ++
      " spelling mistakes") []
  return outcome files findings (invalid ++ warnings)

def checkFiles (q : RunRequest) (schedule : List Nat) (invalid : List Warning)
    (files : List Path) : Logged RunError RunOutcome :=
  q.conclude invalid files
    (Pool.perform (q.workers files.length) files (checkFile q.fileSystem q.rules) schedule)

/-!
## Runs

The workers of a run take turns by a schedule, which depends on the files.
-/

def discover (q : RunRequest) : Logged Failure (List Warning × List Path) := do
  let exclusion := ExclusionRules.read q.config.exclude
  let invalid := exclusion.rejected.map Warning.invalidExclusion
  q.report invalid
  let files <- Discovery.run
    ⟨q.fileSystem, exclusion.excludes, some (qualify q.scope "discovery")⟩ q.roots
  return (invalid, files)

def runUnder (q : RunRequest) (schedule : List Path -> List Nat) :
    Logged RunError RunOutcome := do
  let (invalid, files) <- q.discover.mapError .failure
  q.checkFiles (schedule files) invalid files

def run (q : RunRequest) : Logged RunError RunOutcome :=
  q.runUnder fun files => Pool.roundRobin (q.workers files.length) files.length

end RunRequest
end CamelSpell
