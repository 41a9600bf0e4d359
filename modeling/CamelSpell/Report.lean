import CamelSpell.Json.Printer
import CamelSpell.Run.Basic
import CamelSpell.Unicode.Casing

/-!
# Reports

The outcome of a run is reported as text, one finding on each line and a summary below, or as a JSON
document.
-/

namespace CamelSpell

open CamelSpell.Path

inductive ReportFormat
  | text
  | json
deriving DecidableEq, Repr

namespace ReportFormat

def all : List ReportFormat := [text, json]

def name : ReportFormat -> String
  | text => "text"
  | json => "json"

end ReportFormat

structure UnknownReportFormat where
  name : String
deriving DecidableEq, Repr

namespace UnknownReportFormat

def message (e : UnknownReportFormat) : String :=
  "Unsupported report format \"" ++ e.name ++ "\". Use text or json."

end UnknownReportFormat

def ReportFormat.read (name : String) : Except UnknownReportFormat ReportFormat :=
  if name.isEmpty then .ok .text
  else
    match all.find? fun f => f.name == Unicode.lowerString name with
    | some f => .ok f
    | none => .error ⟨name⟩

def spellingCode : String := "SP001"

namespace Finding

def diagnostic (f : Finding) : String :=
  f.path.toString ++ ":" ++ toString f.misspelling.line ++ ":" ++
    toString f.misspelling.column ++ ": " ++ spellingCode ++ " spelling mistake '" ++
    String.ofList f.misspelling.word ++ "'"

def fields (f : Finding) : Fields :=
  [("path", .text f.path.toString), ("word", .text (String.ofList f.misspelling.word)),
    ("line", .number (Number.ofNat f.misspelling.line)),
    ("column", .number (Number.ofNat f.misspelling.column))]

end Finding

namespace Warning

def fields (w : Warning) : Fields :=
  let path := (w.path?.map fun p => ("path", Value.text p.toString)).toList
  ("kind", .text w.kind) :: (path ++ [("message", .text w.message)])

end Warning

def counted (n : Nat) (noun : String) : String :=
  toString n ++ " " ++ noun ++ (if n = 1 then "" else "s")

namespace RunOutcome

def summary (o : RunOutcome) : String :=
  let files := counted o.files.length "file"
  match o.status with
  | .clean => "No spelling mistakes found in " ++ files ++ "."
  | .mistakes =>
      let flagged := (o.findings.map Finding.path).eraseDups.length
      "Found " ++ counted o.findings.length "spelling mistake" ++ " in " ++
        counted flagged "file" ++ " (" ++ files ++ " checked)."

def textReport (o : RunOutcome) : String :=
  String.join ((o.findings.map Finding.diagnostic ++ [o.summary]).map fun line => line ++ "\n")

end RunOutcome

/-- The JSON document of an outcome whose findings and warnings are given as tables.  The code comes
after the fields that a finding has, or in the place of one that has its name. -/
def reportDocument (status : RunStatus) (files : List Path) (findings warnings : List Fields) :
    String :=
  let marked (fields : Fields) : Value :=
    .table (Fields.ofList (fields ++ [("code", .text spellingCode)]))
  Json.indented 0 (.table [
    ("status", .text status.name),
    ("files", .list (files.map fun p => .text p.toString)),
    ("findings", .list (findings.map marked)),
    ("warnings", .list (warnings.map .table))]) ++ "\n"

namespace RunOutcome

def jsonReport (o : RunOutcome) : String :=
  reportDocument o.status o.files (o.findings.map Finding.fields) (o.warnings.map Warning.fields)

def report (o : RunOutcome) : ReportFormat -> String
  | .text => o.textReport
  | .json => o.jsonReport

end RunOutcome

/-!
## Exit codes
-/

inductive ExitCode
  | clean
  | mistakes
  | failure
deriving DecidableEq, Repr

namespace ExitCode

def toNat : ExitCode -> Nat
  | clean => 0
  | mistakes => 1
  | failure => 2

def ofStatus : RunStatus -> ExitCode
  | .clean => clean
  | .mistakes => mistakes

def ofFailure (_ : FailureKind) : ExitCode := failure

end ExitCode
end CamelSpell
