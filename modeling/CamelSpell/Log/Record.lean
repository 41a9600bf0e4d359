import CamelSpell.Json.Printer
import CamelSpell.Unicode.Casing

/-!
# Log records

A record has a severity, a scope, a message and further fields.  It is written as one line in one of
three formats: `plain` for people, `text` with time and scope, and `json` for programs.
-/

namespace CamelSpell
namespace Log

open Unicode

inductive Severity
  | debug
  | info
  | warn
  | error
deriving DecidableEq, Repr

namespace Severity

def all : List Severity := [error, warn, info, debug]

def name : Severity -> String
  | debug => "debug"
  | info => "info"
  | warn => "warn"
  | error => "error"

def label : Severity -> String
  | debug => "DEBUG"
  | info => "INFO"
  | warn => "WARN"
  | error => "ERROR"

def rank : Severity -> Nat
  | debug => 10
  | info => 20
  | warn => 30
  | error => 40

end Severity

inductive Level
  | silent
  | from (s : Severity)
deriving DecidableEq, Repr

namespace Level

def all : List Level := silent :: Severity.all.map Level.from

def name : Level -> String
  | silent => "silent"
  | .from s => s.name

def rank : Level -> Nat
  | silent => 100
  | .from s => s.rank

def admits (l : Level) (s : Severity) : Bool :=
  l.rank ≤ s.rank

end Level

inductive Format
  | text
  | json
  | plain
deriving DecidableEq, Repr

namespace Format

def all : List Format := [text, json, plain]

def name : Format -> String
  | text => "text"
  | json => "json"
  | plain => "plain"

end Format

structure Record where
  severity : Severity
  scope : Option String
  message : String
  fields : Fields

def scopeLabel : Option String -> String
  | none => ""
  | some scope => if scope.isEmpty then "" else "[" ++ scope ++ "] "

def fieldsLabel (fields : Fields) : String :=
  if fields.isEmpty then "" else " " ++ Json.compact (.table fields)

namespace Record

/-- The fields of a record as a table.  Further fields replace the standard ones in their place. -/
def toFields (r : Record) (time : String) : Fields :=
  let scope := match r.scope with
    | some scope => [("scope", Value.text scope)]
    | none => ((r.fields.get? "scope").map fun v => ("scope", v)).toList
  Fields.ofList <|
    [("level", .text r.severity.name), ("time", .text time), ("message", .text r.message)] ++
      scope ++ r.fields

def line (r : Record) (format : Format) (time : String) : String :=
  match format with
  | .json => Json.compact (.table (r.toFields time)) ++ "\n"
  | .plain => r.severity.label ++ ": " ++ r.message ++ fieldsLabel r.fields ++ "\n"
  | .text =>
      time ++ " " ++ r.severity.label ++ " " ++ scopeLabel r.scope ++ r.message ++
        fieldsLabel r.fields ++ "\n"

end Record

structure Settings where
  level : Level
  format : Format
deriving DecidableEq, Repr

namespace Settings

def standard : Settings := ⟨.from .warn, .plain⟩

def render (s : Settings) (time : String) (r : Record) : String :=
  if s.level.admits r.severity then r.line s.format time else ""

def renderAll (s : Settings) (time : String) (rs : List Record) : String :=
  String.join (rs.map (s.render time))

end Settings

def qualify (outer : Option String) (inner : String) : String :=
  match outer with
  | none => inner
  | some outer => if outer.isEmpty then inner else outer ++ ":" ++ inner

/-!
## Names of levels and formats

Names may be in any case.  An empty name asks for nothing.
-/

inductive NameError
  | level (name : String)
  | format (name : String)
deriving DecidableEq, Repr

namespace NameError

def message : NameError -> String
  | level name =>
      "Unsupported log level \"" ++ name ++ "\". Use one of " ++
        String.intercalate "," (Level.all.map Level.name) ++ "."
  | format name =>
      "Unsupported log format \"" ++ name ++ "\". Use one of " ++
        String.intercalate "," (Format.all.map Format.name) ++ "."

end NameError

def readLevel (name : String) : Except NameError (Option Level) :=
  if name.isEmpty then .ok none
  else
    match Level.all.find? fun l => l.name == lowerString name with
    | some l => .ok (some l)
    | none => .error (.level name)

def readFormat (name : String) : Except NameError (Option Format) :=
  if name.isEmpty then .ok none
  else
    match Format.all.find? fun f => f.name == lowerString name with
    | some f => .ok (some f)
    | none => .error (.format name)

end Log
end CamelSpell
