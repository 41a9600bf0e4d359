import CamelSpell.CommandLine.Similar
import CamelSpell.Value

/-!
# Command-line arguments

A program knows some options, each of which takes a value.  Its arguments are sorted into the values
of these options, operands, and a tail.  The tail, `unknown`, begins with the first option that the
program does not know, and holds all arguments behind it that belong to no option; it is left to
somebody else to read.
-/

namespace CamelSpell
namespace CommandLine

structure OptionSpec where
  name : String
  valueName : String
  description : String
  shown : Option Value

namespace OptionSpec

def flags (o : OptionSpec) : String :=
  o.name ++ " <" ++ o.valueName ++ ">"

end OptionSpec

inductive UsageError
  | missingValue (flags : String)
  | missingOperand (name : String)
  | unknownOption (option : String) (similar : List String)
deriving DecidableEq, Repr

namespace UsageError

def offer : List String -> String
  | [] => ""
  | [name] => "\n(Did you mean " ++ name ++ "?)"
  | names => "\n(Did you mean one of " ++ String.intercalate ", " names ++ "?)"

def message : UsageError -> String
  | missingValue flags => "error: option '" ++ flags ++ "' argument missing"
  | missingOperand name => "error: missing required argument '" ++ name ++ "'"
  | unknownOption option similar => "error: unknown option '" ++ option ++ "'" ++ offer similar

end UsageError

def helpNames : List String := ["-h", "--help"]

def asksForHelp (args : List String) : Bool :=
  args.any helpNames.contains

def isOption (arg : String) : Bool :=
  match arg.toList with
  | '-' :: _ :: _ => true
  | _ => false

def splitAtEquals? (arg : String) : Option (String × String) :=
  match arg.toList with
  | '-' :: '-' :: rest =>
      let name := rest.takeWhile (· != '=')
      match rest.dropWhile (· != '=') with
      | _ :: value =>
          if name.isEmpty then none
          else some (String.ofList ('-' :: '-' :: name), String.ofList value)
      | [] => none
  | _ => none

structure Arguments where
  values : List (String × String)
  operands : List String
  unknown : List String
deriving DecidableEq, Repr

namespace Arguments

def empty : Arguments := ⟨[], [], []⟩

def valuesOf (r : Arguments) (name : String) : List String :=
  (r.values.filter fun p => p.1 = name).map Prod.snd

def value? (r : Arguments) (name : String) : Option String :=
  (r.valuesOf name).getLast?

def consValue (name value : String) (r : Arguments) : Arguments :=
  { r with values := (name, value) :: r.values }

def consOther (inTail : Bool) (arg : String) (r : Arguments) : Arguments :=
  if inTail then { r with unknown := arg :: r.unknown }
  else { r with operands := arg :: r.operands }

def literal (inTail : Bool) (args : List String) : Arguments :=
  args.foldr (consOther inTail) empty

end Arguments

def option? (options : List OptionSpec) (name : String) : Option OptionSpec :=
  options.find? fun o => o.name = name

/-- Reads arguments.  `inTail` tells whether an option that is not known has been met; two dashes
end the options, and are kept for whoever reads the tail. -/
def read (options : List OptionSpec) (inTail : Bool) : List String -> Except UsageError Arguments
  | [] => .ok .empty
  | [arg] =>
      if arg = "--" then .ok (Arguments.literal inTail (if inTail then [arg] else []))
      else
        match option? options arg with
        | some o => .error (.missingValue o.flags)
        | none => .ok (readOther arg .empty)
  | arg :: next :: rest =>
      if arg = "--" then
        .ok (Arguments.literal inTail (if inTail then arg :: next :: rest else next :: rest))
      else
        match option? options arg with
        | some _ => (read options inTail rest).map (Arguments.consValue arg next)
        | none => (read options (inTail || staysUnknown arg) (next :: rest)).map (readOther arg)
where
  staysUnknown (arg : String) : Bool :=
    isOption arg &&
      match splitAtEquals? arg with
      | some (name, _) => (option? options name).isNone
      | none => true
  readOther (arg : String) (r : Arguments) : Arguments :=
    match splitAtEquals? arg with
    | some (name, value) =>
        if (option? options name).isSome then r.consValue name value
        else r.consOther (inTail || isOption arg) arg
    | none => r.consOther (inTail || isOption arg) arg

def similarOptions (option : String) (known : List String) : List String :=
  match option.toList with
  | '-' :: '-' :: word =>
      (similar (String.ofList word) (known.map fun k => String.ofList (k.toList.drop 2))).map
        fun name => "--" ++ name
  | _ => []

end CommandLine
end CamelSpell
