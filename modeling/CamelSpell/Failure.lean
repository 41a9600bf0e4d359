import CamelSpell.FileSystem.Basic

/-!
# Failures

What stops a whole run.  Troubles with a single file are warnings and never failures.  Each failure
is a cause with what it concerns; its message, the path it names and its list of details are read
off the cause.
-/

namespace CamelSpell

inductive Problem
  | notList (key : String)
  | notText (key : String) (index : Nat)
  | notPositive (key : String)
deriving DecidableEq, Repr

namespace Problem

def message : Problem -> String
  | notList key => "\"" ++ key ++ "\" should be an array of strings"
  | notText key index => "\"" ++ key ++ "[" ++ toString index ++ "]\" should be a string"
  | notPositive key => "\"" ++ key ++ "\" should be a positive integer"

end Problem

inductive Failure
  | unreadableConfig (path : Path)
  | uninspectable (path : Path) (error : FileError)
  | malformed (path : Path)
  | unsupportedFormat (path : Path)
  | noSection (path : Path)
  | notTable (source : Path)
  | badSettings (source : Path) (problems : List Problem)
  | unreadableDictionary (path : Path) (error : FileError)
  | walkAborted (path : Path) (error : FileError)
  | noRoot
  | blankRoot
deriving DecidableEq, Repr

inductive FailureKind
  | configNotReadable
  | configInvalid
  | configTypeMismatch
  | dictionaryUnavailable
  | walkAborted
  | invalidRoot
deriving DecidableEq, Repr

namespace FailureKind

def name : FailureKind -> String
  | configNotReadable => "config-not-readable"
  | configInvalid => "config-invalid"
  | configTypeMismatch => "config-type-mismatch"
  | dictionaryUnavailable => "dictionary-unavailable"
  | walkAborted => "walk-aborted"
  | invalidRoot => "invalid-root"

end FailureKind

namespace Failure

open CamelSpell.Path

def malformedText : String := "the document is malformed"

def kind : Failure -> FailureKind
  | unreadableConfig _ | uninspectable .. => .configNotReadable
  | malformed _ | unsupportedFormat _ | noSection _ => .configInvalid
  | notTable _ | badSettings .. => .configTypeMismatch
  | unreadableDictionary .. => .dictionaryUnavailable
  | walkAborted .. => .walkAborted
  | noRoot | blankRoot => .invalidRoot

def message : Failure -> String
  | unreadableConfig path => "Configuration file " ++ path.toString ++ " is not readable"
  | uninspectable path error => "Could not inspect " ++ path.toString ++ ": " ++ error.message
  | malformed path => "Invalid configuration file " ++ path.toString ++ ": " ++ malformedText
  | unsupportedFormat path => "Unsupported config format for " ++ path.toString
  | noSection path => path.toString ++ " has no spellsweep section"
  | notTable source => source.toString ++ " should contain a table of settings"
  | badSettings source problems =>
      "Invalid settings in " ++ source.toString ++ ": " ++
        String.intercalate "; " (problems.map Problem.message)
  | unreadableDictionary path error =>
      "Dictionary " ++ path.toString ++ " could not be read: " ++ error.message
  | walkAborted path error =>
      "Directory walk aborted at " ++ path.toString ++ ": " ++ error.message
  | noRoot => "At least one path to check is required"
  | blankRoot => "Empty path given as a root to check"

def path? : Failure -> Option Path
  | unreadableConfig path | uninspectable path _ | malformed path | unsupportedFormat path
  | noSection path | notTable path | badSettings path _ | unreadableDictionary path _
  | walkAborted path _ => some path
  | noRoot | blankRoot => none

def details : Failure -> List String
  | badSettings _ problems => problems.map Problem.message
  | _ => []

end Failure
end CamelSpell
