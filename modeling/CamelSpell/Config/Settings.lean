import CamelSpell.Failure
import CamelSpell.Log.Logged
import CamelSpell.Scanner
import CamelSpell.Value

/-!
# Settings

A configuration is read from a table.  Every wrong value is collected before the reading fails, so
that a broken file can be mended in one go; settings that nobody knows are passed over with a note
in the log.
-/

namespace CamelSpell

open Log

structure Config where
  exclude : List String
  allowedWords : List String
  minLength : Nat
deriving DecidableEq, Repr

namespace Config

def standard : Config := ⟨[], [], defaultMinLength⟩

def addExclusions (c : Config) (extra : List String) : Config :=
  { c with exclude := c.exclude ++ extra }

inductive Setting
  | exclude
  | allowedWords
  | minLength
deriving DecidableEq, Repr

def setting? (key : String) : Option Setting :=
  if key = "exclude" then some .exclude
  else if key = "allowed-words" || key = "allowedWords" then some .allowedWords
  else if key = "min-word-length" || key = "minWordLength" then some .minLength
  else none

/-- The texts of a list and the problems of its other items; `index` numbers the first item. -/
def readTexts (key : String) (index : Nat) : List Value -> List String × List Problem
  | [] => ([], [])
  | item :: rest =>
      let (texts, problems) := readTexts key (index + 1) rest
      match item with
      | .text s => (s :: texts, problems)
      | _ => (texts, .notText key index :: problems)

def readList (key : String) (value : Value) : Option (List String) × List Problem :=
  match value with
  | .list items =>
      let (texts, problems) := readTexts key 0 items
      (some texts, problems)
  | _ => (none, [.notList key])

def readPositive (key : String) (value : Value) : Option Nat × List Problem :=
  let wrong : Option Nat × List Problem := (none, [.notPositive key])
  match value with
  | .number n =>
      match n.toNat? with
      | some (k + 1) => (some (k + 1), [])
      | _ => wrong
  | _ => wrong

def readEntry (source : Path) (state : Config × List Problem) (entry : String × Value) :
    Logged Failure (Config × List Problem) := do
  let (config, problems) := state
  let (key, value) := entry
  match setting? key with
  | some .exclude =>
      let (texts, found) := readList key value
      return ({ config with exclude := texts.getD config.exclude }, problems ++ found)
  | some .allowedWords =>
      let (texts, found) := readList key value
      return ({ config with allowedWords := texts.getD config.allowedWords }, problems ++ found)
  | some .minLength =>
      let (length, found) := readPositive key value
      return ({ config with minLength := length.getD config.minLength }, problems ++ found)
  | none =>
      Logged.debug (some "config") <|
        "Ignoring unknown setting \"" ++ key ++ "\" in " ++ source.toString
      return state

def readEntries (source : Path) (state : Config × List Problem) :
    Fields -> Logged Failure (Config × List Problem)
  | [] => pure state
  | entry :: rest => do
      let state <- readEntry source state entry
      readEntries source state rest

def ofValue (source : Path) (value : Value) : Logged Failure Config :=
  match value.fields? with
  | none => Logged.fail (.notTable source)
  | some fields => do
      let (config, problems) <- readEntries source (standard, []) fields
      if problems.isEmpty then return config
      else Logged.fail (.badSettings source problems)

def toValue (c : Config) : Value :=
  .table [
    ("exclude", .list (c.exclude.map .text)),
    ("allowedWords", .list (c.allowedWords.map .text)),
    ("minWordLength", .number (Number.ofNat c.minLength))]

end Config
end CamelSpell
