import CamelSpell.Config.Document
import CamelSpell.Config.Settings
import CamelSpell.FileSystem.Access
import CamelSpell.Unicode.Utf8

/-!
# Search for a configuration

A configuration is loaded from a file that is named, or looked for in a directory and then in each
directory around it.  Within a directory, files of their own come before manifests.  A manifest
without settings is passed over, and so is one that is malformed, with a warning.
-/

namespace CamelSpell
namespace Config

open CamelSpell.Path Log

def scope : Option String := some "config"

def readCharacters (fs : FileSystem) (p : Path) : Except Failure (List Char) :=
  match fs.read p with
  | .ok bytes => .ok (Utf8.lenient bytes).toList
  | .error _ => .error (.unreadableConfig p)

def readDocument (p : Path) (text : List Char) : Except Failure Value :=
  match DocumentFormat.ofPath? p with
  | none => .error (.unsupportedFormat p)
  | some format =>
      match format.parse? text with
      | some v => .ok v
      | none => .error (.malformed p)

/-- The settings of a document.  A manifest must have its section; another document that holds
nothing at all is a table without entries. -/
def ofDocument (p : Path) (document : Value) : Logged Failure Config :=
  if isManifest p then
    match section? p document with
    | some section_ => ofValue p section_
    | none => Logged.fail (.noSection p)
  else
    match document with
    | .null => ofValue p (.table [])
    | v => ofValue p v

def load (fs : FileSystem) (p : Path) : Logged Failure Config := do
  let source := fs.resolve p
  let text <- Logged.ofExcept (readCharacters fs source)
  let document <- Logged.ofExcept (readDocument source text)
  ofDocument source document

/-!
## Search

The candidates are tried one after the other until one decides: it gives the configuration, or it
fails.
-/

structure Found where
  config : Config
  source : Option Path
deriving DecidableEq, Repr

def dedicatedNames : List Name :=
  [".spellsweep.toml", "spellsweep.toml", ".spellsweep.yaml", ".spellsweep.yml",
    ".spellsweep.json"].map String.toList

def isFile (fs : FileSystem) (p : Path) : Logged Failure Bool :=
  match fs.kind p with
  | .ok kind => pure (kind = .file)
  | .error e => if e.isAbsence then pure false else Logged.fail (.uninspectable p e)

def noteUse (p : Path) : Logged Failure Unit :=
  Logged.debug scope ("Using configuration " ++ p.toString)

def loadDedicated (fs : FileSystem) (p : Path) : Logged Failure (Option Found) := do
  noteUse p
  let config <- load fs p
  return some ⟨config, some p⟩

def loadManifest (fs : FileSystem) (p : Path) : Logged Failure (Option Found) := do
  let text <- Logged.ofExcept (readCharacters fs p)
  match readDocument p text with
  | .error failure =>
      Logged.write scope .warn
        ("Unparseable " ++ String.ofList (baseName p) ++ " found at " ++ p.toString)
        [("reason", .text failure.message)]
      return none
  | .ok document =>
      match section? p document with
      | none => return none
      | some section_ =>
          let config <- ofValue p section_
          noteUse p
          return some ⟨config, some p⟩

def loadCandidate (fs : FileSystem) (p : Path) : Logged Failure (Option Found) := do
  if <- isFile fs p then
    if isManifest p then loadManifest fs p else loadDedicated fs p
  else return none

def firstOf (fs : FileSystem) : List Path -> Logged Failure (Option Found)
  | [] => pure none
  | p :: rest => do
      match <- loadCandidate fs p with
      | some found => return some found
      | none => firstOf fs rest

def candidatesIn (directory : Path) : List Path :=
  (dedicatedNames ++ manifestNames).map fun name => Path.join directory name

def candidates (fs : FileSystem) (start : Path) : List Path :=
  (outward (Path.resolveNames fs.workingDirectory start)).flatMap fun ns =>
    candidatesIn (Path.absolute ns)

def find (fs : FileSystem) (start : Path) : Logged Failure Found := do
  match <- firstOf fs (candidates fs start) with
  | some found => return found
  | none =>
      Logged.debug scope "No configuration found, using defaults"
      return ⟨standard, none⟩

end Config
end CamelSpell
