import CamelSpell.Json.Reader
import CamelSpell.Path
import CamelSpell.Toml.Document
import CamelSpell.Unicode.Casing
import CamelSpell.Yaml.Document

/-!
# Configuration documents

The extension of a file decides the format in which it is read.  Most configuration files are a
table of settings; manifests that are shared with other programs hold the settings in a section.
-/

namespace CamelSpell
namespace Config

open CamelSpell.Path

inductive DocumentFormat
  | toml
  | yaml
  | json
deriving DecidableEq, Repr

namespace DocumentFormat

def ofPath? (p : Path) : Option DocumentFormat :=
  match String.ofList (Unicode.lower (fileExtension p)) with
  | ".toml" => some toml
  | ".yaml" => some yaml
  | ".yml" => some yaml
  | ".json" => some json
  | _ => none

def parse? (format : DocumentFormat) (text : List Char) : Option Value :=
  match format with
  | toml => Toml.parse? text
  | yaml => Yaml.parse? text
  | json => Json.parse? (String.ofList text)

end DocumentFormat

/-!
## Manifests

A manifest is shared with other programs.  Its settings stand in a section, below a table of tools
in one of the manifests and at the top in the other.
-/

def sectionName : String := "spellsweep"

def toolManifest : Name := "pyproject.toml".toList

def plainManifest : Name := "package.json".toList

def manifestNames : List Name := [toolManifest, plainManifest]

def isManifest (p : Path) : Bool :=
  manifestNames.contains (baseName p)

def member? (key : String) (v : Value) : Option Value :=
  v.fields?.bind fun fields => Fields.get? fields key

/-- The section with the settings, wherever the file with the given path keeps it. -/
def section? (p : Path) (document : Value) : Option Value :=
  if baseName p = toolManifest then (member? "tool" document).bind (member? sectionName)
  else member? sectionName document

end Config
end CamelSpell
