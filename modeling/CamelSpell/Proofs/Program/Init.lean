import CamelSpell.Proofs.Config.Loading
import CamelSpell.Proofs.FileSystem.Created
import CamelSpell.Proofs.Program.History
import CamelSpell.Proofs.Program.Sample
import CamelSpell.Proofs.Utf8

/-!
# Samples and their names

A sample is made under any name, and it is always the same text.  How a configuration is read is for
its name to say.  So a sample can be loaded if its name says that it is TOML, unless the settings
would have to stand in a section of a manifest.
-/

namespace CamelSpell

open CamelSpell.Path Log

namespace Config

open Program Logged

variable {fs : FileSystem} {p target : Path}

def sampleConfig : Config :=
  { standard with exclude := sampleExclusions }

/-- What comes of loading the sample under a path. -/
def sampleUnder (target : Path) : Except Failure Config :=
  match DocumentFormat.ofPath? target with
  | none => .error (.unsupportedFormat target)
  | some .yaml => .error (.malformed target)
  | some .json => .error (.malformed target)
  | some .toml =>
      if baseName target = toolManifest then .error (.noSection target) else .ok sampleConfig

/-!
# The sample under a name

The sample is written as it is whatever the name of the file, and the name decides how it is read
again.
-/

theorem ofValue_sampleValue (source : Path) :
    (ofValue source sampleValue).result = .ok sampleConfig :=
  rfl

theorem ofPath?_plainManifest (h : baseName p = plainManifest) :
    DocumentFormat.ofPath? p = some .json := by
  unfold DocumentFormat.ofPath? fileExtension
  rw [h]
  rfl

theorem ofDocument_sampleValue (h : DocumentFormat.ofPath? p = some .toml) :
    (ofDocument p sampleValue).result =
      if baseName p = toolManifest then .error (.noSection p) else .ok sampleConfig := by
  by_cases htool : baseName p = toolManifest
  · have hmanifest : isManifest p = true := by
      unfold isManifest
      rw [htool]
      rfl
    have hsection : section? p sampleValue = none := by
      unfold section?
      rw [if_pos htool]
      rfl
    unfold ofDocument
    rw [if_pos htool, if_pos hmanifest, hsection]
    rfl
  · have hplain : baseName p ≠ plainManifest := by
      intro heq
      rw [ofPath?_plainManifest heq] at h
      cases h
    have hmanifest : ¬ isManifest p = true := by
      unfold isManifest manifestNames
      simp [htool, hplain]
    unfold ofDocument
    rw [if_neg htool, if_neg hmanifest]
    exact ofValue_sampleValue p

theorem readCharacters_of_encoded {text : String} (h : fs.read p = .ok (Utf8.encode text)) :
    readCharacters fs p = .ok text.toList := by
  unfold readCharacters
  rw [h]
  show Except.ok (Utf8.lenient (Utf8.encode text)).toList = _
  rw [Utf8.lenient_encode]

theorem readDocument_sampleText (target : Path) :
    readDocument target sampleText.toList =
      match DocumentFormat.ofPath? target with
      | none => .error (.unsupportedFormat target)
      | some .yaml => .error (.malformed target)
      | some .json => .error (.malformed target)
      | some .toml => .ok sampleValue := by
  unfold readDocument
  cases DocumentFormat.ofPath? target with
  | none =>
      rfl
  | some format =>
      simp only [parse?_sampleText]
      cases format with
      | yaml => rfl
      | json => rfl
      | toml => rfl

theorem load_of_sample (hp : fs.resolve p = target)
    (hread : fs.read target = .ok (Utf8.encode sampleText)) :
    (load fs p).result = sampleUnder target := by
  rw [load_of_text hp (readCharacters_of_encoded hread), Logged.result_bind]
  show (readDocument target sampleText.toList).bind _ = _
  rw [readDocument_sampleText]
  unfold sampleUnder
  cases hformat : DocumentFormat.ofPath? target with
  | none =>
      rfl
  | some format =>
      cases format with
      | yaml => rfl
      | json => rfl
      | toml => exact ofDocument_sampleValue hformat

end Config

namespace Program
namespace Session

open CommandLine Config

variable {s : Session} {time : String} {env : Environment} {args : List String} {names : LogNames}
  {config : String}

theorem create_of_clean (hread : Request.read env args = .ok (.perform names (.init config)))
    (hclean : (s.run time env args).2.code = .clean) :
    s.fileSystem.create (s.fileSystem.resolve config.toList) (Utf8.encode sampleText) =
      .ok (s.run time env args).1.fileSystem := by
  cases hnames : names.options with
  | error e =>
      rw [run_of_nameError hread hnames] at hclean
      cases hclean
  | ok o =>
      rw [run_of_action hread hnames] at hclean ⊢
      simp only [runCommand, runInit] at hclean ⊢
      split at hclean
      · rename_i fs hcreate
        rw [hcreate]
      · cases hclean
      · cases hclean

theorem clean_of_create (s : Session) (time : String)
    (hread : Request.read env args = .ok (.perform names (.init config))) {o : Log.Options}
    (hnames : names.options = .ok o) {fs : FileSystem}
    (hcreate : s.fileSystem.create (s.fileSystem.resolve config.toList) (Utf8.encode sampleText) =
      .ok fs) :
    (s.run time env args).2.code = .clean := by
  rw [run_of_action hread hnames]
  simp only [runCommand, runInit, hcreate]

/-- What is loaded where a sample was made depends on the name of the file alone. -/
theorem load_made (s : Session) (time : String)
    (hread : Request.read env args = .ok (.perform names (.init config)))
    (hclean : (s.run time env args).2.code = .clean) :
    (load (s.run time env args).1.fileSystem config.toList).result =
      sampleUnder (s.fileSystem.resolve config.toList) := by
  have hcreate := create_of_clean hread hclean
  apply load_of_sample
  · exact FileSystem.resolve_create hcreate config.toList
  · exact FileSystem.read_create hcreate

def projectFiles : FileSystem where
  root := .directory [("home".toList, .directory [("conf".toList, .directory [])])]
  workingNames := ["home".toList]

def madeAs (config : String) : Session × Output :=
  Session.run ⟨projectFiles, Settings.standard⟩ "" ⟨none, none, none, 0⟩
    ["init", "--config", config]

theorem clean_of_project {fs : FileSystem}
    (hread : Request.read ⟨none, none, none, 0⟩ ["init", "--config", config] =
      .ok (.perform ⟨none, none⟩ (.init config)))
    (hcreate : projectFiles.create (projectFiles.resolve config.toList)
      (Utf8.encode sampleText) = .ok fs) : (madeAs config).2.code = .clean :=
  clean_of_create ⟨projectFiles, Settings.standard⟩ "" hread
    (o := ⟨none, none, none, some .own⟩) rfl hcreate

theorem load_made_upperCase :
    (madeAs "conf/Spell.TOML").2.code = .clean ∧
      (load (madeAs "conf/Spell.TOML").1.fileSystem "conf/Spell.TOML".toList).result =
        .ok sampleConfig := by
  have hread : Request.read ⟨none, none, none, 0⟩ ["init", "--config", "conf/Spell.TOML"] =
      .ok (.perform ⟨none, none⟩ (.init "conf/Spell.TOML")) := by
    cbv
  have htarget : projectFiles.resolve "conf/Spell.TOML".toList =
      "/home/conf/Spell.TOML".toList := by
    cbv
  have hcreate : forall bytes, projectFiles.create "/home/conf/Spell.TOML".toList bytes =
      .ok (projectFiles.withFile ["home".toList, "conf".toList, "Spell.TOML".toList] bytes) := by
    intro bytes
    cbv
  have hclean := clean_of_project hread (htarget ▸ hcreate _)
  have hformat : DocumentFormat.ofPath? "/home/conf/Spell.TOML".toList = some .toml := by
    cbv
  have hname : baseName "/home/conf/Spell.TOML".toList ≠ toolManifest := by
    decide
  refine ⟨hclean, ?_⟩
  rw [madeAs, load_made ⟨projectFiles, Settings.standard⟩ "" hread hclean, htarget, sampleUnder]
  simp only [hformat, if_neg hname]

/-- The sample is no JSON, though the name under which it was made says so. -/
theorem load_made_json :
    (madeAs ".spellsweep.json").2.code = .clean ∧
      (load (madeAs ".spellsweep.json").1.fileSystem ".spellsweep.json".toList).result =
        .error (.malformed "/home/.spellsweep.json".toList) := by
  have hread : Request.read ⟨none, none, none, 0⟩ ["init", "--config", ".spellsweep.json"] =
      .ok (.perform ⟨none, none⟩ (.init ".spellsweep.json")) := by
    cbv
  have htarget : projectFiles.resolve ".spellsweep.json".toList =
      "/home/.spellsweep.json".toList := by
    cbv
  have hcreate : forall bytes, projectFiles.create "/home/.spellsweep.json".toList bytes =
      .ok (projectFiles.withFile ["home".toList, ".spellsweep.json".toList] bytes) := by
    intro bytes
    cbv
  have hclean := clean_of_project hread (htarget ▸ hcreate _)
  have hformat : DocumentFormat.ofPath? "/home/.spellsweep.json".toList = some .json := by
    cbv
  have hmade := create_of_clean hread hclean
  refine ⟨hclean, ?_⟩
  rw [madeAs, load_of_sample (FileSystem.resolve_create hmade _) (FileSystem.read_create hmade),
    htarget, sampleUnder]
  simp only [hformat]

end Session
end Program
end CamelSpell
