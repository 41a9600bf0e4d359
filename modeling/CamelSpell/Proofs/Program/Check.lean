import CamelSpell.Proofs.Discovery.Failure
import CamelSpell.Proofs.MistakenFile
import CamelSpell.Proofs.Program.History
import CamelSpell.Proofs.Program.Stages
import CamelSpell.Proofs.RunComposition

/-!
# Exit codes of checks

What a check ends with is decided by its options and by the files: it fails if one of its stages
does, and otherwise it tells whether one of the files that it finds holds a mistake.  There is one
exception.  A file with more misspellings than a call can be given arguments breaks the check off,
which then fails and keeps its report to itself.
-/

namespace CamelSpell
namespace Program

open CamelSpell.Path CommandLine Log Utf8

namespace CheckOptions

def roots (o : CheckOptions) : List Path :=
  if o.paths.isEmpty then [Path.here] else o.paths.map String.toList

/-- How the files to check are discovered.  Of the globs in the settings and on the command line
only those count that can be read. -/
def discovery (o : CheckOptions) (fs : FileSystem) (config : Config) : Discovery where
  fileSystem := fs
  excludes := RuleNotation.glob.excludes <|
    (config.exclude ++ o.exclude).filter fun rule => !RuleNotation.glob.rejects rule
  scope := some "run:discovery"

end CheckOptions

def rulesOf (config : Config) (dictionary : Dictionary) : Rules :=
  ⟨dictionary.extend (config.allowedWords.map String.toList), config.minLength⟩

/-- A check is refused: a value on the command line is no format or no number of workers, the
settings or the dictionary cannot be had, or the files cannot be discovered. -/
inductive Refuses (fs : FileSystem) (o : CheckOptions) : Prop where
  | format {e : UnknownReportFormat} (h : ReportFormat.read o.format = .error e)
  | concurrency {e : CheckError} (h : readConcurrency o.concurrency = .error e)
  | settings {e : Failure} (h : HasSettings fs o.config (.error e))
  | dictionary {e : Failure} (h : HasDictionary fs o.dictionary (.error e))
  | discovery {found : Config.Found} {e : Failure}
      (settings : HasSettings fs o.config (.ok found))
      (h : ((o.discovery fs found.config).run o.roots).result = .error e)

/-- A check looks for mistakes in the sense of some rules in some files. -/
inductive Admits (fs : FileSystem) (o : CheckOptions) : Rules -> List Path -> Prop where
  | intro {format : ReportFormat} {concurrency : Option Number} {found : Config.Found}
      {dictionary : Dictionary} {files : List Path}
      (format_eq : ReportFormat.read o.format = .ok format)
      (concurrency_eq : readConcurrency o.concurrency = .ok concurrency)
      (settings : HasSettings fs o.config (.ok found))
      (hasDictionary : HasDictionary fs o.dictionary (.ok dictionary))
      (files_eq : ((o.discovery fs found.config).run o.roots).result = .ok files) :
      Admits fs o (rulesOf found.config dictionary) files

/-- The code that a check should end with. -/
inductive EndsWith (fs : FileSystem) (o : CheckOptions) : ExitCode -> Prop where
  | failure (refuses : Refuses fs o) : EndsWith fs o .failure
  | mistakes {r : Rules} {files : List Path} {p : Path} (admits : Admits fs o r files)
      (mem : p ∈ files) (mistake : HoldsMistake fs r p) : EndsWith fs o .mistakes
  | clean {r : Rules} {files : List Path} (admits : Admits fs o r files)
      (noMistake : forall p, p ∈ files -> ¬ HoldsMistake fs r p) : EndsWith fs o .clean

/-- A check breaks off: one of its files has more misspellings than a call can be given arguments.
-/
def BreaksOff (fs : FileSystem) (maxArguments : Nat) (o : CheckOptions) : Prop :=
  exists r files p text, Admits fs o r files ∧ p ∈ files ∧ fs.read p = .ok (encoded text) ∧
    maxArguments < (r.textMisspellings (withoutMark text)).length

/-!
# The run of a check

A check comes to a run with the settings, the dictionary and the number of workers that it has
read.  Every number that is accepted for the workers is a number.
-/

def runRequest (fs : FileSystem) (maxArguments : Nat) (o : CheckOptions)
    (concurrency : Option Number) (found : Config.Found) (dictionary : Dictionary) :
    RunRequest where
  fileSystem := fs
  roots := o.roots
  dictionary := dictionary
  config := found.config.addExclusions o.exclude
  concurrency := concurrency
  scope := some "run"
  maxArguments := maxArguments

theorem fileSet_runRequest (fs : FileSystem) (maxArguments : Nat) (o : CheckOptions)
    (concurrency : Option Number) (found : Config.Found) (dictionary : Dictionary) :
    (runRequest fs maxArguments o concurrency found dictionary).fileSet =
      ((o.discovery fs found.config).run o.roots).result := by
  unfold RunRequest.fileSet CheckOptions.discovery
  rw [RuleNotation.read_excludes, RuleNotation.excludes_filter]
  rfl

theorem ne_notANumber_of_readConcurrency {value : Option String} {concurrency : Option Number}
    (h : readConcurrency value = .ok concurrency) : concurrency ≠ some Number.notANumber := by
  unfold readConcurrency at h
  split at h
  · cases h
    rintro ⟨⟩
  · split at h
    · cases h
    · rename_i n _
      split at h
      · rename_i hpositive
        cases h
        rintro heq
        cases heq
        cases hpositive
      · cases h

theorem run_result {q : RunRequest} (hnumber : q.concurrency ≠ some Number.notANumber) :
    q.run.result = (q.fileSet.mapError RunError.failure).bind fun files =>
      (q.conclude q.ruleWarnings files (files.map (checkFile q.fileSystem q.rules))).result := by
  rw [RunRequest.run_eq_runInOrder hnumber]
  unfold RunRequest.runInOrder
  rw [Logged.result_bind, Logged.result_mapError, RunRequest.discover_result]
  cases q.fileSet <;> rfl

theorem check_result (fs : FileSystem) (maxArguments : Nat) (o : CheckOptions) :
    (check fs maxArguments o).result =
      ((ReportFormat.read o.format).mapError CheckError.format).bind fun format =>
      (readConcurrency o.concurrency).bind fun concurrency =>
      ((findSettings fs o.config).result.mapError CheckError.failure).bind fun found =>
      ((Dictionary.loadOrEnglish fs (o.dictionary.map String.toList)).mapError
        CheckError.failure).bind fun dictionary =>
      ((runRequest fs maxArguments o concurrency found dictionary).run.result.mapError
        CheckError.run).bind fun outcome =>
      .ok (.ofStatus outcome.status, outcome.report format) := by
  unfold check
  simp only [Logged.result_bind]
  refine congrArg (Except.bind _) (funext fun format => ?_)
  refine congrArg (Except.bind _) (funext fun concurrency => ?_)
  refine congrArg (Except.bind _) (funext fun found => ?_)
  -- a note of where the settings come from changes nothing
  cases found.source with
  | none =>
      simp only [Logged.result_bind]
      rfl
  | some source =>
      simp only [Logged.result_bind]
      rfl

/-!
# The end of a check

There is exactly one code that a check should end with, and it tells whether one of the files
holds a mistake unless the check is refused.  A run returns unless one of its files has too many
misspellings, and then its outcome gives that code.
-/

section Ends

variable {fs : FileSystem} {maxArguments : Nat} {o : CheckOptions} {r : Rules} {files : List Path}

theorem Admits.not_refuses (h : Admits fs o r files) : ¬ Refuses fs o := by
  cases h with
  | intro format_eq concurrency_eq settings hasDictionary files_eq =>
      intro hrefuses
      cases hrefuses with
      | format h => cases format_eq.symm.trans h
      | concurrency h => cases concurrency_eq.symm.trans h
      | settings h => cases settings.unique h
      | dictionary h => cases hasDictionary.unique h
      | discovery settings' h =>
          cases settings.unique settings'
          cases files_eq.symm.trans h

theorem Admits.unique (h : Admits fs o r files) {r' : Rules} {files' : List Path}
    (h' : Admits fs o r' files') : r = r' ∧ files = files' := by
  cases h with
  | intro _ _ settings hasDictionary files_eq =>
      cases h' with
      | intro _ _ settings' hasDictionary' files_eq' =>
          cases settings.unique settings'
          cases hasDictionary.unique hasDictionary'
          cases files_eq.symm.trans files_eq'
          exact ⟨rfl, rfl⟩

theorem EndsWith.unique {code code' : ExitCode} (h : EndsWith fs o code)
    (h' : EndsWith fs o code') : code = code' := by
  cases h with
  | failure refuses =>
      cases h' with
      | failure refuses' => rfl
      | mistakes admits mem mistake => exact absurd refuses admits.not_refuses
      | clean admits noMistake => exact absurd refuses admits.not_refuses
  | mistakes admits mem mistake =>
      cases h' with
      | failure refuses => exact absurd refuses admits.not_refuses
      | mistakes admits' mem' mistake' => rfl
      | clean admits' noMistake =>
          rcases admits.unique admits' with ⟨rfl, rfl⟩
          exact absurd mistake (noMistake _ mem)
  | clean admits noMistake =>
      cases h' with
      | failure refuses => exact absurd refuses admits.not_refuses
      | mistakes admits' mem mistake =>
          rcases admits.unique admits' with ⟨rfl, rfl⟩
          exact absurd mistake (noMistake _ mem)
      | clean admits' noMistake' => rfl

theorem Admits.isWordCharacter_newline (h : Admits fs o r files) :
    r.dictionary.isWordCharacter '\n' = false := by
  cases h with
  | intro _ _ _ hasDictionary _ =>
      exact (hasDictionary.built.extend _).isWordCharacter_newline

/-- A check breaks off if the findings of one of its files are too many for a call. -/
theorem Admits.breaksOff_iff (h : Admits fs o r files) :
    BreaksOff fs maxArguments o <->
      exists p, p ∈ files ∧ maxArguments < (checkFile fs r p).findings.length := by
  constructor
  · rintro ⟨r', files', p, text, hadmits, hp, hread, hlength⟩
    rcases h.unique hadmits with ⟨rfl, rfl⟩
    exact ⟨p, hp, (lt_length_findings_iff h.isWordCharacter_newline).mpr ⟨text, hread, hlength⟩⟩
  · rintro ⟨p, hp, hlength⟩
    rcases (lt_length_findings_iff h.isWordCharacter_newline).mp hlength with
      ⟨text, hread, hlength⟩
    exact ⟨r, files, p, text, h, hp, hread, hlength⟩

theorem BreaksOff.endsWith (h : BreaksOff fs maxArguments o) : EndsWith fs o .mistakes := by
  rcases h with ⟨r, files, p, text, hadmits, hp, hread, hlength⟩
  have hfindings := (lt_length_findings_iff hadmits.isWordCharacter_newline).mpr
    ⟨text, hread, hlength⟩
  have hne : (checkFile fs r p).findings ≠ [] :=
    List.ne_nil_of_length_pos (Nat.zero_lt_of_lt hfindings)
  exact .mistakes hadmits hp ((findings_ne_nil_iff hadmits.isWordCharacter_newline).mp hne)

theorem Admits.endsWith (h : Admits fs o r files) (invalid : List Warning) :
    EndsWith fs o (.ofStatus
      (RunRequest.gathered invalid files (files.map (checkFile fs r))).status) := by
  have hmistake : forall p, (checkFile fs r p).findings ≠ [] <-> HoldsMistake fs r p := fun p =>
    findings_ne_nil_iff h.isWordCharacter_newline
  unfold RunRequest.gathered RunRequest.outcome
  rw [List.flatMap_map]
  simp only
  split
  · rename_i hempty
    refine EndsWith.clean h ?_
    intro p hp
    rw [<- hmistake, Classical.not_not]
    exact List.flatMap_eq_nil_iff.mp (List.isEmpty_iff.mp hempty) p hp
  · rename_i hfound
    rw [List.isEmpty_iff, List.flatMap_eq_nil_iff] at hfound
    simp only [not_forall] at hfound
    rcases hfound with ⟨p, hp, hfindings⟩
    exact EndsWith.mistakes h hp ((hmistake p).mp hfindings)

theorem Admits.conclude_cases (h : Admits fs o r files) (q : RunRequest)
    (invalid : List Warning) :
    ((q.conclude invalid files (files.map (checkFile fs r))).result = .error .tooManyArguments ∧
        BreaksOff fs q.maxArguments o) ∨
      exists outcome : RunOutcome,
        (q.conclude invalid files (files.map (checkFile fs r))).result = .ok outcome ∧
          ¬ BreaksOff fs q.maxArguments o ∧ EndsWith fs o (.ofStatus outcome.status) := by
  have hfits : q.Fits (files.map (checkFile fs r)) <-> ¬ BreaksOff fs q.maxArguments o := by
    rw [h.breaksOff_iff]
    unfold RunRequest.Fits
    simp
  by_cases hbreaks : BreaksOff fs q.maxArguments o
  · left
    exact ⟨RunRequest.conclude_of_not_fits invalid files fun hall => hfits.mp hall hbreaks, hbreaks⟩
  · right
    exact ⟨_, RunRequest.conclude_of_fits invalid files (hfits.mpr hbreaks), hbreaks,
      h.endsWith invalid⟩

theorem ofStatus_ne_failure (status : RunStatus) : ExitCode.ofStatus status ≠ .failure := by
  cases status <;> exact ExitCode.noConfusion

/-- A check is refused, or breaks off, or reports the outcome of its run. -/
theorem check_cases (fs : FileSystem) (maxArguments : Nat) (o : CheckOptions) :
    (exists e, (check fs maxArguments o).result = .error e ∧
        (Refuses fs o ∨ BreaksOff fs maxArguments o)) ∨
      exists (format : ReportFormat) (outcome : RunOutcome),
        (check fs maxArguments o).result =
            .ok (.ofStatus outcome.status, outcome.report format) ∧
          ¬ BreaksOff fs maxArguments o ∧ EndsWith fs o (.ofStatus outcome.status) := by
  rw [check_result]
  cases hformat : ReportFormat.read o.format with
  | error e => exact Or.inl ⟨_, rfl, Or.inl (.format hformat)⟩
  | ok format =>
  cases hconcurrency : readConcurrency o.concurrency with
  | error e => exact Or.inl ⟨_, rfl, Or.inl (.concurrency hconcurrency)⟩
  | ok concurrency =>
  cases hsettings : (findSettings fs o.config).result with
  | error e => exact Or.inl ⟨_, rfl, Or.inl (.settings (hasSettings_iff.mpr hsettings))⟩
  | ok found =>
  cases hdictionary : Dictionary.loadOrEnglish fs (o.dictionary.map String.toList) with
  | error e => exact Or.inl ⟨_, rfl, Or.inl (.dictionary (hasDictionary_iff.mpr hdictionary))⟩
  | ok dictionary =>
  have hrun := run_result (q := runRequest fs maxArguments o concurrency found dictionary)
    (ne_notANumber_of_readConcurrency hconcurrency)
  rw [fileSet_runRequest] at hrun
  cases hfiles : ((o.discovery fs found.config).run o.roots).result with
  | error e =>
      rw [hfiles] at hrun
      left
      refine ⟨.run (.failure e), ?_, Or.inl (.discovery (hasSettings_iff.mpr hsettings) hfiles)⟩
      simp only [Except.mapError, Except.bind, hrun]
  | ok files =>
      rw [hfiles] at hrun
      have hadmits : Admits fs o (rulesOf found.config dictionary) files :=
        .intro hformat hconcurrency (hasSettings_iff.mpr hsettings)
          (hasDictionary_iff.mpr hdictionary) hfiles
      rcases hadmits.conclude_cases (runRequest fs maxArguments o concurrency found dictionary)
        (runRequest fs maxArguments o concurrency found dictionary).ruleWarnings with
        ⟨hconclude, hbreaks⟩ | ⟨outcome, hconclude, hends⟩
      · left
        refine ⟨.run .tooManyArguments, ?_, Or.inr hbreaks⟩
        simp only [Except.mapError, Except.bind, hrun.trans hconclude]
      · right
        refine ⟨format, outcome, ?_, hends⟩
        simp only [Except.mapError, Except.bind, hrun.trans hconclude]

theorem runCheck_code (s : Session) (time : String) (maxArguments : Nat) (o : CheckOptions) :
    (BreaksOff s.fileSystem maxArguments o -> (s.runCheck time maxArguments o).code = .failure) ∧
      (¬ BreaksOff s.fileSystem maxArguments o ->
        EndsWith s.fileSystem o (s.runCheck time maxArguments o).code) := by
  rcases check_cases s.fileSystem maxArguments o with
    ⟨e, hresult, hfails⟩ | ⟨_, _, hresult, hcompletes, hends⟩
  · rw [Session.runCheck_of_error hresult]
    refine ⟨fun _ => rfl, fun hcompletes => ?_⟩
    exact .failure (hfails.resolve_right hcompletes)
  · rw [Session.runCheck_of_ok hresult]
    exact ⟨fun hbreaks => absurd hbreaks hcompletes, fun _ => hends⟩

theorem runCheck_stdout_of_failure {s : Session} {time : String} {maxArguments : Nat}
    {o : CheckOptions} (h : (s.runCheck time maxArguments o).code = .failure) :
    (s.runCheck time maxArguments o).stdout = "" := by
  rcases check_cases s.fileSystem maxArguments o with
    ⟨e, hresult, _⟩ | ⟨_, outcome, hresult, _⟩
  · rw [Session.runCheck_of_error hresult]
  · rw [Session.runCheck_of_ok hresult] at h
    exact absurd h (ofStatus_ne_failure outcome.status)

/-!
# What changes nothing

A file that a check only warns of holds no mistake, and a glob that cannot be read excludes
nothing.
-/

variable {fs : FileSystem} {o : CheckOptions}

theorem HoldsMistake.not_warned {r : Rules} {p : Path} (h : HoldsMistake fs r p) :
    (checkFile fs r p).warning? = none := by
  rcases h with ⟨text, w, hread, _⟩
  rw [checkFile_of_decode? hread r (decode?_encoded text)]
  unfold CheckedFile.warning?
  cases checkText r (withoutMark text) <;> rfl

variable {more combined : List String} (hcombined : combined.Perm (o.exclude ++ more))
  (hmore : forall rule, rule ∈ more -> RuleNotation.glob.rejects rule = true)
include hcombined hmore

theorem discovery_of_rejects (config : Config) :
    { o with exclude := combined }.discovery fs config = o.discovery fs config := by
  unfold CheckOptions.discovery
  congr 1
  rw [RuleNotation.excludes_filter, RuleNotation.excludes_filter]
  have hperm : (config.exclude ++ combined).Perm (config.exclude ++ o.exclude ++ more) := by
    rw [List.append_assoc]
    exact hcombined.append_left config.exclude
  exact RuleNotation.excludes_of_rejects _ hperm hmore

theorem admits_of_rejects_iff {r : Rules} {files : List Path} :
    Admits fs { o with exclude := combined } r files <-> Admits fs o r files := by
  have hdiscovery : forall config, { o with exclude := combined }.discovery fs config =
      o.discovery fs config :=
    discovery_of_rejects hcombined hmore
  constructor
  · rintro ⟨format_eq, concurrency_eq, settings, hasDictionary, files_eq⟩
    rw [hdiscovery] at files_eq
    exact .intro format_eq concurrency_eq settings hasDictionary files_eq
  · rintro ⟨format_eq, concurrency_eq, settings, hasDictionary, files_eq⟩
    rw [<- hdiscovery] at files_eq
    exact .intro format_eq concurrency_eq settings hasDictionary files_eq

theorem breaksOff_of_rejects_iff {maxArguments : Nat} :
    BreaksOff fs maxArguments { o with exclude := combined } <-> BreaksOff fs maxArguments o := by
  unfold BreaksOff
  simp only [admits_of_rejects_iff hcombined hmore]

theorem EndsWith.of_rejects {code : ExitCode} (h : EndsWith fs o code) :
    EndsWith fs { o with exclude := combined } code := by
  cases h with
  | failure refuses =>
      refine .failure ?_
      cases refuses with
      | format h => exact .format h
      | concurrency h => exact .concurrency h
      | settings h => exact .settings h
      | dictionary h => exact .dictionary h
      | discovery settings h =>
          rw [<- discovery_of_rejects hcombined hmore] at h
          exact .discovery settings h
  | mistakes admits mem mistake =>
      exact .mistakes ((admits_of_rejects_iff hcombined hmore).mpr admits) mem mistake
  | clean admits noMistake =>
      exact .clean ((admits_of_rejects_iff hcombined hmore).mpr admits) noMistake

theorem runCheck_code_of_rejects {s t : Session} (hfs : s.fileSystem = t.fileSystem)
    (time : String) (maxArguments : Nat) :
    (s.runCheck time maxArguments { o with exclude := combined }).code =
      (t.runCheck time maxArguments o).code := by
  rcases runCheck_code t time maxArguments o with ⟨hfails, hends⟩
  rcases runCheck_code s time maxArguments { o with exclude := combined } with ⟨hfails', hends'⟩
  rw [hfs] at hfails' hends'
  have hiff : BreaksOff t.fileSystem maxArguments { o with exclude := combined } <->
      BreaksOff t.fileSystem maxArguments o :=
    breaksOff_of_rejects_iff hcombined hmore
  by_cases hbreaks : BreaksOff t.fileSystem maxArguments o
  · rw [hfails hbreaks, hfails' (hiff.mpr hbreaks)]
  · exact (hends' (mt hiff.mp hbreaks)).unique ((hends hbreaks).of_rejects hcombined hmore)

end Ends

theorem CheckOptions.roots_ne_nil (o : CheckOptions) : o.roots ≠ [] := by
  unfold roots
  split
  · exact List.cons_ne_nil _ _
  · rename_i hpaths
    simpa using hpaths

/-- A check whose arguments and log options can be read ends as its options and the files decide,
unless it breaks off: then it fails although it should tell of mistakes.  If it fails, it reports
nothing.  Globs that cannot be read and files that are only warned of have no part in the code, and
discovery fails only if a root is blank or leads nowhere, or if a directory that is looked into
cannot be listed. -/
theorem run_check (s : Session) (time : String) {env : Environment} {args : List String}
    {names : LogNames} {o : CheckOptions} {l : Options}
    (hread : Request.read env args = .ok (.perform names (.check o)))
    (hnames : names.options = .ok l) :
    (EndsWith s.fileSystem o (s.run time env args).2.code <->
      ¬ BreaksOff s.fileSystem env.maxArguments o) ∧
    (BreaksOff s.fileSystem env.maxArguments o ->
      (s.run time env args).2.code = .failure ∧ EndsWith s.fileSystem o .mistakes) ∧
    (¬ BreaksOff s.fileSystem env.maxArguments o ->
      forall code, (s.run time env args).2.code = code <-> EndsWith s.fileSystem o code) ∧
    ((s.run time env args).2.code = .failure -> (s.run time env args).2.stdout = "") ∧
    (forall more combined, combined.Perm (o.exclude ++ more) ->
      (forall rule, rule ∈ more -> RuleNotation.glob.rejects rule = true) ->
      (s.runCheck time env.maxArguments { o with exclude := combined }).code =
        (s.run time env args).2.code) ∧
    (forall r p, HoldsMistake s.fileSystem r p ->
      (checkFile s.fileSystem r p).warning? = none) ∧
    (s.fileSystem.IsProper -> forall config,
      (exists e, ((o.discovery s.fileSystem config).run o.roots).result = .error e) <->
        exists root, root ∈ o.roots ∧ Discovery.Breaks (o.discovery s.fileSystem config) root) := by
  rw [Session.run_of_action hread hnames]
  rcases runCheck_code { s with log := s.log.left.configure l } time env.maxArguments o with
    ⟨hfails, hends⟩
  refine ⟨⟨?_, hends⟩, ?_, ?_, runCheck_stdout_of_failure, ?_, fun r p => HoldsMistake.not_warned,
    ?_⟩
  · intro hmeets hbreaks
    have hcode := hmeets.unique hbreaks.endsWith
    exact absurd ((hfails hbreaks).symm.trans hcode) ExitCode.noConfusion
  · intro hbreaks
    exact ⟨hfails hbreaks, hbreaks.endsWith⟩
  · intro hcompletes code
    constructor
    · rintro rfl
      exact hends hcompletes
    · exact (hends hcompletes).unique
  · intro more combined hcombined hmore
    have hfs : s.fileSystem = { s with log := s.log.left.configure l }.fileSystem := rfl
    exact runCheck_code_of_rejects hcombined hmore hfs time env.maxArguments
  · intro hfs config
    have hroots := o.roots_ne_nil
    rw [Discovery.run_error_iff hfs, or_iff_right hroots]

def troubledFiles : FileSystem where
  root := Tree.directory
    [("words".toList, .file (encoded "left\n".toList)),
      ("a".toList, .file (encoded "leftWrrd".toList)), ("b".toList, .file [0xFF])]
  workingNames := []

def troubledOptions : CheckOptions where
  paths := ["b", "a"]
  config := none
  dictionary := some "words"
  exclude := [""]
  format := "text"
  concurrency := none

def troubledRules : Rules :=
  rulesOf Config.standard (Dictionary.ofEntries ["left".toList])

theorem admits_troubledFiles :
    Admits troubledFiles troubledOptions troubledRules ["a".toList, "b".toList] := by
  have hfiles : ((troubledOptions.discovery troubledFiles Config.standard).run
      troubledOptions.roots).result = .ok ["a".toList, "b".toList] := by
    cbv
  have hsettings : (findSettings troubledFiles troubledOptions.config).result =
      .ok ⟨Config.standard, none⟩ := by
    cbv
  have hdictionary : Dictionary.loadOrEnglish troubledFiles
      (troubledOptions.dictionary.map String.toList) =
        .ok (Dictionary.ofEntries ["left".toList]) := by
    cbv
  exact .intro rfl rfl (hasSettings_iff.mpr hsettings) (hasDictionary_iff.mpr hdictionary) hfiles

theorem breaksOff_troubledFiles_iff {maxArguments : Nat} :
    BreaksOff troubledFiles maxArguments troubledOptions <-> maxArguments = 0 := by
  have hmistake : (checkFile troubledFiles troubledRules "a".toList).findings.length = 1 := by
    rw [checkFile_of_chunks (by cbv) troubledRules (List.flatten_singleton)]
    decide +kernel
  have hbytes : (checkFile troubledFiles troubledRules "b".toList).findings.length = 0 := by
    rw [checkFile_of_chunks (by cbv) troubledRules (List.flatten_singleton)]
    decide +kernel
  rw [admits_troubledFiles.breaksOff_iff]
  simp only [List.mem_cons, List.not_mem_nil, or_false, exists_eq_or_imp, exists_eq_left,
    hmistake, hbytes]
  omega

theorem run_check_troubled :
    let run (maxArguments : Nat) := Session.run ⟨troubledFiles, Settings.standard⟩ ""
      ⟨none, none, some "words", maxArguments⟩ ["--exclude", "", "b", "a"]
    (forall maxArguments, Request.read ⟨none, none, some "words", maxArguments⟩
        ["--exclude", "", "b", "a"] = .ok (.perform ⟨none, none⟩ (.check troubledOptions))) ∧
      LogNames.options ⟨none, none⟩ = .ok ⟨none, none, none, some .own⟩ ∧
      (run 1).2.code = .mistakes ∧ (run 0).2.code = .failure ∧
      EndsWith troubledFiles troubledOptions .mistakes := by
  intro run
  have hread : forall maxArguments, Request.read ⟨none, none, some "words", maxArguments⟩
      ["--exclude", "", "b", "a"] = .ok (.perform ⟨none, none⟩ (.check troubledOptions)) :=
    fun _ => rfl
  have hnames : LogNames.options ⟨none, none⟩ = .ok ⟨none, none, none, some .own⟩ := by
    cbv
  have hcompletes : ¬ BreaksOff troubledFiles 1 troubledOptions := by
    rw [breaksOff_troubledFiles_iff]
    decide
  have hbreaks : BreaksOff troubledFiles 0 troubledOptions :=
    breaksOff_troubledFiles_iff.mpr rfl
  have hcode := (run_check ⟨troubledFiles, Settings.standard⟩ "" (hread 1) hnames).2.2.1
    hcompletes .mistakes
  have hfails := (run_check ⟨troubledFiles, Settings.standard⟩ "" (hread 0) hnames).2.1 hbreaks
  exact ⟨hread, hnames, hcode.mpr hfails.2, hfails⟩

end Program
end CamelSpell
