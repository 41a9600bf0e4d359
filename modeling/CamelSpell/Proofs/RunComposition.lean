import CamelSpell.Proofs.Discovery.Unread
import CamelSpell.Proofs.ExclusionRules
import CamelSpell.Proofs.RunFindings

/-!
# A run is made of its files

A run that returns puts together what the checks of its files bring, in the order of the files,
behind the warnings about its rules.  No check looks at another file, so what is said of one file
does not depend on the contents of the others.
-/

namespace CamelSpell

open CamelSpell.Path Log Utf8

/-!
# Checks of single files

A check finds something or warns, but not both, and depends on nothing but what is read of its
file.
-/

section CheckFile

variable {fs : FileSystem} {r : Rules} {p : Path}

theorem warning?_isSome_iff {c : CheckedFile} :
    c.warning?.isSome = true <-> c.status = .notUtf8 ∨ exists e, c.status = .unreadable e := by
  unfold CheckedFile.warning?
  cases c.status <;> simp

theorem findings_of_warning {c : CheckedFile} (h : c.warning?.isSome = true) : c.findings = [] := by
  unfold CheckedFile.findings
  rcases warning?_isSome_iff.mp h with hstatus | ⟨e, hstatus⟩
  · rw [hstatus]
  · rw [hstatus]

theorem path?_of_warning? {w : Warning} (h : (checkFile fs r p).warning? = some w) :
    w.path? = some p := by
  unfold CheckedFile.warning? at h
  rw [path_checkFile] at h
  split at h
  · cases h
    rfl
  · cases h
    rfl
  · cases h

theorem checkFile_of_read {fs' : FileSystem} (h : fs'.read p = fs.read p) :
    checkFile fs' r p = checkFile fs r p := by
  unfold checkFile
  rw [h]

end CheckFile

/-!
# Runs that return

A run that returns has checked each of its files, and none of them has more findings than a call
can be given arguments.
-/

namespace RunRequest

variable {q : RunRequest} {schedule : List Path -> List Nat} {o : RunOutcome} {files : List Path}
  {invalid : List Warning}

/-- A run returns an outcome once its workers have come to a stop. -/
structure Returns (q : RunRequest) (schedule : List Path -> List Nat) (o : RunOutcome) : Prop where
  stopped : forall invalid files, q.discover.result = .ok (invalid, files) ->
    (q.poolAfter files (schedule files)).isDone files = true
  result : (q.runUnder schedule).result = .ok o

def fileSet (q : RunRequest) : Except Failure (List Path) :=
  (Discovery.run ⟨q.fileSystem, (ExclusionRules.read q.config.exclude).excludes,
    some (qualify q.scope "discovery")⟩ q.roots).result

def ruleWarnings (q : RunRequest) : List Warning :=
  (ExclusionRules.read q.config.exclude).rejected.map Warning.invalidExclusion

theorem discover_result (q : RunRequest) :
    q.discover.result = q.fileSet.map fun files => (q.ruleWarnings, files) := by
  unfold discover
  rw [Logged.result_bind, report_result]
  show (Discovery.run _ _ >>= fun files => pure (q.ruleWarnings, files)).result = _
  rw [Logged.result_bind]
  show q.fileSet.bind _ = _
  cases q.fileSet <;> rfl

theorem discover_ok_iff : q.discover.result = .ok (invalid, files) <->
    invalid = q.ruleWarnings ∧ q.fileSet = .ok files := by
  rw [discover_result]
  cases q.fileSet with
  | error failure => simp [Except.map]
  | ok found => simp [Except.map, eq_comm]

theorem returns_iff : q.Returns schedule o <->
    exists files, q.fileSet = .ok files ∧
      (q.poolAfter files (schedule files)).isDone files = true ∧
        q.Fits (files.map (checkFile q.fileSystem q.rules)) ∧
          o = gathered q.ruleWarnings files (files.map (checkFile q.fileSystem q.rules)) := by
  have hresults : forall files, (q.poolAfter files (schedule files)).isDone files = true ->
      (q.poolAfter files (schedule files)).results = files.map (checkFile q.fileSystem q.rules) :=
    fun files hdone => (q.poolAfter_consistent files (schedule files)).results_of_isDone hdone
  constructor
  · intro h
    rcases runUnder_ok_iff.mp h.result with ⟨invalid, files, hdiscover, hfits, ho⟩
    have hdone := h.stopped invalid files hdiscover
    rcases discover_ok_iff.mp hdiscover with ⟨hinvalid, hfiles⟩
    rw [hresults files hdone] at hfits ho
    rw [hinvalid] at ho
    exact ⟨files, hfiles, hdone, hfits, ho⟩
  · rintro ⟨files, hfiles, hdone, hfits, ho⟩
    have hdiscover := discover_ok_iff.mpr ⟨rfl, hfiles⟩
    constructor
    · intro invalid files' hdiscover'
      cases hdiscover.symm.trans hdiscover'
      exact hdone
    · rw [<- hresults files hdone] at hfits ho
      exact runUnder_ok_iff.mpr ⟨q.ruleWarnings, files, hdiscover, hfits, ho⟩

/-!
# Other contents of one file

The same files are found whatever the contents of one of them, and the workers come to a stop at
the same turn.
-/

def withContents (q : RunRequest) (ns : List Name) (bytes : List UInt8) : RunRequest :=
  { q with fileSystem := q.fileSystem.withContents ns bytes }

section WithContents

variable (ns : List Name) (bytes : List UInt8)

theorem isDone_withContents (files : List Path) (schedule : List Nat) :
    ((q.withContents ns bytes).poolAfter files schedule).isDone files =
      (q.poolAfter files schedule).isDone files :=
  Pool.isDone_runSchedule files _ _ schedule rfl rfl

variable {ns} {old : List UInt8} (hfile : q.fileSystem.root.at? ns = some (.file old))
include hfile

theorem fileSet_withContents : (q.withContents ns bytes).fileSet = q.fileSet :=
  congrArg Logged.result (Discovery.run_withContents hfile bytes _ _ _)

theorem returns_withContents (h : q.Returns schedule o)
    (hfits : q.Fits (o.files.map (checkFile (q.withContents ns bytes).fileSystem q.rules))) :
    (q.withContents ns bytes).Returns schedule (gathered q.ruleWarnings o.files
      (o.files.map (checkFile (q.withContents ns bytes).fileSystem q.rules))) := by
  rcases returns_iff.mp h with ⟨files, hfiles, hdone, _, ho⟩
  subst ho
  refine returns_iff.mpr ⟨files, (fileSet_withContents bytes hfile).trans hfiles, ?_, hfits, rfl⟩
  rw [isDone_withContents]
  exact hdone

end WithContents

end RunRequest

/-!
# Everything but one file

Files that are checked with the same outcome leave the same findings and warnings.
-/

section Others

variable {fs fs' : FileSystem} {r : Rules} {others : Path -> Bool} {files : List Path}
  (h : forall p, others p = true -> checkFile fs' r p = checkFile fs r p)
include h

theorem filter_findings_of_others :
    ((files.map (checkFile fs' r)).flatMap CheckedFile.findings).filter (fun f => others f.path) =
      ((files.map (checkFile fs r)).flatMap CheckedFile.findings).filter
        fun f => others f.path := by
  rw [List.flatMap_map, List.flatMap_map, List.filter_flatMap, List.filter_flatMap]
  apply List.flatMap_congr
  intro p _
  cases hp : others p with
  | true =>
      rw [h p hp]
  | false =>
      have hnone : forall fs, (checkFile fs r p).findings.filter (fun f => others f.path) = [] := by
        intro fs
        rw [List.filter_eq_nil_iff]
        intro f hf
        rw [path_of_mem_findings hf, hp]
        exact Bool.false_ne_true
      rw [hnone, hnone]

theorem filter_warnings_of_others :
    ((files.map (checkFile fs' r)).filterMap CheckedFile.warning?).filter
        (fun w => w.path?.all others) =
      ((files.map (checkFile fs r)).filterMap CheckedFile.warning?).filter
        fun w => w.path?.all others := by
  rw [List.filterMap_map, List.filterMap_map, List.filter_filterMap, List.filter_filterMap]
  apply List.filterMap_congr
  intro p _
  cases hp : others p with
  | true =>
      simp only [Function.comp_apply, h p hp]
  | false =>
      have hnone : forall fs, ((checkFile fs r p).warning?).filter
          (fun w => w.path?.all others) = none := by
        intro fs
        rw [Option.filter_eq_none_iff]
        intro w hw
        rw [path?_of_warning? hw, Option.all_some, hp]
        exact Bool.false_ne_true
      rw [Function.comp_apply, Function.comp_apply, hnone, hnone]

end Others

def FileSystem.resolvesElsewhere (fs : FileSystem) (ns : List Name) (p : Path) : Bool :=
  Path.resolveNames fs.workingDirectory p != ns

theorem checkFile_withContents {fs : FileSystem} (hfs : fs.root.WellFormed)
    (hlinks : fs.root.LinkFree) {ns : List Name} {old : List UInt8}
    (hfile : fs.root.at? ns = some (.file old)) (bytes : List UInt8) (r : Rules) {p : Path}
    (hp : fs.resolvesElsewhere ns p = true) :
    checkFile (fs.withContents ns bytes) r p = checkFile fs r p := by
  apply checkFile_of_read
  apply FileSystem.read_withContents hfile
  intro hleads
  unfold FileSystem.resolvesElsewhere at hp
  rw [hleads.resolveNames_eq hfs hlinks, bne_self_eq_false] at hp
  cases hp

/-!
# The composition

A file that is warned of has no findings in the same run.
-/

theorem rejected_rules (rules : List String) :
    (ExclusionRules.read rules).rejected.map RejectedRule.rule =
      rules.filter RuleNotation.glob.rejects := by
  rw [<- RuleNotation.glob.rejected_map_fst, <- RuleNotation.read_rejected, List.map_map]
  rfl

theorem ne_of_warned {fs : FileSystem} {r : Rules} {files : List Path} {rules : List RejectedRule}
    {w : Warning} (hw : w ∈ (RunRequest.gathered (rules.map Warning.invalidExclusion) files
      (files.map (checkFile fs r))).warnings) {p : Path} (hp : w.path? = some p) {f : Finding}
    (hf : f ∈ (files.map (checkFile fs r)).flatMap CheckedFile.findings) : f.path ≠ p := by
  intro hpath
  rw [List.flatMap_map] at hf
  rcases List.mem_flatMap.mp hf with ⟨p', _, hfound⟩
  rw [path_of_mem_findings hfound] at hpath
  subst hpath
  rcases List.mem_append.mp hw with hrule | hchecked
  · rcases List.mem_map.mp hrule with ⟨rule, _, hw⟩
    rw [<- hw] at hp
    cases hp
  · rw [List.filterMap_map] at hchecked
    rcases List.mem_filterMap.mp hchecked with ⟨p, _, hwarning⟩
    cases (path?_of_warning? hwarning).symm.trans hp
    have hnothing := findings_of_warning (Option.isSome_of_mem hwarning)
    rw [hnothing] at hfound
    cases hfound

/-- A run that returns is composed of the checks of its files: their findings in order, and behind
one warning for each rejected rule one for each file that is not UTF-8 or cannot be read.  Without
links, a run that returns with other contents of one file says the same of the other files. -/
theorem runUnder_composition {q : RunRequest} {schedule : List Path -> List Nat} {o : RunOutcome}
    (h : q.Returns schedule o) :
    q.fileSet = .ok o.files ∧
    o.findings = o.files.flatMap (fun p => (checkFile q.fileSystem q.rules p).findings) ∧
    (o.warnings = (ExclusionRules.read q.config.exclude).rejected.map Warning.invalidExclusion ++
        o.files.filterMap (fun p => (checkFile q.fileSystem q.rules p).warning?) ∧
      (ExclusionRules.read q.config.exclude).rejected.map RejectedRule.rule =
        q.config.exclude.filter RuleNotation.glob.rejects ∧
      forall p, (checkFile q.fileSystem q.rules p).warning?.isSome = true <->
        (checkFile q.fileSystem q.rules p).status = .notUtf8 ∨
          exists e, (checkFile q.fileSystem q.rules p).status = .unreadable e) ∧
    (forall w p, w ∈ o.warnings -> w.path? = some p -> forall f, f ∈ o.findings -> f.path ≠ p) ∧
    (o.status = .mistakes <-> o.findings ≠ []) ∧
    forall ns old bytes o', q.fileSystem.root.WellFormed -> q.fileSystem.root.LinkFree ->
      q.fileSystem.root.at? ns = some (.file old) ->
        (q.withContents ns bytes).Returns schedule o' ->
          o'.files = o.files ∧
          o'.findings.filter (fun f => q.fileSystem.resolvesElsewhere ns f.path) =
            o.findings.filter (fun f => q.fileSystem.resolvesElsewhere ns f.path) ∧
          o'.warnings.filter (fun w => w.path?.all (q.fileSystem.resolvesElsewhere ns)) =
            o.warnings.filter fun w => w.path?.all (q.fileSystem.resolvesElsewhere ns) := by
  rcases RunRequest.returns_iff.mp h with ⟨files, hfiles, _, _, ho⟩
  subst ho
  refine ⟨hfiles, List.flatMap_map _ _ _,
    ⟨?_, rejected_rules _, fun _ => warning?_isSome_iff⟩, ?_, ?_, ?_⟩
  · show _ ++ (files.map _).filterMap _ = _
    rw [List.filterMap_map]
    rfl
  · intro w p hw hp f hf
    exact ne_of_warned hw hp hf
  · unfold RunRequest.gathered RunRequest.outcome
    cases (files.map (checkFile q.fileSystem q.rules)).flatMap CheckedFile.findings with
    | nil => simp
    | cons f rest => simp
  · intro ns old bytes o' hfs hlinks hfile h'
    have hsame : forall p, q.fileSystem.resolvesElsewhere ns p = true ->
        checkFile (q.fileSystem.withContents ns bytes) q.rules p =
          checkFile q.fileSystem q.rules p :=
      fun p => checkFile_withContents hfs hlinks hfile bytes q.rules
    rcases RunRequest.returns_iff.mp h' with ⟨files', hfiles', _, _, ho'⟩
    have hfound := (RunRequest.fileSet_withContents bytes hfile).symm.trans hfiles'
    cases hfiles.symm.trans hfound
    subst ho'
    refine ⟨rfl, filter_findings_of_others hsame, ?_⟩
    show (q.ruleWarnings ++ _).filter _ = (q.ruleWarnings ++ _).filter _
    rw [List.filter_append, List.filter_append]
    exact congrArg (_ ++ ·) (filter_warnings_of_others hsame)

def troubledRequest : RunRequest where
  fileSystem := ⟨Tree.directory [(['a'], Tree.file (encoded "wrrd".toList)),
    (['b'], Tree.file [0xFF]), (['c'], Tree.damaged)], []⟩
  roots := [['.']]
  dictionary := Dictionary.empty
  config := { Config.standard with exclude := [""] }
  concurrency := none
  scope := none
  maxArguments := 1

def troubledOutcome : RunOutcome where
  status := .mistakes
  files := [['a'], ['b'], ['c']]
  findings := [⟨['a'], ⟨"wrrd".toList, 1, 1⟩⟩]
  warnings := [.invalidExclusion ⟨"", .blank⟩, .notUtf8 ['b'],
    .unreadable ['c'] (.system .inputOutput .read ['c'])]

theorem wellFormed_troubledRequest : troubledRequest.fileSystem.root.WellFormed := by
  apply Tree.WellFormed.directory
  · decide
  · decide
  · intro e he
    simp only [List.mem_cons, List.not_mem_nil, or_false] at he
    rcases he with rfl | rfl | rfl
    · exact Tree.WellFormed.file _
    · exact Tree.WellFormed.file _
    · exact Tree.WellFormed.damaged

theorem linkFree_troubledRequest : troubledRequest.fileSystem.root.LinkFree := by
  apply Tree.linkFree_directory
  intro e he
  simp only [List.mem_cons, List.not_mem_nil, or_false] at he
  rcases he with rfl | rfl | rfl <;> exact Tree.linkFree_leaf rfl fun _ h => nomatch h

def oneByOne : List Path -> List Nat := fun files =>
  files.flatMap fun _ => [0, 0]

theorem checkFile_troubledRequest :
    [['a'], ['b'], ['c']].map (checkFile troubledRequest.fileSystem troubledRequest.rules) =
      [⟨['a'], .mistakes [⟨"wrrd".toList, 1, 1⟩]⟩, ⟨['b'], .notUtf8⟩,
        ⟨['c'], .unreadable (.system .inputOutput .read ['c'])⟩] := by
  have hfirst : checkFile troubledRequest.fileSystem troubledRequest.rules ['a'] =
      ⟨['a'], .mistakes [⟨"wrrd".toList, 1, 1⟩]⟩ := by
    rw [checkFile_of_chunks (by cbv) troubledRequest.rules (List.flatten_singleton)]
    decide +kernel
  have hsecond : checkFile troubledRequest.fileSystem troubledRequest.rules ['b'] =
      ⟨['b'], .notUtf8⟩ := by
    rw [checkFile_of_chunks (by cbv) troubledRequest.rules (List.flatten_singleton)]
    decide +kernel
  have hthird : checkFile troubledRequest.fileSystem troubledRequest.rules ['c'] =
      ⟨['c'], .unreadable (.system .inputOutput .read ['c'])⟩ := by
    have hread : troubledRequest.fileSystem.read ['c'] =
        .error (.system .inputOutput .read ['c']) := by
      cbv
    unfold checkFile
    rw [hread]
  rw [List.map_cons, List.map_cons, List.map_singleton, hfirst, hsecond, hthird]

theorem returns_troubledRequest : troubledRequest.Returns oneByOne troubledOutcome := by
  have hrules : troubledRequest.ruleWarnings = [.invalidExclusion ⟨"", .blank⟩] := by
    cbv
  refine RunRequest.returns_iff.mpr ⟨[['a'], ['b'], ['c']], by cbv, by decide +kernel, ?_⟩
  rw [hrules, checkFile_troubledRequest]
  exact ⟨by decide, rfl⟩

def mendedRequest : RunRequest :=
  troubledRequest.withContents [['a']] (encoded "ab".toList)

theorem exists_returns_mendedRequest : exists o', mendedRequest.Returns oneByOne o' := by
  have hmended :
      (checkFile mendedRequest.fileSystem troubledRequest.rules ['a']).findings = [] := by
    rw [checkFile_of_chunks (by cbv) troubledRequest.rules (List.flatten_singleton)]
    decide +kernel
  have hplace : forall p, p ∈ troubledOutcome.files ->
      troubledRequest.fileSystem.resolvesElsewhere [['a']] p = false -> p = ['a'] := by
    decide
  rcases RunRequest.returns_iff.mp returns_troubledRequest with ⟨_, _, _, hfits, ho⟩
  refine ⟨_, RunRequest.returns_withContents _ rfl returns_troubledRequest ?_⟩
  intro c hc
  rcases List.mem_map.mp hc with ⟨p, hp, rfl⟩
  cases hother : troubledRequest.fileSystem.resolvesElsewhere [['a']] p with
  | true =>
      rw [congrArg RunOutcome.files ho] at hp
      have hsame := checkFile_withContents wellFormed_troubledRequest linkFree_troubledRequest rfl
        (encoded "ab".toList) troubledRequest.rules hother
      exact hsame ▸ hfits _ (List.mem_map_of_mem hp)
  | false =>
      have hnothing := congrArg List.length (hplace p hp hother ▸ hmended)
      exact Nat.le_trans (Nat.le_of_eq hnothing) (Nat.zero_le _)

theorem runUnder_composition_troubled :
    troubledRequest.Returns oneByOne troubledOutcome ∧
      (forall w p, w ∈ troubledOutcome.warnings -> w.path? = some p ->
        forall f, f ∈ troubledOutcome.findings -> f.path ≠ p) ∧
      exists o', mendedRequest.Returns oneByOne o' ∧
        o'.warnings.filter
            (fun w => w.path?.all (troubledRequest.fileSystem.resolvesElsewhere [['a']])) =
          troubledOutcome.warnings := by
  rcases runUnder_composition returns_troubledRequest with ⟨_, _, _, hwarned, _, hothers⟩
  rcases exists_returns_mendedRequest with ⟨o', hreturns⟩
  rcases hothers [['a']] _ (encoded "ab".toList) o' wellFormed_troubledRequest
    linkFree_troubledRequest rfl hreturns with ⟨_, _, hwarnings⟩
  refine ⟨returns_troubledRequest, hwarned, o', hreturns, ?_⟩
  rw [hwarnings]
  cbv

end CamelSpell
