import CamelSpell.Proofs.Discovery.EachOnce
import CamelSpell.Proofs.FileDecoding
import CamelSpell.Proofs.RunSchedule
import CamelSpell.Proofs.ScannerPosition

/-!
# Findings of a run

Every finding of a run stands in the text of its file, at its line and column.  The findings come in
the order of the files, and within a file in the order of the text, where no two of them overlap.
-/

namespace CamelSpell

open Log Utf8

/-!
# Findings and places

A finding that is over before the next one begins precedes it, and no place lies in both.
-/

namespace Finding

/-- The word of a finding stands in the line of its number, at its column, in what its file encodes
behind the byte order mark. -/
def IsLocated (fs : FileSystem) (f : Finding) : Prop :=
  exists bytes text, fs.read f.path = .ok bytes ∧ encoded text = bytes ∧
    1 ≤ f.misspelling.line ∧ exists before after,
      ((withoutMark text).splitOn '\n')[f.misspelling.line - 1]? =
          some (before ++ f.misspelling.word ++ after) ∧
        f.misspelling.column = before.length + 1

/-- A place in a file lies in the word of a finding. -/
def Spans (f : Finding) (path : Path) (line column : Nat) : Prop :=
  f.path = path ∧ f.misspelling.line = line ∧ f.misspelling.column ≤ column ∧
    column < f.misspelling.column + f.misspelling.word.length

def Precedes (files : List Path) (f g : Finding) : Prop :=
  files.idxOf f.path < files.idxOf g.path ∨
    files.idxOf f.path = files.idxOf g.path ∧
      (f.misspelling.line < g.misspelling.line ∨
        f.misspelling.line = g.misspelling.line ∧ f.misspelling.column < g.misspelling.column)

def EndsBefore (files : List Path) (f g : Finding) : Prop :=
  files.idxOf f.path < files.idxOf g.path ∨
    f.path = g.path ∧ f.misspelling.EndsBefore g.misspelling.line g.misspelling.column

section EndsBefore

variable {files : List Path} {f g : Finding}

theorem EndsBefore.precedes (h : f.EndsBefore files g) (hword : f.misspelling.word ≠ []) :
    f.Precedes files g := by
  have hlength := List.length_pos_iff.mpr hword
  rcases h with hfile | ⟨hpath, hline | ⟨hline, hcolumn⟩⟩
  · exact Or.inl hfile
  · exact Or.inr ⟨by rw [hpath], Or.inl hline⟩
  · exact Or.inr ⟨by rw [hpath], Or.inr ⟨hline, by omega⟩⟩

theorem EndsBefore.not_both_span (h : f.EndsBefore files g) {path : Path} {line column : Nat}
    (hf : f.Spans path line column) : ¬ g.Spans path line column := by
  rintro ⟨hgpath, hgline, hgfirst, _⟩
  rcases hf with ⟨hfpath, hfline, _, hflast⟩
  rcases h with hfile | ⟨_, hline | ⟨_, hcolumn⟩⟩
  · rw [hfpath, hgpath] at hfile
    exact Nat.lt_irrefl _ hfile
  · omega
  · omega

theorem Precedes.ne (h : f.Precedes files g) : f ≠ g := by
  rintro rfl
  rcases h with hfile | ⟨_, hline | ⟨_, hcolumn⟩⟩
  · exact Nat.lt_irrefl _ hfile
  · exact Nat.lt_irrefl _ hline
  · exact Nat.lt_irrefl _ hcolumn

end EndsBefore

end Finding

theorem pairwise_idxOf {files : List Path} (h : files.Nodup) :
    files.Pairwise fun a b => files.idxOf a < files.idxOf b := by
  rw [List.pairwise_iff_getElem]
  intro i j hi hj hij
  rwa [h.idxOf_getElem i hi, h.idxOf_getElem j hj]

/-!
# Findings of files

A scanner finds words in their order, and files that are told apart and checked in their order
have their findings in order.
-/

section CheckFile

variable {fs : FileSystem} {r : Rules} {path : Path}

theorem path_checkFile (fs : FileSystem) (r : Rules) (path : Path) :
    (checkFile fs r path).path = path := by
  unfold checkFile
  split <;> rfl

theorem path_of_mem_findings {f : Finding} (h : f ∈ (checkFile fs r path).findings) :
    f.path = path := by
  unfold CheckedFile.findings at h
  split at h
  · rcases List.mem_map.mp h with ⟨m, _, hf⟩
    rw [<- hf]
    exact path_checkFile fs r path
  · cases h

/-- A file with findings can be read and decoded, and they are the misspellings of its text. -/
theorem findings_checkFile (fs : FileSystem) (r : Rules) (path : Path) :
    (checkFile fs r path).findings = [] ∨
      exists bytes text, fs.read path = .ok bytes ∧ encoded text = bytes ∧
        (checkFile fs r path).findings =
          (checkText r (withoutMark text)).map fun m => ⟨path, m⟩ := by
  cases hread : fs.read path with
  | error e =>
      left
      unfold checkFile
      rw [hread]
      rfl
  | ok bytes =>
      cases hdecode : decode? bytes with
      | none =>
          left
          rw [checkFile_of_decode?_none hread r hdecode]
          rfl
      | some read =>
          right
          rcases decode?_eq_some_iff.mp hdecode with ⟨text, htext, hmark⟩
          refine ⟨bytes, text, rfl, htext, ?_⟩
          rw [checkFile_of_decode? hread r hdecode, hmark]
          exact CheckedFile.findings_ofFound path _

variable (hnewline : r.dictionary.isWordCharacter '\n' = false)
include hnewline

theorem isLocated_of_mem_findings {f : Finding} (h : f ∈ (checkFile fs r path).findings) :
    f.IsLocated fs ∧ f.misspelling.word ≠ [] := by
  rcases findings_checkFile fs r path with hnone | ⟨bytes, text, hread, htext, hfindings⟩
  · rw [hnone] at h
    cases h
  · rw [hfindings] at h
    rcases List.mem_map.mp h with ⟨m, hm, hf⟩
    subst hf
    exact ⟨⟨bytes, text, hread, htext, exists_line_of_mem_checkText hnewline hm⟩,
      (lettered_of_mem_checkText hm).1⟩

theorem pairwise_findings_checkFile (files : List Path) :
    (checkFile fs r path).findings.Pairwise (Finding.EndsBefore files) := by
  rcases findings_checkFile fs r path with hnone | ⟨_, text, _, _, hfindings⟩
  · rw [hnone]
    exact List.Pairwise.nil
  · rw [hfindings, List.pairwise_map]
    refine (pairwise_checkText hnewline _).imp ?_
    intro m next hm
    exact Or.inr ⟨rfl, hm⟩

theorem pairwise_findings {files : List Path} (hfiles : files.Nodup) {checked : List CheckedFile}
    (hchecked : List.Sublist checked (files.map (checkFile fs r))) :
    (checked.flatMap CheckedFile.findings).Pairwise (Finding.EndsBefore files) := by
  -- inside of a file the scanner keeps the order, between two files their order does
  rw [List.pairwise_flatMap]
  constructor
  · intro c hc
    rcases List.mem_map.mp (hchecked.subset hc) with ⟨file, _, rfl⟩
    exact pairwise_findings_checkFile hnewline files
  · refine List.Pairwise.sublist hchecked ?_
    rw [List.pairwise_map]
    refine (pairwise_idxOf hfiles).imp ?_
    intro a b hab f hf g hg
    left
    rw [path_of_mem_findings hf, path_of_mem_findings hg]
    exact hab

end CheckFile

/-!
# Findings of a run

Files are gathered with success exactly if none of them has more findings than fit, and then
nothing is lost.
-/

namespace RunRequest

theorem report_result {ε : Type} (q : RunRequest) (warnings : List Warning) :
    (q.report warnings : Logged ε Unit).result = .ok () := by
  induction warnings with
  | nil =>
      rfl
  | cons w rest ih =>
      rw [report, Logged.result_bind]
      exact ih

/-- No file has more findings than a call can be given arguments. -/
def Fits (q : RunRequest) (checked : List CheckedFile) : Prop :=
  forall c, c ∈ checked -> c.findings.length ≤ q.maxArguments

instance (q : RunRequest) (checked : List CheckedFile) : Decidable (q.Fits checked) :=
  inferInstanceAs (Decidable (forall c, c ∈ checked -> c.findings.length ≤ q.maxArguments))

def gathered (invalid : List Warning) (files : List Path) (checked : List CheckedFile) :
    RunOutcome :=
  outcome files (checked.flatMap CheckedFile.findings)
    (invalid ++ checked.filterMap CheckedFile.warning?)

section Gather

variable {q : RunRequest} {c : CheckedFile} {checked rest : List CheckedFile}

theorem fits_cons_iff :
    q.Fits (c :: rest) <-> c.findings.length ≤ q.maxArguments ∧ q.Fits rest :=
  List.forall_mem_cons

theorem gather_cons_of_lt (h : q.maxArguments < c.findings.length) :
    q.gather (c :: rest) = Logged.fail .tooManyArguments := by
  rw [gather, if_pos h]

theorem gather_cons_result (h : c.findings.length ≤ q.maxArguments) :
    (q.gather (c :: rest)).result =
      (q.gather rest).result.map fun (findings, warnings) =>
        (c.findings ++ findings, c.warning?.toList ++ warnings) := by
  rw [gather, if_neg (Nat.not_lt.mpr h), Logged.result_bind, report_result]
  show (q.gather rest >>= _).result = _
  rw [Logged.result_bind]
  cases (q.gather rest).result <;> rfl

theorem gather_of_fits (h : q.Fits checked) :
    (q.gather checked).result =
      .ok (checked.flatMap CheckedFile.findings, checked.filterMap CheckedFile.warning?) := by
  induction checked with
  | nil =>
      rfl
  | cons c rest ih =>
      rcases fits_cons_iff.mp h with ⟨hc, hrest⟩
      rw [gather_cons_result hc, ih hrest, List.filterMap_cons]
      cases c.warning? <;> rfl

theorem gather_of_not_fits (h : ¬ q.Fits checked) :
    (q.gather checked).result = .error .tooManyArguments := by
  -- the first file that does not fit ends the run, whatever comes behind it
  induction checked with
  | nil =>
      exact absurd (List.forall_mem_nil _) h
  | cons c rest ih =>
      rcases Nat.lt_or_ge q.maxArguments c.findings.length with hlt | hle
      · rw [gather_cons_of_lt hlt]
        rfl
      · have hrest : ¬ q.Fits rest := fun hfits => h (fits_cons_iff.mpr ⟨hle, hfits⟩)
        rw [gather_cons_result hle, ih hrest]
        rfl

theorem conclude_of_fits (invalid : List Warning) (files : List Path) (h : q.Fits checked) :
    (q.conclude invalid files checked).result = .ok (gathered invalid files checked) := by
  unfold conclude
  rw [Logged.result_bind, gather_of_fits h]
  rfl

theorem conclude_of_not_fits (invalid : List Warning) (files : List Path)
    (h : ¬ q.Fits checked) :
    (q.conclude invalid files checked).result = .error .tooManyArguments := by
  unfold conclude
  rw [Logged.result_bind, gather_of_not_fits h]
  rfl

theorem conclude_ok_iff {invalid : List Warning} {files : List Path} {o : RunOutcome} :
    (q.conclude invalid files checked).result = .ok o <->
      q.Fits checked ∧ o = gathered invalid files checked := by
  by_cases h : q.Fits checked
  · rw [conclude_of_fits invalid files h]
    simp [h, eq_comm]
  · rw [conclude_of_not_fits invalid files h]
    simp [h]

end Gather

/-- A run returns if its files are discovered and what the workers have checked fits, and the
outcome is that of what they have checked. -/
theorem runUnder_ok_iff {q : RunRequest} {schedule : List Path -> List Nat} {o : RunOutcome} :
    (q.runUnder schedule).result = .ok o <->
      exists invalid files, q.discover.result = .ok (invalid, files) ∧
        q.Fits (q.poolAfter files (schedule files)).results ∧
          o = gathered invalid files (q.poolAfter files (schedule files)).results := by
  constructor
  · intro h
    rcases Logged.exists_of_result_bind h with ⟨⟨invalid, files⟩, hdiscover, hcheck⟩
    exact ⟨invalid, files, Logged.mapError_ok_iff.mp hdiscover, conclude_ok_iff.mp hcheck⟩
  · rintro ⟨invalid, files, hdiscover, hchecked⟩
    unfold runUnder
    rw [Logged.result_bind, Logged.mapError_ok_iff.mpr hdiscover]
    exact conclude_ok_iff.mpr hchecked

theorem nodup_of_discover {q : RunRequest} {invalid : List Warning} {files : List Path}
    (h : q.discover.result = .ok (invalid, files)) : files.Nodup := by
  rcases Logged.exists_of_result_bind h with ⟨_, _, hrun⟩
  rcases Logged.exists_of_result_bind hrun with ⟨found, hfound, hfiles⟩
  cases hfiles
  rcases Discovery.run_ok_iff.mp hfound with ⟨_, v, _, hv⟩
  rw [hv]
  exact Discovery.nodup_fileSet _ v

end RunRequest

/-- In whatever order the workers take their turns, every finding of a run that returns belongs to a
file of the run and stands in its text, no two findings overlap, and they strictly ascend by the
position of the file, the line and the column. -/
theorem runUnder_findings {q : RunRequest} (hbuilt : q.dictionary.Built)
    {schedule : List Path -> List Nat} {outcome : RunOutcome}
    (h : (q.runUnder schedule).result = .ok outcome) :
    outcome.files.Nodup ∧
    (forall f, f ∈ outcome.findings -> f.path ∈ outcome.files ∧ f.IsLocated q.fileSystem) ∧
    outcome.findings.Pairwise (fun f g =>
      forall path line column, f.Spans path line column -> ¬ g.Spans path line column) ∧
    outcome.findings.Pairwise (Finding.Precedes outcome.files) ∧
    outcome.findings.Nodup := by
  have hnewline : q.rules.dictionary.isWordCharacter '\n' = false :=
    (hbuilt.extend _).isWordCharacter_newline
  rcases RunRequest.runUnder_ok_iff.mp h with ⟨invalid, files, hdiscover, _, houtcome⟩
  have hfiles := RunRequest.nodup_of_discover hdiscover
  have hchecked := (q.poolAfter_consistent files (schedule files)).results_sublist
  have hends := pairwise_findings hnewline hfiles hchecked
  subst houtcome
  have hlocated : forall f, f ∈ (q.poolAfter files (schedule files)).results.flatMap
      CheckedFile.findings -> f.path ∈ files ∧ f.IsLocated q.fileSystem ∧
        f.misspelling.word ≠ [] := by
    intro f hf
    rcases List.mem_flatMap.mp hf with ⟨c, hc, hfc⟩
    rcases List.mem_map.mp (hchecked.subset hc) with ⟨file, hfile, rfl⟩
    refine ⟨?_, isLocated_of_mem_findings hnewline hfc⟩
    rw [path_of_mem_findings hfc]
    exact hfile
  have hprecedes := hends.imp_of_mem fun hf _ hfg => hfg.precedes (hlocated _ hf).2.2
  refine ⟨hfiles, ?_, ?_, hprecedes, ?_⟩
  · exact fun f hf => ⟨(hlocated f hf).1, (hlocated f hf).2.1⟩
  · refine hends.imp ?_
    intro f g hfg path line column hf
    exact hfg.not_both_span hf
  · exact hprecedes.imp fun hfg => hfg.ne

def misspelledRequest : RunRequest where
  fileSystem := ⟨Tree.directory
    [(['b'], Tree.file (encoded "wrrd".toList)),
      (['a'], Tree.file (encoded "\uFEFFleft𐐨Wrrd\n\nHTMLPagge2x baad".toList))], []⟩
  roots := [['.']]
  dictionary := Dictionary.ofEntries ["left".toList, "html".toList]
  config := Config.standard
  concurrency := none
  scope := none
  maxArguments := 4

def misspelledOutcome : RunOutcome where
  status := .mistakes
  files := [['a'], ['b']]
  findings :=
    [⟨['a'], ⟨"left𐐨".toList, 1, 1⟩⟩, ⟨['a'], ⟨"Wrrd".toList, 1, 6⟩⟩,
      ⟨['a'], ⟨"Pagge".toList, 3, 5⟩⟩, ⟨['a'], ⟨"baad".toList, 3, 13⟩⟩,
      ⟨['b'], ⟨"wrrd".toList, 1, 1⟩⟩]
  warnings := []

theorem runUnder_findings_misspelled :
    misspelledRequest.dictionary.Built ∧
      misspelledRequest.run.result = .ok misspelledOutcome ∧
      (forall f, f ∈ misspelledOutcome.findings -> f.IsLocated misspelledRequest.fileSystem) ∧
      misspelledOutcome.findings.Pairwise (Finding.Precedes misspelledOutcome.files) := by
  have hbuilt : misspelledRequest.dictionary.Built := Dictionary.Built.ofEntries _
  have hfirst : checkFile misspelledRequest.fileSystem misspelledRequest.rules ['a'] =
      ⟨['a'], .mistakes [⟨"left𐐨".toList, 1, 1⟩, ⟨"Wrrd".toList, 1, 6⟩,
        ⟨"Pagge".toList, 3, 5⟩, ⟨"baad".toList, 3, 13⟩]⟩ := by
    rw [checkFile_of_chunks (by cbv) misspelledRequest.rules (List.flatten_singleton)]
    decide +kernel
  have hsecond : checkFile misspelledRequest.fileSystem misspelledRequest.rules ['b'] =
      ⟨['b'], .mistakes [⟨"wrrd".toList, 1, 1⟩]⟩ := by
    rw [checkFile_of_chunks (by cbv) misspelledRequest.rules (List.flatten_singleton)]
    decide +kernel
  have hrun : misspelledRequest.run.result = .ok misspelledOutcome := by
    refine RunRequest.runUnder_ok_iff.mpr ⟨[], [['a'], ['b']], by cbv, ?_⟩
    rw [(misspelledRequest.poolAfter_consistent _ _).results_of_isDone (by decide +kernel),
      List.map_cons, List.map_singleton, hfirst, hsecond]
    exact ⟨by decide, rfl⟩
  have hfindings := runUnder_findings hbuilt hrun
  exact ⟨hbuilt, hrun, fun f hf => (hfindings.2.1 f hf).2, hfindings.2.2.2.1⟩

end CamelSpell
