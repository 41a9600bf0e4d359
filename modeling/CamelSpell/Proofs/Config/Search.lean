import CamelSpell.Proofs.Config.Candidates
import CamelSpell.Proofs.Config.Loading
import CamelSpell.Proofs.FileSystem.Contents

/-!
# What decides a search

A search goes through the candidates in their order and stops at the first that decides it or that
it cannot get past.  What comes behind is not even looked at.
-/

namespace CamelSpell

open CamelSpell.Path Log

namespace Config

open Logged

variable {fs other : FileSystem} {p start : Path} {before after rest : List Path}
  {failure : Failure}

/-!
# One candidate after another

Candidates that are passed are left behind with their records, so the first one that is not passed
gives the answer.
-/

theorem firstOf_cons_of_none (h : (loadCandidate fs p).result = .ok none) :
    firstOf fs (p :: rest) =
      ⟨(loadCandidate fs p).records ++ (firstOf fs rest).records, (firstOf fs rest).result⟩ := by
  rw [firstOf]
  show Logged.bind (loadCandidate fs p) _ = _
  unfold Logged.bind
  rw [h]

theorem firstOf_cons_of_settled (h : (loadCandidate fs p).result ≠ .ok none) :
    firstOf fs (p :: rest) = loadCandidate fs p := by
  rw [firstOf]
  show Logged.bind (loadCandidate fs p) _ = _
  unfold Logged.bind
  cases hcandidate : loadCandidate fs p with
  | mk records result =>
      rw [hcandidate] at h
      cases result with
      | error failure =>
          rfl
      | ok outcome =>
          cases outcome with
          | none => exact absurd rfl h
          | some found => simp

theorem firstOf_append (h : forall c, c ∈ before -> (loadCandidate fs c).result = .ok none) :
    firstOf fs (before ++ rest) =
      ⟨(before.flatMap fun c => (loadCandidate fs c).records) ++ (firstOf fs rest).records,
        (firstOf fs rest).result⟩ := by
  induction before with
  | nil =>
      rfl
  | cons c others ih =>
      have hothers := ih fun c' hc' => h c' (List.mem_cons_of_mem c hc')
      rw [List.cons_append, firstOf_cons_of_none (h c List.mem_cons_self), hothers,
        List.flatMap_cons, List.append_assoc]

theorem settled_of_not_passed (hp : fs.resolve p = p) (h : ¬ IsPassed fs p) :
    (loadCandidate fs p).result ≠ .ok none := by
  by_cases hdecisive : IsDecisive fs p
  · rw [(loadCandidate_of_decisive hp hdecisive).1]
    cases (load fs p).result <;> simp [Except.map]
  · rcases exists_blocks h hdecisive with ⟨failure, hblocks⟩
    rw [(loadCandidate_of_blocks hblocks).1]
    simp

/-- What a search answers is read off the first candidate that is not passed. -/
theorem firstOf_of_settled
    (hbefore : forall c, c ∈ before -> (loadCandidate fs c).result = .ok none)
    (hp : (loadCandidate fs p).result ≠ .ok none) :
    firstOf fs (before ++ p :: after) =
      ⟨(before.flatMap fun c => (loadCandidate fs c).records) ++ (loadCandidate fs p).records,
        (loadCandidate fs p).result⟩ := by
  rw [firstOf_append hbefore, firstOf_cons_of_settled hp]

theorem firstOf_of_none (hall : forall c, c ∈ before -> (loadCandidate fs c).result = .ok none) :
    firstOf fs before = ⟨before.flatMap fun c => (loadCandidate fs c).records, .ok none⟩ := by
  rw [<- List.append_nil before, firstOf_append hall]
  simp [firstOf]

/-!
# The search

What is found behind the candidate that stops the search has no say in it.
-/

theorem find_result (fs : FileSystem) (start : Path) :
    (find fs start).result =
      (firstOf fs (candidates fs start)).result.map fun found => found.getD ⟨standard, none⟩ := by
  unfold find
  rw [Logged.result_bind]
  cases (firstOf fs (candidates fs start)).result with
  | error failure => rfl
  | ok outcome => cases outcome <;> rfl

theorem find_warnings (fs : FileSystem) (start : Path) :
    (find fs start).warnings = (firstOf fs (candidates fs start)).warnings := by
  unfold find
  cases h : (firstOf fs (candidates fs start)).result with
  | error failure =>
      exact warnings_bind_error _ h
  | ok outcome =>
      rw [warnings_bind_ok _ h]
      cases outcome with
      | none => exact List.append_nil _
      | some found => exact List.append_nil _

theorem warnings_of_passed
    (hname : forall c, c ∈ before -> baseName c ∈ dedicatedNames ++ manifestNames)
    (h : forall c, c ∈ before -> IsPassed fs c) :
    (before.flatMap fun c => (loadCandidate fs c).records).filter (fun r => r.severity = .warn) =
      before.filterMap (unparseable? fs) := by
  induction before with
  | nil =>
      rfl
  | cons c others ih =>
      have hothers := ih (fun c' hc' => hname c' (List.mem_cons_of_mem c hc'))
        fun c' hc' => h c' (List.mem_cons_of_mem c hc')
      have hwarn :=
        (loadCandidate_of_passed (hname c List.mem_cons_self) (h c List.mem_cons_self)).2
      rw [List.flatMap_cons, List.filter_append, hothers]
      show (loadCandidate fs c).warnings ++ _ = _
      rw [hwarn, List.filterMap_cons]
      cases unparseable? fs c <;> rfl

/-- Two file systems in which the same is found where the paths of a list lead. -/
structure AgreesOn (fs other : FileSystem) (ps : List Path) : Prop where
  workingNames : other.workingNames = fs.workingNames
  kind : forall c, c ∈ ps -> other.kind c = fs.kind c
  read : forall c, c ∈ ps -> other.read c = fs.read c

theorem AgreesOn.loadCandidate_eq {ps : List Path} (h : AgreesOn fs other ps) (hp : p ∈ ps)
    (hresolve : fs.resolve p = p) : loadCandidate other p = loadCandidate fs p := by
  have hagain : other.resolve p = p := by
    unfold FileSystem.resolve FileSystem.workingDirectory at hresolve ⊢
    rw [h.workingNames]
    exact hresolve
  have hread : readCharacters other p = readCharacters fs p := by
    unfold readCharacters
    rw [h.read p hp]
  have hload : load other p = load fs p := by
    unfold load
    simp only [hagain, hresolve, hread]
  unfold loadCandidate isFile loadManifest loadDedicated
  rw [h.kind p hp, hread, hload]

theorem candidates_of_workingNames (h : other.workingNames = fs.workingNames) (start : Path) :
    candidates other start = candidates fs start := by
  unfold candidates FileSystem.workingDirectory
  rw [h]

theorem none_of_passed (hmem : p ∈ candidates fs start) (h : IsPassed fs p) :
    (loadCandidate fs p).result = .ok none :=
  (loadCandidate_of_passed (isCandidate_of_mem hmem).name h).1

section Stop

variable (hsplit : candidates fs start = before ++ p :: after)
  (hbefore : forall c, c ∈ before -> IsPassed fs c)
include hsplit hbefore

theorem firstOf_candidates (hp : ¬ IsPassed fs p) :
    firstOf fs (candidates fs start) =
      ⟨(before.flatMap fun c => (loadCandidate fs c).records) ++ (loadCandidate fs p).records,
        (loadCandidate fs p).result⟩ := by
  have hmem : forall c, c ∈ before ++ p :: after -> c ∈ candidates fs start := by
    intro c hc
    rw [hsplit]
    exact hc
  have hnone : forall c, c ∈ before -> (loadCandidate fs c).result = .ok none :=
    fun c hc => none_of_passed (hmem c (List.mem_append_left _ hc)) (hbefore c hc)
  have hresolve := (isCandidate_of_mem (hmem p List.mem_append_cons_self)).resolve_eq
  rw [hsplit]
  exact firstOf_of_settled hnone (settled_of_not_passed hresolve hp)

theorem find_of_decisive (hp : IsDecisive fs p) :
    (find fs start).result = (load fs p).result.map (foundIn p) := by
  have hmem : p ∈ candidates fs start := hsplit ▸ List.mem_append_cons_self
  have hload := (loadCandidate_of_decisive (isCandidate_of_mem hmem).resolve_eq hp).1
  rw [find_result, firstOf_candidates hsplit hbefore fun h => h.not_decisive hp, hload]
  cases (load fs p).result <;> rfl

theorem find_of_blocks (hp : Blocks fs p failure) : (find fs start).result = .error failure := by
  rw [find_result, firstOf_candidates hsplit hbefore fun h => h.not_blocking failure hp,
    (loadCandidate_of_blocks hp).1]
  rfl

theorem warnings_of_settled (hp : ¬ IsPassed fs p) :
    (find fs start).warnings = before.filterMap (unparseable? fs) := by
  have hmem : forall c, c ∈ before ++ p :: after -> IsCandidate fs c := by
    intro c hc
    exact isCandidate_of_mem (hsplit ▸ hc)
  have hquiet : (loadCandidate fs p).warnings = [] := by
    by_cases hdecisive : IsDecisive fs p
    · exact (loadCandidate_of_decisive (hmem p List.mem_append_cons_self).resolve_eq hdecisive).2
    · rcases exists_blocks hp hdecisive with ⟨failure, hblocks⟩
      exact (loadCandidate_of_blocks hblocks).2
  rw [find_warnings, firstOf_candidates hsplit hbefore hp]
  unfold Logged.warnings at hquiet ⊢
  rw [List.filter_append, hquiet, List.append_nil]
  exact warnings_of_passed (fun c hc => (hmem c (List.mem_append_left _ hc)).name) hbefore

theorem find_of_agreesOn (hp : ¬ IsPassed fs p) (h : AgreesOn fs other (before ++ [p])) :
    find other start = find fs start := by
  have hmem : forall c, c ∈ before ++ p :: after -> c ∈ candidates fs start := by
    intro c hc
    rw [hsplit]
    exact hc
  have hsame : forall c, c ∈ before ++ [p] -> loadCandidate other c = loadCandidate fs c := by
    intro c hc
    apply h.loadCandidate_eq hc
    apply (isCandidate_of_mem (hmem c ?_)).resolve_eq
    rcases List.mem_append.mp hc with hfront | hlast
    · exact List.mem_append_left _ hfront
    · rw [List.mem_singleton.mp hlast]
      exact List.mem_append_cons_self
  have hlast := hsame p (List.mem_append_right before (List.mem_singleton.mpr rfl))
  have hrows : (before.flatMap fun c => (loadCandidate other c).records) =
      before.flatMap fun c => (loadCandidate fs c).records := by
    apply List.flatMap_congr
    intro c hc
    rw [hsame c (List.mem_append_left [p] hc)]
  have hresolve := (isCandidate_of_mem (hmem p List.mem_append_cons_self)).resolve_eq
  -- both searches stop at the same candidate, with the same records before it
  have hother : firstOf other (before ++ p :: after) = firstOf fs (before ++ p :: after) := by
    rw [<- hsplit, firstOf_candidates hsplit hbefore hp, hsplit, firstOf_of_settled, hrows, hlast]
    · intro c hc
      rw [hsame c (List.mem_append_left [p] hc)]
      exact none_of_passed (hmem c (List.mem_append_left _ hc)) (hbefore c hc)
    · rw [hlast]
      exact settled_of_not_passed hresolve hp
  unfold find
  rw [candidates_of_workingNames h.workingNames, hsplit, hother]

end Stop

theorem find_of_passed (h : forall c, c ∈ candidates fs start -> IsPassed fs c) :
    (find fs start).result = .ok ⟨standard, none⟩ ∧
      (find fs start).warnings = (candidates fs start).filterMap (unparseable? fs) := by
  have hfirst := firstOf_of_none fun c hc => none_of_passed hc (h c hc)
  constructor
  · rw [find_result, hfirst]
    rfl
  · rw [find_warnings, hfirst]
    exact warnings_of_passed (fun c hc => (isCandidate_of_mem hc).name) h

theorem agreesOn_withContents {ns : List Name} {old : List UInt8} {ps : List Path}
    (h : fs.root.at? ns = some (.file old)) (hother : forall c, c ∈ ps -> ¬ fs.LeadsTo c ns)
    (bytes : List UInt8) : AgreesOn fs (fs.withContents ns bytes) ps where
  workingNames := rfl
  kind c _ := FileSystem.kind_withContents h bytes c
  read c hc := FileSystem.read_withContents h (hother c hc) bytes

theorem exists_first_not_passed (h : ¬ forall c, c ∈ candidates fs start -> IsPassed fs c) :
    exists before p after, candidates fs start = before ++ p :: after ∧
      (forall c, c ∈ before -> IsPassed fs c) ∧ ¬ IsPassed fs p := by
  classical
  cases hfirst : (candidates fs start).find? fun c => decide (¬ IsPassed fs c) with
  | none =>
      refine absurd (fun c hc => ?_) h
      simpa using List.find?_eq_none.mp hfirst c hc
  | some p =>
      rcases List.find?_eq_some_iff_append.mp hfirst with ⟨hp, before, after, hsplit, hbefore⟩
      exact ⟨before, p, after, hsplit, by simpa using hbefore, by simpa using hp⟩

/-- The directories of a search go from the start upwards, and its candidates are looked at in their
order until one decides it or cannot be got past. -/
theorem find_firstDecisive (fs : FileSystem) (start : Path) :
    (exists directories, Ascends fs start directories ∧
      candidates fs start = directories.flatMap candidatesIn) ∧
    (forall before p after, candidates fs start = before ++ p :: after ->
      (forall c, c ∈ before -> IsPassed fs c) ->
        (IsDecisive fs p ->
          (find fs start).result = (load fs p).result.map fun config => ⟨config, some p⟩) ∧
        (forall failure, Blocks fs p failure -> (find fs start).result = .error failure) ∧
        (¬ IsPassed fs p ->
          (find fs start).warnings = before.filterMap (unparseable? fs) ∧
          (forall other, AgreesOn fs other (before ++ [p]) ->
            find other start = find fs start) ∧
          forall ns old bytes, fs.root.at? ns = some (.file old) ->
            (forall c, c ∈ before ++ [p] -> ¬ fs.LeadsTo c ns) ->
              find (fs.withContents ns bytes) start = find fs start)) ∧
    ((forall c, c ∈ candidates fs start -> IsPassed fs c) ->
      (find fs start).result = .ok ⟨standard, none⟩ ∧
        (find fs start).warnings = (candidates fs start).filterMap (unparseable? fs)) ∧
    (forall failure, (find fs start).result = .error failure <->
      exists before p after, candidates fs start = before ++ p :: after ∧
        (forall c, c ∈ before -> IsPassed fs c) ∧
          ((IsDecisive fs p ∧ (load fs p).result = .error failure) ∨ Blocks fs p failure)) := by
  refine ⟨⟨_, ascends_directories fs start, candidates_eq fs start⟩, ?_, find_of_passed, ?_⟩
  · intro before p after hsplit hbefore
    refine ⟨find_of_decisive hsplit hbefore, fun _ => find_of_blocks hsplit hbefore, ?_⟩
    intro hp
    refine ⟨warnings_of_settled hsplit hbefore hp,
      fun _ => find_of_agreesOn hsplit hbefore hp, ?_⟩
    intro ns old bytes hfile hother
    exact find_of_agreesOn hsplit hbefore hp (agreesOn_withContents hfile hother bytes)
  · intro failure
    constructor
    · intro hfailed
      have hstop : ¬ forall c, c ∈ candidates fs start -> IsPassed fs c := by
        intro hall
        rw [(find_of_passed hall).1] at hfailed
        cases hfailed
      rcases exists_first_not_passed hstop with ⟨before, p, after, hsplit, hbefore, hp⟩
      refine ⟨before, p, after, hsplit, hbefore, ?_⟩
      by_cases hdecisive : IsDecisive fs p
      · left
        refine ⟨hdecisive, ?_⟩
        rw [find_of_decisive hsplit hbefore hdecisive] at hfailed
        cases hload : (load fs p).result with
        | error e =>
            rw [hload] at hfailed
            exact congrArg Except.error (Except.error.inj hfailed)
        | ok config =>
            rw [hload] at hfailed
            cases hfailed
      · right
        rcases exists_blocks hp hdecisive with ⟨cause, hblocks⟩
        have hcause := find_of_blocks hsplit hbefore hblocks
        rw [hfailed] at hcause
        cases hcause
        exact hblocks
    · rintro ⟨before, p, after, hsplit, hbefore, ⟨hdecisive, hload⟩ | hblocks⟩
      · rw [find_of_decisive hsplit hbefore hdecisive, hload]
        rfl
      · exact find_of_blocks hsplit hbefore hblocks

def sectionText : String := "\x7b\"spellsweep\": \x7b\"exclude\": [\"lib\"]\x7d\x7d"

def mixedManifests : FileSystem where
  root :=
    (Tree.empty.put (.file "[".toUTF8.toList) ["a".toList, "pyproject.toml".toList]).put
      (.file sectionText.toUTF8.toList) ["a".toList, "package.json".toList]
  workingNames := ["a".toList]

theorem kind_mixedManifests {c : Path} (hc : c ∈ dedicatedNames.map (Path.join "/a".toList)) :
    mixedManifests.kind c = .error (.system .noEntry .stat c) := by
  have hall : (dedicatedNames.map (Path.join "/a".toList)).all (fun c =>
      decide (mixedManifests.kind c = .error (.system .noEntry .stat c))) = true := by
    cbv
  exact of_decide_eq_true (List.all_eq_true.mp hall c hc)

theorem readDocument_mixedManifests :
    readDocument "/a/pyproject.toml".toList (Utf8.lenient [91]).toList =
      .error (.malformed "/a/pyproject.toml".toList) := by
  cbv

theorem isPassed_mixedManifests {c : Path}
    (hc : c ∈ dedicatedNames.map (Path.join "/a".toList) ++ ["/a/pyproject.toml".toList]) :
    IsPassed mixedManifests c := by
  rcases List.mem_append.mp hc with hdedicated | hmanifest
  · exact isPassed_of_absent (kind_mixedManifests hdedicated) rfl
  · rw [List.mem_singleton.mp hmanifest]
    exact isPassed_of_malformed (by cbv) (by decide) (by cbv) readDocument_mixedManifests

theorem unparseable?_mixedManifests :
    (unparseable? mixedManifests "/a/pyproject.toml".toList).isSome = true := by
  have hread : readCharacters mixedManifests "/a/pyproject.toml".toList =
      .ok (Utf8.lenient [91]).toList := by
    cbv
  unfold unparseable?
  rw [parseFailure?_of_text (by decide) (by cbv) hread, readDocument_mixedManifests]
  rfl

def sectionValue : Value := .table [("exclude", .list [.text "lib"])]

def manifestValue : Value := .table [("spellsweep", sectionValue)]

theorem readCharacters_mixedManifests :
    readCharacters mixedManifests "/a/package.json".toList = .ok sectionText.toList := by
  cbv

theorem readDocument_sectionText :
    readDocument "/a/package.json".toList sectionText.toList = .ok manifestValue := by
  cbv

theorem section?_manifestValue : section? "/a/package.json".toList manifestValue =
    some sectionValue := by
  unfold section?
  rw [if_neg (by decide)]
  rfl

theorem isDecisive_mixedManifests : IsDecisive mixedManifests "/a/package.json".toList :=
  IsDecisive.manifest (by decide) (by cbv) readCharacters_mixedManifests
    readDocument_sectionText section?_manifestValue

theorem load_mixedManifests : (load mixedManifests "/a/package.json".toList).result =
    .ok { standard with exclude := ["lib"] } := by
  rw [load_of_document (by cbv) readCharacters_mixedManifests readDocument_sectionText]
  unfold ofDocument
  rw [if_pos (by decide), section?_manifestValue]
  rfl

theorem find_firstDecisive_mixed :
    (find mixedManifests here).result =
        .ok ⟨{ standard with exclude := ["lib"] }, some "/a/package.json".toList⟩ ∧
      (find mixedManifests here).warnings.length = 1 := by
  have hsplit : candidates mixedManifests here =
      (dedicatedNames.map (Path.join "/a".toList) ++ ["/a/pyproject.toml".toList]) ++
        "/a/package.json".toList :: candidatesIn "/".toList := by
    cbv
  rcases find_firstDecisive mixedManifests here with ⟨_, hstop, _, _⟩
  rcases hstop _ _ _ hsplit fun _ => isPassed_mixedManifests with ⟨hload, _, hsettled⟩
  rcases hsettled fun hp => hp.not_decisive isDecisive_mixedManifests with ⟨hwarnings, _⟩
  constructor
  · rw [hload isDecisive_mixedManifests, load_mixedManifests]
    rfl
  · have hnone : (dedicatedNames.map (Path.join "/a".toList)).filterMap
        (unparseable? mixedManifests) = [] := by
      rw [List.filterMap_eq_nil_iff]
      intro c hc
      apply unparseable?_of_not_file
      rw [kind_mixedManifests hc]
      intro h
      cases h
    rcases Option.isSome_iff_exists.mp unparseable?_mixedManifests with ⟨note, hnote⟩
    rw [hwarnings, List.filterMap_append, hnone, List.filterMap_cons, hnote]
    rfl

end Config
end CamelSpell
