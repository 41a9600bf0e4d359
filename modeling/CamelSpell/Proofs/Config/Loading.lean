import CamelSpell.Config.Search
import Mathlib

/-!
# What a candidate brings

A candidate decides a search, or blocks it, or is passed.  One that decides it is loaded as if it
had been named; one that is passed leaves a warning if it is a manifest that cannot be parsed, and
nothing else.
-/

namespace CamelSpell

open CamelSpell.Path Log

namespace Log.Logged

variable {ε α β : Type}

def warnings (x : Logged ε α) : List Record :=
  x.records.filter fun r => r.severity = .warn

theorem warnings_bind_ok {x : Logged ε α} {a : α} (f : α -> Logged ε β) (h : x.result = .ok a) :
    (x >>= f).warnings = x.warnings ++ (f a).warnings := by
  unfold warnings
  rw [records_bind_ok f h, List.filter_append]

theorem warnings_bind_error {x : Logged ε α} {e : ε} (f : α -> Logged ε β)
    (h : x.result = .error e) : (x >>= f).warnings = x.warnings := by
  unfold warnings
  rw [records_bind_error f h]

theorem warnings_bind_eq_nil {x : Logged ε α} {f : α -> Logged ε β} (hx : x.warnings = [])
    (hf : forall a, (f a).warnings = []) : (x >>= f).warnings = [] := by
  cases h : x.result with
  | error e => rw [warnings_bind_error f h, hx]
  | ok a => rw [warnings_bind_ok f h, hx, hf, List.nil_append]

end Log.Logged

namespace Config

open Logged

variable {fs : FileSystem} {p : Path} {failure : Failure}

/-!
# Loading warns of nothing

Reading settings may leave notes in the log, but none of them is a warning.
-/

theorem warnings_readEntry (source : Path) (state : Config × List Problem)
    (entry : String × Value) : (readEntry source state entry).warnings = [] := by
  rcases state with ⟨config, problems⟩
  rcases entry with ⟨key, value⟩
  unfold readEntry
  simp only
  split <;> rfl

theorem warnings_readEntries (source : Path) (state : Config × List Problem) (entries : Fields) :
    (readEntries source state entries).warnings = [] := by
  induction entries generalizing state with
  | nil =>
      rfl
  | cons entry rest ih =>
      unfold readEntries
      exact warnings_bind_eq_nil (warnings_readEntry source state entry) ih

theorem warnings_ofValue (source : Path) (value : Value) :
    (ofValue source value).warnings = [] := by
  unfold ofValue
  cases value.fields? with
  | none =>
      rfl
  | some fields =>
      apply warnings_bind_eq_nil (warnings_readEntries source (standard, []) fields)
      rintro ⟨config, problems⟩
      simp only
      split <;> rfl

theorem warnings_load (fs : FileSystem) (p : Path) : (load fs p).warnings = [] := by
  unfold load
  apply warnings_bind_eq_nil rfl
  intro text
  apply warnings_bind_eq_nil rfl
  intro document
  unfold ofDocument
  split
  · split
    · exact warnings_ofValue _ _
    · rfl
  · split <;> exact warnings_ofValue _ _

/-!
# Kinds of candidates

A candidate decides, blocks the search, or is passed: one that is not there, and a manifest that
is malformed or has no section.
-/

/-- A candidate with settings of its own: a file that holds nothing else, or a manifest with a
section of them. -/
inductive IsDecisive (fs : FileSystem) (p : Path) : Prop
  | dedicated (name : baseName p ∈ dedicatedNames) (isFile : fs.kind p = .ok .file)
  | manifest {text : List Char} {document settings : Value} (name : baseName p ∈ manifestNames)
      (isFile : fs.kind p = .ok .file) (readable : readCharacters fs p = .ok text)
      (parses : readDocument p text = .ok document)
      (hasSection : section? p document = some settings)

/-- A candidate that a search cannot get past: whether it is there cannot be told, or it is a
manifest that cannot be read. -/
inductive Blocks (fs : FileSystem) (p : Path) : Failure -> Prop
  | uninspectable {e : FileError} (hidden : fs.kind p = .error e) (present : e.isAbsence = false) :
      Blocks fs p (.uninspectable p e)
  | unreadable {e : FileError} (name : baseName p ∈ manifestNames)
      (isFile : fs.kind p = .ok .file) (hidden : fs.read p = .error e) :
      Blocks fs p (.unreadableConfig p)

structure IsPassed (fs : FileSystem) (p : Path) : Prop where
  not_decisive : ¬ IsDecisive fs p
  not_blocking : forall failure, ¬ Blocks fs p failure

theorem exists_blocks (h : ¬ IsPassed fs p) (hdecisive : ¬ IsDecisive fs p) :
    exists failure, Blocks fs p failure := by
  by_contra hnone
  exact h ⟨hdecisive, not_exists.mp hnone⟩

def parseFailure? (fs : FileSystem) (p : Path) : Option Failure :=
  if fs.kind p = .ok .file && isManifest p then
    match readCharacters fs p with
    | .error _ => none
    | .ok text =>
        match readDocument p text with
        | .error failure => some failure
        | .ok _ => none
  else none

def unparseable? (fs : FileSystem) (p : Path) : Option Record :=
  (parseFailure? fs p).map fun failure =>
    ⟨.warn, scope, "Unparseable " ++ String.ofList (baseName p) ++ " found at " ++ p.toString,
      [("reason", .text failure.message)]⟩

theorem isManifest_of_manifest (h : baseName p ∈ manifestNames) : isManifest p = true := by
  unfold isManifest
  exact List.contains_iff_mem.mpr h

theorem isManifest_of_dedicated (h : baseName p ∈ dedicatedNames) : isManifest p = false := by
  have hdisjoint : forall n, n ∈ dedicatedNames -> n ∉ manifestNames := by decide
  unfold isManifest
  rw [List.contains_eq_mem, decide_eq_false_iff_not]
  exact hdisjoint _ h

theorem isFile_of_file (h : fs.kind p = .ok .file) : isFile fs p = pure true := by
  unfold isFile
  rw [h]
  rfl

theorem loadCandidate_of_file (h : fs.kind p = .ok .file) :
    loadCandidate fs p = if isManifest p then loadManifest fs p else loadDedicated fs p := by
  unfold loadCandidate
  rw [isFile_of_file h]
  rfl

theorem isPassed_of_absent {e : FileError} (hkind : fs.kind p = .error e)
    (habsent : e.isAbsence = true) : IsPassed fs p := by
  constructor
  · intro hdecisive
    cases hdecisive with
    | dedicated name isFile => exact absurd (hkind.symm.trans isFile) (by simp)
    | manifest name isFile readable parses hasSection =>
        exact absurd (hkind.symm.trans isFile) (by simp)
  · intro failure hblocks
    cases hblocks with
    | uninspectable hidden present =>
        cases hkind.symm.trans hidden
        rw [habsent] at present
        cases present
    | unreadable name isFile hidden => exact absurd (hkind.symm.trans isFile) (by simp)

theorem isPassed_of_malformed {bytes : List UInt8} {e : Failure} (hfile : fs.kind p = .ok .file)
    (hname : baseName p ∈ manifestNames) (hread : fs.read p = .ok bytes)
    (hparse : readDocument p (Utf8.lenient bytes).toList = .error e) : IsPassed fs p := by
  have htext : readCharacters fs p = .ok (Utf8.lenient bytes).toList := by
    unfold readCharacters
    rw [hread]
  constructor
  · intro hdecisive
    cases hdecisive with
    | dedicated name isFile =>
        have hplain := isManifest_of_dedicated name
        rw [isManifest_of_manifest hname] at hplain
        cases hplain
    | manifest name isFile readable parses hasSection =>
        cases htext.symm.trans readable
        cases hparse.symm.trans parses
  · intro failure hblocks
    cases hblocks with
    | uninspectable hidden present => exact absurd (hfile.symm.trans hidden) (by simp)
    | unreadable name isFile hidden => exact absurd (hread.symm.trans hidden) (by simp)

/-!
# One candidate

A decisive candidate is loaded just as if it were named.  One that is passed leaves nothing but a
warning if it cannot be parsed.
-/

def foundIn (p : Path) (config : Config) : Found :=
  ⟨config, some p⟩

section Manifest

variable {text : List Char} {document : Value}

theorem loadManifest_of_malformed (hread : readCharacters fs p = .ok text)
    (hparse : readDocument p text = .error failure) :
    loadManifest fs p = Logged.write scope .warn
      ("Unparseable " ++ String.ofList (baseName p) ++ " found at " ++ p.toString)
      [("reason", .text failure.message)] >>= fun _ => pure none := by
  unfold loadManifest
  rw [hread]
  show (match readDocument p text with
    | .error failure => _
    | .ok document => _) = _
  rw [hparse]

theorem loadManifest_of_document (hread : readCharacters fs p = .ok text)
    (hparse : readDocument p text = .ok document) :
    loadManifest fs p =
      match section? p document with
      | none => pure none
      | some settings => ofValue p settings >>= fun config =>
          noteUse p >>= fun _ => pure (some (foundIn p config)) := by
  unfold loadManifest
  rw [hread]
  show (match readDocument p text with
    | .error failure => _
    | .ok document => _) = _
  rw [hparse]
  rfl

theorem load_of_text {target : Path} (hp : fs.resolve p = target)
    (hread : readCharacters fs target = .ok text) :
    load fs p = Logged.ofExcept (readDocument target text) >>= fun document =>
      ofDocument target document := by
  unfold load
  simp only [hp, hread]
  rfl

theorem load_of_document (hp : fs.resolve p = p) (hread : readCharacters fs p = .ok text)
    (hparse : readDocument p text = .ok document) : load fs p = ofDocument p document := by
  rw [load_of_text hp hread, hparse]
  rfl

theorem parseFailure?_of_text (hname : baseName p ∈ manifestNames) (hfile : fs.kind p = .ok .file)
    (hread : readCharacters fs p = .ok text) :
    parseFailure? fs p =
      match readDocument p text with
      | .error failure => some failure
      | .ok _ => none := by
  unfold parseFailure?
  simp [hfile, isManifest_of_manifest hname, hread]

end Manifest

theorem loadCandidate_of_decisive (hp : fs.resolve p = p) (h : IsDecisive fs p) :
    (loadCandidate fs p).result = (load fs p).result.map (fun c => some (foundIn p c)) ∧
      (loadCandidate fs p).warnings = [] := by
  cases h with
  | dedicated name isFile =>
      rw [loadCandidate_of_file isFile, isManifest_of_dedicated name, if_neg Bool.false_ne_true]
      have hload : loadDedicated fs p =
          noteUse p >>= fun _ => load fs p >>= fun config => pure (some (foundIn p config)) := rfl
      rw [hload]
      constructor
      · rw [Logged.result_bind]
        show (load fs p >>= fun config => pure (some (foundIn p config))).result = _
        rw [Logged.result_bind]
        cases (load fs p).result <;> rfl
      · apply warnings_bind_eq_nil rfl
        intro _
        exact warnings_bind_eq_nil (warnings_load fs p) fun _ => rfl
  | @manifest text document settings name isFile readable parses hasSection =>
      have hmanifest := isManifest_of_manifest name
      have hload : load fs p = ofValue p settings := by
        rw [load_of_document hp readable parses]
        unfold ofDocument
        rw [if_pos hmanifest, hasSection]
      rw [loadCandidate_of_file isFile, hmanifest, if_pos rfl,
        loadManifest_of_document readable parses, hasSection, hload]
      constructor
      · rw [Logged.result_bind]
        cases (ofValue p settings).result <;> rfl
      · exact warnings_bind_eq_nil (warnings_ofValue p settings) fun _ => rfl

theorem loadCandidate_of_blocks (h : Blocks fs p failure) :
    (loadCandidate fs p).result = .error failure ∧ (loadCandidate fs p).warnings = [] := by
  cases h with
  | @uninspectable e hidden present =>
      have hfile : isFile fs p = Logged.fail (.uninspectable p e) := by
        unfold isFile
        rw [hidden]
        simp only [present, Bool.false_eq_true, if_false]
      unfold loadCandidate
      rw [hfile]
      exact ⟨rfl, rfl⟩
  | @unreadable e name isFile hidden =>
      have hread : readCharacters fs p = .error (.unreadableConfig p) := by
        unfold readCharacters
        rw [hidden]
      rw [loadCandidate_of_file isFile, isManifest_of_manifest name, if_pos rfl]
      unfold loadManifest
      rw [hread]
      exact ⟨rfl, rfl⟩

theorem isFile_of_passed (h : IsPassed fs p) :
    isFile fs p = pure (decide (fs.kind p = .ok .file)) := by
  unfold isFile
  cases hkind : fs.kind p with
  | error e =>
      have habsent : e.isAbsence = true := by
        rw [<- Bool.not_eq_false]
        exact fun hpresent => h.not_blocking _ (Blocks.uninspectable hkind hpresent)
      simp [habsent]
  | ok kind =>
      simp

theorem loadManifest_of_passed (hname : baseName p ∈ manifestNames) (hfile : fs.kind p = .ok .file)
    (h : IsPassed fs p) :
    (loadManifest fs p).result = .ok none ∧
      (loadManifest fs p).warnings = (unparseable? fs p).toList := by
  have hreadable : exists text, readCharacters fs p = .ok text := by
    unfold readCharacters
    cases hread : fs.read p with
    | error e => exact absurd (Blocks.unreadable hname hfile hread) (h.not_blocking _)
    | ok bytes => exact ⟨_, rfl⟩
  rcases hreadable with ⟨text, hread⟩
  unfold unparseable?
  rw [parseFailure?_of_text hname hfile hread]
  cases hparse : readDocument p text with
  | error failure =>
      rw [loadManifest_of_malformed hread hparse]
      exact ⟨rfl, rfl⟩
  | ok document =>
      rw [loadManifest_of_document hread hparse]
      cases hsection : section? p document with
      | none =>
          exact ⟨rfl, rfl⟩
      | some settings =>
          exact absurd (IsDecisive.manifest hname hfile hread hparse hsection) h.not_decisive

theorem unparseable?_of_not_file (h : fs.kind p ≠ .ok .file) : unparseable? fs p = none := by
  unfold unparseable? parseFailure?
  simp [h]

theorem loadCandidate_of_passed (hname : baseName p ∈ dedicatedNames ++ manifestNames)
    (h : IsPassed fs p) :
    (loadCandidate fs p).result = .ok none ∧
      (loadCandidate fs p).warnings = (unparseable? fs p).toList := by
  by_cases hfile : fs.kind p = .ok .file
  · rcases List.mem_append.mp hname with hdedicated | hmanifest
    · exact absurd (IsDecisive.dedicated hdedicated hfile) h.not_decisive
    · rw [loadCandidate_of_file hfile, isManifest_of_manifest hmanifest, if_pos rfl]
      exact loadManifest_of_passed hmanifest hfile h
  · have hpass : loadCandidate fs p = pure none := by
      unfold loadCandidate
      rw [isFile_of_passed h, decide_eq_false hfile]
      rfl
    rw [hpass, unparseable?_of_not_file hfile]
    exact ⟨rfl, rfl⟩

end Config
end CamelSpell
