import CamelSpell.Proofs.RunFindings

/-!
# Files with mistakes

Whether a check finds anything in a file can be said without places: the file can be read, its bytes
encode a text, and one of the sub-words of the text is wrong.
-/

namespace CamelSpell

open CamelSpell.Path Unicode Utf8

/-- The sub-words of a text: every maximal run of word characters in a line is cut into its own. -/
def Dictionary.IsSubWord (d : Dictionary) (text w : List Char) : Prop :=
  exists line i run part, line ∈ text.splitOn '\n' ∧ (i, run) ∈ maximalRuns d.isWordCharacter line ∧
    part ∈ splitToken run ∧ part.text = w

/-- A file can be read, its bytes encode a text, and behind a byte order mark the text has a
sub-word that is long enough and whose lower-case form is not accepted. -/
def HoldsMistake (fs : FileSystem) (r : Rules) (p : Path) : Prop :=
  exists text w, fs.read p = .ok (encoded text) ∧ r.dictionary.IsSubWord (withoutMark text) w ∧
    r.minLength ≤ w.length ∧ r.dictionary.has (lower w) = false

section

variable {r : Rules} {text line : List Char} {m : Misspelling} {number : Nat}

theorem Rules.mem_lineMisspellings_iff :
    m ∈ r.lineMisspellings line number <->
      exists i run part, (i, run) ∈ maximalRuns r.dictionary.isWordCharacter line ∧
        part ∈ splitToken run ∧ r.minLength ≤ part.text.length ∧
        r.dictionary.has (lower part.text) = false ∧
        m = ⟨part.text, number, i + 1 + part.offset⟩ := by
  unfold lineMisspellings runMisspellings
  simp only [List.mem_flatMap, List.mem_map, List.mem_filter, Prod.exists, Bool.and_eq_true,
    decide_eq_true_eq, Bool.not_eq_eq_eq_not, Bool.not_true]
  constructor
  · rintro ⟨i, run, hrun, part, ⟨hpart, hlength, hhas⟩, hm⟩
    exact ⟨i, run, part, hrun, hpart, hlength, hhas, hm.symm⟩
  · rintro ⟨i, run, part, hrun, hpart, hlength, hhas, hm⟩
    exact ⟨i, run, hrun, part, ⟨hpart, hlength, hhas⟩, hm.symm⟩

variable (hnewline : r.dictionary.isWordCharacter '\n' = false)
include hnewline

theorem mem_checkText_iff :
    m ∈ checkText r text <-> exists line number, (line, number) ∈ (text.splitOn '\n').zipIdx 1 ∧
      m ∈ r.lineMisspellings line number := by
  rw [checkText_of_newline hnewline]
  unfold Rules.textMisspellings
  simp only [List.mem_flatMap, Prod.exists]

theorem exists_word_checkText_iff {w : List Char} :
    (exists m, m ∈ checkText r text ∧ m.word = w) <->
      r.dictionary.IsSubWord text w ∧ r.minLength ≤ w.length ∧
        r.dictionary.has (lower w) = false := by
  simp only [mem_checkText_iff hnewline, Rules.mem_lineMisspellings_iff]
  constructor
  · rintro ⟨_, ⟨line, number, hline, i, run, part, hrun, hpart, hlength, hhas, rfl⟩, rfl⟩
    have hmem : line ∈ text.splitOn '\n' := by
      rw [<- List.zipIdx_map_fst 1 (text.splitOn '\n')]
      exact List.mem_map_of_mem hline
    exact ⟨⟨line, i, run, part, hmem, hrun, hpart, rfl⟩, hlength, hhas⟩
  · rintro ⟨⟨line, i, run, part, hmem, hrun, hpart, rfl⟩, hlength, hhas⟩
    rw [<- List.zipIdx_map_fst 1 (text.splitOn '\n')] at hmem
    rcases List.mem_map.mp hmem with ⟨⟨line', number⟩, hline, rfl⟩
    exact ⟨_, ⟨line', number, hline, i, run, part, hrun, hpart, hlength, hhas, rfl⟩, rfl⟩

theorem exists_mem_checkText_iff :
    (exists m, m ∈ checkText r text) <->
      exists w, r.dictionary.IsSubWord text w ∧ r.minLength ≤ w.length ∧
        r.dictionary.has (lower w) = false := by
  simp only [<- exists_word_checkText_iff hnewline]
  constructor
  · rintro ⟨m, hm⟩
    exact ⟨m.word, m, hm, rfl⟩
  · rintro ⟨_, m, hm, _⟩
    exact ⟨m, hm⟩

theorem length_findings_of_text {fs : FileSystem} {p : Path}
    (hread : fs.read p = .ok (encoded text)) :
    (checkFile fs r p).findings.length = (r.textMisspellings (withoutMark text)).length := by
  rw [checkFile_of_decode? hread r (decode?_encoded text), CheckedFile.findings_ofFound,
    List.length_map, checkText_of_newline hnewline]

theorem lt_length_findings_iff {fs : FileSystem} {p : Path} {n : Nat} :
    n < (checkFile fs r p).findings.length <->
      exists text, fs.read p = .ok (encoded text) ∧
        n < (r.textMisspellings (withoutMark text)).length := by
  constructor
  · intro h
    rcases findings_checkFile fs r p with hnone | ⟨_, text, hread, rfl, _⟩
    · rw [hnone] at h
      cases h
    · rw [length_findings_of_text hnewline hread] at h
      exact ⟨text, hread, h⟩
  · rintro ⟨text, hread, h⟩
    rw [length_findings_of_text hnewline hread]
    exact h

theorem findings_ne_nil_iff {fs : FileSystem} {p : Path} :
    (checkFile fs r p).findings ≠ [] <-> HoldsMistake fs r p := by
  rw [<- List.length_pos_iff, lt_length_findings_iff hnewline]
  refine exists_congr fun text => ?_
  rw [<- checkText_of_newline hnewline, List.length_pos_iff_exists_mem,
    exists_mem_checkText_iff hnewline]
  simp only [exists_and_left]

end

end CamelSpell
