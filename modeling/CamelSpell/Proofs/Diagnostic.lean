import CamelSpell.Proofs.ScannerCalls
import CamelSpell.Proofs.WordCharacter
import CamelSpell.Report

/-!
# Diagnostics are unambiguous

A diagnostic puts the path, the line, the column and the word of a finding between colons, spaces
and quotation marks, all of which may stand in the path or in the word as well.  It can be read from
its end all the same: a word without white space begins behind the last space, and the colons in
front of it that separate the numbers come after all those of the path.
-/

namespace CamelSpell

open Unicode

/-!
# Reading from the end

Four cuts, each at the last place of its mark, take a diagnostic apart.  Numbers are written in
digits, among which there is no colon.
-/

def cutLast? (c : Char) : List Char -> Option (List Char × List Char)
  | [] => none
  | d :: rest =>
      match cutLast? c rest with
      | some (before, after) => some (d :: before, after)
      | none => if d = c then some ([], rest) else none

theorem cutLast?_of_not_mem {c : Char} {text : List Char} (h : c ∉ text) :
    cutLast? c text = none := by
  induction text with
  | nil =>
      rfl
  | cons d rest ih =>
      have hd : d ≠ c := fun heq => h (heq ▸ List.mem_cons_self)
      have hrest := ih fun hmem => h (List.mem_cons_of_mem d hmem)
      simp [cutLast?, hrest, hd]

theorem cutLast?_append {c : Char} (before : List Char) {after : List Char} (h : c ∉ after) :
    cutLast? c (before ++ c :: after) = some (before, after) := by
  induction before with
  | nil =>
      simp [cutLast?, cutLast?_of_not_mem h]
  | cons d rest ih =>
      simp [cutLast?, ih]

def readCount? (digits : List Char) : Option Nat :=
  (String.ofList digits).toNat?

theorem readCount?_toDigits (n : Nat) : readCount? (Nat.toDigits 10 n) = some n := by
  unfold readCount?
  rw [<- Nat.toList_repr, String.ofList_toList, Nat.toNat?_repr]

theorem colon_not_mem_toDigits (n : Nat) : ':' ∉ Nat.toDigits 10 n := by
  intro hmem
  exact absurd (Nat.isDigit_of_mem_toDigits (by decide) (by decide) hmem) (by decide)

namespace Finding

/-- The finding that a diagnostic is about. -/
def ofDiagnostic? (text : List Char) : Option Finding := do
  let (front, quoted) <- cutLast? ' ' text
  let (place, _) <- cutLast? ':' front
  let (lined, column) <- cutLast? ':' place
  let (path, line) <- cutLast? ':' lined
  let column <- readCount? column
  let line <- readCount? line
  return ⟨path, ⟨(quoted.drop 1).dropLast, line, column⟩⟩

/-- Whether the word of a finding has no white space in it. -/
def IsUnspaced (f : Finding) : Prop :=
  forall c, c ∈ f.misspelling.word -> isBlank c = false

instance (f : Finding) : Decidable f.IsUnspaced :=
  List.decidableBAll (fun c => isBlank c = false) f.misspelling.word

def label : List Char :=
  ' ' :: spellingCode.toList ++ " spelling mistake".toList

theorem toList_diagnostic (f : Finding) :
    f.diagnostic.toList =
      (((f.path ++ ':' :: Nat.toDigits 10 f.misspelling.line) ++
          ':' :: Nat.toDigits 10 f.misspelling.column) ++ ':' :: label) ++
        ' ' :: ('\'' :: f.misspelling.word ++ ['\'']) := by
  unfold diagnostic Path.toString label spellingCode
  simp [Nat.toString_eq_repr, Nat.toList_repr]

theorem IsUnspaced.space_not_mem {f : Finding} (h : f.IsUnspaced) : ' ' ∉ f.misspelling.word := by
  intro hmem
  exact absurd (h ' ' hmem) (by decide)

theorem ofDiagnostic?_diagnostic {f : Finding} (h : f.IsUnspaced) :
    ofDiagnostic? f.diagnostic.toList = some f := by
  have hquoted : ' ' ∉ '\'' :: f.misspelling.word ++ ['\''] := by
    simp [h.space_not_mem]
  have hlabel : ':' ∉ label := by decide
  unfold ofDiagnostic?
  rw [toList_diagnostic, cutLast?_append _ hquoted]
  simp only [Option.bind_eq_bind, Option.bind_some]
  rw [cutLast?_append _ hlabel]
  simp only [Option.bind_some]
  rw [cutLast?_append _ (colon_not_mem_toDigits _)]
  simp only [Option.bind_some]
  rw [cutLast?_append _ (colon_not_mem_toDigits _)]
  simp [readCount?_toDigits]

end Finding

/-!
# Findings of a scanner

Whatever a scanner reports is a word without white space at a place that counts from one.
-/

namespace Scanner

theorem exists_report_of_mem_results {r : Rules} {s : Scanner} {calls : List Call}
    {found : List Misspelling} (h : found ∈ s.results r calls) :
    exists before, found = ((s.after r before).closeToken r).report := by
  induction calls generalizing s with
  | nil =>
      cases h
  | cons first rest ih =>
      cases first with
      | push text =>
          rcases ih h with ⟨before, hbefore⟩
          exact ⟨.push text :: before, hbefore⟩
      | finish =>
          rcases List.mem_cons.mp h with hfound | hlater
          · exact ⟨[], hfound⟩
          · rcases ih hlater with ⟨before, hbefore⟩
            exact ⟨.finish :: before, hbefore⟩

theorem place_of_mem_results {r : Rules} (hbuilt : r.dictionary.Built) {calls : List Call}
    {found : List Misspelling} {m : Misspelling} (hfound : found ∈ start.results r calls)
    (hm : m ∈ found) :
    (forall c, c ∈ m.word -> isBlank c = false) ∧ 1 ≤ m.line ∧ 1 ≤ m.column := by
  rcases exists_report_of_mem_results hfound with ⟨before, hreport⟩
  rw [hreport] at hm
  have hnewline := hbuilt.isWordCharacter_newline
  rcases standsIn_of_mem_report_after hnewline hm with ⟨_, _, _, hline, hcolumn⟩
  have hlettered := ((after_follows hnewline before).closeToken hnewline).lettered
  refine ⟨fun c hc => ?_, by omega, by omega⟩
  have hword := (hlettered.flagged m (List.mem_reverse.mp hm)).2 c hc
  cases hblank : isBlank c with
  | false =>
      rfl
  | true =>
      rw [hbuilt.isWordCharacter_blank hblank] at hword
      cases hword

end Scanner

namespace Finding

/-- A diagnostic tells its finding: the path, the line, the column and the word can be read from it,
whatever the path is, if there is no white space in the word; and there is none in the words that
a scanner reports. -/
theorem diagnostic_unambiguous :
    (forall f : Finding, f.IsUnspaced -> ofDiagnostic? f.diagnostic.toList = some f) ∧
      (forall f g : Finding, f.IsUnspaced -> g.IsUnspaced -> f.diagnostic = g.diagnostic ->
        f = g) ∧
      forall (r : Rules), r.dictionary.Built -> forall (calls : List Scanner.Call) (found) (m),
        found ∈ Scanner.start.results r calls -> m ∈ found ->
          1 ≤ m.line ∧ 1 ≤ m.column ∧ forall path, (Finding.mk path m).IsUnspaced := by
  refine ⟨fun f hf => ofDiagnostic?_diagnostic hf, fun f g hf hg h => ?_, ?_⟩
  · have hread : some f = some g := by
      rw [<- ofDiagnostic?_diagnostic hf, h, ofDiagnostic?_diagnostic hg]
    exact Option.some.inj hread
  · intro r hbuilt calls found m hfound hm
    rcases Scanner.place_of_mem_results hbuilt hfound hm with ⟨hword, hline, hcolumn⟩
    exact ⟨hline, hcolumn, fun path => hword⟩

theorem diagnostic_unambiguous_quoted :
    (ofDiagnostic? "a:1:2: SP001 spelling mistake 'b':3:4: SP001 spelling mistake 'c':5'".toList =
        some ⟨"a:1:2: SP001 spelling mistake 'b'".toList, ⟨"c':5".toList, 3, 4⟩⟩) ∧
      (Finding.mk ['a'] ⟨"b".toList, 1, 12⟩).diagnostic ≠
        (Finding.mk "a:1".toList ⟨"b".toList, 1, 2⟩).diagnostic ∧
      (Finding.mk ['a', ' '] ⟨"Wrd".toList, 2, 6⟩).IsUnspaced := by
  rcases diagnostic_unambiguous with ⟨hread, hinjective, hscanner⟩
  refine ⟨?_, ?_, ?_⟩
  · exact hread ⟨"a:1:2: SP001 spelling mistake 'b'".toList, ⟨"c':5".toList, 3, 4⟩⟩
      (by decide)
  · intro h
    have heq := hinjective _ _ (by decide) (by decide) h
    exact absurd heq (by decide)
  · have hfound : Scanner.start.results ⟨Dictionary.ofEntries ["bad".toList], 3⟩
        [.push "\n  badWrd".toList, .finish] = [[⟨"Wrd".toList, 2, 6⟩]] := by
      decide +kernel
    have hm := hscanner ⟨Dictionary.ofEntries ["bad".toList], 3⟩ (.ofEntries _)
      [.push "\n  badWrd".toList, .finish] [⟨"Wrd".toList, 2, 6⟩] ⟨"Wrd".toList, 2, 6⟩
      (by rw [hfound]; exact List.mem_singleton_self _) (List.mem_singleton_self _)
    exact hm.2.2 ['a', ' ']

end Finding
end CamelSpell
