import CamelSpell.Proofs.MaximalRun
import CamelSpell.Proofs.WordCharacter
import CamelSpell.Scanner

/-!
# The misspellings of a text

What is wrong in a text can be said without a scanner: it is cut into lines, every maximal run of
word characters in a line is cut into its sub-words, and the sub-words that are long enough and not
accepted are reported with the number of the line and their column.  The scanner, which reads the
text once and keeps the open token with its place, reports exactly these in the same order.
-/

namespace CamelSpell

open Unicode

namespace Rules

/-!
# The declarative side

The misspellings of a text, line by line and run by run, without a scanner.
-/

/-- The misspellings of a run of word characters that begins in a column of a line: its sub-words
that are long enough and whose lower-case form is not accepted. -/
def runMisspellings (r : Rules) (number column : Nat) (run : List Char) : List Misspelling :=
  ((splitToken run).filter fun part =>
    decide (r.minLength ≤ part.text.length) && !r.dictionary.has (lower part.text)).map fun part =>
      ⟨part.text, number, column + part.offset⟩

def lineMisspellings (r : Rules) (line : List Char) (number : Nat) : List Misspelling :=
  (maximalRuns r.dictionary.isWordCharacter line).flatMap fun (before, run) =>
    r.runMisspellings number (before + 1) run

def textMisspellings (r : Rules) (text : List Char) : List Misspelling :=
  ((text.splitOn '\n').zipIdx 1).flatMap fun (line, number) => r.lineMisspellings line number

end Rules

namespace Scanner

/-!
# One character at a time

A scanner in the middle of a line owes what its open token comes to at the next delimiter, and what
the runs come to that begin later in the line.
-/

/-- What is still to be flagged in the line that a scanner is in, given the rest of the line. -/
def restOfLine (r : Rules) (s : Scanner) (rest : List Char) : List Misspelling :=
  (if s.token = [] then []
    else r.runMisspellings s.line s.tokenColumn
      (s.token.reverse ++ rest.takeWhile r.dictionary.isWordCharacter)) ++
    (runsAlong r.dictionary.isWordCharacter (!s.token.isEmpty) s.column rest).flatMap
      fun (before, run) => r.runMisspellings s.line (before + 1) run

theorem closeToken_flagged (r : Rules) (s : Scanner) :
    (s.closeToken r).flagged = (s.restOfLine r []).reverse ++ s.flagged := by
  unfold closeToken restOfLine
  cases htoken : s.token with
  | nil =>
      simp [runsAlong]
  | cons c rest =>
      have hrun : r.misspellings (rest.reverse ++ [c]) s.line s.tokenColumn =
          r.runMisspellings s.line s.tokenColumn (rest.reverse ++ [c]) := rfl
      simp [runsAlong, hrun]

theorem closeToken_token (r : Rules) (s : Scanner) : (s.closeToken r).token = [] := by
  unfold closeToken
  cases htoken : s.token with
  | nil =>
      exact htoken
  | cons c rest =>
      rfl

theorem closeToken_line (r : Rules) (s : Scanner) : (s.closeToken r).line = s.line := by
  unfold closeToken
  cases s.token <;> rfl

theorem step_word {r : Rules} {c : Char} (s : Scanner) (hc : c ≠ '\n')
    (hword : r.dictionary.isWordCharacter c = true) :
    s.step r c =
      { s with
        token := c :: s.token
        tokenColumn := if s.token = [] then s.column + 1 else s.tokenColumn
        column := s.column + 1 } := by
  unfold step
  cases s.token <;> simp [hc, hword]

theorem step_delimiter {r : Rules} {c : Char} (s : Scanner) (hc : c ≠ '\n')
    (hword : r.dictionary.isWordCharacter c = false) :
    s.step r c = { s with column := s.column + 1 }.closeToken r := by
  unfold step
  simp [hc, hword]

theorem step_newline {r : Rules} (s : Scanner)
    (hnewline : r.dictionary.isWordCharacter '\n' = false) :
    s.step r '\n' =
      { { s with column := s.column + 1 }.closeToken r with line := s.line + 1, column := 0 } := by
  unfold step
  simp [hnewline, closeToken_line]

theorem restOfLine_step (r : Rules) (s : Scanner) {c : Char} (rest : List Char)
    (hc : c ≠ '\n') :
    ((s.step r c).restOfLine r rest).reverse ++ (s.step r c).flagged =
      (s.restOfLine r (c :: rest)).reverse ++ s.flagged := by
  cases hword : r.dictionary.isWordCharacter c with
  | true =>
      rw [step_word s hc hword]
      unfold restOfLine
      cases htoken : s.token with
      | nil =>
          simp [runsAlong, hword]
      | cons a before =>
          simp [runsAlong, hword]
  | false =>
      rw [step_delimiter s hc hword]
      unfold restOfLine
      cases htoken : s.token with
      | nil =>
          simp [closeToken, runsAlong, hword]
      | cons a before =>
          have hrun : r.misspellings (before.reverse ++ [a]) s.line s.tokenColumn =
              r.runMisspellings s.line s.tokenColumn (before.reverse ++ [a]) := rfl
          simp [closeToken, runsAlong, hword, hrun]

theorem step_line {r : Rules} (s : Scanner) {c : Char} (hc : c ≠ '\n') :
    (s.step r c).line = s.line := by
  cases hword : r.dictionary.isWordCharacter c with
  | true =>
      rw [step_word s hc hword]
  | false =>
      rw [step_delimiter s hc hword, closeToken_line]

theorem step_newline_flagged {r : Rules} (s : Scanner)
    (hnewline : r.dictionary.isWordCharacter '\n' = false) :
    (s.step r '\n').flagged = (s.restOfLine r []).reverse ++ s.flagged := by
  rw [step_newline s hnewline]
  exact closeToken_flagged r { s with column := s.column + 1 }

theorem restOfLine_step_newline {r : Rules} (s : Scanner) (line : List Char)
    (hnewline : r.dictionary.isWordCharacter '\n' = false) :
    (s.step r '\n').restOfLine r line = r.lineMisspellings line (s.line + 1) := by
  rw [step_newline s hnewline]
  unfold restOfLine Rules.lineMisspellings
  rw [maximalRuns_eq_runsAlong]
  simp [closeToken_token]

/-!
# Whole texts

What a scanner flags while it reads a text and closes the last token belongs to the rest of the
line that it is in, and to the lines after that.
-/

/-- What a scanner flags while it reads a text and closes the last token: the rest of the line that
it is in, and the lines after that. -/
theorem push_closeToken_flagged {r : Rules}
    (hnewline : r.dictionary.isWordCharacter '\n' = false) (text : List Char) (s : Scanner)
    {line : List Char} {lines : List (List Char)}
    (hlines : text.splitOn '\n' = line :: lines) :
    ((s.push r text).closeToken r).flagged =
      (s.restOfLine r line ++ (lines.zipIdx (s.line + 1)).flatMap
        fun (line, number) => r.lineMisspellings line number).reverse ++ s.flagged := by
  -- `line` is what is left of the current line; behind a line feed the next line takes its place
  induction text generalizing s line lines with
  | nil =>
      rw [List.splitOn_nil] at hlines
      cases hlines
      have hpush : s.push r [] = s := rfl
      rw [hpush]
      simpa using closeToken_flagged r s
  | cons c rest ih =>
      have hpush : s.push r (c :: rest) = (s.step r c).push r rest := rfl
      rw [List.splitOn_cons_eq_if_modifyHead] at hlines
      cases hrest : rest.splitOn '\n' with
      | nil =>
          exact absurd hrest (List.splitOn_ne_nil _ _)
      | cons next others =>
          rw [hpush, ih (s.step r c) hrest]
          rw [hrest] at hlines
          by_cases hc : c = '\n'
          · subst hc
            rw [if_pos (beq_self_eq_true '\n')] at hlines
            cases hlines
            have hline : (s.step r '\n').line = s.line + 1 := by
              rw [step_newline s hnewline]
            rw [restOfLine_step_newline s next hnewline, step_newline_flagged s hnewline, hline]
            simp
          · rw [if_neg (by simpa using hc)] at hlines
            cases hlines
            rw [step_line s hc, List.reverse_append, List.append_assoc,
              restOfLine_step r s next hc, List.reverse_append, List.append_assoc]

end Scanner

theorem checkText_of_newline {r : Rules} (hnewline : r.dictionary.isWordCharacter '\n' = false)
    (text : List Char) : checkText r text = r.textMisspellings text := by
  cases hlines : text.splitOn '\n' with
  | nil =>
      exact absurd hlines (List.splitOn_ne_nil _ _)
  | cons line lines =>
      have hfirst : Scanner.start.restOfLine r line = r.lineMisspellings line 1 := by
        unfold Scanner.restOfLine Rules.lineMisspellings
        rw [maximalRuns_eq_runsAlong]
        simp [Scanner.start]
      unfold checkText Scanner.report
      rw [Scanner.push_closeToken_flagged hnewline text Scanner.start hlines, hfirst]
      unfold Rules.textMisspellings
      rw [hlines]
      simp [Scanner.start]

/-- The scanner reports the misspellings of the lines of a text, one line after another, whatever
dictionary and length it is given. -/
theorem checkText_eq_textMisspellings {d : Dictionary} (hbuilt : d.Built) (minLength : Nat)
    (text : List Char) :
    checkText ⟨d, minLength⟩ text = Rules.textMisspellings ⟨d, minLength⟩ text :=
  checkText_of_newline hbuilt.isWordCharacter_newline text

theorem checkText_eq_textMisspellings_extended :
    ((Dictionary.ofEntries ["left".toList, "can't".toList]).extend ["good".toList]).Built ∧
      checkText ⟨(Dictionary.ofEntries ["left".toList, "can't".toList]).extend ["good".toList], 4⟩
          "goodLeft badWrdx\n\n can't dont't 𐐀𐐨𐐨𐐨".toList =
        [⟨"Wrdx".toList, 1, 13⟩, ⟨"dont't".toList, 3, 8⟩, ⟨"𐐀𐐨𐐨𐐨".toList, 3, 15⟩] := by
  have hbuilt := Dictionary.Built.extend
    (Dictionary.Built.ofEntries ["left".toList, "can't".toList]) ["good".toList]
  refine ⟨hbuilt, ?_⟩
  rw [checkText_eq_textMisspellings hbuilt 4]
  decide +kernel

end CamelSpell
