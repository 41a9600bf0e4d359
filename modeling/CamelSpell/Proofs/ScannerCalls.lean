import CamelSpell.Proofs.ScannerPosition
import Mathlib.Data.List.DropRight

/-!
# Scanners that are asked more than once

A scanner may be handed text and be asked what it has found in any order.  Being asked ends the open
token and nothing else: the text that is handed over between two questions is read like a text of
its own, at the place where it stands in all that has been handed over, and in how many pieces it
came is not seen.
-/

namespace CamelSpell

namespace Scanner

inductive Call where
  | push (text : List Char)
  | finish
deriving DecidableEq, Repr

def Call.text : Call -> List Char
  | push text => text
  | finish => []

def Call.isPush : Call -> Bool
  | push _ => true
  | finish => false

def call (r : Rules) (s : Scanner) : Call -> Scanner
  | .push text => s.push r text
  | .finish => s.closeToken r

def after (r : Rules) (s : Scanner) (calls : List Call) : Scanner :=
  calls.foldl (call r) s

def results (r : Rules) (s : Scanner) : List Call -> List (List Misspelling)
  | [] => []
  | .push text :: rest => (s.push r text).results r rest
  | .finish :: rest => (s.closeToken r).report :: (s.closeToken r).results r rest

def pushed (calls : List Call) : List Char :=
  calls.flatMap Call.text

def sinceFinish (calls : List Call) : List Char :=
  pushed (calls.rtakeWhile Call.isPush)

/-- The texts between the reports, of which the last is still being read. -/
def stretches : List Call -> List (List Char)
  | [] => [[]]
  | .push text :: rest => (stretches rest).modifyHead (text ++ ·)
  | .finish :: rest => [] :: stretches rest

theorem pushed_append (calls more : List Call) :
    pushed (calls ++ more) = pushed calls ++ pushed more :=
  List.flatMap_append

theorem after_append (r : Rules) (s : Scanner) (calls more : List Call) :
    s.after r (calls ++ more) = (s.after r calls).after r more :=
  List.foldl_append

theorem results_append (r : Rules) (s : Scanner) (calls more : List Call) :
    s.results r (calls ++ more) = s.results r calls ++ (s.after r calls).results r more := by
  induction calls generalizing s with
  | nil =>
      rfl
  | cons first rest ih =>
      cases first with
      | push text =>
          exact ih (s.push r text)
      | finish =>
          exact congrArg (List.cons _) (ih (s.closeToken r))

/-!
# Where the scanner is

After some calls a scanner is at the end of all that has been handed over, and its open token is
the longest end of the text since the last report that consists of word characters.
-/

structure IsLongestEnd (p : Char -> Bool) (text ending : List Char) : Prop where
  suffix : ending <:+ text
  all : forall c, c ∈ ending -> p c = true
  longest : forall other, other <:+ text -> (forall c, c ∈ other -> p c = true) ->
    other.length ≤ ending.length

structure IsAt (r : Rules) (calls : List Call) (s : Scanner) : Prop where
  line_eq : s.line = 1 + (pushed calls).count '\n'
  column_eq : s.column = (lastLine (pushed calls)).length
  token : IsLongestEnd r.dictionary.isWordCharacter (sinceFinish calls) s.token.reverse
  tokenColumn_eq : s.token ≠ [] -> s.token.length ≤ s.column ∧
    s.tokenColumn = s.column - s.token.length + 1

theorem isLongestEnd_rtakeWhile (p : Char -> Bool) (text : List Char) :
    IsLongestEnd p text (text.rtakeWhile p) where
  suffix := List.rtakeWhile_suffix p text
  all := fun _ hc => List.mem_rtakeWhile_imp hc
  longest := by
    intro other hsuffix hall
    rcases hsuffix with ⟨before, htext⟩
    have hother : forall c, c ∈ other.reverse -> p c = true := by
      intro c hc
      exact hall c (List.mem_reverse.mp hc)
    unfold List.rtakeWhile
    rw [<- htext, List.reverse_append, List.takeWhile_append_of_pos hother]
    simp

section Calls

variable {r : Rules}

theorem step_token_rtakeWhile {s : Scanner} {text : List Char} (c : Char)
    (h : s.token.reverse = text.rtakeWhile r.dictionary.isWordCharacter) :
    (s.step r c).token.reverse = (text ++ [c]).rtakeWhile r.dictionary.isWordCharacter := by
  rw [step_token, List.rtakeWhile_concat, <- h]
  cases r.dictionary.isWordCharacter c <;> simp

theorem push_token_rtakeWhile {s : Scanner} {text : List Char} (more : List Char)
    (h : s.token.reverse = text.rtakeWhile r.dictionary.isWordCharacter) :
    (s.push r more).token.reverse = (text ++ more).rtakeWhile r.dictionary.isWordCharacter := by
  induction more generalizing s text with
  | nil =>
      rw [List.append_nil]
      exact h
  | cons c rest ih =>
      have hrest := ih (step_token_rtakeWhile c h)
      rw [List.append_assoc, List.singleton_append] at hrest
      exact hrest

theorem after_token (r : Rules) (calls : List Call) :
    (start.after r calls).token.reverse =
      (sinceFinish calls).rtakeWhile r.dictionary.isWordCharacter := by
  induction calls using List.reverseRecOn with
  | nil =>
      rfl
  | append_singleton calls last ih =>
      rw [after_append]
      cases last with
      | push text =>
          have hsince : sinceFinish (calls ++ [.push text]) = sinceFinish calls ++ text := by
            unfold sinceFinish
            rw [List.rtakeWhile_concat_pos Call.isPush _ (.push text) rfl, pushed_append]
            simp [pushed, Call.text]
          rw [hsince]
          exact push_token_rtakeWhile text ih
      | finish =>
          have hsince : sinceFinish (calls ++ [.finish]) = [] := by
            unfold sinceFinish
            rw [List.rtakeWhile_concat_neg Call.isPush _ .finish Bool.false_ne_true]
            rfl
          rw [hsince]
          show ((start.after r calls).closeToken r).token.reverse = _
          rw [closeToken_token]
          rfl

variable (hnewline : r.dictionary.isWordCharacter '\n' = false)
include hnewline

theorem Follows.call {s : Scanner} {read : List Char} (h : s.Follows r read) (next : Call) :
    (s.call r next).Follows r (read ++ next.text) := by
  cases next with
  | push text =>
      exact h.push hnewline text
  | finish =>
      rw [Call.text, List.append_nil]
      exact h.closeToken hnewline

theorem after_follows (calls : List Call) : (start.after r calls).Follows r (pushed calls) := by
  induction calls using List.reverseRecOn with
  | nil =>
      exact start_follows r
  | append_singleton calls last ih =>
      rw [after_append, pushed_append]
      have hlast : pushed [last] = last.text := by
        simp [pushed]
      rw [hlast]
      exact ih.call hnewline last

theorem after_isAt (calls : List Call) : (start.after r calls).IsAt r calls := by
  have hfollows := after_follows hnewline calls
  refine ⟨?_, hfollows.column_eq, ?_, ?_⟩
  · rw [hfollows.line_eq, Nat.add_comm]
  · rw [after_token]
    exact isLongestEnd_rtakeWhile _ _
  · intro htoken
    rcases hfollows.token_place hnewline htoken with ⟨before, _, _, _, hcolumn⟩
    have hend := hfollows.tokenColumn_eq htoken
    omega

end Calls

/-!
# Pieces

A text may be handed over in pieces.
-/

theorem after_pieces (r : Rules) (s : Scanner) (pieces : List (List Char)) :
    s.after r (pieces.map Call.push) = s.push r pieces.flatten := by
  induction pieces generalizing s with
  | nil =>
      rfl
  | cons piece rest ih =>
      rw [List.flatten_cons, push_append]
      exact ih (s.push r piece)

theorem results_pieces (r : Rules) (s : Scanner) (pieces : List (List Char)) :
    s.results r (pieces.map Call.push) = [] := by
  induction pieces generalizing s with
  | nil =>
      rfl
  | cons piece rest ih =>
      exact ih (s.push r piece)

theorem results_flatten (r : Rules) (s : Scanner) (before : List Call)
    (pieces : List (List Char)) (rest : List Call) :
    s.results r (before ++ .push pieces.flatten :: rest) =
      s.results r (before ++ pieces.map Call.push ++ rest) := by
  rw [List.append_assoc, results_append, results_append r s before, results_append r _ _ rest,
    results_pieces, after_pieces]
  rfl

/-!
# One report after another

What is reported is not taken back, so each report is the beginning of the next one.
-/

theorem report_prefix_closeToken (r : Rules) (s : Scanner) :
    s.report <+: (s.closeToken r).report := by
  rw [closeToken_eq]
  exact List.reverse_prefix.mpr (List.suffix_append _ _)

theorem report_prefix_step (r : Rules) (s : Scanner) (c : Char) :
    s.report <+: (s.step r c).report := by
  unfold report
  rw [step_flagged]
  cases r.dictionary.isWordCharacter c with
  | true =>
      exact List.prefix_refl _
  | false =>
      exact report_prefix_closeToken r s

theorem report_prefix_push (r : Rules) (s : Scanner) (text : List Char) :
    s.report <+: (s.push r text).report := by
  induction text generalizing s with
  | nil =>
      exact List.prefix_refl _
  | cons c rest ih =>
      exact (report_prefix_step r s c).trans (ih (s.step r c))

theorem report_prefix_of_mem_results {r : Rules} {s : Scanner} {calls : List Call}
    {found : List Misspelling} (h : found ∈ s.results r calls) : s.report <+: found := by
  induction calls generalizing s with
  | nil =>
      cases h
  | cons first rest ih =>
      cases first with
      | push text =>
          exact (report_prefix_push r s text).trans (ih h)
      | finish =>
          rcases List.mem_cons.mp h with hfound | hlater
          · rw [hfound]
            exact report_prefix_closeToken r s
          · exact (report_prefix_closeToken r s).trans (ih hlater)

theorem pairwise_results (r : Rules) (s : Scanner) (calls : List Call) :
    (s.results r calls).Pairwise (· <+: ·) := by
  induction calls generalizing s with
  | nil =>
      exact List.Pairwise.nil
  | cons first rest ih =>
      cases first with
      | push text =>
          exact ih (s.push r text)
      | finish =>
          exact List.Pairwise.cons (fun _ h => report_prefix_of_mem_results h)
            (ih (s.closeToken r))

theorem closeToken_closeToken (r : Rules) (s : Scanner) :
    (s.closeToken r).closeToken r = s.closeToken r :=
  closeToken_of_nil r (closeToken_token r s)

end Scanner

/-!
# Texts between reports

Without an open token a scanner finds in the next text what is wrong in it alone.  Lines are
counted on, and so are columns in the line that this text shares with the one before.
-/

/-- A misspelling of a text that is read behind another one: its line is counted from the first line
of both, and so is its column in the line that both share. -/
def Misspelling.behind (before : List Char) (m : Misspelling) : Misspelling where
  word := m.word
  line := before.count '\n' + m.line
  column := if m.line = 1 then (lastLine before).length + m.column else m.column

/-- The misspellings of texts that follow each other, in which no token goes from one to the next.
-/
def Rules.stretchMisspellings (r : Rules) (before : List Char) :
    List (List Char) -> List Misspelling
  | [] => []
  | stretch :: rest =>
      (r.textMisspellings stretch).map (Misspelling.behind before) ++
        r.stretchMisspellings (before ++ stretch) rest

section Behind

variable (r : Rules) (before : List Char)

theorem runsAlong_add (p : Char -> Bool) (inside : Bool) (k i : Nat) (cs : List Char) :
    runsAlong p inside (k + i) cs =
      (runsAlong p inside i cs).map fun (before, run) => (k + before, run) := by
  rw [runsAlong_eq, runsAlong_eq]
  simp [Function.comp_def, Nat.add_assoc]

theorem Rules.runMisspellings_behind (number column : Nat) (run : List Char) :
    (r.runMisspellings number column run).map (Misspelling.behind before) =
      r.runMisspellings (before.count '\n' + number)
        (if number = 1 then (lastLine before).length + column else column) run := by
  unfold runMisspellings Misspelling.behind
  rw [List.map_map]
  apply List.map_congr_left
  intro part _
  by_cases hnumber : number = 1
  · simp [hnumber, Nat.add_assoc]
  · simp [hnumber]

theorem Rules.firstLineMisspellings_behind (line : List Char) :
    (r.lineMisspellings line 1).map (Misspelling.behind before) =
      (runsAlong r.dictionary.isWordCharacter false (lastLine before).length line).flatMap
        fun (column, run) => r.runMisspellings (before.count '\n' + 1) (column + 1) run := by
  unfold lineMisspellings
  rw [maximalRuns_eq_runsAlong, List.map_flatMap,
    <- Nat.add_zero (lastLine before).length, runsAlong_add, List.flatMap_map]
  apply List.flatMap_congr
  intro place _
  rw [runMisspellings_behind, if_pos rfl]
  rfl

theorem Rules.lineMisspellings_behind {number : Nat} (hnumber : number ≠ 1) (line : List Char) :
    (r.lineMisspellings line number).map (Misspelling.behind before) =
      r.lineMisspellings line (before.count '\n' + number) := by
  unfold lineMisspellings
  rw [List.map_flatMap]
  apply List.flatMap_congr
  intro place _
  rw [runMisspellings_behind, if_neg hnumber]

theorem Rules.laterLineMisspellings_behind (lines : List (List Char)) {number : Nat}
    (hnumber : 1 < number) :
    ((lines.zipIdx number).flatMap fun (line, number) => r.lineMisspellings line number).map
        (Misspelling.behind before) =
      (lines.zipIdx (before.count '\n' + number)).flatMap
        fun (line, number) => r.lineMisspellings line number := by
  induction lines generalizing number with
  | nil =>
      rfl
  | cons line rest ih =>
      simp only [List.zipIdx_cons, List.flatMap_cons, List.map_append]
      rw [lineMisspellings_behind r before (Nat.ne_of_gt hnumber), ih (Nat.lt_succ_of_lt hnumber),
        Nat.add_assoc]

end Behind

namespace Scanner

section Stretches

variable {r : Rules} (hnewline : r.dictionary.isWordCharacter '\n' = false)
include hnewline

theorem Follows.push_closeToken_flagged {s : Scanner} {before : List Char}
    (h : s.Follows r before) (htoken : s.token = []) (text : List Char) :
    ((s.push r text).closeToken r).flagged =
      ((r.textMisspellings text).map (Misspelling.behind before)).reverse ++ s.flagged := by
  cases hlines : text.splitOn '\n' with
  | nil =>
      exact absurd hlines (List.splitOn_ne_nil _ _)
  | cons line lines =>
      have hfirst : s.restOfLine r line =
          (r.lineMisspellings line 1).map (Misspelling.behind before) := by
        unfold restOfLine
        rw [Rules.firstLineMisspellings_behind, htoken, h.line_eq, h.column_eq]
        rfl
      rw [Scanner.push_closeToken_flagged hnewline text s hlines, hfirst, h.line_eq, Nat.add_assoc,
        <- Rules.laterLineMisspellings_behind r before lines (Nat.lt_succ_self 1),
        <- List.map_append]
      unfold Rules.textMisspellings
      rw [hlines]
      rfl

theorem Follows.after_closeToken_flagged {s : Scanner} {before : List Char}
    (h : s.Follows r before) (htoken : s.token = []) (text : List Char) (calls : List Call) :
    (((s.push r text).after r calls).closeToken r).flagged =
      (r.stretchMisspellings before ((stretches calls).modifyHead (text ++ ·))).reverse ++
        s.flagged := by
  -- `text` is what has been handed over since the last report, and the first stretch begins with it
  induction calls generalizing s before text with
  | nil =>
      show ((s.push r text).closeToken r).flagged = _
      rw [h.push_closeToken_flagged hnewline htoken]
      simp [stretches, Rules.stretchMisspellings]
  | cons first rest ih =>
      cases first with
      | push more =>
          have hpush : (s.push r text).after r (.push more :: rest) =
              (s.push r (text ++ more)).after r rest := by
            rw [push_append]
            rfl
          rw [hpush, ih h htoken, stretches, List.modifyHead_modifyHead]
          congr 4
          funext stretch
          exact List.append_assoc _ _ _
      | finish =>
          have hclosed := (h.push hnewline text).closeToken hnewline
          have hrest := ih hclosed (closeToken_token r _) []
          rw [modifyHead_nil_append, h.push_closeToken_flagged hnewline htoken] at hrest
          rw [stretches, List.modifyHead_cons, List.append_nil, Rules.stretchMisspellings,
            List.reverse_append, List.append_assoc]
          exact hrest

theorem report_after (calls : List Call) :
    ((start.after r calls).closeToken r).report = r.stretchMisspellings [] (stretches calls) := by
  have hflagged := (start_follows r).after_closeToken_flagged hnewline rfl [] calls
  rw [modifyHead_nil_append] at hflagged
  unfold report
  rw [show start.after r calls = (start.push r []).after r calls from rfl, hflagged]
  simp [start]

theorem standsIn_of_mem_report_after {calls : List Call} {m : Misspelling}
    (h : m ∈ ((start.after r calls).closeToken r).report) : m.StandsIn (pushed calls) :=
  ((after_follows hnewline calls).closeToken hnewline).standsIn m (List.mem_reverse.mp h)

end Stretches

/-- A scanner that is handed text and asked to report in any order.  It knows its place in all the
text and its token in the text since the last report; pieces are not seen; a report lists what is
wrong in each text between two reports, where it stands in all the text; a report is kept in all
that follow; and asking again at once changes nothing. -/
theorem results_calls {r : Rules} (hbuilt : r.dictionary.Built) :
    (forall calls, (start.after r calls).IsAt r calls) ∧
    (forall (before : List Call) (pieces : List (List Char)) (rest : List Call),
      start.results r (before ++ .push pieces.flatten :: rest) =
        start.results r (before ++ pieces.map .push ++ rest)) ∧
    (forall calls, exists found,
      start.results r (calls ++ [.finish]) = start.results r calls ++ [found] ∧
      found = r.stretchMisspellings [] (stretches calls) ∧
      (forall m, m ∈ found -> m.StandsIn (pushed calls)) ∧
      start.results r (calls ++ [.finish, .finish]) = start.results r calls ++ [found, found]) ∧
    (forall calls, (start.results r calls).Pairwise (· <+: ·)) := by
  have hnewline := hbuilt.isWordCharacter_newline
  refine ⟨fun calls => after_isAt hnewline calls, results_flatten r start, ?_,
    pairwise_results r start⟩
  intro calls
  refine ⟨((start.after r calls).closeToken r).report, ?_, report_after hnewline calls,
    fun m hm => standsIn_of_mem_report_after hnewline hm, ?_⟩
  · exact results_append r start calls [.finish]
  · rw [results_append]
    simp only [results, closeToken_closeToken]

theorem results_calls_interrupted :
    (Dictionary.ofEntries ["left".toList]).Built ∧
      start.results ⟨Dictionary.ofEntries ["left".toList], 3⟩
          [.push "ba".toList, .push "dw".toList, .finish, .push "rds\nleftWr".toList, .finish,
            .push "onger".toList, .finish, .finish] =
        [[⟨"badw".toList, 1, 1⟩], [⟨"badw".toList, 1, 1⟩, ⟨"rds".toList, 1, 5⟩],
          [⟨"badw".toList, 1, 1⟩, ⟨"rds".toList, 1, 5⟩, ⟨"onger".toList, 2, 7⟩],
          [⟨"badw".toList, 1, 1⟩, ⟨"rds".toList, 1, 5⟩, ⟨"onger".toList, 2, 7⟩]] := by
  have hbuilt := Dictionary.Built.ofEntries ["left".toList]
  refine ⟨hbuilt, ?_⟩
  have hcalls := @results_calls ⟨Dictionary.ofEntries ["left".toList], 3⟩ hbuilt
  rcases hcalls.2.2.1 [.push "ba".toList, .push "dw".toList, .finish, .push "rds\nleftWr".toList,
    .finish, .push "onger".toList] with ⟨found, _, hfound, _, htwice⟩
  rw [hfound] at htwice
  refine htwice.trans ?_
  decide +kernel

end Scanner

end CamelSpell
