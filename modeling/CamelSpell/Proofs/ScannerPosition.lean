import CamelSpell.Proofs.SubWord
import CamelSpell.Proofs.TextMisspellings
import Mathlib.Data.List.Induction

/-!
# Positions of a scanner

While a scanner reads a text it knows where it is.  What it flags are words that stand in the text
at the place that is given for them, one after another and without an overlap.
-/

namespace CamelSpell

/-!
# The last line of a text

A text cut in two has the lines that end in its first part, then those of the second part, the
first of which began in the last line of the first part.
-/

def lastLine (text : List Char) : List Char :=
  (text.reverse.takeWhile (· != '\n')).reverse

theorem lastLine_newline (text : List Char) : lastLine (text ++ ['\n']) = [] := by
  simp [lastLine]

theorem lastLine_append {text more : List Char} (h : '\n' ∉ more) :
    lastLine (text ++ more) = lastLine text ++ more := by
  have hmore : forall c, c ∈ more.reverse -> (c != '\n') = true := by
    intro c hc
    rw [bne_iff_ne]
    intro hnewline
    rw [hnewline, List.mem_reverse] at hc
    exact h hc
  unfold lastLine
  rw [List.reverse_append, List.takeWhile_append_of_pos hmore, List.reverse_append,
    List.reverse_reverse]

theorem modifyHead_nil_append (lines : List (List Char)) : lines.modifyHead ([] ++ ·) = lines :=
  congrFun List.modifyHead_id lines

theorem splitOn_append (first second : List Char) :
    exists ended : List (List Char), ended.length = first.count '\n' ∧
      (first ++ second).splitOn '\n' =
        ended ++ (second.splitOn '\n').modifyHead (lastLine first ++ ·) := by
  induction first using List.reverseRecOn generalizing second with
  | nil =>
      exact ⟨[], rfl, (modifyHead_nil_append (second.splitOn '\n')).symm⟩
  | append_singleton first c ih =>
      rcases ih (c :: second) with ⟨ended, hlength, hlines⟩
      rw [List.append_assoc, List.singleton_append, hlines, List.splitOn_cons_eq_if_modifyHead]
      by_cases hc : c = '\n'
      · subst hc
        refine ⟨ended ++ [lastLine first], ?_, ?_⟩
        · rw [List.length_append, hlength, List.count_append]
          rfl
        · rw [if_pos (beq_self_eq_true '\n'), lastLine_newline, modifyHead_nil_append,
            List.modifyHead_cons, List.append_assoc, List.append_nil, List.singleton_append]
      · have hline : '\n' ∉ [c] := fun hmem => hc (List.mem_singleton.mp hmem).symm
        refine ⟨ended, ?_, ?_⟩
        · rw [hlength, List.count_append, List.count_eq_zero.mpr hline, Nat.add_zero]
        · rw [if_neg (by simpa using hc), lastLine_append hline, List.modifyHead_modifyHead]
          congr 2
          funext line
          simp

/-!
# Words in a text

A word stands in a text at the line and the column where the text before it ends.  The wrong
sub-words of a token stand where the token stands, one behind the other.
-/

namespace Misspelling

/-- The word stands in a text at the given line and column. -/
def StandsIn (m : Misspelling) (text : List Char) : Prop :=
  exists before after, text = before ++ m.word ++ after ∧
    m.line = before.count '\n' + 1 ∧ m.column = (lastLine before).length + 1

theorem StandsIn.append {m : Misspelling} {text : List Char} (h : m.StandsIn text)
    (more : List Char) : m.StandsIn (text ++ more) := by
  rcases h with ⟨before, after, htext, hplace⟩
  exact ⟨before, after ++ more, by rw [htext, List.append_assoc], hplace⟩

theorem StandsIn.exists_line {m : Misspelling} {text : List Char} (h : m.StandsIn text)
    (hword : '\n' ∉ m.word) :
    1 ≤ m.line ∧ exists before after,
      (text.splitOn '\n')[m.line - 1]? = some (before ++ m.word ++ after) ∧
        m.column = before.length + 1 := by
  rcases h with ⟨before, after, htext, hline, hcolumn⟩
  rcases splitOn_append before (m.word ++ after) with ⟨ended, hlength, hlines⟩
  rcases splitOn_append m.word after with ⟨inside, hinside, hrest⟩
  rw [List.count_eq_zero.mpr hword, List.length_eq_zero_iff] at hinside
  have hself : lastLine m.word = m.word := @lastLine_append [] m.word hword
  cases hafter : after.splitOn '\n' with
  | nil =>
      exact absurd hafter (List.splitOn_ne_nil _ _)
  | cons last others =>
      refine ⟨by omega, lastLine before, last, ?_, hcolumn⟩
      rw [htext, List.append_assoc, hlines, hrest, hinside, hself, hafter, hline,
        Nat.add_sub_cancel, <- hlength]
      simp

def EndsBefore (m : Misspelling) (line column : Nat) : Prop :=
  m.line < line ∨ m.line = line ∧ m.column + m.word.length ≤ column

theorem EndsBefore.mono {m : Misspelling} {line column column' : Nat}
    (h : m.EndsBefore line column) (hcolumn : column ≤ column') : m.EndsBefore line column' := by
  rcases h with hline | ⟨hline, hend⟩
  · exact Or.inl hline
  · exact Or.inr ⟨hline, Nat.le_trans hend hcolumn⟩

theorem EndsBefore.next_line {m : Misspelling} {line column : Nat} (h : m.EndsBefore line column)
    (column' : Nat) : m.EndsBefore (line + 1) column' := by
  rcases h with hline | ⟨hline, _⟩
  · exact Or.inl (Nat.lt_succ_of_lt hline)
  · exact Or.inl (Nat.lt_succ_of_le (Nat.le_of_eq hline))

end Misspelling

namespace Rules

theorem mem_misspellings {r : Rules} {m : Misspelling} {token : List Char} {line column : Nat} :
    m ∈ r.misspellings token line column <->
      exists part, part ∈ splitToken token ∧ r.isIncorrect part.text = true ∧
        m = ⟨part.text, line, column + part.offset⟩ := by
  unfold misspellings mistakes
  simp only [List.mem_map, List.mem_filter]
  constructor
  · rintro ⟨part, ⟨hpart, hincorrect⟩, hm⟩
    exact ⟨part, hpart, hincorrect, hm.symm⟩
  · rintro ⟨part, hpart, hincorrect, hm⟩
    exact ⟨part, ⟨hpart, hincorrect⟩, hm.symm⟩

theorem subset_of_mem_misspellings {r : Rules} {m : Misspelling} {token : List Char}
    {line column : Nat} (h : m ∈ r.misspellings token line column) : m.word ⊆ token := by
  rcases mem_misspellings.mp h with ⟨part, hpart, _, hm⟩
  rcases exists_append_of_mem_splitToken hpart with ⟨before, after, htoken, _⟩
  rw [hm, htoken]
  intro c hc
  exact List.mem_append_left after (List.mem_append_right before hc)

theorem word_ne_nil_of_mem_misspellings {r : Rules} {m : Misspelling} {token : List Char}
    {line column : Nat} (h : m ∈ r.misspellings token line column) : m.word ≠ [] := by
  rcases mem_misspellings.mp h with ⟨part, hpart, _, hm⟩
  rw [hm]
  exact text_ne_nil_of_mem_splitToken hpart

theorem standsIn_of_mem_misspellings {r : Rules} {m : Misspelling} {before token : List Char}
    (htoken : '\n' ∉ token)
    (h : m ∈ r.misspellings token (before.count '\n' + 1) ((lastLine before).length + 1)) :
    m.StandsIn (before ++ token) := by
  rcases mem_misspellings.mp h with ⟨part, hpart, _, hm⟩
  rcases exists_append_of_mem_splitToken hpart with ⟨first, last, hsplit, hoffset⟩
  have hfirst : '\n' ∉ first := by
    intro hnewline
    apply htoken
    rw [hsplit]
    exact List.mem_append_left last (List.mem_append_left part.text hnewline)
  refine ⟨before ++ first, last, ?_, ?_, ?_⟩
  · rw [hm, hsplit]
    simp only [List.append_assoc]
  · rw [hm, List.count_append, List.count_eq_zero.mpr hfirst, Nat.add_zero]
  · rw [hm, lastLine_append hfirst, List.length_append, hoffset]
    show _ + 1 + _ = _
    omega

theorem pairwise_misspellings (r : Rules) (token : List Char) (line column : Nat) :
    (r.misspellings token line column).Pairwise fun m next =>
      m.EndsBefore next.line next.column := by
  unfold misspellings mistakes
  rw [List.pairwise_map]
  apply List.Pairwise.filter
  apply List.Pairwise.imp ?_ (pairwise_splitToken token)
  intro part next hparts
  refine Or.inr ⟨rfl, ?_⟩
  show column + part.offset + part.text.length ≤ column + next.offset
  omega

theorem endsBefore_of_mem_misspellings {r : Rules} {m : Misspelling} {token : List Char}
    {line column : Nat} (h : m ∈ r.misspellings token line column) :
    m.EndsBefore line (column + token.length) := by
  rcases mem_misspellings.mp h with ⟨part, hpart, _, hm⟩
  rcases exists_append_of_mem_splitToken hpart with ⟨first, last, hsplit, hoffset⟩
  have hlength : token.length = first.length + part.text.length + last.length := by
    rw [hsplit]
    simp only [List.length_append]
  rw [hm]
  refine Or.inr ⟨rfl, ?_⟩
  show column + part.offset + part.text.length ≤ _
  omega

end Rules

namespace Scanner

/-!
# Words of word characters

The open token and the flagged words consist of word characters.
-/

theorem closeToken_of_nil (r : Rules) {s : Scanner} (h : s.token = []) : s.closeToken r = s := by
  unfold closeToken
  rw [h]

theorem closeToken_eq (r : Rules) (s : Scanner) :
    s.closeToken r =
      { s with
        token := []
        flagged :=
          (r.misspellings s.token.reverse s.line s.tokenColumn).reverse ++ s.flagged } := by
  rcases s with ⟨token, tokenColumn, line, column, flagged⟩
  cases token with
  | nil =>
      rfl
  | cons c rest =>
      rfl

theorem step_token (r : Rules) (s : Scanner) (c : Char) :
    (s.step r c).token = if r.dictionary.isWordCharacter c then c :: s.token else [] := by
  unfold step
  cases r.dictionary.isWordCharacter c <;> simp [closeToken_token, apply_ite Scanner.token]

theorem step_flagged (r : Rules) (s : Scanner) (c : Char) :
    (s.step r c).flagged =
      if r.dictionary.isWordCharacter c then s.flagged else (s.closeToken r).flagged := by
  unfold step
  cases r.dictionary.isWordCharacter c <;> simp [closeToken_eq, apply_ite Scanner.flagged]

structure Lettered (r : Rules) (s : Scanner) : Prop where
  token : forall c, c ∈ s.token -> r.dictionary.isWordCharacter c = true
  flagged : forall m, m ∈ s.flagged -> m.word ≠ [] ∧
    forall c, c ∈ m.word -> r.dictionary.isWordCharacter c = true

section Lettered

variable {r : Rules} {s : Scanner}

theorem start_lettered (r : Rules) : start.Lettered r := by
  constructor
  · intro c hc
    cases hc
  · intro m hm
    cases hm

theorem Lettered.closeToken (h : s.Lettered r) : (s.closeToken r).Lettered r := by
  rw [closeToken_eq]
  constructor
  · intro c hc
    cases hc
  · intro m hm
    rcases List.mem_append.mp hm with hnew | hold
    · rw [List.mem_reverse] at hnew
      refine ⟨Rules.word_ne_nil_of_mem_misspellings hnew, ?_⟩
      intro c hc
      exact h.token c (List.mem_reverse.mp (Rules.subset_of_mem_misspellings hnew hc))
    · exact h.flagged m hold

theorem Lettered.step (h : s.Lettered r) (c : Char) : (s.step r c).Lettered r := by
  constructor
  · rw [step_token]
    cases hword : r.dictionary.isWordCharacter c with
    | true =>
        intro a ha
        rcases List.mem_cons.mp ha with hac | hold
        · rw [hac]
          exact hword
        · exact h.token a hold
    | false =>
        intro a ha
        cases ha
  · rw [step_flagged]
    cases r.dictionary.isWordCharacter c with
    | true =>
        exact h.flagged
    | false =>
        exact h.closeToken.flagged

theorem Lettered.push (h : s.Lettered r) (text : List Char) : (s.push r text).Lettered r :=
  List.foldlRecOn text (Scanner.step r) h (fun _ hs c _ => hs.step c)

end Lettered

/-!
# Places

The invariant: the scanner knows where it is in what it has read, what it has flagged stands there
in order, and the open token is still to come behind all of that.  A character joins the open
token, or is passed over once the token has been closed.
-/

structure Follows (r : Rules) (read : List Char) (s : Scanner) : Prop where
  lettered : s.Lettered r
  line_eq : s.line = read.count '\n' + 1
  column_eq : s.column = (lastLine read).length
  token_suffix : exists before, read = before ++ s.token.reverse
  tokenColumn_eq : s.token ≠ [] -> s.tokenColumn + s.token.length = s.column + 1
  standsIn : forall m, m ∈ s.flagged -> m.StandsIn read
  ends : forall m, m ∈ s.flagged -> m.EndsBefore s.line (s.column + 1 - s.token.length)
  ordered : s.flagged.Pairwise fun next m => m.EndsBefore next.line next.column

section Follows

variable {r : Rules} {read : List Char} {s : Scanner} {c : Char}

theorem start_follows (r : Rules) : start.Follows r [] where
  lettered := start_lettered r
  line_eq := rfl
  column_eq := rfl
  token_suffix := ⟨[], rfl⟩
  tokenColumn_eq := fun h => absurd rfl h
  standsIn := fun _ hm => by cases hm
  ends := fun _ hm => by cases hm
  ordered := List.Pairwise.nil

theorem Follows.token_place (h : s.Follows r read)
    (hnewline : r.dictionary.isWordCharacter '\n' = false) (htoken : s.token ≠ []) :
    exists before, read = before ++ s.token.reverse ∧ '\n' ∉ s.token.reverse ∧
      s.line = before.count '\n' + 1 ∧ s.tokenColumn = (lastLine before).length + 1 := by
  rcases h.token_suffix with ⟨before, hread⟩
  have hline : '\n' ∉ s.token.reverse := by
    intro hmem
    rw [h.lettered.token '\n' (List.mem_reverse.mp hmem)] at hnewline
    cases hnewline
  refine ⟨before, hread, hline, ?_, ?_⟩
  · rw [h.line_eq, hread, List.count_append, List.count_eq_zero.mpr hline, Nat.add_zero]
  · have hcolumn := h.column_eq
    rw [hread, lastLine_append hline, List.length_append, List.length_reverse] at hcolumn
    have htokenColumn := h.tokenColumn_eq htoken
    omega

theorem Follows.closeToken (h : s.Follows r read)
    (hnewline : r.dictionary.isWordCharacter '\n' = false) : (s.closeToken r).Follows r read := by
  have hlettered := h.lettered.closeToken
  by_cases htoken : s.token = []
  · rw [closeToken_of_nil r htoken]
    exact h
  · rcases h.token_place hnewline htoken with ⟨before, hread, hline, hcount, hplace⟩
    have hcolumn := h.tokenColumn_eq htoken
    rw [closeToken_eq] at hlettered ⊢
    refine ⟨hlettered, h.line_eq, h.column_eq, ⟨read, (List.append_nil read).symm⟩,
      fun habsurd => absurd rfl habsurd, ?_, ?_, ?_⟩
    · intro m hm
      rcases List.mem_append.mp hm with hnew | hold
      · rw [List.mem_reverse, hcount, hplace] at hnew
        rw [hread]
        exact Rules.standsIn_of_mem_misspellings hline hnew
      · exact h.standsIn m hold
    · intro m hm
      rcases List.mem_append.mp hm with hnew | hold
      · refine (Rules.endsBefore_of_mem_misspellings (List.mem_reverse.mp hnew)).mono ?_
        rw [List.length_reverse, hcolumn]
        exact Nat.le_refl _
      · exact (h.ends m hold).mono (Nat.sub_le_sub_left (Nat.zero_le _) _)
    · refine List.pairwise_append.mpr ⟨?_, h.ordered, ?_⟩
      · rw [List.pairwise_reverse]
        exact Rules.pairwise_misspellings r _ _ _
      · intro next hnext m hm
        rcases Rules.mem_misspellings.mp (List.mem_reverse.mp hnext) with ⟨part, _, _, hpart⟩
        rw [hpart]
        refine (h.ends m hm).mono ?_
        show _ ≤ s.tokenColumn + part.offset
        omega

theorem Follows.pass (h : s.Follows r read) (htoken : s.token = []) (hc : c ≠ '\n') :
    Follows r (read ++ [c]) { s with column := s.column + 1 } := by
  have hline : '\n' ∉ [c] := fun hmem => hc (List.mem_singleton.mp hmem).symm
  refine ⟨⟨h.lettered.token, h.lettered.flagged⟩, ?_, ?_, ?_, ?_, ?_, ?_, h.ordered⟩
  · show s.line = _
    rw [h.line_eq, List.count_append, List.count_eq_zero.mpr hline, Nat.add_zero]
  · show s.column + 1 = _
    rw [h.column_eq, lastLine_append hline, List.length_append, List.length_singleton]
  · exact ⟨read ++ [c], by rw [htoken, List.reverse_nil, List.append_nil]⟩
  · exact fun hopen => absurd htoken hopen
  · exact fun m hm => (h.standsIn m hm).append [c]
  · intro m hm
    refine (h.ends m hm).mono ?_
    show s.column + 1 - s.token.length ≤ s.column + 1 + 1 - s.token.length
    omega

theorem Follows.pass_newline (h : s.Follows r read) (htoken : s.token = []) :
    Follows r (read ++ ['\n']) { s with line := s.line + 1, column := 0 } := by
  refine ⟨⟨h.lettered.token, h.lettered.flagged⟩, ?_, ?_, ?_, ?_, ?_, ?_, h.ordered⟩
  · show s.line + 1 = _
    rw [h.line_eq, List.count_append, List.count_singleton_self]
  · show 0 = _
    rw [lastLine_newline, List.length_nil]
  · exact ⟨read ++ ['\n'], by rw [htoken, List.reverse_nil, List.append_nil]⟩
  · exact fun hopen => absurd htoken hopen
  · exact fun m hm => (h.standsIn m hm).append ['\n']
  · exact fun m hm => (h.ends m hm).next_line _

theorem Follows.join (h : s.Follows r read) (hc : c ≠ '\n')
    (hword : r.dictionary.isWordCharacter c = true) : (s.step r c).Follows r (read ++ [c]) := by
  have hline : '\n' ∉ [c] := fun hmem => hc (List.mem_singleton.mp hmem).symm
  have hlettered := h.lettered.step c
  rw [step_word s hc hword] at hlettered ⊢
  refine ⟨hlettered, ?_, ?_, ?_, ?_, ?_, ?_, h.ordered⟩
  · show s.line = _
    rw [h.line_eq, List.count_append, List.count_eq_zero.mpr hline, Nat.add_zero]
  · show s.column + 1 = _
    rw [h.column_eq, lastLine_append hline, List.length_append, List.length_singleton]
  · rcases h.token_suffix with ⟨before, hread⟩
    refine ⟨before, ?_⟩
    rw [List.reverse_cons, <- List.append_assoc, <- hread]
  · intro _
    show (if s.token = [] then s.column + 1 else s.tokenColumn) + (s.token.length + 1) = _
    by_cases htoken : s.token = []
    · rw [if_pos htoken, htoken]
      rfl
    · rw [if_neg htoken, <- Nat.add_assoc, h.tokenColumn_eq htoken]
  · exact fun m hm => (h.standsIn m hm).append [c]
  · intro m hm
    refine (h.ends m hm).mono ?_
    show _ ≤ s.column + 1 + 1 - (s.token.length + 1)
    omega

theorem Follows.step (h : s.Follows r read)
    (hnewline : r.dictionary.isWordCharacter '\n' = false) (c : Char) :
    (s.step r c).Follows r (read ++ [c]) := by
  have hclosed := h.closeToken hnewline
  have htoken := closeToken_token r s
  by_cases hc : c = '\n'
  · subst hc
    rw [step_newline s hnewline]
    rw [closeToken_eq] at hclosed htoken ⊢
    exact hclosed.pass_newline htoken
  · cases hword : r.dictionary.isWordCharacter c with
    | true =>
        exact h.join hc hword
    | false =>
        rw [step_delimiter s hc hword]
        rw [closeToken_eq] at hclosed htoken ⊢
        exact hclosed.pass htoken hc

theorem Follows.push (h : s.Follows r read)
    (hnewline : r.dictionary.isWordCharacter '\n' = false) (text : List Char) :
    (s.push r text).Follows r (read ++ text) := by
  induction text generalizing s read with
  | nil =>
      rw [List.append_nil]
      exact h
  | cons c rest ih =>
      have hrest := ih (h.step hnewline c)
      rw [List.append_assoc, List.singleton_append] at hrest
      exact hrest

end Follows

theorem follows_checkText {r : Rules} (hnewline : r.dictionary.isWordCharacter '\n' = false)
    (text : List Char) : ((start.push r text).closeToken r).Follows r text :=
  ((start_follows r).push hnewline text).closeToken hnewline

end Scanner

theorem lettered_of_mem_checkText {r : Rules} {text : List Char} {m : Misspelling}
    (h : m ∈ checkText r text) :
    m.word ≠ [] ∧ forall c, c ∈ m.word -> r.dictionary.isWordCharacter c = true :=
  ((Scanner.start_lettered r).push text).closeToken.flagged m (List.mem_reverse.mp h)

section CheckText

variable {r : Rules} (hnewline : r.dictionary.isWordCharacter '\n' = false)
include hnewline

theorem exists_line_of_mem_checkText {text : List Char} {m : Misspelling}
    (h : m ∈ checkText r text) :
    1 ≤ m.line ∧ exists before after,
      (text.splitOn '\n')[m.line - 1]? = some (before ++ m.word ++ after) ∧
        m.column = before.length + 1 := by
  have hstands := (Scanner.follows_checkText hnewline text).standsIn m (List.mem_reverse.mp h)
  apply hstands.exists_line
  intro hmem
  rw [(lettered_of_mem_checkText h).2 '\n' hmem] at hnewline
  cases hnewline

theorem pairwise_checkText (text : List Char) :
    (checkText r text).Pairwise fun m next => m.EndsBefore next.line next.column :=
  List.pairwise_reverse.mpr (Scanner.follows_checkText hnewline text).ordered

end CheckText

end CamelSpell
