import CamelSpell.WordList
import Mathlib.Data.List.Forall2

/-!
# Written word lists

A word list may be written in many ways: its lines end with a line feed or with a carriage return
and a line feed, the end of the last line may be missing, and blank lines may stand anywhere.
However it is written, its entries are read back in their order; and whatever is read, nothing but
line feeds, blank lines and one carriage return at the end of each line is missing from it.
-/

namespace CamelSpell
namespace WordList

/-!
# Writing

A line is written as its entry, or as nothing if it is blank, with or without a carriage return
behind it.
-/

/-- A line as it is written: an entry, or nothing on a blank line, and whether a carriage return
stands behind it. -/
structure Line where
  entry : List Char
  hasReturn : Bool
deriving DecidableEq, Repr

namespace Line

def text (l : Line) : List Char :=
  l.entry ++ if l.hasReturn then ['\r'] else []

/-- Whether the line can be told from others: its entry does not run over several lines and has no
carriage return of its own at the end. -/
structure IsPlain (l : Line) : Prop where
  no_feed : '\n' ∉ l.entry
  no_return : l.entry.getLast? ≠ some '\r'

instance (l : Line) : Decidable l.IsPlain :=
  decidable_of_iff ('\n' ∉ l.entry ∧ l.entry.getLast? ≠ some '\r')
    ⟨fun h => ⟨h.1, h.2⟩, fun h => ⟨h.no_feed, h.no_return⟩⟩

end Line

def write (lines : List Line) : List Char :=
  lines.flatMap fun l => l.text ++ ['\n']

def entries (lines : List Line) : List (List Char) :=
  (lines.map Line.entry).filter fun entry => !entry.isEmpty

def IsStripped (line entry : List Char) : Prop :=
  line = entry ++ ['\r'] ∨ line = entry ∧ entry.getLast? ≠ some '\r'

/-!
# Lines

A text that was written is cut into the lines that were written, and no line feed gets onto one of
them.
-/

theorem linesOnto_eq (closed : List (List Char)) (line text : List Char) :
    linesOnto closed line text =
      closed.reverse ++ text.splitOnPPrepend (fun c => c == '\n') line := by
  induction text generalizing closed line with
  | nil =>
      simp [linesOnto]
  | cons c rest ih =>
      unfold linesOnto
      by_cases hc : c = '\n'
      · rw [if_pos hc, ih, List.splitOnPPrepend_cons_pos (by simp [hc])]
        simp
      · rw [if_neg hc, ih, List.splitOnPPrepend_cons_neg (by simp [hc])]

theorem lines_eq_splitOn (text : List Char) : lines text = text.splitOn '\n' := by
  unfold lines
  rw [linesOnto_eq, List.splitOn_eq_splitOnP]
  simp

theorem no_feed_of_mem_linesOnto {closed : List (List Char)} {line text : List Char}
    (hclosed : forall l, l ∈ closed -> '\n' ∉ l) (hline : '\n' ∉ line) :
    forall l, l ∈ linesOnto closed line text -> '\n' ∉ l := by
  have hnext : forall l, l ∈ line.reverse :: closed -> '\n' ∉ l := by
    intro l hl
    rcases List.mem_cons.mp hl with heq | hmem
    · rw [heq, List.mem_reverse]
      exact hline
    · exact hclosed l hmem
  induction text generalizing closed line with
  | nil =>
      intro l hl
      exact hnext l (List.mem_reverse.mp hl)
  | cons c rest ih =>
      intro l hl
      rw [linesOnto] at hl
      by_cases hc : c = '\n'
      · rw [if_pos hc] at hl
        exact ih hnext List.not_mem_nil (by simpa using hnext) l hl
      · rw [if_neg hc] at hl
        have hopen : '\n' ∉ c :: line := by
          simp [hline, Ne.symm hc]
        exact ih hclosed hopen (by simpa [Ne.symm hc] using hnext) l hl

theorem Line.IsPlain.feed_not_mem_text {l : Line} (h : l.IsPlain) : '\n' ∉ l.text := by
  unfold Line.text
  cases l.hasReturn <;> simp [h.no_feed]

theorem lines_write (before : List Line) (last : Line)
    (h : forall l, l ∈ before ++ [last] -> l.IsPlain) :
    lines (write before ++ last.text) = (before ++ [last]).map Line.text := by
  rw [lines_eq_splitOn]
  induction before with
  | nil =>
      exact List.splitOn_eq_singleton (h last List.mem_cons_self).feed_not_mem_text
  | cons first rest ih =>
      have hrest := ih fun l hl => h l (List.mem_cons_of_mem first hl)
      have hfirst := (h first List.mem_cons_self).feed_not_mem_text
      calc
        (write (first :: rest) ++ last.text).splitOn '\n'
            = (first.text ++ '\n' :: (write rest ++ last.text)).splitOn '\n' := by
          simp [write]
        _ = first.text.splitOn '\n' ++ (write rest ++ last.text).splitOn '\n' :=
          List.splitOn_append_cons_self ..
        _ = [first.text] ++ (rest ++ [last]).map Line.text := by
          rw [List.splitOn_eq_singleton hfirst, hrest]

/-!
# Carriage returns

Of each line one carriage return at its end is left out.
-/

theorem chomp_return (entry : List Char) : chomp (entry ++ ['\r']) = entry := by
  simp [chomp]

theorem chomp_of_no_return {line : List Char} (h : line.getLast? ≠ some '\r') :
    chomp line = line := by
  unfold chomp
  split
  · rename_i before hline
    have hlast : line.getLast? = some '\r' := by
      rw [List.getLast?_eq_head?_reverse, hline]
      rfl
    exact absurd hlast h
  · rfl

theorem isStripped_chomp (line : List Char) : IsStripped line (chomp line) := by
  by_cases h : line.getLast? = some '\r'
  · rcases List.getLast?_eq_some_iff.mp h with ⟨entry, hline⟩
    rw [hline, chomp_return]
    exact Or.inl rfl
  · rw [chomp_of_no_return h]
    exact Or.inr ⟨rfl, h⟩

theorem Line.IsPlain.chomp_text {l : Line} (h : l.IsPlain) : chomp l.text = l.entry := by
  unfold Line.text
  cases l.hasReturn with
  | true => exact chomp_return l.entry
  | false => simpa using chomp_of_no_return h.no_return

theorem parse_write_append (before : List Line) (last : Line)
    (h : forall l, l ∈ before ++ [last] -> l.IsPlain) :
    parse (write before ++ last.text) = entries (before ++ [last]) := by
  have hentries : ((before ++ [last]).map Line.text).map chomp =
      (before ++ [last]).map Line.entry := by
    rw [List.map_map]
    exact List.map_congr_left fun l hl => (h l hl).chomp_text
  unfold parse entries
  rw [lines_write before last h, hentries]

theorem parse_write (lines : List Line) (h : forall l, l ∈ lines -> l.IsPlain) :
    parse (write lines) = entries lines := by
  -- A line feed at the end of a text opens one more line, on which nothing stands.
  have hblank : Line.IsPlain ⟨[], false⟩ := ⟨by simp, by simp⟩
  have hparse := parse_write_append lines ⟨[], false⟩ fun l hl => by
    rcases List.mem_append.mp hl with hmem | hlast
    · exact h l hmem
    · rw [List.mem_singleton.mp hlast]
      exact hblank
  simpa [Line.text, entries] using hparse

theorem mem_parse {text entry : List Char} (h : entry ∈ parse text) :
    entry ≠ [] ∧ '\n' ∉ entry := by
  rcases List.mem_filter.mp h with ⟨hmem, hne⟩
  rcases List.mem_map.mp hmem with ⟨line, hline, rfl⟩
  have hfree := no_feed_of_mem_linesOnto (fun _ hl => absurd hl List.not_mem_nil)
    List.not_mem_nil line hline
  refine ⟨by simpa using hne, fun hfeed => hfree ?_⟩
  rcases isStripped_chomp line with heq | ⟨heq, -⟩
  · rw [heq]
    exact List.mem_append_left ['\r'] hfeed
  · rw [heq]
    exact hfeed

/-- Reading undoes writing, whether or not the end of the last line is written; and what is read
from any text are its lines that are not blank, less one carriage return at their ends. -/
theorem parse_written :
    (forall (before : List Line) (last : Line),
      (forall l, l ∈ before ++ [last] -> l.IsPlain) ->
        parse (write (before ++ [last])) = entries (before ++ [last]) ∧
          parse (write before ++ last.text) = entries (before ++ [last])) ∧
    forall text : List Char,
      (forall entry, entry ∈ parse text -> entry ≠ [] ∧ '\n' ∉ entry) ∧
        exists stripped, List.Forall₂ IsStripped (text.splitOn '\n') stripped ∧
          parse text = stripped.filter fun entry => !entry.isEmpty := by
  refine ⟨fun before last h => ⟨parse_write _ h, parse_write_append before last h⟩,
    fun text => ⟨fun entry => mem_parse, (text.splitOn '\n').map chomp, ?_, ?_⟩⟩
  · rw [List.forall₂_map_right_iff]
    exact List.forall₂_same.mpr fun line _ => isStripped_chomp line
  · unfold parse
    rw [lines_eq_splitOn]

theorem parse_written_mixed :
    (forall l, l ∈ [⟨['a', '\r', 'b'], true⟩, ⟨[], true⟩, ⟨[], false⟩] ++ [Line.mk ['c'] false] ->
      l.IsPlain) ∧
      parse "a\rb\r\n\r\n\nc\n".toList = [['a', '\r', 'b'], ['c']] ∧
      parse "a\rb\r\n\r\n\nc".toList = [['a', '\r', 'b'], ['c']] := by
  have hplain : forall l, l ∈ [⟨['a', '\r', 'b'], true⟩, ⟨[], true⟩, ⟨[], false⟩] ++
      [Line.mk ['c'] false] -> l.IsPlain := by
    decide
  rcases parse_written.1 _ _ hplain with ⟨hclosed, hopen⟩
  exact ⟨hplain, hclosed, hopen⟩

end WordList
end CamelSpell
