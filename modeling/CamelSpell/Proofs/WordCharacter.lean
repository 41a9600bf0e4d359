import CamelSpell.Dictionary
import Mathlib

/-!
# Word characters

A dictionary decides which characters may be part of a token.  Whatever its entries are, white space
stays a delimiter: no white space is a letter, and none is the capital of another character.  In
particular a token never reaches over the end of a line.
-/

namespace CamelSpell

open Unicode

namespace Unicode

/-!
# Reading the tables

A table answers for every code point, so a property of all characters comes down to a finite check
of its rows.
-/

theorem exists_range_of_covers {table : RangeTable} {n : Nat}
    (h : table.covers n = true) :
    exists range, range ∈ table ∧ range.1 ≤ n ∧ n ≤ range.2 := by
  induction table with
  | nil =>
      cases h
  | cons range rest ih =>
      rcases range with ⟨first, last⟩
      unfold RangeTable.covers at h
      by_cases hfirst : n < first
      · rw [if_pos hfirst] at h
        cases h
      · rw [if_neg hfirst] at h
        by_cases hlast : n ≤ last
        · exact ⟨(first, last), List.mem_cons_self, Nat.le_of_not_lt hfirst, hlast⟩
        · rw [if_neg hlast] at h
          rcases ih h with ⟨found, hmem, hbounds⟩
          exact ⟨found, List.mem_cons_of_mem _ hmem, hbounds⟩

theorem mem_of_lookup_eq_some {rows : List (Nat × List Nat)} {n : Nat} {points : List Nat}
    (h : rows.lookup n = some points) : (n, points) ∈ rows := by
  rcases List.lookup_eq_some_iff.mp h with ⟨before, after, hrows, _⟩
  rw [hrows]
  exact List.mem_append_right before List.mem_cons_self

theorem move_eq_self_or (runs : List CaseRun) (n : Nat) :
    CaseRun.move runs n = n ∨
      exists run, run ∈ runs ∧ run.first ≤ n ∧ n ≤ run.last ∧ (n - run.first) % run.step = 0 ∧
        CaseRun.move runs n = ((n : Int) + run.shift).toNat := by
  induction runs with
  | nil =>
      exact Or.inl rfl
  | cons run rest ih =>
      unfold CaseRun.move
      by_cases hfirst : n < run.first
      · rw [if_pos hfirst]
        exact Or.inl rfl
      · rw [if_neg hfirst]
        by_cases hlast : n ≤ run.last ∧ (n - run.first) % run.step = 0
        · rw [if_pos hlast]
          exact Or.inr ⟨run, List.mem_cons_self, Nat.le_of_not_lt hfirst, hlast.left, hlast.right,
            rfl⟩
        · rw [if_neg hlast]
          rcases ih with hself | ⟨found, hmem, hbounds⟩
          · exact Or.inl hself
          · exact Or.inr ⟨found, List.mem_cons_of_mem _ hmem, hbounds⟩

/-!
# Forms of characters

Raising and lowering look a character up in the same way: it becomes several ones if a row says so,
and is moved along a run otherwise.
-/

def caseForm (expansions : List (Nat × List Nat)) (runs : List CaseRun) (c : Char) : List Char :=
  match expansions.lookup c.toNat with
  | some points => points.map Char.ofNat
  | none => [Char.ofNat (CaseRun.move runs c.toNat)]

section CaseForm

variable {expansions : List (Nat × List Nat)} {runs : List CaseRun}
  (hlength : forall row, row ∈ expansions -> 2 ≤ row.2.length)
include hlength

theorem caseForm_ne_nil (c : Char) : caseForm expansions runs c ≠ [] := by
  unfold caseForm
  cases hrow : expansions.lookup c.toNat with
  | none =>
      exact List.cons_ne_nil _ _
  | some points =>
      have htwo : 2 ≤ points.length := hlength _ (mem_of_lookup_eq_some hrow)
      apply List.ne_nil_of_length_pos
      simp only [List.length_map]
      omega

theorem ofNat_move_of_caseForm {c u : Char} (h : caseForm expansions runs c = [u]) :
    Char.ofNat (CaseRun.move runs c.toNat) = u := by
  unfold caseForm at h
  cases hrow : expansions.lookup c.toNat with
  | some points =>
      rw [hrow] at h
      have hone : points.length = 1 := by
        simpa using congrArg List.length h
      have htwo : 2 ≤ points.length := hlength _ (mem_of_lookup_eq_some hrow)
      omega
  | none =>
      rw [hrow] at h
      simpa using h

end CaseForm

theorem upperExpansions_length :
    forall row, row ∈ upperExpansions -> 2 ≤ row.2.length := by
  decide +kernel

theorem lowerExpansions_length :
    forall row, row ∈ lowerExpansions -> 2 ≤ row.2.length := by
  decide

theorem upperChar_ne_nil (c : Char) : upperChar c ≠ [] :=
  caseForm_ne_nil upperExpansions_length c

theorem lowerChar_ne_nil (c : Char) : lowerChar c ≠ [] :=
  caseForm_ne_nil lowerExpansions_length c

theorem ofNat_move_of_upperChar {c u : Char} (h : upperChar c = [u]) :
    Char.ofNat (CaseRun.move upperRuns c.toNat) = u :=
  ofNat_move_of_caseForm upperExpansions_length h

theorem ofNat_move_of_lowerChar {c l : Char} (h : lowerChar c = [l]) :
    Char.ofNat (CaseRun.move lowerRuns c.toNat) = l :=
  ofNat_move_of_caseForm lowerExpansions_length h

/-!
# White space in the tables

No white space is a letter, and white space is the capital of nothing but itself.
-/

theorem alphabeticRanges_blank :
    forall range, range ∈ blankRanges ->
      forall n, n ∈ List.range' range.1 (range.2 + 1 - range.1) ->
        RangeTable.covers alphabeticRanges n = false := by
  decide +kernel

theorem isAlphabetic_of_isBlank {c : Char} (h : isBlank c = true) :
    isAlphabetic c = false := by
  rcases exists_range_of_covers h with ⟨range, hrange, hfirst, hlast⟩
  apply alphabeticRanges_blank range hrange
  rw [List.mem_range'_1]
  omega

theorem upperRuns_blank :
    forall run, run ∈ upperRuns ->
      forall range, range ∈ blankRanges ->
        0 ≤ (run.first : Int) + run.shift ∧
          ((run.last : Int) + run.shift < range.1 ∨ range.2 < (run.first : Int) + run.shift) := by
  decide +kernel

theorem memTable_ofNat {table : RangeTable} {n : Nat} (h : n.isValidChar) :
    memTable table (Char.ofNat n) = table.covers n := by
  unfold memTable
  rw [Char.toNat_ofNat, if_pos h]

theorem isBlank_ofNat {n : Nat} (h : isBlank (Char.ofNat n) = true) :
    RangeTable.covers blankRanges n = true := by
  by_cases hvalid : n.isValidChar
  · rw [<- memTable_ofNat hvalid]
    exact h
  · exfalso
    have hn : Char.ofNat n = '\x00' := by
      simp [Char.ofNat, hvalid]
      rfl
    rw [hn] at h
    revert h
    decide

theorem eq_of_capital_isBlank {c u : Char}
    (h : upperChar c = [u]) (hu : isBlank u = true) : u = c := by
  have hmove := ofNat_move_of_upperChar h
  rcases move_eq_self_or upperRuns c.toNat with
    hself | ⟨run, hrun, hfirst, hlast, _, hshift⟩
  · rw [<- hmove, hself, Char.ofNat_toNat]
  · exfalso
    rw [<- hmove] at hu
    rcases exists_range_of_covers (isBlank_ofNat hu) with ⟨range, hrange, hlow, hhigh⟩
    have hapart := upperRuns_blank run hrun range hrange
    rw [hshift] at hlow hhigh
    omega

end Unicode

namespace Dictionary

/-!
# Dictionaries that can be built

A dictionary comes from a list of entries and may be extended any number of times.
-/

/-- The dictionaries that come from lists of entries. -/
inductive Built : Dictionary -> Prop where
  | ofEntries (entries : List (List Char)) : Built (ofEntries entries)
  | extend {d : Dictionary} (h : Built d) (entries : List (List Char)) :
      Built (d.extend entries)

def WithoutBlanks (d : Dictionary) : Prop :=
  forall c, c ∈ d.characters -> isBlank c = false

theorem upperChar_of_capital {c u : Char} (h : capital? c = some u) : upperChar c = [u] := by
  unfold capital? at h
  split at h
  · rename_i v hv
    cases h
    exact hv
  · cases h

theorem insertCharacter_withoutBlanks {characters : List Char} {c : Char}
    (h : forall a, a ∈ characters -> isBlank a = false) :
    forall a, a ∈ insertCharacter characters c -> isBlank a = false := by
  intro a ha
  unfold insertCharacter at ha
  by_cases hc : isBlank c = true
  · rw [if_pos hc] at ha
    exact h a ha
  · rw [if_neg hc] at ha
    have hcfalse : isBlank c = false := Bool.not_eq_true _ ▸ hc
    have hinsert : forall b, b ∈ characters.insert c -> isBlank b = false := by
      intro b hb
      rcases List.mem_insert_iff.mp hb with hbc | hold
      · rw [hbc]
        exact hcfalse
      · exact h b hold
    cases hcapital : capital? c with
    | none =>
        rw [hcapital] at ha
        exact hinsert a ha
    | some u =>
        rw [hcapital] at ha
        rcases List.mem_insert_iff.mp ha with hau | hold
        · rw [hau]
          by_cases hu : isBlank u = true
          · rw [eq_of_capital_isBlank (upperChar_of_capital hcapital) hu]
            exact hcfalse
          · exact Bool.not_eq_true _ ▸ hu
        · exact hinsert a hold

theorem insert_withoutBlanks {d : Dictionary} (h : d.WithoutBlanks) (entry : List Char) :
    (d.insert entry).WithoutBlanks := by
  unfold insert
  by_cases hentry : entry = []
  · rw [if_pos hentry]
    exact h
  · rw [if_neg hentry]
    show forall c, c ∈ entry.foldl insertCharacter d.characters -> isBlank c = false
    exact List.foldlRecOn
      (motive := fun characters => forall c, c ∈ characters -> isBlank c = false) entry
      insertCharacter h (fun _ hcharacters _ _ => insertCharacter_withoutBlanks hcharacters)

theorem extend_withoutBlanks {d : Dictionary} (h : d.WithoutBlanks)
    (entries : List (List Char)) : (d.extend entries).WithoutBlanks :=
  List.foldlRecOn entries insert h (fun _ hd entry _ => insert_withoutBlanks hd entry)

theorem Built.withoutBlanks {d : Dictionary} (h : d.Built) : d.WithoutBlanks := by
  induction h with
  | ofEntries entries =>
      exact extend_withoutBlanks (d := empty) (fun c hc => by cases hc) entries
  | extend _ entries ih =>
      exact extend_withoutBlanks ih entries

theorem Built.isWordCharacter_blank {d : Dictionary} (h : d.Built) {c : Char}
    (hc : isBlank c = true) : d.isWordCharacter c = false := by
  unfold isWordCharacter
  rw [isAlphabetic_of_isBlank hc, Bool.or_false]
  rw [<- Bool.not_eq_true, List.contains_iff_mem]
  intro hmem
  rw [h.withoutBlanks c hmem] at hc
  cases hc

theorem Built.isWordCharacter_newline {d : Dictionary} (h : d.Built) :
    d.isWordCharacter '\n' = false :=
  h.isWordCharacter_blank isBlank_newline

end Dictionary
end CamelSpell
