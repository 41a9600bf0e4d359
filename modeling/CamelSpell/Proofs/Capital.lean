import CamelSpell.Proofs.WordCharacter

/-!
# Capitals of word characters

Letters have letters as their capitals, and what is no letter is its own capital.  A dictionary
therefore counts the capital of a word character among the word characters, whatever its entries
are.
-/

namespace CamelSpell

open Unicode

namespace Unicode

/-!
# Runs of letters

Both tables are ascending, so it is enough to look at the ends of a run, except where a run skips
code points and its images do not lie together.
-/

def RangeTable.spans (table : RangeTable) (first last : Nat) : Bool :=
  match table.find? fun range => first.ble range.2 with
  | none => false
  | some range => range.1.ble first && last.ble range.2

theorem RangeTable.covers_of_spans {table : RangeTable} {first last n : Nat}
    (hranges : forall range, range ∈ table -> range.1 ≤ range.2)
    (h : table.spans first last = true) (hfirst : first ≤ n) (hlast : n ≤ last) :
    table.covers n = true := by
  induction table with
  | nil =>
      cases h
  | cons range rest ih =>
      rcases range with ⟨low, high⟩
      have hrange : low ≤ high := hranges (low, high) List.mem_cons_self
      unfold RangeTable.spans at h
      unfold RangeTable.covers
      by_cases hhigh : first ≤ high
      · rw [List.find?_cons_of_pos (by simpa using hhigh)] at h
        simp only [Bool.and_eq_true, Nat.ble_eq] at h
        rw [if_neg (by omega), if_pos (by omega)]
      · rw [List.find?_cons_of_neg (by simpa using hhigh)] at h
        rw [if_neg (by omega), if_neg (by omega)]
        exact ih (fun r hr => hranges r (List.mem_cons_of_mem _ hr)) h

def CaseRun.images (run : CaseRun) : List Nat :=
  (List.range ((run.last - run.first) / run.step + 1)).map fun k =>
    ((run.first + k * run.step : Nat) + run.shift).toNat

theorem CaseRun.mem_images {run : CaseRun} {n : Nat} (hfirst : run.first ≤ n)
    (hlast : n ≤ run.last) (hstep : (n - run.first) % run.step = 0) :
    ((n : Int) + run.shift).toNat ∈ run.images := by
  unfold images
  rw [List.mem_map]
  refine ⟨(n - run.first) / run.step, ?_, ?_⟩
  · have hle : n - run.first ≤ run.last - run.first := by omega
    exact List.mem_range.mpr (Nat.lt_succ_of_le (Nat.div_le_div_right hle))
  · have hn : run.first + (n - run.first) / run.step * run.step = n := by
      rw [Nat.div_mul_cancel (Nat.dvd_of_mod_eq_zero hstep)]
      omega
    rw [hn]

theorem alphabeticRanges_bounds :
    forall range, range ∈ alphabeticRanges ->
      range.1 ≤ range.2 ∧ (range.2 < 0xD800 ∨ 0xDFFF < range.1 ∧ range.2 < 0x110000) := by
  decide +kernel

theorem upperRuns_alphabetic :
    forall run, run ∈ upperRuns -> alphabeticRanges.spans run.first run.last = true := by
  decide +kernel

theorem upperRuns_images_alphabetic :
    forall run, run ∈ upperRuns ->
      alphabeticRanges.spans ((run.first : Int) + run.shift).toNat
          ((run.last : Int) + run.shift).toNat = true ∨
        forall n, n ∈ run.images -> alphabeticRanges.covers n = true := by
  decide +kernel

theorem isAlphabetic_ofNat {n : Nat} (h : alphabeticRanges.covers n = true) :
    isAlphabetic (Char.ofNat n) = true := by
  rcases exists_range_of_covers h with ⟨range, hrange, hfirst, hlast⟩
  have hbounds := (alphabeticRanges_bounds range hrange).2
  have hvalid : n.isValidChar := by
    unfold Nat.isValidChar
    omega
  unfold isAlphabetic
  rw [memTable_ofNat hvalid]
  exact h

/-!
# Capitals

The capital of a letter is a letter, and what is no letter is its own capital.  So the capital of
a word character is a word character, whatever the entries are.
-/

theorem isAlphabetic_of_upperChar {c u : Char} (h : upperChar c = [u])
    (hc : isAlphabetic c = true) : isAlphabetic u = true := by
  have hranges := fun range hrange => (alphabeticRanges_bounds range hrange).1
  have hmove := ofNat_move_of_upperChar h
  rcases move_eq_self_or upperRuns c.toNat with
    hself | ⟨run, hrun, hfirst, hlast, hstep, hshift⟩
  · rw [<- hmove, hself, Char.ofNat_toNat]
    exact hc
  · rw [<- hmove, hshift]
    apply isAlphabetic_ofNat
    rcases upperRuns_images_alphabetic run hrun with hspans | himages
    · exact RangeTable.covers_of_spans hranges hspans (by omega) (by omega)
    · exact himages _ (CaseRun.mem_images hfirst hlast hstep)

theorem eq_of_upperChar_of_not_isAlphabetic {c u : Char} (h : upperChar c = [u])
    (hc : isAlphabetic c = false) : u = c := by
  have hranges := fun range hrange => (alphabeticRanges_bounds range hrange).1
  have hmove := ofNat_move_of_upperChar h
  rcases move_eq_self_or upperRuns c.toNat with
    hself | ⟨run, hrun, hfirst, hlast, _, _⟩
  · rw [<- hmove, hself, Char.ofNat_toNat]
  · exfalso
    have hcovers := RangeTable.covers_of_spans hranges (upperRuns_alphabetic run hrun) hfirst hlast
    have hletter : isAlphabetic c = true := hcovers
    rw [hc] at hletter
    cases hletter

end Unicode

namespace Dictionary

theorem isWordCharacter_capital {d : Dictionary} {c u : Char} (hcapital : capital? c = some u)
    (hc : d.isWordCharacter c = true) : d.isWordCharacter u = true := by
  have hupper := upperChar_of_capital hcapital
  cases hletter : isAlphabetic c with
  | true =>
      unfold isWordCharacter
      rw [isAlphabetic_of_upperChar hupper hletter, Bool.or_true]
  | false =>
      rw [eq_of_upperChar_of_not_isAlphabetic hupper hletter]
      exact hc

end Dictionary
end CamelSpell
