import CamelSpell.Unicode.LetterCase

/-!
# Capitals and lower-case letters

No character is both a capital and a lower-case letter.  A lower-case letter that ends an acronym
therefore cannot end the sub-word that it begins.  As both tables are ascending, it is enough to
walk along them once.
-/

namespace CamelSpell

namespace Unicode

def RangeTable.apart : RangeTable -> RangeTable -> Bool
  | [], _ => true
  | (first, last) :: rest, other =>
      match other.dropWhile fun range => range.2.blt first with
      | [] => true
      | range :: ranges => last.blt range.1 && RangeTable.apart rest (range :: ranges)

theorem RangeTable.covers_dropWhile {table : RangeTable} {first n : Nat} (hfirst : first ≤ n)
    (h : table.covers n = true) :
    RangeTable.covers (table.dropWhile fun range => range.2.blt first) n = true := by
  induction table with
  | nil =>
      cases h
  | cons range rest ih =>
      rw [List.dropWhile_cons]
      cases hdrop : range.2.blt first with
      | false =>
          exact h
      | true =>
          have hlast : range.2 < first := by simpa using hdrop
          apply ih
          unfold RangeTable.covers at h
          split at h
          · cases h
          · rwa [if_neg (by omega)] at h

theorem RangeTable.covers_of_apart {table other : RangeTable} {n : Nat}
    (happart : table.apart other = true) (h : table.covers n = true) :
    other.covers n = false := by
  induction table generalizing other with
  | nil =>
      cases h
  | cons range rest ih =>
      rcases range with ⟨first, last⟩
      unfold RangeTable.apart at happart
      unfold RangeTable.covers at h
      by_cases hfirst : n < first
      · rw [if_pos hfirst] at h
        cases h
      · rw [if_neg hfirst] at h
        rw [<- Bool.not_eq_true]
        intro hother
        have hdrop := RangeTable.covers_dropWhile (Nat.le_of_not_lt hfirst) hother
        cases hcut : other.dropWhile fun range => range.2.blt first with
        | nil =>
            rw [hcut] at hdrop
            cases hdrop
        | cons next ranges =>
            rw [hcut] at hdrop happart
            rw [Bool.and_eq_true] at happart
            by_cases hlast : n ≤ last
            · have hnext : last < next.1 := by simpa using happart.1
              unfold RangeTable.covers at hdrop
              rw [if_pos (by omega)] at hdrop
              cases hdrop
            · rw [if_neg hlast] at h
              rw [ih happart.2 h] at hdrop
              cases hdrop

theorem uppercaseRanges_apart : uppercaseRanges.apart lowercaseRanges = true := by
  decide +kernel

theorem isLowercase_of_isUppercase {c : Char} (h : isUppercase c = true) :
    isLowercase c = false :=
  RangeTable.covers_of_apart uppercaseRanges_apart h

theorem isUppercase_of_isLowercase {c : Char} (h : isLowercase c = true) :
    isUppercase c = false := by
  rw [<- Bool.not_eq_true]
  intro hupper
  rw [isLowercase_of_isUppercase hupper] at h
  cases h

theorem forall_not_isLowercase {a b : Char} {more : List Char} (ha : isLowercase a = false)
    (hb : isUppercase b = true) (hmore : forall c, c ∈ more -> isLowercase c = false) :
    forall c, c ∈ a :: b :: more -> isLowercase c = false := by
  rw [List.forall_mem_cons, List.forall_mem_cons]
  exact ⟨ha, isLowercase_of_isUppercase hb, hmore⟩

end Unicode

end CamelSpell
