import CamelSpell.Unicode.Units
import Mathlib.Data.List.Basic

/-!
# The order of code units

Code units are compared as rows of numbers are.  Different texts have different code units, so that
texts which are sorted by them and do not repeat ascend strictly.
-/

namespace CamelSpell
namespace Unicode

theorem unitsLe_iff {a b : List Nat} :
    unitsLe a b = true <-> a = b ∨ List.Lex (· < ·) a b := by
  induction a generalizing b with
  | nil =>
      cases b with
      | nil =>
          simp [unitsLe]
      | cons m others =>
          simp [unitsLe]
  | cons n rest ih =>
      cases b with
      | nil =>
          simp [unitsLe]
      | cons m others =>
          rw [unitsLe, List.cons_lex_cons_iff, List.cons_eq_cons]
          by_cases hnm : n = m
          · simp [hnm, ih]
          · simp [hnm]

theorem unitsLe_trans {a b c : List Nat} (hab : unitsLe a b = true) (hbc : unitsLe b c = true) :
    unitsLe a c = true := by
  rw [unitsLe_iff] at hab hbc ⊢
  rcases hab with rfl | hab
  · exact hbc
  · rcases hbc with rfl | hbc
    · exact Or.inr hab
    · exact Or.inr (List.lex_trans Nat.lt_trans hab hbc)

theorem unitsLe_total (a b : List Nat) : unitsLe a b = true ∨ unitsLe b a = true := by
  rw [unitsLe_iff, unitsLe_iff]
  by_cases hab : List.Lex (· < ·) a b
  · exact Or.inl (Or.inr hab)
  by_cases hba : List.Lex (· < ·) b a
  · exact Or.inr (Or.inr hba)
  left
  left
  apply List.lex_trichotomous _ hba hab
  intro n m hnm hmn
  omega

theorem pointsOfUnits_cons {n : Nat} (h : isHighSurrogate n = false) (rest : List Nat) :
    pointsOfUnits (n :: rest) = n :: pointsOfUnits rest := by
  cases rest with
  | nil =>
      rfl
  | cons m others =>
      rw [pointsOfUnits, h, Bool.false_and, if_neg Bool.false_ne_true]

theorem pointsOfUnits_append (c : Char) (rest : List Nat) :
    pointsOfUnits (unitsOfChar c ++ rest) = c.toNat :: pointsOfUnits rest := by
  have hvalid : c.toNat < 0xD800 ∨ (0xDFFF < c.toNat ∧ c.toNat < 0x110000) := c.valid
  unfold unitsOfChar
  by_cases hc : c.toNat < 0x10000
  · have hhigh : isHighSurrogate c.toNat = false := by
      simp [isHighSurrogate]
      omega
    simp only [if_pos hc]
    exact pointsOfUnits_cons hhigh rest
  · have hhigh : isHighSurrogate (0xD800 + (c.toNat - 0x10000) / 0x400) = true := by
      simp [isHighSurrogate]
      omega
    have hlow : isLowSurrogate (0xDC00 + (c.toNat - 0x10000) % 0x400) = true := by
      simp [isLowSurrogate]
      omega
    simp only [if_neg hc, List.cons_append, List.nil_append, pointsOfUnits, hhigh, hlow,
      Bool.and_self, if_true, List.cons.injEq, and_true]
    omega

theorem pointsOfUnits_units (text : List Char) :
    pointsOfUnits (units text) = text.map Char.toNat := by
  induction text with
  | nil =>
      rfl
  | cons c rest ih =>
      show pointsOfUnits (unitsOfChar c ++ units rest) = _
      rw [pointsOfUnits_append, ih, List.map_cons]

theorem units_injective {a b : List Char} (h : units a = units b) : a = b := by
  have hpoints := congrArg pointsOfUnits h
  rw [pointsOfUnits_units, pointsOfUnits_units] at hpoints
  refine List.map_injective_iff.mpr ?_ hpoints
  intro c c' hc
  rw [<- Char.ofNat_toNat c, hc, Char.ofNat_toNat]

theorem pairwise_mergeSort_units {texts : List (List Char)} (h : texts.Nodup) :
    (texts.mergeSort fun a b => unitsLe (units a) (units b)).Pairwise fun a b =>
      List.Lex (· < ·) (units a) (units b) := by
  have hsorted : (texts.mergeSort fun a b => unitsLe (units a) (units b)).Pairwise
      fun a b => unitsLe (units a) (units b) = true := by
    apply List.pairwise_mergeSort
    · intro a b c hab hbc
      exact unitsLe_trans hab hbc
    · intro a b
      rw [Bool.or_eq_true]
      exact unitsLe_total (units a) (units b)
  have hnodup := (List.mergeSort_perm texts fun a b => unitsLe (units a) (units b)).nodup_iff.mpr h
  refine (hsorted.and hnodup).imp ?_
  intro a b hboth
  rcases unitsLe_iff.mp hboth.1 with heq | hlex
  · exact absurd (units_injective heq) hboth.2
  · exact hlex

end Unicode
end CamelSpell
