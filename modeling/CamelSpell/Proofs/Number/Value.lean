import CamelSpell.Number.Binary64
import Mathlib

/-!
# Values of numbers

What a finite number stands for is a rational number.  Rounding yields numbers of the format only,
and a fraction that is the value of such a number is not changed by it.
-/

namespace CamelSpell
namespace Number

def value? : Number -> Option ℚ
  | finite negative mantissa exponent =>
      some ((if negative then -1 else 1) * (mantissa * 2 ^ exponent))
  | infinite _ | notANumber => none

/-- What the format can hold: a mantissa of at most 53 bits, and an exponent within its range. -/
def InFormat : Number -> Prop
  | finite _ mantissa exponent => mantissa < 2 ^ 53 ∧ -1074 ≤ exponent ∧ exponent ≤ 971
  | infinite _ | notANumber => True

instance : DecidablePred InFormat
  | finite _ _ _ => inferInstanceAs (Decidable (_ ∧ _ ∧ _))
  | infinite _ | notANumber => isTrue trivial

/-!
# Powers of two
-/

theorem power_pos (e : Int) : 0 < power 2 e :=
  Nat.pow_pos (by decide)

theorem power_eq_zpow {e : Int} (he : 0 ≤ e) : (power 2 e : ℚ) = 2 ^ e := by
  have hcast : (power 2 e : ℚ) = 2 ^ e.toNat := by
    exact_mod_cast rfl
  rw [hcast, <- zpow_natCast, Int.toNat_of_nonneg he]

theorem power_neg_eq_zpow {e : Int} (he : ¬ 0 ≤ e) : (power 2 (-e) : ℚ) = (2 ^ e)⁻¹ := by
  rw [power_eq_zpow (by omega), zpow_neg]

/-!
# Natural numbers

Among natural numbers the value is what is read off a number.
-/

theorem exactQuotient_iff {m d k : Nat} (hd : 0 < d) :
    (if m % d = 0 then some (m / d) else none) = some k <-> m = k * d := by
  constructor
  · intro h
    split at h
    · rename_i hmod
      cases h
      exact (Nat.div_mul_cancel (Nat.dvd_of_mod_eq_zero hmod)).symm
    · cases h
  · rintro rfl
    rw [Nat.mul_mod_left, if_pos rfl, Nat.mul_div_cancel k hd]

section

variable {negative : Bool} {m k : Nat} {e : Int}

theorem value?_ne_of_signed (hm : m ≠ 0) : (finite true m e).value? ≠ some (k : ℚ) := by
  have hpos : (0 : ℚ) < m * 2 ^ e :=
    mul_pos (by exact_mod_cast Nat.pos_of_ne_zero hm) (zpow_pos (by norm_num) e)
  have hk : (0 : ℚ) ≤ k := Nat.cast_nonneg k
  intro h
  simp only [value?, if_true, Option.some_inj] at h
  linarith

theorem value?_of_unsigned (h : (negative && m != 0) = false) :
    (finite negative m e).value? = some ((m : ℚ) * 2 ^ e) := by
  cases negative with
  | false => simp [value?]
  | true =>
      have hm : m = 0 := by simpa using h
      simp [value?, hm]

theorem toNat?_eq_some_iff {x : Number} : x.toNat? = some k <-> x.value? = some (k : ℚ) := by
  cases x with
  | infinite negative => simp [toNat?, value?]
  | notANumber => simp [toNat?, value?]
  | finite negative m e =>
      unfold toNat?
      simp only
      cases hsign : negative && m != 0 with
      | true =>
          obtain ⟨rfl, hm⟩ : negative = true ∧ m ≠ 0 := by simpa using hsign
          simp [value?_ne_of_signed hm]
      | false =>
          rw [value?_of_unsigned hsign, Option.some_inj, if_neg Bool.false_ne_true]
          by_cases he : 0 ≤ e
          · rw [if_pos he, Option.some_inj, <- power_eq_zpow he]
            exact_mod_cast Iff.rfl
          · have hcast : ((k * power 2 (-e) : Nat) : ℚ) = k * (2 ^ e)⁻¹ := by
              rw [Nat.cast_mul, power_neg_eq_zpow he]
            rw [if_neg he, exactQuotient_iff (power_pos _), <- Nat.cast_inj (R := ℚ), hcast,
              eq_mul_inv_iff_mul_eq₀ (zpow_pos (by norm_num) e).ne']

end

/-!
# Rounding

Scaling by a power of two is done in the numerator or in the denominator.  What is exact is not
changed by rounding.
-/

theorem roundQuotient_le (n d : Nat) : roundQuotient n d ≤ n / d + 1 := by
  have hmod : n / d % 2 ≤ 1 := by omega
  unfold roundQuotient
  simp only
  split
  · exact Nat.le_succ _
  · split <;> omega

theorem roundQuotient_mul {d : Nat} (hd : 0 < d) (k : Nat) : roundQuotient (k * d) d = k := by
  unfold roundQuotient
  simp [Nat.mul_div_cancel k hd, hd]

section

variable {n d : Nat} (hd : 0 < d) {e : Int}
include hd

theorem exists_scaled (n : Nat) (e : Int) :
    exists n' d' : Nat, 0 < d' ∧ (n' : ℚ) / d' = n / d / 2 ^ e ∧
      floorScaled n d e = n' / d' ∧ roundScaled n d e = roundQuotient n' d' := by
  unfold floorScaled roundScaled
  by_cases he : 0 ≤ e
  · refine ⟨n, d * power 2 e, Nat.mul_pos hd (power_pos e), ?_, if_pos he, if_pos he⟩
    rw [Nat.cast_mul, power_eq_zpow he, div_div]
  · refine ⟨n * power 2 (-e), d, hd, ?_, if_neg he, if_neg he⟩
    rw [Nat.cast_mul, power_neg_eq_zpow he, <- div_eq_mul_inv, div_right_comm]

theorem floorScaled_lt_iff {m : Nat} : floorScaled n d e < m <-> (n : ℚ) / d < m * 2 ^ e := by
  rcases exists_scaled hd n e with ⟨n', d', hd', hquotient, hfloor, _⟩
  have hpos : (0 : ℚ) < d' := by exact_mod_cast hd'
  rw [hfloor, Nat.div_lt_iff_lt_mul hd', <- div_lt_iff₀ (zpow_pos (by norm_num) e), <- hquotient,
    div_lt_iff₀ hpos]
  exact_mod_cast Iff.rfl

theorem roundScaled_le : roundScaled n d e ≤ floorScaled n d e + 1 := by
  rcases exists_scaled hd n e with ⟨n', d', _, _, hfloor, hround⟩
  rw [hfloor, hround]
  exact roundQuotient_le n' d'

theorem roundScaled_of_eq {m : Nat} (h : (n : ℚ) / d = m * 2 ^ e) : roundScaled n d e = m := by
  rcases exists_scaled hd n e with ⟨n', d', hd', hquotient, _, hround⟩
  have hpos : (0 : ℚ) < d' := by exact_mod_cast hd'
  have hn : (n' : ℚ) = m * d' := by
    rw [h, mul_div_cancel_right₀ _ (zpow_pos (by norm_num) e).ne', div_eq_iff hpos.ne']
      at hquotient
    exact hquotient
  have hn' : n' = m * d' := by exact_mod_cast hn
  rw [hround, hn', roundQuotient_mul hd']

end

/-!
# The exponent of a fraction

The lengths of numerator and denominator give the size of a fraction up to a factor of two, and
one comparison settles the rest.
-/

section

variable {n d : Nat}

theorem log2_bounds (hn : n ≠ 0) :
    (2 : ℚ) ^ (n.log2 : Int) ≤ n ∧ (n : ℚ) < 2 ^ ((n.log2 : Int) + 1) := by
  constructor
  · rw [zpow_natCast]
    exact_mod_cast Nat.log2_self_le hn
  · rw [<- Nat.cast_succ, zpow_natCast]
    exact_mod_cast Nat.lt_log2_self

theorem fraction_bounds (hn : n ≠ 0) (hd : 0 < d) :
    (2 : ℚ) ^ ((n.log2 : Int) - d.log2 - 1) < (n : ℚ) / d ∧
      (n : ℚ) / d < 2 ^ ((n.log2 : Int) - d.log2 + 1) := by
  rcases log2_bounds hn with ⟨hnlow, hnhigh⟩
  rcases log2_bounds hd.ne' with ⟨hdlow, hdhigh⟩
  have htwo : (2 : ℚ) ≠ 0 := by norm_num
  have hpos : (0 : ℚ) < d := by exact_mod_cast hd
  constructor
  · rw [lt_div_iff₀ hpos]
    calc (2 : ℚ) ^ ((n.log2 : Int) - d.log2 - 1) * d
        < 2 ^ ((n.log2 : Int) - d.log2 - 1) * 2 ^ ((d.log2 : Int) + 1) :=
          mul_lt_mul_of_pos_left hdhigh (zpow_pos (by norm_num) _)
      _ = 2 ^ (n.log2 : Int) := by
          rw [<- zpow_add₀ htwo]
          congr 1
          ring
      _ ≤ n := hnlow
  · rw [div_lt_iff₀ hpos]
    calc (n : ℚ) < 2 ^ ((n.log2 : Int) + 1) := hnhigh
      _ = 2 ^ ((n.log2 : Int) - d.log2 + 1) * 2 ^ (d.log2 : Int) := by
          rw [<- zpow_add₀ htwo]
          congr 1
          ring
      _ ≤ 2 ^ ((n.log2 : Int) - d.log2 + 1) * d :=
          mul_le_mul_of_nonneg_left hdlow (zpow_pos (by norm_num) _).le

theorem zpow_eq_mul (e e' : Int) (k : Nat) (h : e' = k + e) : (2 : ℚ) ^ e' = 2 ^ k * 2 ^ e := by
  rw [h, zpow_add₀ (by norm_num), zpow_natCast]

theorem exponentOf_bounds (hn : n ≠ 0) (hd : 0 < d) :
    (n : ℚ) / d < 2 ^ 53 * 2 ^ exponentOf n d ∧
      (exponentOf n d = -1074 ∨ 2 ^ 52 * 2 ^ exponentOf n d ≤ (n : ℚ) / d) := by
  rcases fraction_bounds hn hd with ⟨hlow, hhigh⟩
  unfold exponentOf
  simp only
  generalize hguess : (n.log2 : Int) - d.log2 - 52 = guess at *
  rw [zpow_eq_mul guess _ 53 (by push_cast; omega)] at hhigh
  rw [zpow_eq_mul (guess - 1) _ 52 (by push_cast; omega)] at hlow
  have hfloor : floorScaled n d guess < power 2 52 <-> (n : ℚ) / d < 2 ^ 52 * 2 ^ guess := by
    rw [floorScaled_lt_iff hd]
    exact_mod_cast Iff.rfl
  -- what the exponent would be if it were not bounded from below
  have hexact : exists exact : Int,
      (if floorScaled n d guess < power 2 52 then guess - 1 else guess) = exact ∧
        (n : ℚ) / d < 2 ^ 53 * 2 ^ exact ∧ 2 ^ 52 * 2 ^ exact ≤ (n : ℚ) / d := by
    by_cases hsmall : (n : ℚ) / d < 2 ^ 52 * 2 ^ guess
    · refine ⟨guess - 1, if_pos (hfloor.mpr hsmall), ?_, hlow.le⟩
      calc (n : ℚ) / d < 2 ^ 52 * 2 ^ guess := hsmall
        _ = 2 ^ 53 * 2 ^ (guess - 1) := by
            rw [zpow_eq_mul (guess - 1) guess 1 (by push_cast; omega)]
            ring
    · exact ⟨guess, if_neg fun h => hsmall (hfloor.mp h), hhigh, not_lt.mp hsmall⟩
  rcases hexact with ⟨exact, hexact, habove, hbelow⟩
  rw [hexact]
  rcases le_total (-1074) exact with hrange | hrange
  · rw [max_eq_left hrange]
    exact ⟨habove, Or.inr hbelow⟩
  · rw [max_eq_right hrange]
    refine ⟨habove.trans_le ?_, Or.inl rfl⟩
    exact mul_le_mul_of_nonneg_left (zpow_le_zpow_right₀ (by norm_num) hrange) (by norm_num)

theorem neg_1074_le_exponentOf (n d : Nat) : -1074 ≤ exponentOf n d :=
  le_max_right _ _

/-!
# Numbers from fractions

Whatever is rounded, the outcome is a number of the format; and a number of the format is its own
rounding.
-/

theorem inFormat_ofFraction (negative : Bool) (n : Nat) (hd : 0 < d) :
    (ofFraction negative n d).InFormat := by
  by_cases hn : n = 0
  · simp [ofFraction, hn, InFormat]
  · have hfloor : floorScaled n d (exponentOf n d) < 2 ^ 53 := by
      rw [floorScaled_lt_iff hd]
      exact_mod_cast (exponentOf_bounds hn hd).1
    have hround := roundScaled_le hd (n := n) (e := exponentOf n d)
    have hleast := neg_1074_le_exponentOf n d
    have hpowers : power 2 52 = 2 ^ 52 ∧ power 2 53 = 2 ^ 53 := ⟨rfl, rfl⟩
    unfold ofFraction
    simp only [if_neg hn, hpowers.1, hpowers.2]
    split <;> rename_i hmantissa <;> simp only <;> split
    · trivial
    · exact ⟨by norm_num, by omega, by omega⟩
    · trivial
    · exact ⟨by omega, hleast, by omega⟩

theorem exponentOf_le (hn : n ≠ 0) (hd : 0 < d) {m : Nat} {e : Int} (hm : m < 2 ^ 53)
    (he : -1074 ≤ e) (h : (n : ℚ) / d = m * 2 ^ e) : exponentOf n d ≤ e := by
  rcases (exponentOf_bounds hn hd).2 with hleast | hbelow
  · rw [hleast]
    exact he
  · have hm' : (m : ℚ) < 2 ^ 53 := by exact_mod_cast hm
    have hlt : (2 : ℚ) ^ (exponentOf n d + 52) < 2 ^ (e + 53) := by
      calc (2 : ℚ) ^ (exponentOf n d + 52)
          = 2 ^ 52 * 2 ^ exponentOf n d := zpow_eq_mul _ _ 52 (by push_cast; ring)
        _ ≤ m * 2 ^ e := h ▸ hbelow
        _ < 2 ^ 53 * 2 ^ e := mul_lt_mul_of_pos_right hm' (zpow_pos (by norm_num) e)
        _ = 2 ^ (e + 53) := (zpow_eq_mul _ _ 53 (by push_cast; ring)).symm
    have := (zpow_lt_zpow_iff_right₀ (by norm_num)).mp hlt
    omega

theorem abs_value {negative : Bool} {m : Nat} {e : Int} {v : ℚ}
    (h : (finite negative m e).value? = some v) : |v| = m * 2 ^ e := by
  have hnonneg : (0 : ℚ) ≤ m * 2 ^ e :=
    mul_nonneg (Nat.cast_nonneg m) (zpow_pos (by norm_num) e).le
  cases h
  cases negative <;> simp [abs_of_nonneg hnonneg]

/-- A fraction that the format can hold is not changed by rounding. -/
theorem value?_ofFraction (negative : Bool) (hd : 0 < d) {x : Number} (hx : x.InFormat)
    (hvalue : x.value? = some ((n : ℚ) / d)) :
    (ofFraction negative n d).value? = some ((if negative then -1 else 1) * ((n : ℚ) / d)) := by
  by_cases hn : n = 0
  · simp [ofFraction, hn, value?]
  · cases x with
    | infinite _ => cases hvalue
    | notANumber => cases hvalue
    | finite sign m e =>
        rcases hx with ⟨hm, hleast, hgreatest⟩
        have hfraction : (n : ℚ) / d = m * 2 ^ e := by
          rw [<- abs_value hvalue, abs_of_nonneg (by positivity)]
        have hexponent := exponentOf_le hn hd hm hleast hfraction
        -- at that exponent the mantissa is a natural number, and of 53 bits
        have hscaled : (n : ℚ) / d =
            (m * 2 ^ (e - exponentOf n d).toNat : Nat) * 2 ^ exponentOf n d := by
          rw [hfraction, zpow_eq_mul (exponentOf n d) e (e - exponentOf n d).toNat (by omega)]
          push_cast
          ring
        generalize m * 2 ^ (e - exponentOf n d).toNat = mantissa at hscaled
        have hne : mantissa ≠ power 2 53 := by
          have hlt := (exponentOf_bounds hn hd).1
          rw [hscaled, mul_lt_mul_iff_left₀ (zpow_pos (by norm_num) _)] at hlt
          have hlt' : mantissa < 2 ^ 53 := by exact_mod_cast hlt
          exact hlt'.ne
        unfold ofFraction
        simp only [if_neg hn, roundScaled_of_eq hd hscaled, if_neg hne]
        rw [if_neg (by omega)]
        simp only [value?, hscaled]

theorem inFormat_ofDecimal (negative : Bool) (digits : Nat) (exponent : Int) :
    (ofDecimal negative digits exponent).InFormat := by
  have hten : forall e : Int, 0 < power 10 e := fun e => Nat.pow_pos (by decide)
  unfold ofDecimal
  simp only
  split
  · simp [InFormat]
  · split
    · trivial
    · split
      · simp [InFormat]
      · split
        · exact inFormat_ofFraction negative _ Nat.one_pos
        · exact inFormat_ofFraction negative _ (hten _)

theorem toNat?_ofNat {x : Number} {k : Nat} (hx : x.InFormat) (hk : x.toNat? = some k) :
    (ofNat k).toNat? = some k := by
  rw [toNat?_eq_some_iff] at hk ⊢
  have hone : (k : ℚ) = (k : ℚ) / (1 : Nat) := by simp
  rw [hone] at hk
  rw [ofNat, value?_ofFraction false Nat.one_pos hx hk]
  simp

end

end Number
end CamelSpell
