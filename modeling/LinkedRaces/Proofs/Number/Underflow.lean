import LinkedRaces.Number.Decimal
import Mathlib.Algebra.Order.Field.Power
import Mathlib.Tactic.NormNum
import Mathlib.Tactic.Positivity
import Mathlib.Tactic.Ring

/-!
Which decimal numbers are read as zero. Rounding takes a number to zero exactly if it is at most
half of the least number above zero; the half itself goes to the even neighbour.
-/

namespace LinkedRaces.Number.Format

theorem roundToEven_eq_zero_iff {num den : Nat} (hden : 0 < den) :
    roundToEven num den = 0 ↔ 2 * num ≤ den := by
  have hsum := Nat.div_add_mod num den
  have hmod := Nat.mod_lt num hden
  simp only [roundToEven]
  rcases Nat.eq_zero_or_pos (num / den) with hd | hd
  · have hnum : num % den = num := by
      rw [hd] at hsum
      omega
    rw [hd, hnum]
    split <;> omega
  · have hle : den * 1 ≤ den * (num / den) := Nat.mul_le_mul_left den hd
    split <;> omega

theorem floorLog2_le_of_mul_le {num den k : Nat} (hnum : 0 < num) (h : num * 2 ^ k ≤ den) :
    floorLog2 num den ≤ -(k : Int) := by
  have hden : 0 < den := Nat.lt_of_lt_of_le (Nat.mul_pos hnum (Nat.two_pow_pos k)) h
  have hlog : Nat.log2 num + k ≤ Nat.log2 den := by
    rw [Nat.le_log2 (Nat.pos_iff_ne_zero.1 hden), Nat.pow_add]
    exact (Nat.mul_le_mul_right _ (Nat.log2_self_le (Nat.pos_iff_ne_zero.1 hnum))).trans h
  simp only [floorLog2]
  split <;> omega

theorem round_eq_zero_iff {f : Format} {k : Nat} (hleast : f.leastExponent = -(k : Int))
    (hinfinity : 0 < f.infinity) {num den : Nat} (hden : 0 < den) :
    f.round num den = 0 ↔ num * 2 ^ (k + 1) ≤ den := by
  rcases Nat.eq_zero_or_pos num with rfl | hnum
  · simp [round]
  have hhalf : 2 * (num * 2 ^ k) = num * 2 ^ (k + 1) := by rw [Nat.pow_succ]; ring
  simp only [round, if_neg (Nat.pos_iff_ne_zero.1 hnum), hleast]
  by_cases hsmall : floorLog2 num den - f.fractionBits ≤ -(k : Int)
  · -- the last place is that of the smallest numbers, so the whole pattern is the significand
    rw [max_eq_right hsmall]
    have hm : (if 0 ≤ -(k : Int) then roundToEven num (den * Nat.pow 2 (-(k : Int)).toNat)
        else roundToEven (num * Nat.pow 2 (- -(k : Int)).toNat) den) =
        roundToEven (num * 2 ^ k) den := by
      rcases Nat.eq_zero_or_pos k with rfl | hk
      · simp
      · rw [if_neg (by omega), Int.neg_neg, Int.toNat_natCast]
        rfl
    rw [hm, Int.sub_self, Int.toNat_zero, Nat.zero_mul, Nat.zero_add, ← hhalf,
      ← roundToEven_eq_zero_iff hden]
    omega
  · -- numbers of that size have a leading bit, and `num / den` is too large for the half
    have hlarge : ¬ num * 2 ^ (k + 1) ≤ den := fun h => by
      have := floorLog2_le_of_mul_le hnum h
      omega
    refine iff_of_false ?_ hlarge
    have hplaces : 1 ≤ (max (floorLog2 num den - f.fractionBits) (-(k : Int)) - -(k : Int)).toNat := by
      omega
    have hpattern := Nat.mul_le_mul_right (Nat.pow 2 f.fractionBits) hplaces
    have hbit : 0 < Nat.pow 2 f.fractionBits := Nat.two_pow_pos _
    omega

theorem binary64_round_eq_zero_iff {num den : Nat} (hden : 0 < den) :
    binary64.round num den = 0 ↔ num * 2 ^ 1075 ≤ den := by
  have hleast : binary64.leastExponent = -((1074 : Nat) : Int) := by decide
  have hround : binary64.round num den = 0 ↔ num * 2 ^ (1074 + 1) ≤ den :=
    round_eq_zero_iff hleast (by decide) hden
  rwa [show 1074 + 1 = 1075 from rfl] at hround

def leastHalf : ℚ := 2 ^ (-1075 : ℤ)

theorem leastHalf_pos : 0 < leastHalf := by
  unfold leastHalf
  positivity

theorem leastHalf_eq_inv : leastHalf = (2 ^ 1075)⁻¹ := by
  rw [leastHalf, zpow_neg]
  rfl

theorem leastHalf_lt_one : leastHalf < 1 :=
  zpow_lt_one_of_neg₀ (by norm_num) (by norm_num)

theorem le_leastHalf : (10 : ℚ) ^ (-400 : ℤ) ≤ leastHalf := by
  have hpow : (2 : ℚ) ^ 1075 ≤ 10 ^ 400 :=
    calc (2 : ℚ) ^ 1075 ≤ 2 ^ (11 * 100) := pow_le_pow_right₀ (by norm_num) (by norm_num)
      _ = (2 ^ 11) ^ 100 := pow_mul 2 11 100
      _ ≤ (10 ^ 4) ^ 100 := pow_le_pow_left₀ (by norm_num) (by norm_num) 100
      _ = 10 ^ (4 * 100) := (pow_mul 10 4 100).symm
  unfold leastHalf
  rw [zpow_neg, zpow_neg]
  exact inv_anti₀ (by positivity) (by exact_mod_cast hpow)

theorem lt_pow_decimalDigits (m : Nat) : m < 10 ^ decimalDigits m :=
  (Nat.length_toDigits_le_iff (by norm_num) Nat.length_toDigits_pos).1 (Nat.le_refl _)

theorem pow_decimalDigits_le {m : Nat} (hm : 0 < m) : 10 ^ (decimalDigits m - 1) ≤ m := by
  rcases Nat.eq_zero_or_pos (decimalDigits m - 1) with h | h
  · rw [h]
    exact hm
  · refine Nat.le_of_not_lt fun hlt => ?_
    have hle : decimalDigits m ≤ decimalDigits m - 1 :=
      (Nat.length_toDigits_le_iff (by norm_num) h).2 hlt
    omega

/-- A decimal number is read as zero exactly if it is at most half of the least number above
zero. -/
theorem binary64_ofDecimal_eq_zero_iff (m : Nat) (e : Int) :
    binary64.ofDecimal m e = 0 ↔ (m : ℚ) * 10 ^ e ≤ leastHalf := by
  rcases Nat.eq_zero_or_pos m with rfl | hm
  · simp [ofDecimal, leastHalf_pos.le]
  have hpos : (0 : ℚ) < 10 ^ e := by positivity
  simp only [ofDecimal, Nat.pos_iff_ne_zero.1 hm, false_or]
  by_cases hsmall : e + (decimalDigits m : Int) < -400
  · rw [if_pos hsmall]
    refine iff_of_true rfl ?_
    calc (m : ℚ) * 10 ^ e ≤ 10 ^ (decimalDigits m : ℤ) * 10 ^ e := by
          refine mul_le_mul_of_nonneg_right ?_ hpos.le
          exact_mod_cast (lt_pow_decimalDigits m).le
      _ = 10 ^ ((decimalDigits m : ℤ) + e) := (zpow_add₀ (by norm_num) _ _).symm
      _ ≤ 10 ^ (-400 : ℤ) := zpow_le_zpow_right₀ (by norm_num) (by omega)
      _ ≤ leastHalf := le_leastHalf
  rw [if_neg hsmall]
  by_cases hlarge : 400 < e + (decimalDigits m : Int)
  · rw [if_pos hlarge]
    refine iff_of_false (by decide) (not_le.2 ?_)
    have hdigits : 1 ≤ decimalDigits m := Nat.length_toDigits_pos
    calc leastHalf < 1 := leastHalf_lt_one
      _ ≤ 10 ^ (((decimalDigits m - 1 : Nat) : ℤ) + e) := one_le_zpow₀ (by norm_num) (by omega)
      _ = 10 ^ ((decimalDigits m - 1 : Nat) : ℤ) * 10 ^ e := zpow_add₀ (by norm_num) _ _
      _ ≤ m * 10 ^ e := by
          refine mul_le_mul_of_nonneg_right ?_ hpos.le
          exact_mod_cast pow_decimalDigits_le hm
  rw [if_neg hlarge]
  by_cases he : 0 ≤ e
  · obtain ⟨n, rfl⟩ := Int.eq_ofNat_of_zero_le he
    rw [if_pos he, binary64_round_eq_zero_iff Nat.one_pos, leastHalf_eq_inv, inv_eq_one_div,
      le_div_iff₀ (by positivity), Int.toNat_natCast, zpow_natCast]
    exact_mod_cast Iff.rfl
  · obtain ⟨n, rfl⟩ : ∃ n : Nat, e = -(n : Int) := ⟨(-e).toNat, by omega⟩
    have hround : binary64.round m (10 ^ n) = 0 ↔ m * 2 ^ 1075 ≤ 10 ^ n :=
      binary64_round_eq_zero_iff (Nat.pow_pos (by norm_num))
    rw [if_neg he, Int.neg_neg, Int.toNat_natCast]
    refine hround.trans ?_
    rw [leastHalf_eq_inv, zpow_neg, zpow_natCast, ← div_eq_mul_inv, div_le_iff₀ (by positivity),
      inv_mul_eq_div, le_div_iff₀ (by positivity)]
    exact_mod_cast Iff.rfl

end LinkedRaces.Number.Format
