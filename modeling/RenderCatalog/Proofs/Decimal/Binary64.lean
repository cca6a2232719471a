import Mathlib
import RenderCatalog.Decimal.Binary64

/-!
# Integers as floating-point numbers

An integer in the range of the format becomes a whole number again, the nearest one with at most 53 bits (`rounded`, with its sign
`units_ofInt`). Rounding keeps the order (`units_ofInt_le`) and leaves integers of up to 53 bits as they are, so an integer of
any size is compared exactly with one that is smaller than `2 ^ 53` (`ofInt_lt_iff`, `lt_ofInt_iff`).
-/

namespace RenderCatalog.Decimal

variable {n k num den : Nat}

/-! ## Rounded quotients -/

/-- Rounding never goes below the quotient without its remainder. -/
theorem div_le_roundDiv (num den : Nat) : num / den ≤ roundDiv num den := by
  rw [roundDiv]
  split_ifs <;> omega

/-- Rounding never goes further up than the next natural. -/
theorem roundDiv_le (num den : Nat) : roundDiv num den ≤ num / den + 1 := by
  rw [roundDiv]
  split_ifs <;> omega

/-- What is a multiple already is not rounded. -/
theorem roundDiv_mul (q : Nat) (h : 0 < den) : roundDiv (q * den) den = q := by
  rw [roundDiv, Nat.mul_div_cancel q h, Nat.mul_mod_left, if_pos (by omega)]

/-- Rounding keeps the order. -/
theorem roundDiv_mono {a b : Nat} (h : a ≤ b) : roundDiv a den ≤ roundDiv b den := by
  rcases (Nat.div_le_div_right h : a / den ≤ b / den).eq_or_lt with hquotient | hquotient
  · -- with the same quotient the remainders are in the same order
    have hrest : a % den ≤ b % den := by
      have ha := Nat.div_add_mod a den
      have hb := Nat.div_add_mod b den
      rw [hquotient] at ha
      omega
    rw [roundDiv, roundDiv, hquotient]
    split_ifs <;> omega
  · calc roundDiv a den ≤ a / den + 1 := roundDiv_le a den
      _ ≤ b / den := hquotient
      _ ≤ roundDiv b den := div_le_roundDiv b den

/-! ## Naturals with 53 bits -/

/-- The value of the last of the 53 bits that a natural keeps. -/
def lastPlace (n : Nat) : Nat := 2 ^ (n.log2 - 52)

/-- The nearest natural with at most 53 bits, an exact half going to the even mantissa. -/
def rounded (n : Nat) : Nat := roundDiv n (lastPlace n) * lastPlace n

theorem lastPlace_pos (n : Nat) : 0 < lastPlace n := Nat.two_pow_pos _

/-- A natural that 53 bits hold stays as it is. -/
theorem rounded_of_log2_le (h : n.log2 ≤ 52) : rounded n = n := by
  have hplace : lastPlace n = 1 := by rw [lastPlace, Nat.sub_eq_zero_of_le h, Nat.pow_zero]
  have hround : roundDiv (n * 1) 1 = n := roundDiv_mul n Nat.one_pos
  rw [Nat.mul_one] at hround
  rw [rounded, hplace, hround, Nat.mul_one]

/-- A natural of at most 53 bits is kept. -/
theorem rounded_of_le (h : n ≤ 2 ^ 53) : rounded n = n := by
  rcases h.eq_or_lt with rfl | hlt
  · decide +kernel
  · rcases Nat.eq_zero_or_pos n with rfl | hpos
    · rfl
    · exact rounded_of_log2_le (Nat.le_of_lt_succ ((Nat.log2_lt hpos.ne').2 hlt))

/-- Rounding does not leave the powers of two that a natural lies between. -/
theorem rounded_bounds (hpos : 0 < n) : 2 ^ n.log2 ≤ rounded n ∧ rounded n ≤ 2 ^ (n.log2 + 1) := by
  have hlow : 2 ^ n.log2 ≤ n := Nat.log2_self_le hpos.ne'
  have hhigh : n ≤ 2 ^ (n.log2 + 1) := Nat.lt_log2_self.le
  rcases Nat.le_total n.log2 52 with hsmall | hlarge
  · rw [rounded_of_log2_le hsmall]
    exact ⟨hlow, hhigh⟩
  · have hleast : 2 ^ n.log2 = 2 ^ 52 * lastPlace n := by
      rw [lastPlace, ← Nat.pow_add, Nat.add_sub_cancel' hlarge]
    have hgreatest : 2 ^ (n.log2 + 1) = 2 ^ 53 * lastPlace n := by
      rw [Nat.pow_succ, hleast, Nat.mul_right_comm, ← Nat.pow_succ]
    rw [hleast] at hlow ⊢
    rw [hgreatest] at hhigh ⊢
    constructor
    · refine Nat.mul_le_mul_right _ ?_
      rw [← roundDiv_mul (2 ^ 52) (lastPlace_pos n)]
      exact roundDiv_mono hlow
    · refine Nat.mul_le_mul_right _ ?_
      rw [← roundDiv_mul (2 ^ 53) (lastPlace_pos n)]
      exact roundDiv_mono hhigh

/-- Rounding keeps the order of naturals. -/
theorem rounded_mono (h : n ≤ k) : rounded n ≤ rounded k := by
  rcases Nat.eq_zero_or_pos n with rfl | hpos
  · exact Nat.zero_le _
  · have hlog : n.log2 ≤ k.log2 := (Nat.le_log2 (by omega)).2 ((Nat.log2_self_le hpos.ne').trans h)
    rcases hlog.eq_or_lt with hlog | hlog
    · have hplace : lastPlace n = lastPlace k := by rw [lastPlace, lastPlace, hlog]
      rw [rounded, rounded, hplace]
      exact Nat.mul_le_mul_right _ (roundDiv_mono h)
    · calc rounded n ≤ 2 ^ (n.log2 + 1) := (rounded_bounds hpos).2
        _ ≤ 2 ^ k.log2 := Nat.pow_le_pow_right Nat.two_pos hlog
        _ ≤ rounded k := (rounded_bounds (hpos.trans_le h)).1

/-! ## The number nearest to a natural -/

/-- What 64 bits hold is far below the greatest number of the format. -/
theorem log2_lt_of_lt (h : n < 2 ^ 64) : n.log2 < 1023 := by
  rcases Nat.eq_zero_or_pos n with rfl | hpos
  · decide
  · exact ((Nat.log2_lt hpos.ne').2 h).trans (by decide)

/-- The leading bit of a natural is found by its logarithm. -/
theorem leadingBit_one (hpos : 0 < n) : leadingBit n 1 = n.log2 := by
  have hlow : 2 ^ n.log2 ≤ n := Nat.log2_self_le hpos.ne'
  have hone : Nat.log2 1 = 0 := by decide
  have hshift : ¬(shiftRatio n 1 (-(n.log2 : Int))).1 < (shiftRatio n 1 (-(n.log2 : Int))).2 := by
    rw [shiftRatio]
    split_ifs with hzero
    · have : n.log2 = 0 := by omega
      simpa [this] using hpos.ne'
    · simpa using hlow
  simp only [leadingBit, hone, Nat.cast_zero, sub_zero]
  rw [if_neg hshift]

/-- The number nearest to a quotient is the quotient rounded at its last place, also when that gives a power of two, which is
written with the next exponent. -/
theorem exists_ofRatio? (hnum : num ≠ 0) {e : Int} (he : max (leadingBit num den - 52) leastExp = e) (hrange : e < greatestExp) :
    ∃ x, ofRatio? num den = some x ∧ x.negative = false ∧
      x.units = (roundDiv (shiftRatio num den (-e)).1 (shiftRatio num den (-e)).2 * 2 ^ (e - leastExp).toNat : Nat) := by
  have hleast : leastExp ≤ e := he ▸ le_max_right _ _
  simp only [ofRatio?, if_neg hnum, he]
  generalize roundDiv (shiftRatio num den (-e)).1 (shiftRatio num den (-e)).2 = m
  by_cases hcarry : m = Nat.pow 2 53
  · have hexp : (e + 1 - leastExp).toNat = (e - leastExp).toNat + 1 := by omega
    refine ⟨⟨false, Nat.pow 2 52, e + 1⟩, ?_, rfl, ?_⟩
    · rw [if_pos hcarry, if_neg (by omega)]
    · simp only [Binary64.units, hexp, hcarry, Nat.pow_eq, Nat.pow_succ, Bool.false_eq_true, if_false]
      congr 1
      omega
  · refine ⟨⟨false, m, e⟩, ?_, rfl, ?_⟩
    · rw [if_neg hcarry, if_neg (by omega)]
    · simp [Binary64.units]

/-- How many of the smallest positive number make one. -/
def unitsOfOne : Nat := 2 ^ 1074

theorem unitsOfOne_pos : 0 < unitsOfOne := by
  rw [unitsOfOne]
  positivity

/-- The number nearest to a natural in the range of the format is the natural rounded to 53 bits. -/
theorem exists_ofRatio?_one (hpos : 0 < n) (hrange : n.log2 < 1023) :
    ∃ x, ofRatio? n 1 = some x ∧ x.negative = false ∧ x.units = (rounded n * unitsOfOne : Nat) := by
  have he : max (leadingBit n 1 - 52) leastExp = n.log2 - 52 := by
    rw [leadingBit_one hpos, leastExp]
    omega
  obtain ⟨x, hx, hsign, hunits⟩ := exists_ofRatio? hpos.ne' he (by rw [greatestExp]; omega)
  refine ⟨x, hx, hsign, hunits.trans (congrArg _ ?_)⟩
  rcases Nat.lt_or_ge 52 n.log2 with hlarge | hsmall
  · have hshift : shiftRatio n 1 (-((n.log2 : Int) - 52)) = (n, lastPlace n) := by
      rw [shiftRatio, if_neg (by omega), Nat.one_mul, Nat.pow_eq, lastPlace]
      congr 2
      omega
    have hplace : 2 ^ ((n.log2 : Int) - 52 - leastExp).toNat = lastPlace n * unitsOfOne := by
      rw [lastPlace, unitsOfOne, ← Nat.pow_add, leastExp]
      congr 1
      omega
    rw [hshift, hplace, rounded, Nat.mul_assoc]
  · -- the natural is written with all its bits, and nothing is rounded
    have hshift : shiftRatio n 1 (-((n.log2 : Int) - 52)) = (n * 2 ^ (52 - n.log2), 1) := by
      rw [shiftRatio, if_pos (by omega), Nat.pow_eq]
      congr 3
      omega
    have hround : roundDiv (n * 2 ^ (52 - n.log2) * 1) 1 = n * 2 ^ (52 - n.log2) := roundDiv_mul _ Nat.one_pos
    rw [Nat.mul_one] at hround
    rw [hshift, hround, rounded_of_log2_le hsmall, Nat.mul_assoc, ← Nat.pow_add, unitsOfOne, leastExp]
    congr 2
    omega

/-! ## Integers -/

namespace Binary64

variable {n k : Int}

theorem units_ofInt_zero : (ofInt 0).units = 0 := by simp [ofInt, ofRatio?, withSign, zero, units]

/-- An integer keeps its sign as a floating-point number. -/
theorem units_ofInt_nonneg (h : 0 ≤ n) : 0 ≤ (ofInt n).units := by
  rw [units, if_neg]
  · exact Int.natCast_nonneg _
  · simpa [ofInt, withSign] using h

/-- No integer below one becomes positive. -/
theorem units_ofInt_nonpos (h : n ≤ 0) : (ofInt n).units ≤ 0 := by
  rcases h.eq_or_lt with rfl | hlt
  · rw [units_ofInt_zero]
  · rw [units, if_pos]
    · exact Int.neg_nonpos_of_nonneg (Int.natCast_nonneg _)
    · simpa [ofInt, withSign] using hlt

/-- A sign turns the units round. -/
theorem units_withSign {x : Binary64} (hsign : x.negative = false) (negative : Bool) :
    (x.withSign negative).units = if negative then -x.units else x.units := by
  simp [withSign, units, hsign]

/-- An integer in the range of the format is rounded by its magnitude and keeps its sign. -/
theorem units_ofInt (hrange : n.natAbs.log2 < 1023) : (ofInt n).units = n.sign * (rounded n.natAbs * unitsOfOne : Nat) := by
  rcases Nat.eq_zero_or_pos n.natAbs with hzero | hpos
  · obtain rfl := Int.natAbs_eq_zero.1 hzero
    rw [units_ofInt_zero, Int.sign_zero, zero_mul]
  · obtain ⟨x, hx, hsign, hunits⟩ := exists_ofRatio?_one hpos hrange
    rw [ofInt, hx, Option.getD_some, units_withSign hsign, hunits]
    rcases lt_trichotomy n 0 with hneg | rfl | hpos
    · rw [if_pos (by simpa using hneg), Int.sign_eq_neg_one_of_neg hneg, neg_one_mul]
    · simp at hpos
    · rw [if_neg (by simpa using hpos.le), Int.sign_eq_one_of_pos hpos, one_mul]

/-- An integer that 53 bits hold is exact. -/
theorem units_ofInt_of_le (h : n.natAbs ≤ 2 ^ 53) : (ofInt n).units = n * unitsOfOne := by
  rw [units_ofInt (log2_lt_of_lt (h.trans_lt (by decide))), rounded_of_le h, Int.natCast_mul, ← mul_assoc, Int.sign_mul_natAbs]

/-- Integers keep their order as floating-point numbers, though not their distance. -/
theorem units_ofInt_le (hn : n.natAbs.log2 < 1023) (hk : k.natAbs.log2 < 1023) (h : n ≤ k) : (ofInt n).units ≤ (ofInt k).units := by
  have hmono {a b : Nat} (hab : a ≤ b) : ((rounded a * unitsOfOne : Nat) : Int) ≤ (rounded b * unitsOfOne : Nat) :=
    Int.ofNat_le.2 (Nat.mul_le_mul_right _ (rounded_mono hab))
  rcases Int.lt_or_le 0 n with hpos | hnonpos
  · rw [units_ofInt hn, units_ofInt hk, Int.sign_eq_one_of_pos hpos, Int.sign_eq_one_of_pos (hpos.trans_le h), one_mul, one_mul]
    exact hmono (by omega)
  · rcases Int.lt_or_le k 0 with hneg | hnonneg
    · rw [units_ofInt hn, units_ofInt hk, Int.sign_eq_neg_one_of_neg (h.trans_lt hneg), Int.sign_eq_neg_one_of_neg hneg,
        neg_one_mul, neg_one_mul]
      exact neg_le_neg (hmono (by omega))
    · exact (units_ofInt_nonpos hnonpos).trans (units_ofInt_nonneg hnonneg)

/-- An integer is less than one that 53 bits hold exactly when it is as a floating-point number. -/
theorem ofInt_lt_iff (hn : n.natAbs.log2 < 1023) (hk : k.natAbs < 2 ^ 53) : (ofInt n).lt (ofInt k) = true ↔ n < k := by
  rw [lt, decide_eq_true_iff, ← not_iff_not, not_lt, not_lt]
  refine ⟨fun h => ?_, units_ofInt_le (log2_lt_of_lt (hk.trans (by decide))) hn⟩
  -- below `k` there is the exact integer `k - 1`
  by_contra hlt
  have hle := units_ofInt_le (k := k - 1) hn (log2_lt_of_lt (by omega)) (by omega)
  rw [units_ofInt_of_le (n := k - 1) (by omega), Int.sub_mul, Int.one_mul] at hle
  rw [units_ofInt_of_le hk.le] at h
  have := unitsOfOne_pos
  omega

/-- An integer is greater than one that 53 bits hold exactly when it is as a floating-point number. -/
theorem lt_ofInt_iff (hn : n.natAbs.log2 < 1023) (hk : k.natAbs < 2 ^ 53) : (ofInt k).lt (ofInt n) = true ↔ k < n := by
  rw [lt, decide_eq_true_iff, ← not_iff_not, not_lt, not_lt]
  refine ⟨fun h => ?_, units_ofInt_le hn (log2_lt_of_lt (hk.trans (by decide)))⟩
  by_contra hlt
  have hle := units_ofInt_le (n := k + 1) (log2_lt_of_lt (by omega)) hn (by omega)
  rw [units_ofInt_of_le (n := k + 1) (by omega), Int.add_mul, Int.one_mul] at hle
  rw [units_ofInt_of_le hk.le] at h
  have := unitsOfOne_pos
  omega

end Binary64

end RenderCatalog.Decimal
