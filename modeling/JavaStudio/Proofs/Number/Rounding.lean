import JavaStudio.Number.Binary64
import Mathlib.Algebra.Order.Field.Power
import Mathlib.Algebra.Order.Floor.Semifield
import Mathlib.Data.Int.Log
import Mathlib.Data.Rat.Floor
import Mathlib.Tactic.FieldSimp
import Mathlib.Tactic.Linarith
import Mathlib.Tactic.Ring

/-!
# Rounding to binary64

The rounding of a ratio, and of a decimal, depends on the rational number alone that it stands for:
it is `ofRat`, which rounds a rational number to the nearest binary64 number.

* `ofRatio_eq`, `ofDecimal_eq`: the two are `ofRat` of their value.
* `proper_ofRat`: what comes of rounding is a binary64 number.
* `ofRat_near`: a rational number that is near enough to a binary64 number is rounded to it; an error
  of half a unit in the seventeenth decimal digit is small enough.
-/

namespace JavaStudio.Binary64

variable {num den m n : Nat} {q k : Int} {negative : Bool} {r : ℚ}

/-! ## What the steps of rounding depend on -/

/-- The natural number nearest to a rational number that is not negative, a half going to the even
neighbour. -/
def evenRound (r : ℚ) : Nat :=
  if 2 * (r - ⌊r⌋₊) < 1 then ⌊r⌋₊
  else if 1 < 2 * (r - ⌊r⌋₊) then ⌊r⌋₊ + 1
  else ⌊r⌋₊ + ⌊r⌋₊ % 2

/-- What a ratio exceeds its whole part by. -/
theorem ratio_sub_whole (num : Nat) (hden : den ≠ 0) :
    (num : ℚ) / den - (num / den : Nat) = (num % den : Nat) / den := by
  have nonzero : (den : ℚ) ≠ 0 := by exact_mod_cast hden
  have split : (num : ℚ) = den * (num / den : Nat) + (num % den : Nat) := by
    exact_mod_cast (Nat.div_add_mod num den).symm
  rw [sub_eq_iff_eq_add, div_eq_iff nonzero, add_mul, div_mul_cancel₀ _ nonzero]
  linarith

theorem roundDiv_eq (hden : den ≠ 0) : roundDiv num den = evenRound (num / den) := by
  have positive : (0 : ℚ) < den := by exact_mod_cast Nat.pos_of_ne_zero hden
  have whole : ⌊(num : ℚ) / den⌋₊ = num / den := Nat.floor_div_eq_div num den
  have below : 2 * ((num % den : Nat) / (den : ℚ)) < 1 ↔ 2 * (num % den) < den := by
    rw [← mul_div_assoc, div_lt_one positive]
    exact_mod_cast Iff.rfl
  have above : 1 < 2 * ((num % den : Nat) / (den : ℚ)) ↔ den < 2 * (num % den) := by
    rw [← mul_div_assoc, one_lt_div positive]
    exact_mod_cast Iff.rfl
  unfold roundDiv evenRound
  simp only [whole, ratio_sub_whole num hden, below, above]

theorem cast_twoTo (n : Nat) : ((twoTo n : Nat) : ℚ) = 2 ^ n := Nat.cast_pow 2 n

theorem cast_tenTo (n : Nat) : ((tenTo n : Nat) : ℚ) = 10 ^ n := Nat.cast_pow 10 n

theorem scaleBinary_den (num : Nat) (hden : den ≠ 0) (q : Int) : (scaleBinary num den q).2 ≠ 0 := by
  unfold scaleBinary
  split
  · exact Nat.mul_ne_zero hden (Nat.pow_pos (by decide)).ne'
  · exact hden

theorem scaleBinary_eq (num den : Nat) (q : Int) :
    ((scaleBinary num den q).1 : ℚ) / (scaleBinary num den q).2 = num / den / 2 ^ q := by
  unfold scaleBinary
  split
  · rename_i h
    obtain ⟨k, rfl⟩ := Int.eq_ofNat_of_zero_le h
    rw [Int.toNat_natCast, zpow_natCast, Nat.cast_mul, cast_twoTo, div_div]
  · rename_i h
    obtain ⟨k, hk⟩ := Int.eq_ofNat_of_zero_le (show 0 ≤ -q by omega)
    have power : (2 : ℚ) ^ q = (2 ^ k)⁻¹ := by
      rw [show q = -(k : Int) by omega, zpow_neg, zpow_natCast]
    rw [hk, Int.toNat_natCast, power, div_inv_eq_mul, Nat.cast_mul, cast_twoTo, div_mul_eq_mul_div]

theorem lt_two_zpow_iff (positive : 0 < r) {k : Int} : r < 2 ^ k ↔ Int.log 2 r < k := by
  exact_mod_cast Int.lt_zpow_iff_log_lt (by decide) positive

theorem two_zpow_le_iff (positive : 0 < r) {k : Int} : 2 ^ k ≤ r ↔ k ≤ Int.log 2 r := by
  exact_mod_cast Int.zpow_le_iff_le_log (by decide) positive

/-- The exponent at which a positive rational number has a mantissa of 53 bits, or the least one. -/
def exponentAt (r : ℚ) : Int := max (Int.log 2 r - 52) (-1074)

theorem log_ratio (hnum : num ≠ 0) (hden : den ≠ 0) :
    (num.log2 : Int) - den.log2 - 1 ≤ Int.log 2 ((num : ℚ) / den) ∧
      Int.log 2 ((num : ℚ) / den) < num.log2 - den.log2 + 1 := by
  have positive : (0 : ℚ) < den := by exact_mod_cast Nat.pos_of_ne_zero hden
  have ratio : (0 : ℚ) < num / den := div_pos (by exact_mod_cast Nat.pos_of_ne_zero hnum) positive
  have numLow : (2 : ℚ) ^ num.log2 ≤ num := by exact_mod_cast Nat.log2_self_le hnum
  have numHigh : (num : ℚ) < 2 ^ (num.log2 + 1) := by exact_mod_cast Nat.lt_log2_self
  have denLow : (2 : ℚ) ^ den.log2 ≤ den := by exact_mod_cast Nat.log2_self_le hden
  have denHigh : (den : ℚ) < 2 ^ (den.log2 + 1) := by exact_mod_cast Nat.lt_log2_self
  constructor
  · rw [← two_zpow_le_iff ratio, le_div_iff₀ positive]
    calc (2 : ℚ) ^ ((num.log2 : Int) - den.log2 - 1) * den
        ≤ 2 ^ ((num.log2 : Int) - den.log2 - 1) * 2 ^ (den.log2 + 1) := by gcongr
      _ = 2 ^ num.log2 := by
          rw [← zpow_natCast, ← zpow_natCast, ← zpow_add₀ two_ne_zero]
          congr 1
          push_cast
          ring
      _ ≤ num := numLow
  · rw [← lt_two_zpow_iff ratio, div_lt_iff₀ positive]
    calc (num : ℚ) < 2 ^ (num.log2 + 1) := numHigh
      _ = 2 ^ ((num.log2 : Int) - den.log2 + 1) * 2 ^ den.log2 := by
          rw [← zpow_natCast, ← zpow_natCast, ← zpow_add₀ two_ne_zero]
          congr 1
          push_cast
          ring
      _ ≤ 2 ^ ((num.log2 : Int) - den.log2 + 1) * den := by gcongr

theorem exponentOf_eq (hnum : num ≠ 0) (hden : den ≠ 0) :
    exponentOf num den = exponentAt (num / den) := by
  have ratio : (0 : ℚ) < num / den := div_pos (by exact_mod_cast Nat.pos_of_ne_zero hnum)
    (by exact_mod_cast Nat.pos_of_ne_zero hden)
  have reaches : ∀ q : Int, twoTo 53 ≤ (scaleBinary num den q).1 / (scaleBinary num den q).2 ↔
      q + 53 ≤ Int.log 2 ((num : ℚ) / den) := by
    intro q
    have positive := Nat.pos_of_ne_zero (scaleBinary_den num hden q)
    rw [← two_zpow_le_iff ratio, Nat.le_div_iff_mul_le positive, ← Nat.cast_le (α := ℚ),
      Nat.cast_mul, cast_twoTo, ← le_div_iff₀ (by exact_mod_cast positive), scaleBinary_eq,
      le_div_iff₀ (by positivity), add_comm, zpow_add₀ two_ne_zero]
    exact_mod_cast Iff.rfl
  obtain ⟨low, high⟩ := log_ratio hnum hden
  unfold exponentOf exponentAt
  simp only [reaches]
  split <;> omega

/-! ## The nearest number -/

/-- The number of a rounded mantissa. One that has become too large by rounding is halved, and a
number beyond all others is infinite. -/
def packed (negative : Bool) (m : Nat) (q : Int) : Binary64 :=
  if m = twoTo 53 then
    if 971 < q + 1 then infinite negative else finite negative (twoTo 52) (q + 1)
  else if 971 < q then infinite negative
  else finite negative m q

/-- The binary64 number nearest to plus or minus a rational number that is not negative. -/
def ofRat (negative : Bool) (r : ℚ) : Binary64 :=
  if r = 0 then finite negative 0 (-1074)
  else packed negative (evenRound (r / 2 ^ exponentAt r)) (exponentAt r)

theorem ofRatio_eq (negative : Bool) (num : Nat) (hden : den ≠ 0) :
    ofRatio negative num den = ofRat negative (num / den) := by
  unfold ofRatio ofRat
  by_cases hnum : num = 0
  · rw [if_pos hnum, if_pos (by rw [hnum, Nat.cast_zero, zero_div])]
  have nonzero : (num : ℚ) / den ≠ 0 :=
    div_ne_zero (by exact_mod_cast hnum) (by exact_mod_cast hden)
  rw [if_neg hnum, if_neg nonzero]
  simp only [exponentOf_eq hnum hden, roundDiv_eq (scaleBinary_den num hden _), scaleBinary_eq]
  unfold packed
  split <;> rfl

theorem ofRat_of_large (h : (2 : ℚ) ^ (1024 : Int) ≤ r) : ofRat negative r = infinite negative := by
  have positive : 0 < r := lt_of_lt_of_le (by positivity) h
  have large : 1024 ≤ Int.log 2 r := (two_zpow_le_iff positive).1 h
  have exponent : 972 ≤ exponentAt r := by
    unfold exponentAt
    omega
  unfold ofRat packed
  rw [if_neg positive.ne', if_pos (show 971 < exponentAt r + 1 by omega),
    if_pos (show 971 < exponentAt r by omega), ite_self]

theorem evenRound_of_small (h : 2 * r < 1) : evenRound r = 0 := by
  have floor : ⌊r⌋₊ = 0 := Nat.floor_eq_zero.2 (by linarith)
  unfold evenRound
  rw [floor, Nat.cast_zero, sub_zero, if_pos h]

theorem ofRat_of_small (nonneg : 0 ≤ r) (h : r < (2 : ℚ) ^ (-1075 : Int)) :
    ofRat negative r = finite negative 0 (-1074) := by
  unfold ofRat
  rcases nonneg.eq_or_lt with rfl | positive
  · rw [if_pos rfl]
  have small : Int.log 2 r < -1075 := (lt_two_zpow_iff positive).1 h
  have exponent : exponentAt r = -1074 := by
    unfold exponentAt
    omega
  have scaled : 2 * (r / 2 ^ (-1074 : Int)) < 1 := by
    rw [← mul_div_assoc, div_lt_one (by positivity)]
    calc 2 * r < 2 * 2 ^ (-1075 : Int) := by linarith
      _ = 2 ^ (-1074 : Int) := by rw [← zpow_one_add₀ two_ne_zero]; norm_num
  rw [if_neg positive.ne', exponent, evenRound_of_small scaled]
  rfl

/-- A number lies between the powers of ten that its number of digits says. -/
theorem tenTo_le_of_digits (hn : n ≠ 0) :
    (10 : ℚ) ^ (((Nat.toDigits 10 n).length : Int) - 1) ≤ n ∧
      (n : ℚ) < 10 ^ ((Nat.toDigits 10 n).length : Int) := by
  obtain ⟨l, hl⟩ := Nat.exists_eq_add_of_le' (Nat.length_toDigits_pos (b := 10) (n := n))
  have above : ∀ k, 0 < k → ((Nat.toDigits 10 n).length ≤ k ↔ n < 10 ^ k) :=
    fun k hk => Nat.length_toDigits_le_iff (by decide) hk
  have low : 10 ^ l ≤ n := by
    rcases Nat.eq_zero_or_pos l with rfl | hpos
    · exact Nat.one_le_iff_ne_zero.2 hn
    · exact Nat.not_lt.1 fun h => by have short := (above l hpos).2 h; omega
  have high : n < 10 ^ (l + 1) := (above (l + 1) (by omega)).1 hl.le
  rw [hl, Nat.cast_add, Nat.cast_one, add_sub_cancel_right, zpow_natCast]
  constructor
  · exact_mod_cast low
  · exact_mod_cast high

theorem twoTo_le_tenTo : (2 : ℚ) ^ (1024 : Int) ≤ 10 ^ (400 : Int) := by
  exact_mod_cast (show 2 ^ 1024 ≤ 10 ^ 400 by decide +kernel)

theorem tenTo_lt_twoTo : (10 : ℚ) ^ (-400 : Int) < 2 ^ (-1075 : Int) := by
  rw [zpow_neg, zpow_neg, inv_lt_inv₀ (by positivity) (by positivity)]
  exact_mod_cast (show 2 ^ 1075 < 10 ^ 400 by decide +kernel)

/-- The number nearest to a decimal depends on its value alone. -/
theorem ofDecimal_eq (negative : Bool) (n : Nat) (k : Int) :
    ofDecimal negative n k = ofRat negative (n * 10 ^ k) := by
  unfold ofDecimal
  by_cases hn : n = 0
  · rw [if_pos hn, hn, Nat.cast_zero, zero_mul, ofRat, if_pos rfl]
  rw [if_neg hn]
  obtain ⟨low, high⟩ := tenTo_le_of_digits hn
  simp only
  generalize ((Nat.toDigits 10 n).length : Int) = l at low high
  have power : (0 : ℚ) < 10 ^ k := by positivity
  split
  · rename_i large
    refine (ofRat_of_large ?_).symm
    calc (2 : ℚ) ^ (1024 : Int) ≤ 10 ^ (400 : Int) := twoTo_le_tenTo
      _ ≤ 10 ^ (l - 1 + k) := zpow_le_zpow_right₀ (by norm_num) (by omega)
      _ = 10 ^ (l - 1) * 10 ^ k := zpow_add₀ (by norm_num) _ _
      _ ≤ n * 10 ^ k := by gcongr
  split
  · rename_i small
    refine (ofRat_of_small (by positivity) ?_).symm
    calc (n : ℚ) * 10 ^ k < 10 ^ l * 10 ^ k := by gcongr
      _ = 10 ^ (l + k) := (zpow_add₀ (by norm_num) _ _).symm
      _ ≤ 10 ^ (-400 : Int) := zpow_le_zpow_right₀ (by norm_num) (by omega)
      _ < 2 ^ (-1075 : Int) := tenTo_lt_twoTo
  split
  · rename_i nonneg
    obtain ⟨j, rfl⟩ := Int.eq_ofNat_of_zero_le nonneg
    rw [ofRatio_eq negative _ one_ne_zero, Int.toNat_natCast, Nat.cast_mul, cast_tenTo,
      Nat.cast_one, div_one, zpow_natCast]
  · rename_i negativeExponent
    obtain ⟨j, hj⟩ := Int.eq_ofNat_of_zero_le (show 0 ≤ -k by omega)
    have power : tenTo j ≠ 0 := (Nat.pow_pos (by decide)).ne'
    rw [hj, Int.toNat_natCast, ofRatio_eq negative n power, cast_tenTo,
      show k = -(j : Int) by omega, zpow_neg, zpow_natCast, div_eq_mul_inv]

/-- Rounding does not look at the sign. -/
theorem ofRat_of_positive (h : ofRat false r = finite false m q) (negative : Bool) :
    ofRat negative r = finite negative m q := by
  unfold ofRat packed at h ⊢
  split_ifs at h ⊢ <;> cases h <;> rfl

/-! ## Numbers that there are -/

/-- A finite number that there is in binary64: its mantissa has 53 bits unless its exponent is the
least one. -/
structure Representable (m : Nat) (q : Int) : Prop where
  small : m < twoTo 53
  least : -1074 ≤ q
  greatest : q ≤ 971
  normal : q = -1074 ∨ twoTo 52 ≤ m

/-- A number that there is in binary64. -/
def Proper : Binary64 → Prop
  | finite _ m q => Representable m q
  | _ => True

theorem evenRound_bounds (r : ℚ) : ⌊r⌋₊ ≤ evenRound r ∧ evenRound r ≤ ⌊r⌋₊ + 1 := by
  unfold evenRound
  split
  · omega
  split <;> omega

/-- The mantissa of a number at its exponent before rounding. -/
theorem scaled_bounds (positive : 0 < r) :
    r / 2 ^ exponentAt r < twoTo 53 ∧
      (exponentAt r = -1074 ∨ (twoTo 52 : ℚ) ≤ r / 2 ^ exponentAt r) := by
  have least : -1074 ≤ exponentAt r := le_max_right _ _
  rw [cast_twoTo, cast_twoTo, ← zpow_natCast, ← zpow_natCast]
  constructor
  · rw [div_lt_iff₀ (by positivity), ← zpow_add₀ two_ne_zero, lt_two_zpow_iff positive]
    unfold exponentAt
    omega
  · rw [le_div_iff₀ (by positivity), ← zpow_add₀ two_ne_zero, two_zpow_le_iff positive]
    unfold exponentAt
    omega

theorem proper_ofRat (negative : Bool) (nonneg : 0 ≤ r) : Proper (ofRat negative r) := by
  unfold ofRat
  rcases nonneg.eq_or_lt with rfl | positive
  · rw [if_pos rfl]
    exact ⟨by decide, le_rfl, by decide, .inl rfl⟩
  rw [if_neg positive.ne']
  obtain ⟨below, normal⟩ := scaled_bounds positive
  obtain ⟨low, high⟩ := evenRound_bounds (r / 2 ^ exponentAt r)
  have least : -1074 ≤ exponentAt r := le_max_right _ _
  have floorBelow : ⌊r / 2 ^ exponentAt r⌋₊ < twoTo 53 := (Nat.floor_lt (by positivity)).2 below
  unfold packed
  split
  · split
    · trivial
    · exact ⟨by decide, by omega, by omega, .inr le_rfl⟩
  · split
    · trivial
    · refine ⟨by omega, least, by omega, normal.imp_right fun h => ?_⟩
      exact (Nat.le_floor h).trans low

theorem proper_ofDecimal (negative : Bool) (n : Nat) (k : Int) :
    Proper (ofDecimal negative n k) := by
  rw [ofDecimal_eq]
  exact proper_ofRat negative (by positivity)

/-! ## Near a binary64 number -/

theorem evenRound_of_near (nonneg : 0 ≤ r) (h : |r - m| < 1 / 2) : evenRound r = m := by
  obtain ⟨low, high⟩ := abs_lt.1 h
  have floorLow := Nat.floor_le nonneg
  have floorHigh := Nat.lt_floor_add_one r
  have cases : ⌊r⌋₊ = m ∨ ⌊r⌋₊ + 1 = m := by
    have above : ((⌊r⌋₊ : Nat) : ℚ) < (m + 1 : Nat) := by push_cast; linarith
    have below : (m : ℚ) < (⌊r⌋₊ + 2 : Nat) := by push_cast; linarith
    have above' := Nat.cast_lt.1 above
    have below' := Nat.cast_lt.1 below
    omega
  unfold evenRound
  rcases cases with rfl | rfl
  · rw [if_pos (by linarith)]
  · push_cast at low high
    rw [if_neg (by linarith), if_pos (by linarith)]

theorem exponentAt_eq_of_lt (positive : 0 < r) (h : r < 2 ^ (53 + -1074 : Int)) :
    exponentAt r = -1074 := by
  have log := (lt_two_zpow_iff positive).1 h
  unfold exponentAt
  omega

theorem exponentAt_eq (least : -1074 ≤ q) (low : 2 ^ (52 + q) ≤ r) (high : r < 2 ^ (53 + q)) :
    exponentAt r = q := by
  have positive : 0 < r := lt_of_lt_of_le (by positivity) low
  have logLow := (two_zpow_le_iff positive).1 low
  have logHigh := (lt_two_zpow_iff positive).1 high
  unfold exponentAt
  omega

theorem ofRat_of_mantissa (representable : Representable m q) (positive : 0 < r)
    (exponent : exponentAt r = q) (near : |r / 2 ^ q - m| < 1 / 2) :
    ofRat negative r = finite negative m q := by
  unfold ofRat
  rw [if_neg positive.ne', exponent, evenRound_of_near (by positivity) near]
  unfold packed
  rw [if_neg representable.small.ne, if_neg (Int.not_lt.2 representable.greatest)]

/-- A mantissa that is rounded up to a power of two is carried over to the next exponent. -/
theorem ofRat_of_carry (greatest : q + 1 ≤ 971) (positive : 0 < r) (exponent : exponentAt r = q)
    (near : |r / 2 ^ q - 2 ^ 53| < 1 / 2) :
    ofRat negative r = finite negative (2 ^ 52) (q + 1) := by
  have rounded : evenRound (r / 2 ^ q) = twoTo 53 :=
    evenRound_of_near (by positivity) (by rwa [cast_twoTo])
  unfold ofRat
  rw [if_neg positive.ne', exponent, rounded]
  unfold packed
  rw [if_pos rfl, if_neg (Int.not_lt.2 greatest)]
  rfl

/-- A number just below a power of two, where the numbers of binary64 lie twice as close, is rounded up
to it. -/
theorem ofRat_below_power {x : ℚ} (inner : -1074 < q) (greatest : q ≤ 971)
    (low : 2 ^ 52 - 1 / 4 < x) (high : x < 2 ^ 52) :
    ofRat negative (x * 2 ^ q) = finite negative (2 ^ 52) q := by
  have positive : 0 < x * 2 ^ q := mul_pos (by linarith) (by positivity)
  have half : x * 2 ^ q = 2 * x * 2 ^ (q - 1) := by
    rw [zpow_sub₀ two_ne_zero, zpow_one]
    field_simp
  have exponent : exponentAt (x * 2 ^ q) = q - 1 := by
    refine exponentAt_eq (by omega) ?_ ?_
    · rw [half, zpow_add₀ two_ne_zero]
      exact mul_le_mul_of_nonneg_right (by norm_num; linarith) (by positivity)
    · rw [half, zpow_add₀ two_ne_zero]
      exact mul_lt_mul_of_pos_right (by norm_num; linarith) (by positivity)
  have carried : ofRat negative (x * 2 ^ q) = finite negative (2 ^ 52) (q - 1 + 1) := by
    refine ofRat_of_carry (by omega) positive exponent ?_
    rw [half, mul_div_cancel_right₀ _ (by positivity), abs_lt]
    constructor <;> linarith
  rwa [sub_add_cancel] at carried

/-- A rational number that is near enough to a binary64 number is rounded to it. -/
theorem ofRat_near (representable : Representable m q) (hm : m ≠ 0)
    (h : |r - m * 2 ^ q| ≤ m * 2 ^ q / (2 * 10 ^ 16)) : ofRat negative r = finite negative m q := by
  have unit : (0 : ℚ) < 2 ^ q := by positivity
  have positiveM : (1 : ℚ) ≤ m := by exact_mod_cast Nat.one_le_iff_ne_zero.2 hm
  have largest : (m : ℚ) ≤ 2 ^ 53 - 1 := by
    have small : ((m + 1 : Nat) : ℚ) ≤ (twoTo 53 : Nat) := Nat.cast_le.2 representable.small
    rw [cast_twoTo] at small
    push_cast at small
    linarith
  -- the number in units of the last place
  obtain ⟨x, rfl⟩ : ∃ x : ℚ, r = x * 2 ^ q := ⟨r / 2 ^ q, (div_mul_cancel₀ r unit.ne').symm⟩
  have near : |x - m| ≤ m / (2 * 10 ^ 16) := by
    rw [← sub_mul, abs_mul, abs_of_pos unit, mul_div_right_comm] at h
    exact le_of_mul_le_mul_right h unit
  obtain ⟨low, high⟩ := abs_le.1 near
  have positive : 0 < x * 2 ^ q := mul_pos (by linarith) unit
  have below : x * 2 ^ q < 2 ^ (53 + q) := by
    rw [zpow_add₀ two_ne_zero]
    exact mul_lt_mul_of_pos_right (by norm_num; linarith) unit
  have close : |x * 2 ^ q / 2 ^ q - m| < 1 / 2 := by
    rw [mul_div_cancel_right₀ _ unit.ne']
    exact lt_of_le_of_lt near (by linarith)
  by_cases least : q = -1074
  · exact ofRat_of_mantissa representable positive
      ((exponentAt_eq_of_lt positive (least ▸ below)).trans least.symm) close
  by_cases normal : 2 ^ 52 ≤ x
  · refine ofRat_of_mantissa representable positive (exponentAt_eq representable.least ?_ below) close
    rw [zpow_add₀ two_ne_zero]
    exact mul_le_mul_of_nonneg_right (by exact_mod_cast normal) unit.le
  -- below the least mantissa of a normal number only that mantissa is near
  obtain rfl : m = 2 ^ 52 := by
    have floor : 2 ^ 52 ≤ m := representable.normal.resolve_left least
    have ceiling : (m : ℚ) < (2 ^ 52 + 1 : Nat) := by push_cast; linarith
    have ceiling' := Nat.cast_lt.1 ceiling
    omega
  push_cast at low
  have inside := representable.least
  exact ofRat_below_power (by omega) representable.greatest (by linarith) (not_le.1 normal)

end JavaStudio.Binary64
