import JavaStudio.Number.Shortest
import JavaStudio.Proofs.Number.Rounding
import Mathlib.Data.Nat.Cast.Order.Field

/-!
# The shortest decimal reads back

With seventeen digits the decimal next to a binary64 number is near enough to be rounded to it, so the
search for the shortest one ends with a decimal that reads back.
-/

namespace JavaStudio.Binary64

variable {num den m : Nat} {q : Int}

theorem scaleDecimal_den (num : Nat) (hden : den ≠ 0) (k : Int) : (scaleDecimal num den k).2 ≠ 0 := by
  unfold scaleDecimal
  split
  · exact Nat.mul_ne_zero hden (Nat.pow_pos (by decide)).ne'
  · exact hden

theorem scaleDecimal_eq (num den : Nat) (k : Int) :
    ((scaleDecimal num den k).1 : ℚ) / (scaleDecimal num den k).2 = num / den / 10 ^ k := by
  unfold scaleDecimal
  split
  · rename_i h
    obtain ⟨j, rfl⟩ := Int.eq_ofNat_of_zero_le h
    rw [Int.toNat_natCast, zpow_natCast, Nat.cast_mul, cast_tenTo, div_div]
  · rename_i h
    obtain ⟨j, hj⟩ := Int.eq_ofNat_of_zero_le (show 0 ≤ -k by omega)
    have power : (10 : ℚ) ^ k = (10 ^ j)⁻¹ := by
      rw [show k = -(j : Int) by omega, zpow_neg, zpow_natCast]
    rw [hj, Int.toNat_natCast, power, div_inv_eq_mul, Nat.cast_mul, cast_tenTo, div_mul_eq_mul_div]

/-! ## The first digit -/

theorem leadingZeros_spec {bound : Nat} (h : den ≤ num * 10 ^ bound) :
    den ≤ num * 10 ^ (leadingZeros num den bound + 1) := by
  induction bound generalizing num with
  | zero =>
    rw [pow_zero, mul_one] at h
    rw [leadingZeros, zero_add, pow_one]
    omega
  | succ bound ih =>
    rw [leadingZeros]
    split
    · rename_i first
      rwa [zero_add, pow_one]
    · rw [pow_succ', ← mul_assoc] at h ⊢
      exact ih h

/-- A number has its first digit where `magnitude` says, or before. -/
theorem magnitude_le (hden : den ≠ 0) (h : den ≤ num * 10 ^ 400) :
    (10 : ℚ) ^ (magnitude num den - 1) ≤ num / den := by
  have positive : (0 : ℚ) < den := by exact_mod_cast Nat.pos_of_ne_zero hden
  unfold magnitude
  split
  · rename_i large
    have whole : num / den ≠ 0 := (Nat.div_pos large (Nat.pos_of_ne_zero hden)).ne'
    exact (tenTo_le_of_digits whole).1.trans Nat.cast_div_le
  · have first : (den : ℚ) ≤ num * 10 ^ (leadingZeros num den 400 + 1) := by
      exact_mod_cast leadingZeros_spec h
    rw [le_div_iff₀ positive, ← neg_add', zpow_neg, inv_mul_le_iff₀ (by positivity), mul_comm]
    exact_mod_cast first

/-! ## The search -/

/-- The nearer neighbour is at most half a unit away. -/
theorem nearest_spec (num : Nat) (hden : den ≠ 0) :
    ∃ c cs, nearest num den = c :: cs ∧ |(num : ℚ) / den - c| ≤ 1 / 2 := by
  have positive : (0 : ℚ) < den := by exact_mod_cast Nat.pos_of_ne_zero hden
  have rest := ratio_sub_whole num hden
  have nonneg : (0 : ℚ) ≤ (num % den : Nat) / den := by positivity
  have below : ((num % den : Nat) : ℚ) / den < 1 := by
    rw [div_lt_one positive]
    exact_mod_cast Nat.mod_lt num (Nat.pos_of_ne_zero hden)
  unfold nearest
  simp only
  split
  · rename_i low
    refine ⟨_, _, rfl, ?_⟩
    have half : ((num % den : Nat) : ℚ) / den ≤ 1 / 2 := by
      rw [div_le_div_iff₀ positive two_pos, one_mul]
      have small : num % den * 2 ≤ den := by
        simp only [Bool.or_eq_true, Bool.and_eq_true, decide_eq_true_eq] at low
        omega
      exact_mod_cast small
    rw [rest, abs_of_nonneg nonneg]
    exact half
  · rename_i high
    refine ⟨_, _, rfl, ?_⟩
    have half : 1 / 2 ≤ ((num % den : Nat) : ℚ) / den := by
      rw [div_le_div_iff₀ two_pos positive, one_mul]
      have large : den ≤ num % den * 2 := by
        simp only [Bool.or_eq_true, Bool.and_eq_true, decide_eq_true_eq] at high
        omega
      exact_mod_cast large
    push_cast
    rw [← sub_sub, rest, abs_of_nonpos (by linarith)]
    linarith

theorem mem_neighbours {x : Binary64} {k : Int} {c : Nat} : c ∈ neighbours x num den k ↔
    c ∈ nearest (scaleDecimal num den k).1 (scaleDecimal num den k).2 ∧ ofDecimal false c k = x := by
  unfold neighbours
  rw [List.mem_filter, decide_eq_true_eq]

/-- The search ends with a decimal that reads back if a grid within reach has one. -/
theorem searchFrom_spec {x : Binary64} {e : Int} {count tries j : Nat} (reach : j < tries)
    (found : neighbours x num den (e - (count + j : Nat)) ≠ []) :
    ofDecimal false (searchFrom x num den e count tries).1 (searchFrom x num den e count tries).2 =
      x := by
  induction tries generalizing count j with
  | zero => cases reach
  | succ tries ih =>
    rw [searchFrom]
    split
    · rename_i c cs hc
      have member : c ∈ neighbours x num den (e - count) := by rw [hc]; exact List.mem_cons_self
      exact (mem_neighbours.1 member).2
    · rename_i none
      cases j with
      | zero => exact absurd none found
      | succ j =>
        refine ih (j := j) (by omega) ?_
        rwa [Nat.add_assoc, Nat.add_comm 1 j]

/-- With seventeen digits the nearer neighbour is near enough. -/
theorem neighbours_seventeen {e : Int} (representable : Representable m q) (hm : m ≠ 0)
    (hden : den ≠ 0) (value : (num : ℚ) / den = m * 2 ^ q) (first : (10 : ℚ) ^ (e - 1) ≤ num / den) :
    neighbours (finite false m q) num den (e - 17) ≠ [] := by
  obtain ⟨c, cs, hc, near⟩ := nearest_spec (scaleDecimal num den (e - 17)).1
    (scaleDecimal_den num hden (e - 17))
  rw [scaleDecimal_eq, value] at near
  rw [value] at first
  have grid : (0 : ℚ) < 10 ^ (e - 17) := by positivity
  have inUnits : (c : ℚ) * 10 ^ (e - 17) - m * 2 ^ q =
      -((m * 2 ^ q / 10 ^ (e - 17) - c) * 10 ^ (e - 17)) := by
    rw [sub_mul, div_mul_cancel₀ _ grid.ne', neg_sub]
  have upToFirst : (10 : ℚ) ^ (e - 17) * 10 ^ 16 = 10 ^ (e - 1) := by
    rw [← zpow_natCast, ← zpow_add₀ (by norm_num)]
    congr 1
    push_cast
    ring
  have close : |(c : ℚ) * 10 ^ (e - 17) - m * 2 ^ q| ≤ m * 2 ^ q / (2 * 10 ^ 16) := by
    rw [inUnits, abs_neg, abs_mul, abs_of_pos grid, le_div_iff₀ (by norm_num)]
    calc |(m : ℚ) * 2 ^ q / 10 ^ (e - 17) - c| * 10 ^ (e - 17) * (2 * 10 ^ 16)
        ≤ 1 / 2 * 10 ^ (e - 17) * (2 * 10 ^ 16) := by gcongr
      _ = 10 ^ (e - 17) * 10 ^ 16 := by ring
      _ = 10 ^ (e - 1) := upToFirst
      _ ≤ m * 2 ^ q := first
  have reads : ofDecimal false c (e - 17) = finite false m q := by
    rw [ofDecimal_eq]
    exact ofRat_near representable hm close
  exact List.ne_nil_of_mem (mem_neighbours.2 ⟨hc ▸ List.mem_cons_self, reads⟩)

theorem reach_of_representable (representable : Representable m q) (hm : m ≠ 0) (hden : den ≠ 0)
    (value : (num : ℚ) / den = m * 2 ^ q) : den ≤ num * 10 ^ 400 := by
  have positive : (0 : ℚ) < den := by exact_mod_cast Nat.pos_of_ne_zero hden
  have one : (1 : ℚ) ≤ m := by exact_mod_cast Nat.one_le_iff_ne_zero.2 hm
  have least : (10 : ℚ) ^ (-400 : Int) ≤ num / den := by
    rw [value]
    calc (10 : ℚ) ^ (-400 : Int) ≤ 2 ^ (-1075 : Int) := tenTo_lt_twoTo.le
      _ ≤ 2 ^ q := zpow_le_zpow_right₀ one_le_two (by have := representable.least; omega)
      _ ≤ m * 2 ^ q := le_mul_of_one_le_left (by positivity) one
  rw [le_div_iff₀ positive, zpow_neg, inv_mul_le_iff₀ (by positivity), mul_comm] at least
  exact_mod_cast least

/-- The shortest decimal of a number reads back as the number. -/
theorem ofDecimal_shortest (representable : Representable m q) (negative : Bool) :
    ofDecimal negative (shortest m q).1 (shortest m q).2 = finite negative m q := by
  by_cases hm : m = 0
  · subst hm
    have least : q = -1074 := representable.normal.resolve_right (by decide)
    rw [least]
    rfl
  suffices positive : ofDecimal false (shortest m q).1 (shortest m q).2 = finite false m q by
    rw [ofDecimal_eq] at positive ⊢
    exact ofRat_of_positive positive negative
  have value := scaleBinary_eq m 1 (-q)
  have hden := scaleBinary_den m one_ne_zero (-q)
  rw [Nat.cast_one, div_one, zpow_neg, div_inv_eq_mul] at value
  have first := magnitude_le hden (reach_of_representable representable hm hden value)
  unfold shortest
  rw [if_neg hm]
  exact searchFrom_spec (j := 16) (by decide)
    (neighbours_seventeen representable hm hden value first)

end JavaStudio.Binary64
