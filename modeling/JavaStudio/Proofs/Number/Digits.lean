import JavaStudio.Json.Reader
import JavaStudio.Number.Shortest
import Mathlib.Data.List.TakeWhile
import Mathlib.Tactic.Ring

/-!
# Rows of digits

The digits of a natural number stand for it, the first one is not zero, and the zeros at their end can
be dropped and counted.
-/

namespace JavaStudio

namespace Json

variable {n : Nat} {c : Char} {ds r : Text}

/-- A text of ASCII digits. -/
def Digits (ds : Text) : Prop := ∀ c ∈ ds, isAsciiDigit c = true

/-- A text that does not go on with a digit. -/
def NoDigit (r : Text) : Prop := ∀ c t, r = c :: t → isAsciiDigit c = false

theorem isAsciiDigit_iff : isAsciiDigit c = true ↔ c.isDigit = true := by
  unfold isAsciiDigit Char.isDigit
  simp only [Bool.and_eq_true, decide_eq_true_eq, Char.le_def]

theorem digits_ofNat (n : Nat) : Digits (Text.ofNat n) := fun _ hc =>
  isAsciiDigit_iff.2 (Nat.isDigit_of_mem_toDigits (by decide) (by decide) hc)

theorem takeWhile_digits (digits : Digits ds) (stop : NoDigit r) :
    (ds ++ r).takeWhile isAsciiDigit = ds ∧ (ds ++ r).dropWhile isAsciiDigit = r := by
  induction ds with
  | nil =>
    cases r with
    | nil => exact ⟨rfl, rfl⟩
    | cons c r =>
      have other := stop c r rfl
      rw [List.nil_append, List.takeWhile_cons_of_neg (by simp [other]),
        List.dropWhile_cons_of_neg (by simp [other])]
      exact ⟨rfl, rfl⟩
  | cons c ds ih =>
    have digit := digits c List.mem_cons_self
    obtain ⟨taken, dropped⟩ := ih fun d hd => digits d (List.mem_cons_of_mem c hd)
    rw [List.cons_append, List.takeWhile_cons_of_pos digit, List.dropWhile_cons_of_pos digit, taken,
      dropped]
    exact ⟨rfl, rfl⟩

/-! ## What they stand for -/

theorem decimal_eq (ds : Text) : decimal ds = Nat.ofDigitChars 10 ds 0 := by
  rw [Nat.ofDigitChars_eq_foldl, decimal, Text.digitsValue, List.foldl_map]
  rfl

theorem decimal_ofNat (n : Nat) : decimal (Text.ofNat n) = n := by
  rw [decimal_eq]
  exact Nat.ofDigitChars_ten_toDigits

theorem decimal_append (a b : Text) : decimal (a ++ b) = decimal a * 10 ^ b.length + decimal b := by
  rw [decimal_eq, decimal_eq, decimal_eq, Nat.ofDigitChars_append,
    Nat.ofDigitChars_eq_ofDigitChars_zero, Nat.mul_comm]

theorem decimal_zeros (z : Nat) : decimal (List.replicate z '0') = 0 := by
  rw [decimal_eq, Nat.ofDigitChars_replicate_zero, Nat.mul_zero]

theorem decimal_append_zeros (ds : Text) (z : Nat) :
    decimal (ds ++ List.replicate z '0') = decimal ds * 10 ^ z := by
  rw [decimal_append, decimal_zeros, Nat.add_zero, List.length_replicate]

theorem decimal_zeros_append (z : Nat) (ds : Text) :
    decimal (List.replicate z '0' ++ ds) = decimal ds := by
  rw [decimal_append, decimal_zeros, Nat.zero_mul, Nat.zero_add]

theorem decimal_lt (digits : Digits ds) : decimal ds < 10 ^ ds.length := by
  induction ds with
  | nil => decide
  | cons c ds ih =>
    have rest := ih fun d hd => digits d (List.mem_cons_of_mem c hd)
    have digit : decimal [c] < 10 := by
      have range := isAsciiDigit_iff.1 (digits c List.mem_cons_self)
      simp only [Char.isDigit, Bool.and_eq_true, decide_eq_true_eq, ge_iff_le,
        UInt32.le_iff_toNat_le] at range
      show 10 * 0 + (c.toNat - 48) < 10
      have below : c.toNat ≤ 57 := range.2
      omega
    have room : decimal [c] * 10 ^ ds.length ≤ 9 * 10 ^ ds.length :=
      Nat.mul_le_mul_right _ (by omega)
    rw [← List.singleton_append, decimal_append, List.length_append, List.length_singleton, pow_add,
      pow_one]
    omega

/-! ## The digits of a number -/

theorem ofNat_ne_nil (n : Nat) : Text.ofNat n ≠ [] := Nat.toDigits_ne_nil

/-- Only zero begins with the digit zero. -/
theorem ofNat_head (h : Text.ofNat n = '0' :: ds) : ds = [] := by
  have digits : Digits ds := fun c hc => digits_ofNat n c (h ▸ List.mem_cons_of_mem _ hc)
  have value : decimal ds = n := by
    have whole := decimal_ofNat n
    rw [h] at whole
    exact (decimal_zeros_append 1 ds).symm.trans whole
  by_contra more
  have short : (Text.ofNat n).length ≤ ds.length :=
    (Nat.length_toDigits_le_iff (by decide) (List.length_pos_iff.2 more)).2 (value ▸ decimal_lt digits)
  rw [h, List.length_cons] at short
  omega

theorem takeWhile_zeros (ds : Text) :
    ds.takeWhile (· == '0') = List.replicate (ds.takeWhile (· == '0')).length '0' :=
  List.eq_replicate_iff.2 ⟨rfl, fun _ hc => by simpa using List.mem_takeWhile_imp hc⟩

/-- The digits of a number are those that are kept and zeros. -/
theorem dropZeros_spec (n : Nat) : ∃ z,
    Text.ofNat n = Binary64.dropZeros (Text.ofNat n) ++ List.replicate z '0' ∧
      Binary64.dropZeros (Text.ofNat n) ≠ [] := by
  have split : Text.ofNat n = ((Text.ofNat n).reverse.dropWhile (· == '0')).reverse ++
      List.replicate ((Text.ofNat n).reverse.takeWhile (· == '0')).length '0' := by
    conv_lhs => rw [← List.reverse_reverse (Text.ofNat n),
      ← List.takeWhile_append_dropWhile (p := (· == '0')) (l := (Text.ofNat n).reverse)]
    rw [List.reverse_append, takeWhile_zeros, List.reverse_replicate, List.length_replicate]
  unfold Binary64.dropZeros
  split
  · rename_i none
    rw [none, List.nil_append] at split
    have zero : n = 0 := by
      rw [← decimal_ofNat n, split, decimal_zeros]
    exact ⟨0, by rw [zero]; rfl, List.cons_ne_nil _ _⟩
  · rename_i some
    exact ⟨_, split, some⟩

end Json

end JavaStudio
