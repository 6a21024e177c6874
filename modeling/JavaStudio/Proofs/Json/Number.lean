import JavaStudio.Proofs.Number.Digits
import JavaStudio.Proofs.Number.Shortest

/-!
# Numbers read back

A written number is read as that number, whatever comes after it: an integer digit by digit, a binary64
number because its digits are laid out without changing their value, and that value is rounded back.

* `unsignedNumber_ofNat`, `unsignedNumber_layout`: the two forms without their signs.
-/

namespace JavaStudio.Json

open Binary64

variable {n : Nat} {k e : Int} {negative : Bool} {c : Char} {ds fs r : Text}

/-- A text after a value: nothing, a comma or the next line. -/
def Ends (r : Text) : Prop := ∀ c t, r = c :: t → c = ',' ∨ c = '\n'

theorem Ends.noDigit (h : Ends r) : NoDigit r := by
  intro c t hr
  rcases h c t hr with rfl | rfl <;> rfl

theorem Ends.fraction (h : Ends r) : fraction r = ([], r) := by
  rcases r with _ | ⟨c, t⟩
  · rfl
  · rcases h c t rfl with rfl | rfl <;> rfl

theorem Ends.exponent? (h : Ends r) : exponent? r = none := by
  rcases r with _ | ⟨c, t⟩
  · rfl
  · rcases h c t rfl with rfl | rfl <;> rfl

theorem noDigit_cons (h : isAsciiDigit c = false) : NoDigit (c :: r) := by
  rintro _ _ ⟨⟩
  exact h

/-! ## The parts of a number -/

/-- A row of digits that is read as one integer part: a zero stands alone. -/
structure Whole (ds : Text) : Prop where
  nonempty : ds ≠ []
  digits : Digits ds
  lead : ∀ t, ds = '0' :: t → t = []

theorem whole_ofNat (n : Nat) : Whole (Text.ofNat n) where
  nonempty := ofNat_ne_nil n
  digits := digits_ofNat n
  lead _ h := ofNat_head h

theorem whole_zero : Whole ['0'] where
  nonempty := List.cons_ne_nil _ _
  digits := by
    intro c hc
    rw [List.mem_singleton.1 hc]
    rfl
  lead := by
    rintro _ ⟨⟩
    rfl

theorem unsignedNumber_whole (whole : Whole ds) (stop : NoDigit r) :
    unsignedNumber negative (ds ++ r) = numberRest negative ds r := by
  obtain ⟨nonempty, digits, lead⟩ := whole
  rcases ds with _ | ⟨c, t⟩
  · exact absurd rfl nonempty
  by_cases zero : c = '0'
  · subst zero
    rw [lead t rfl]
    rfl
  · obtain ⟨taken, dropped⟩ := takeWhile_digits (r := r)
      (fun d hd => digits d (List.mem_cons_of_mem c hd)) stop
    rw [List.cons_append, unsignedNumber, if_pos (digits c List.mem_cons_self), taken, dropped]
    exact zero

theorem fraction_digits (nonempty : fs ≠ []) (digits : Digits fs) (stop : NoDigit r) :
    fraction ('.' :: (fs ++ r)) = (fs, r) := by
  rcases fs with _ | ⟨c, t⟩
  · exact absurd rfl nonempty
  · obtain ⟨taken, dropped⟩ := takeWhile_digits (r := r)
      (fun d hd => digits d (List.mem_cons_of_mem c hd)) stop
    rw [List.cons_append, fraction, if_pos (digits c List.mem_cons_self), taken, dropped]

/-- A number with a fraction and no exponent. -/
theorem numberRest_fraction (nonempty : fs ≠ []) (digits : Digits fs) (ends : Ends r) :
    numberRest negative ds ('.' :: (fs ++ r)) =
      .ok (.float (.ofDecimal negative (decimal (ds ++ fs)) (-fs.length)), r) := by
  unfold numberRest
  rw [fraction_digits nonempty digits ends.noDigit]
  simp only [ends.exponent?]

theorem exponentDigits_digits (nonempty : ds ≠ []) (digits : Digits ds) (stop : NoDigit r) :
    exponentDigits negative (ds ++ r) =
      some (if negative then -(decimal ds : Int) else decimal ds, r) := by
  obtain ⟨taken, dropped⟩ := takeWhile_digits digits stop
  unfold exponentDigits
  rw [taken, dropped]
  split
  · exact absurd rfl nonempty
  · rfl

theorem exponent?_exponentText (e : Int) (stop : NoDigit r) :
    exponent? ('e' :: (exponentText e ++ r)) = some (e, r) := by
  unfold exponentText
  simp only
  generalize hds : (if (Text.ofNat e.natAbs).length < 2 then '0' :: Text.ofNat e.natAbs
    else Text.ofNat e.natAbs) = ds
  have digits : Digits ds := by
    rw [← hds]
    split
    · intro c hc
      rcases List.mem_cons.1 hc with rfl | hc
      · rfl
      · exact digits_ofNat _ c hc
    · exact digits_ofNat _
  have nonempty : ds ≠ [] := by
    rw [← hds]
    split
    · exact List.cons_ne_nil _ _
    · exact ofNat_ne_nil _
  have value : decimal ds = e.natAbs := by
    rw [← hds]
    split
    · exact (decimal_zeros_append 1 _).trans (decimal_ofNat _)
    · exact decimal_ofNat _
  rw [List.cons_append]
  by_cases negative : e < 0
  · rw [if_pos negative]
    show exponentDigits true (ds ++ r) = _
    rw [exponentDigits_digits nonempty digits stop, value, if_pos rfl]
    congr 2
    omega
  · rw [if_neg negative]
    show exponentDigits false (ds ++ r) = _
    rw [exponentDigits_digits nonempty digits stop, value, if_neg Bool.false_ne_true]
    congr 2
    omega

/-- Digits behind a point, if there are any. -/
def pointed : Text → Text
  | [] => []
  | fs => '.' :: fs

/-- A number with an exponent. -/
theorem numberRest_exponent (digits : Digits fs) (stop : NoDigit r) :
    numberRest negative ds (pointed fs ++ 'e' :: (exponentText e ++ r)) =
      .ok (.float (.ofDecimal negative (decimal (ds ++ fs)) (e - fs.length)), r) := by
  have parted : fraction (pointed fs ++ 'e' :: (exponentText e ++ r)) =
      (fs, 'e' :: (exponentText e ++ r)) := by
    cases fs with
    | nil => rfl
    | cons c t => exact fraction_digits (List.cons_ne_nil c t) digits (noDigit_cons rfl)
  unfold numberRest
  rw [parted]
  simp only [exponent?_exponentText e stop]

/-! ## Integers -/

/-- A natural number is read back if it has no more digits than are read. -/
theorem unsignedNumber_ofNat (short : (Text.ofNat n).length ≤ Text.maxDigits) (ends : Ends r) :
    unsignedNumber negative (Text.ofNat n ++ r) =
      .ok (.int (if negative then -(n : Int) else n), r) := by
  rw [unsignedNumber_whole (whole_ofNat n) ends.noDigit]
  unfold numberRest
  rw [ends.fraction]
  simp only [ends.exponent?]
  rw [if_neg (Nat.not_lt.2 short), decimal_ofNat]

/-! ## Binary64 numbers -/

/-- Decimals of the same value are rounded to the same number. -/
theorem ofDecimal_congr {a b : Nat} {i j : Int} (h : (a : ℚ) * 10 ^ i = b * 10 ^ j) :
    ofDecimal negative a i = ofDecimal negative b j := by
  rw [ofDecimal_eq, ofDecimal_eq, h]

theorem digits_replicate (z : Nat) : Digits (List.replicate z '0') := by
  intro c hc
  rw [List.eq_of_mem_replicate hc]
  rfl

theorem Digits.append (h : Digits ds) (h' : Digits fs) : Digits (ds ++ fs) := fun c hc =>
  (List.mem_append.1 hc).elim (h c) (h' c)

/-- The digits of a number other than zero that are laid out, and the place `point` of their point. -/
structure Laid (n : Nat) (k : Int) (ds : Text) (point : Int) : Prop where
  nonempty : ds ≠ []
  digits : Digits ds
  lead : ∀ t, ds ≠ '0' :: t
  value : (decimal ds : ℚ) * 10 ^ (point - ds.length) = n * 10 ^ k

theorem laid_dropZeros (hn : n ≠ 0) (k : Int) :
    Laid n k (dropZeros (Text.ofNat n)) ((Text.ofNat n).length + k) := by
  obtain ⟨z, all, nonempty⟩ := dropZeros_spec n
  generalize dropZeros (Text.ofNat n) = ds at all nonempty ⊢
  have value : n = decimal ds * 10 ^ z := by
    rw [← decimal_append_zeros, ← all, decimal_ofNat]
  refine ⟨nonempty, fun c hc => digits_ofNat n c (all ▸ List.mem_append_left _ hc), ?_, ?_⟩
  · rintro t rfl
    have rest : t ++ List.replicate z '0' = [] := ofNat_head all
    rw [(List.append_eq_nil_iff.1 rest).1] at value
    exact hn (value.trans (Nat.zero_mul _))
  · have length : ((Text.ofNat n).length : Int) + k - ds.length = z + k := by
      rw [all, List.length_append, List.length_replicate]
      push_cast
      ring
    rw [length, value, zpow_add₀ (by norm_num), zpow_natCast]
    push_cast
    ring

/-- Digits and an exponent. -/
theorem unsignedNumber_scientific {point : Int} (laid : Laid n k ds point) (stop : NoDigit r) :
    unsignedNumber negative
        (ds.take 1 ++ pointed (ds.drop 1) ++ 'e' :: exponentText (point - 1) ++ r) =
      .ok (.float (.ofDecimal negative n k), r) := by
  obtain ⟨nonempty, digits, lead, value⟩ := laid
  rcases ds with _ | ⟨d, fs⟩
  · exact absurd rfl nonempty
  have first : Whole [d] := ⟨List.cons_ne_nil d [], fun c hc => digits c (by
    rw [List.mem_singleton.1 hc]; exact List.mem_cons_self), fun t h => (List.cons.inj h).2.symm⟩
  have rest : Digits fs := fun c hc => digits c (List.mem_cons_of_mem d hc)
  have place : point - 1 - fs.length = point - (d :: fs).length := by
    rw [List.length_cons]
    push_cast
    ring
  rw [List.append_assoc, List.append_assoc, List.cons_append, List.take_succ_cons, List.take_zero,
    List.drop_succ_cons, List.drop_zero, unsignedNumber_whole first, numberRest_exponent rest stop,
    place, List.singleton_append, ofDecimal_congr value]
  cases fs with
  | nil => exact noDigit_cons rfl
  | cons c t => exact noDigit_cons rfl

/-- Digits behind the point. -/
theorem unsignedNumber_small {point : Int} (laid : Laid n k ds point) (small : point ≤ 0)
    (ends : Ends r) :
    unsignedNumber negative ('0' :: '.' :: List.replicate (-point).toNat '0' ++ ds ++ r) =
      .ok (.float (.ofDecimal negative n k), r) := by
  obtain ⟨nonempty, digits, -, value⟩ := laid
  have place : (-(List.replicate (-point).toNat '0' ++ ds).length : Int) = point - ds.length := by
    rw [List.length_append, List.length_replicate]
    push_cast
    omega
  have read := @numberRest_fraction negative ['0'] _ r (fun h =>
    nonempty (List.append_eq_nil_iff.1 h).2) ((digits_replicate (-point).toNat).append digits) ends
  rw [place, ← List.append_assoc, show (['0'] : Text) = List.replicate 1 '0' from rfl,
    List.replicate_append_replicate, decimal_zeros_append, ofDecimal_congr value] at read
  rw [← read]
  exact unsignedNumber_whole whole_zero (noDigit_cons rfl)

/-- Digits with the point between them, or behind them and zeros. -/
theorem unsignedNumber_positional {point : Nat} (laid : Laid n k ds point) (positive : 0 < point)
    (ends : Ends r) :
    unsignedNumber negative (ds.take point ++
        List.replicate (point - (ds.take point).length) '0' ++
          '.' :: (if (ds.drop point).isEmpty then ['0'] else ds.drop point) ++ r) =
      .ok (.float (.ofDecimal negative n k), r) := by
  obtain ⟨nonempty, digits, lead, value⟩ := laid
  have whole : Whole (ds.take point ++ List.replicate (point - (ds.take point).length) '0') := by
    rcases ds with _ | ⟨d, ds⟩
    · exact absurd rfl nonempty
    obtain ⟨p, rfl⟩ := Nat.exists_eq_add_of_le' positive
    refine ⟨List.cons_ne_nil _ _, fun c hc => ?_, fun t ht => ?_⟩
    · rcases List.mem_append.1 hc with hc | hc
      · exact digits c (List.mem_of_mem_take hc)
      · exact digits_replicate _ c hc
    · rw [List.take_succ_cons, List.cons_append] at ht
      exact absurd (by rw [(List.cons.inj ht).1]) (lead ds)
  rw [List.append_assoc, List.cons_append, unsignedNumber_whole whole (noDigit_cons rfl)]
  by_cases short : ds.length ≤ point
  · have behind : ds.drop point = [] := List.drop_eq_nil_of_le short
    rw [behind, List.isEmpty_nil, if_pos rfl, List.take_of_length_le short,
      numberRest_fraction (List.cons_ne_nil _ _) whole_zero.digits ends, List.append_assoc,
      ← List.replicate_succ', decimal_append_zeros]
    refine congrArg (fun x => Except.ok (Number.float x, r)) (ofDecimal_congr ?_)
    obtain ⟨j, rfl⟩ := Nat.exists_eq_add_of_le short
    rw [← value, Nat.add_sub_cancel_left, List.length_singleton, Nat.cast_add, add_sub_cancel_left,
      Nat.cast_mul, Nat.cast_pow, Nat.cast_ofNat, pow_succ, zpow_natCast, Nat.cast_one, zpow_neg,
      zpow_one, mul_assoc, mul_assoc, mul_inv_cancel₀ (by norm_num), mul_one]
  · have some : ds.drop point ≠ [] := fun h => short (List.drop_eq_nil_iff.1 h)
    have length : (ds.take point).length = point := List.length_take_of_le (by omega)
    rw [List.isEmpty_eq_false_iff.2 some, if_neg Bool.false_ne_true, length, Nat.sub_self,
      List.replicate_zero, List.append_nil, numberRest_fraction some (fun c hc =>
        digits c (List.mem_of_mem_drop hc)) ends, List.take_append_drop]
    refine congrArg (fun x => Except.ok (Number.float x, r)) (ofDecimal_congr ?_)
    rw [← value, List.length_drop]
    congr 2
    omega

/-- A binary64 number that is laid out in any of the three ways is read with its value. -/
theorem unsignedNumber_layout (n : Nat) (k : Int) (ends : Ends r) :
    unsignedNumber negative (layout n k ++ r) = .ok (.float (.ofDecimal negative n k), r) := by
  by_cases hn : n = 0
  · subst hn
    have zero : layout 0 k = ['0'] ++ ['.', '0'] := rfl
    rw [zero]
    show unsignedNumber negative (['0'] ++ '.' :: (['0'] ++ r)) = _
    rw [unsignedNumber_whole whole_zero (noDigit_cons rfl)]
    refine (numberRest_fraction (List.cons_ne_nil '0' []) whole_zero.digits ends).trans ?_
    rfl
  have laid := laid_dropZeros hn k
  unfold layout
  simp only [if_neg hn]
  generalize dropZeros (Text.ofNat n) = ds, (Text.ofNat n).length + k = point at laid ⊢
  split
  · exact unsignedNumber_scientific laid ends.noDigit
  split
  · rename_i small
    exact unsignedNumber_small laid small ends
  · rename_i positive
    obtain ⟨p, rfl⟩ := Int.eq_ofNat_of_zero_le (Int.le_of_lt (Int.not_le.1 positive))
    exact unsignedNumber_positional laid (by omega) ends

end JavaStudio.Json
