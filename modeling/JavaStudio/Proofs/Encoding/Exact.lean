import JavaStudio.Proofs.Source.ReadBack

/-!
# Bytes that are exactly those of a text

Each encoding refuses all bytes but those that it gives to some text, so that decoding and encoding
say the same about bytes and texts. Longer forms than need be, halves of pairs and single bytes at the
end are the bytes of no text.

* `Utf8.decode?_eq_some`, `Utf16.decode?_eq_some`, `decodeBelow_eq_some`: bytes are decoded to a text
  exactly if they are the bytes of that text.
* `Encoding.decode?_of_encode?`: what an encoding writes, it reads, its mark included.
-/

namespace JavaStudio

theorem toNat_ofNat_of_isValidChar {n : Nat} (h : n.isValidChar) : (Char.ofNat n).toNat = n := by
  have valid : Char.ofNat n = Char.ofNatAux n h := dif_pos h
  rw [valid]
  rfl

/-! ## UTF-8 -/

namespace Utf8

variable {a b c d : UInt8} {ch : Char} {least n : Nat}

theorem tailBits?_eq_some : tailBits? b = some n ↔ b = tail n ∧ n < 64 := by
  unfold tailBits?
  constructor
  · intro h
    split at h
    · rename_i range
      simp only [Bool.and_eq_true, decide_eq_true_eq] at range
      obtain rfl := Option.some.inj h
      refine ⟨UInt8.toNat_inj.1 ?_, by omega⟩
      rw [toNat_tail, Nat.mod_eq_of_lt (by omega)]
      omega
    · cases h
  · rintro ⟨rfl, small⟩
    rw [toNat_tail, Nat.mod_eq_of_lt small, if_pos (by simp; omega), Nat.add_sub_cancel_left]

theorem charFrom?_eq_some : charFrom? least n = some ch ↔ ch.toNat = n ∧ least ≤ n := by
  constructor
  · intro h
    unfold charFrom? at h
    by_cases valid : least ≤ n ∧ n.isValidChar
    · rw [dif_pos valid] at h
      obtain rfl := Option.some.inj h
      exact ⟨rfl, valid.1⟩
    · rw [dif_neg valid] at h
      cases h
  · rintro ⟨rfl, h⟩
    exact charFrom?_toNat h

theorem lead_eq {base k : Nat} (h : a.toNat = base + k) : UInt8.ofNat (base + k) = a := by
  rw [← h, UInt8.ofNat_toNat]

theorem tail_congr {m n : Nat} (h : m % 64 = n % 64) : tail m = tail n := by
  rw [tail, tail, h]

theorem encodeChar_two (low : 0xC0 ≤ a.toNat) (high : a.toNat < 0xE0) (h : two? a b = some ch) :
    encodeChar ch = [a, b] := by
  obtain ⟨n, hb, read⟩ := Option.bind_eq_some_iff.1 h
  obtain ⟨rfl, small⟩ := tailBits?_eq_some.1 hb
  obtain ⟨value, least⟩ := charFrom?_eq_some.1 read
  have lead : UInt8.ofNat (0xC0 + ch.toNat / 64) = a := lead_eq (by omega)
  have last : tail ch.toNat = tail n := tail_congr (by omega)
  unfold encodeChar
  simp only
  rw [if_neg (by omega), if_pos (by omega), lead, last]

theorem encodeChar_three (low : 0xE0 ≤ a.toNat) (high : a.toNat < 0xF0)
    (h : three? a b c = some ch) : encodeChar ch = [a, b, c] := by
  obtain ⟨m, hb, h⟩ := Option.bind_eq_some_iff.1 h
  obtain ⟨n, hc, read⟩ := Option.bind_eq_some_iff.1 h
  obtain ⟨rfl, smallm⟩ := tailBits?_eq_some.1 hb
  obtain ⟨rfl, smalln⟩ := tailBits?_eq_some.1 hc
  obtain ⟨value, least⟩ := charFrom?_eq_some.1 read
  have lead : UInt8.ofNat (0xE0 + ch.toNat / 4096) = a := lead_eq (by omega)
  have middle : tail (ch.toNat / 64) = tail m := tail_congr (by omega)
  have last : tail ch.toNat = tail n := tail_congr (by omega)
  unfold encodeChar
  simp only
  rw [if_neg (by omega), if_neg (by omega), if_pos (by omega), lead, middle, last]

theorem encodeChar_four (low : 0xF0 ≤ a.toNat) (high : a.toNat < 0xF8)
    (h : four? a b c d = some ch) : encodeChar ch = [a, b, c, d] := by
  obtain ⟨l, hb, h⟩ := Option.bind_eq_some_iff.1 h
  obtain ⟨m, hc, h⟩ := Option.bind_eq_some_iff.1 h
  obtain ⟨n, hd, read⟩ := Option.bind_eq_some_iff.1 h
  obtain ⟨rfl, smalll⟩ := tailBits?_eq_some.1 hb
  obtain ⟨rfl, smallm⟩ := tailBits?_eq_some.1 hc
  obtain ⟨rfl, smalln⟩ := tailBits?_eq_some.1 hd
  obtain ⟨value, least⟩ := charFrom?_eq_some.1 read
  have lead : UInt8.ofNat (0xF0 + ch.toNat / 262144) = a := lead_eq (by omega)
  have second : tail (ch.toNat / 4096) = tail l := tail_congr (by omega)
  have third : tail (ch.toNat / 64) = tail m := tail_congr (by omega)
  have last : tail ch.toNat = tail n := tail_congr (by omega)
  unfold encodeChar
  simp only
  rw [if_neg (by omega), if_neg (by omega), if_neg (by omega), lead, second, third, last]

theorem encodeChar_one (small : a.toNat < 0x80) : encodeChar (Char.ofNat a.toNat) = [a] := by
  have value : (Char.ofNat a.toNat).toNat = a.toNat :=
    toNat_ofNat_of_isValidChar (.inl (by omega))
  unfold encodeChar
  simp only [value]
  rw [if_pos small, UInt8.ofNat_toNat]

/-- Bytes that hold a text are the bytes of that text. -/
theorem eq_encode_of_decode? {bs : Bytes} {t : Text} (h : decode? bs = some t) : bs = encode t := by
  fun_induction decode? bs generalizing t with
  | case1 =>
    cases h
    rfl
  | case2 a r small ih =>
    obtain ⟨t, read, rfl⟩ := Option.map_eq_some_iff.1 h
    rw [encode_cons, encodeChar_one small, List.singleton_append, ← ih read]
  | case3 => cases h
  | case4 a notOne notTail isTwo b r ih =>
    obtain ⟨ch, first, h⟩ := Option.bind_eq_some_iff.1 h
    obtain ⟨t, read, h⟩ := Option.bind_eq_some_iff.1 h
    cases h
    rw [encode_cons, encodeChar_two (by omega) isTwo first, ← ih read]
    rfl
  | case5 => cases h
  | case6 a notOne notTail notTwo isThree b c r ih =>
    obtain ⟨ch, first, h⟩ := Option.bind_eq_some_iff.1 h
    obtain ⟨t, read, h⟩ := Option.bind_eq_some_iff.1 h
    cases h
    rw [encode_cons, encodeChar_three (by omega) isThree first, ← ih read]
    rfl
  | case7 => cases h
  | case8 a notOne notTail notTwo notThree isFour b c d r ih =>
    obtain ⟨ch, first, h⟩ := Option.bind_eq_some_iff.1 h
    obtain ⟨t, read, h⟩ := Option.bind_eq_some_iff.1 h
    cases h
    rw [encode_cons, encodeChar_four (by omega) isFour first, ← ih read]
    rfl
  | case9 => cases h
  | case10 => cases h

theorem decode?_eq_some {bs : Bytes} {t : Text} : decode? bs = some t ↔ bs = encode t :=
  ⟨eq_encode_of_decode?, fun h => h ▸ decode?_encode t⟩

end Utf8

/-! ## UTF-16 -/

namespace Utf16

variable {order : Order} {a b : UInt8} {bs : Bytes} {us : List Nat} {t : Text} {n : Nat}

theorem units?_bytesOfUnit (order : Order) (small : n < 0x10000) (bs : Bytes) :
    units? order (bytesOfUnit order n ++ bs) = (units? order bs).map (n :: ·) := by
  have low : (UInt8.ofNat (n % 256)).toNat = n % 256 :=
    UInt8.toNat_ofNat_of_lt' (Nat.mod_lt n (by decide))
  have high : (UInt8.ofNat (n / 256)).toNat = n / 256 :=
    UInt8.toNat_ofNat_of_lt' (by show n / 256 < 256; omega)
  cases order with
  | little =>
    show (units? .little bs).map (unitOfBytes .little _ _ :: ·) = _
    rw [unitOfBytes, low, high, Nat.mod_add_div]
  | big =>
    show (units? .big bs).map (unitOfBytes .big _ _ :: ·) = _
    rw [unitOfBytes, low, high, Nat.div_add_mod]

theorem units?_append (order : Order) (small : ∀ n ∈ us, n < 0x10000) (bs : Bytes) :
    units? order (us.flatMap (bytesOfUnit order) ++ bs) = (units? order bs).map (us ++ ·) := by
  induction us with
  | nil => rw [List.flatMap_nil, List.nil_append]; exact Option.map_id_apply.symm
  | cons n us ih =>
    rw [List.flatMap_cons, List.append_assoc, units?_bytesOfUnit order (small n List.mem_cons_self),
      ih fun m hm => small m (List.mem_cons_of_mem n hm), Option.map_map]
    rfl

theorem bytesOfUnit_unitOfBytes (order : Order) (a b : UInt8) :
    bytesOfUnit order (unitOfBytes order a b) = [a, b] := by
  have smalla := a.toNat_lt
  have smallb := b.toNat_lt
  cases order with
  | little =>
    have low : (a.toNat + 256 * b.toNat) % 256 = a.toNat := by omega
    have high : (a.toNat + 256 * b.toNat) / 256 = b.toNat := by omega
    simp only [bytesOfUnit, unitOfBytes, low, high, UInt8.ofNat_toNat]
  | big =>
    have low : (256 * a.toNat + b.toNat) % 256 = b.toNat := by omega
    have high : (256 * a.toNat + b.toNat) / 256 = a.toNat := by omega
    simp only [bytesOfUnit, unitOfBytes, low, high, UInt8.ofNat_toNat]

theorem unitOfBytes_lt (order : Order) (a b : UInt8) : unitOfBytes order a b < 0x10000 := by
  have smalla := a.toNat_lt
  have smallb := b.toNat_lt
  cases order <;> simp only [unitOfBytes] <;> omega

theorem eq_of_units? (h : units? order bs = some us) :
    bs = us.flatMap (bytesOfUnit order) ∧ ∀ n ∈ us, n < 0x10000 := by
  fun_induction units? order bs generalizing us with
  | case1 =>
    cases h
    exact ⟨rfl, nofun⟩
  | case2 => cases h
  | case3 a b r ih =>
    obtain ⟨us, read, rfl⟩ := Option.map_eq_some_iff.1 h
    obtain ⟨rest, small⟩ := ih read
    refine ⟨?_, fun n hn => ?_⟩
    · rw [List.flatMap_cons, bytesOfUnit_unitOfBytes, ← rest]
      rfl
    · rcases List.mem_cons.1 hn with rfl | hn
      · exact unitOfBytes_lt order a b
      · exact small n hn

theorem lt_of_mem_unitsOfChar {c : Char} (h : n ∈ unitsOfChar c) : n < 0x10000 := by
  have limit := Utf8.toNat_lt_limit c
  unfold unitsOfChar at h
  simp only at h
  split at h
  · rw [List.mem_singleton.1 h]
    assumption
  · simp only [List.mem_cons, List.not_mem_nil, or_false] at h
    omega

/-- Decoding goes past a character and goes on behind it. -/
theorem ofUnits?_unitsOfChar (c : Char) (us : List Nat) :
    ofUnits? (unitsOfChar c ++ us) = (ofUnits? us).map (c :: ·) := by
  have limit := Utf8.toNat_lt_limit c
  have noHalf : c.toNat < 0xD800 ∨ 0xDFFF < c.toNat := by
    rcases c.valid with h | ⟨h, -⟩
    · exact .inl h
    · exact .inr h
  unfold unitsOfChar
  simp only
  split
  · rw [List.singleton_append, ofUnits?.eq_def]
    simp only
    rw [if_neg (by simp; omega), if_neg (by simp; omega), Char.ofNat_toNat]
  · have whole : 0x10000 + (0xD800 + (c.toNat - 0x10000) / 0x400 - 0xD800) * 0x400 +
        (0xDC00 + (c.toNat - 0x10000) % 0x400 - 0xDC00) = c.toNat := by omega
    rw [List.cons_append, List.singleton_append, ofUnits?.eq_def]
    simp only
    rw [if_pos (by simp; omega), if_pos (by simp; omega), whole, Char.ofNat_toNat]

theorem decode?_unitsOfChar (order : Order) (c : Char) (bs : Bytes) :
    decode? order ((unitsOfChar c).flatMap (bytesOfUnit order) ++ bs) =
      (decode? order bs).map (c :: ·) := by
  unfold decode?
  rw [units?_append order fun _ => lt_of_mem_unitsOfChar]
  cases units? order bs with
  | none => rfl
  | some us => exact ofUnits?_unitsOfChar c us

theorem encode_cons (order : Order) (c : Char) (t : Text) :
    encode order (c :: t) = (unitsOfChar c).flatMap (bytesOfUnit order) ++ encode order t := by
  rw [encode, List.flatMap_cons, List.flatMap_append]
  rfl

theorem decode?_encode (order : Order) (t : Text) : decode? order (encode order t) = some t := by
  induction t with
  | nil => rfl
  | cons c t ih => rw [encode_cons, decode?_unitsOfChar, ih, Option.map_some]

theorem unitsOfChar_single (small : n < 0x10000) (notHigh : ¬ (0xD800 ≤ n ∧ n ≤ 0xDBFF))
    (notLow : ¬ (0xDC00 ≤ n ∧ n ≤ 0xDFFF)) : unitsOfChar (Char.ofNat n) = [n] := by
  have value : (Char.ofNat n).toNat = n :=
    toNat_ofNat_of_isValidChar (by unfold Nat.isValidChar; omega)
  unfold unitsOfChar
  simp only [value]
  rw [if_pos small]

theorem unitsOfChar_pair {m : Nat} (isHigh : 0xD800 ≤ n ∧ n ≤ 0xDBFF)
    (isLow : 0xDC00 ≤ m ∧ m ≤ 0xDFFF) :
    unitsOfChar (Char.ofNat (0x10000 + (n - 0xD800) * 0x400 + (m - 0xDC00))) = [n, m] := by
  have value : (Char.ofNat (0x10000 + (n - 0xD800) * 0x400 + (m - 0xDC00))).toNat =
      0x10000 + (n - 0xD800) * 0x400 + (m - 0xDC00) :=
    toNat_ofNat_of_isValidChar (by unfold Nat.isValidChar; omega)
  have high : 0xD800 + (0x10000 + (n - 0xD800) * 0x400 + (m - 0xDC00) - 0x10000) / 0x400 = n := by
    omega
  have low : 0xDC00 + (0x10000 + (n - 0xD800) * 0x400 + (m - 0xDC00) - 0x10000) % 0x400 = m := by
    omega
  unfold unitsOfChar
  simp only [value]
  rw [if_neg (by omega), high, low]

theorem eq_of_ofUnits? (small : ∀ n ∈ us, n < 0x10000) (h : ofUnits? us = some t) :
    us = t.flatMap unitsOfChar := by
  fun_induction ofUnits? us generalizing t with
  | case1 =>
    cases h
    rfl
  | case2 n isHigh m r isLow ih =>
    obtain ⟨t, read, rfl⟩ := Option.map_eq_some_iff.1 h
    have rest := ih (fun k hk => small k (by simp [hk])) read
    rw [List.flatMap_cons, unitsOfChar_pair (by simpa using isHigh) (by simpa using isLow), ← rest]
    rfl
  | case3 => cases h
  | case4 => cases h
  | case5 => cases h
  | case6 n r notHigh notLow ih =>
    obtain ⟨t, read, rfl⟩ := Option.map_eq_some_iff.1 h
    have rest := ih (fun k hk => small k (List.mem_cons_of_mem n hk)) read
    rw [List.flatMap_cons, unitsOfChar_single (small n List.mem_cons_self) (by simpa using notHigh)
      (by simpa using notLow), ← rest]
    rfl

theorem decode?_eq_some : decode? order bs = some t ↔ bs = encode order t := by
  constructor
  · intro h
    obtain ⟨us, paired, read⟩ := Option.bind_eq_some_iff.1 h
    obtain ⟨rfl, below⟩ := eq_of_units? paired
    rw [encode, eq_of_ofUnits? below read]
  · rintro rfl
    exact decode?_encode order t

end Utf16

/-! ## All encodings -/

namespace Encoding

variable {limit : Nat} {bs : Bytes} {t : Text}

theorem decodeBelow_eq_some (small : limit ≤ 256) :
    decodeBelow limit bs = some t ↔ encodeBelow limit t = some bs := by
  unfold decodeBelow encodeBelow
  constructor
  · intro h
    split at h
    · rename_i below
      obtain rfl := Option.some.inj h
      have value : ∀ b ∈ bs, (Char.ofNat b.toNat).toNat = b.toNat := fun b _ => by
        have range := b.toNat_lt
        exact toNat_ofNat_of_isValidChar (.inl (by omega))
      rw [if_pos, List.map_map, Option.some.injEq]
      · exact (List.map_congr_left fun b hb => by
          rw [Function.comp, value b hb, UInt8.ofNat_toNat, id]).trans (List.map_id bs)
      · rw [List.all_map, List.all_eq_true]
        intro b hb
        rw [Function.comp, value b hb]
        exact List.all_eq_true.1 below b hb
    · cases h
  · intro h
    split at h
    · rename_i below
      obtain rfl := Option.some.inj h
      have value : ∀ c ∈ t, (UInt8.ofNat c.toNat).toNat = c.toNat := fun c hc => by
        have range : c.toNat < limit := by simpa using List.all_eq_true.1 below c hc
        exact UInt8.toNat_ofNat_of_lt' (by show c.toNat < 256; omega)
      rw [if_pos, List.map_map, Option.some.injEq]
      · exact (List.map_congr_left fun c hc => by
          rw [Function.comp, value c hc, Char.ofNat_toNat, id]).trans (List.map_id t)
      · rw [List.all_map, List.all_eq_true]
        intro c hc
        rw [Function.comp, value c hc]
        exact List.all_eq_true.1 below c hc
    · cases h

/-- What an encoding writes, it reads. -/
theorem decode?_of_encode? {e : Encoding} (h : e.encode? t = some bs) : e.decode? bs = some t := by
  cases e with
  | utf8 =>
    cases h
    exact Utf8.decode?_encode t
  | utf8Marked =>
    cases h
    exact Utf8.decode?_encode t
  | utf16 =>
    cases h
    exact Utf16.decode?_encode _ t
  | utf16Little =>
    cases h
    exact Utf16.decode?_encode _ t
  | utf16Big =>
    cases h
    exact Utf16.decode?_encode _ t
  | latin1 => exact (decodeBelow_eq_some (Nat.le_refl _)).2 h
  | ascii => exact (decodeBelow_eq_some (by decide)).2 h

end Encoding

end JavaStudio
