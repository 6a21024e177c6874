import JavaStudio.Json.Printer
import JavaStudio.Proofs.Encoding.Exact
import JavaStudio.Proofs.Json.Number

/-!
# Strings and other scalars read back

Every character of a string is read back from the way in which it is written: as it is, behind a
backslash, as the four digits of its UTF-16 unit, or as two such units. So is half of a pair by itself,
unless the two halves of a pair stand next to each other: those are read as its character.

* `body_wideText`: a string is read back up to its closing quote.
* `scalar_numberText`: so is what is written of a number, a truth value or null.
-/

namespace JavaStudio.Json

variable {c : Char} {n steps : Nat} {r t : Text} {done : List Letter} {half : Half} {w : Wide}
  {x : Number}

/-! ## Units -/

theorem hexValue?_digitChar : ∀ d < 16, hexValue? (Nat.digitChar d) = some d := by decide

theorem hex_four (h : n < 0x10000) : Text.hex 4 n = [Nat.digitChar (n / 4096),
    Nat.digitChar (n / 256 % 16), Nat.digitChar (n / 16 % 16), Nat.digitChar (n % 16)] := by
  have last : ∀ m, m < 16 → Nat.toDigits 16 m = [Nat.digitChar m] := fun m hm =>
    Nat.toDigits_of_lt_base hm
  have more : ∀ m, ¬ m < 16 →
      Nat.toDigits 16 m = Nat.toDigits 16 (m / 16) ++ [Nat.digitChar (m % 16)] := fun m hm => by
    rw [Nat.toDigits_eq_if (by decide), if_neg hm]
  have zero : Nat.digitChar 0 = '0' := rfl
  have two : n / 16 / 16 = n / 256 := Nat.div_div_eq_div_mul n 16 16
  have three : n / 256 / 16 = n / 4096 := Nat.div_div_eq_div_mul n 256 16
  unfold Text.hex
  by_cases h₁ : n < 16
  · rw [last n h₁, show n / 4096 = 0 by omega, show n / 256 % 16 = 0 by omega,
      show n / 16 % 16 = 0 by omega, Nat.mod_eq_of_lt h₁, zero]
    rfl
  rw [more n h₁]
  by_cases h₂ : n / 16 < 16
  · rw [last _ h₂, show n / 4096 = 0 by omega, show n / 256 % 16 = 0 by omega,
      Nat.mod_eq_of_lt h₂, zero]
    rfl
  rw [more _ h₂, two]
  by_cases h₃ : n / 256 < 16
  · rw [last _ h₃, show n / 4096 = 0 by omega, Nat.mod_eq_of_lt h₃, zero]
    rfl
  rw [more _ h₃, three, last _ (by omega)]
  rfl

theorem hexUnit?_hex (h : n < 0x10000) (r : Text) : hexUnit? (Text.hex 4 n ++ r) = some (n, r) := by
  have whole : ((n / 4096 * 16 + n / 256 % 16) * 16 + n / 16 % 16) * 16 + n % 16 = n := by omega
  rw [hex_four h]
  show (do
    let a ← hexValue? (Nat.digitChar (n / 4096))
    let b ← hexValue? (Nat.digitChar (n / 256 % 16))
    let c ← hexValue? (Nat.digitChar (n / 16 % 16))
    let d ← hexValue? (Nat.digitChar (n % 16))
    return (((a * 16 + b) * 16 + c) * 16 + d, r)) = some (n, r)
  rw [hexValue?_digitChar _ (by omega), hexValue?_digitChar _ (by omega),
    hexValue?_digitChar _ (by omega), hexValue?_digitChar _ (by omega)]
  exact congrArg (fun m => some (m, r)) whole

/-! ## Characters -/

theorem bodyLetter_unit (h : n < 0x10000) (r : Text) :
    bodyLetter (unit n ++ r) = match if isHighUnit n then lowUnit? r else none with
      | some (low, r) => .ok (some (.char (pairChar n low)), r)
      | none => .ok (some (unitLetter n), r) := by
  rewrite [unit, List.cons_append, List.cons_append, bodyLetter, hexUnit?_hex h]
  rfl

theorem lowUnit?_unit (low : isLowUnit n = true) (h : n < 0x10000) (r : Text) :
    lowUnit? (unit n ++ r) = some (n, r) := by
  rw [unit, List.cons_append, List.cons_append, lowUnit?, hexUnit?_hex h]
  exact if_pos low

/-- A character that is written as it is. -/
theorem bodyLetter_plain (quote : c ≠ '"') (backslash : c ≠ '\\') (printable : 32 ≤ c.toNat)
    (r : Text) : bodyLetter (c :: r) = .ok (some (.char c), r) := by
  have plain : (decide (c.toNat < 32) || decide (c = '\\')) = false := by
    rw [Bool.or_eq_false_iff, decide_eq_false_iff_not, decide_eq_false_iff_not]
    exact ⟨by omega, backslash⟩
  rw [bodyLetter.eq_def]
  split
  · contradiction
  · rename_i heq
    exact absurd (List.cons.inj heq).1 quote
  · rename_i heq
    exact absurd (List.cons.inj heq).1 backslash
  · rename_i heq
    exact absurd (List.cons.inj heq).1 backslash
  · rename_i heq
    obtain ⟨rfl, rfl⟩ := List.cons.inj heq
    rw [plain, if_neg Bool.false_ne_true]

theorem isHighUnit_iff : isHighUnit n = true ↔ 0xD800 ≤ n ∧ n ≤ 0xDBFF := by
  simp [isHighUnit]

theorem isLowUnit_iff : isLowUnit n = true ↔ 0xDC00 ≤ n ∧ n ≤ 0xDFFF := by
  simp [isLowUnit]

/-- A character of the basic plane is read from its own unit. -/
theorem bodyLetter_basic (small : c.toNat < 0x10000) (r : Text) :
    bodyLetter (unit c.toNat ++ r) = .ok (some (.char c), r) := by
  have noHalf : c.toNat < 0xD800 ∨ 0xDFFF < c.toNat := c.valid.imp_right And.left
  have notHigh : isHighUnit c.toNat = false := by
    rw [Bool.eq_false_iff, Ne, isHighUnit_iff]
    omega
  have notLow : isLowUnit c.toNat = false := by
    rw [Bool.eq_false_iff, Ne, isLowUnit_iff]
    omega
  rw [bodyLetter_unit small, notHigh, if_neg Bool.false_ne_true, unitLetter, notHigh, notLow]
  exact congrArg (fun d => Except.ok (some (Letter.char d), r)) (Char.ofNat_toNat c)

/-- Any other character is read from a pair of units. -/
theorem bodyLetter_pair (large : ¬ c.toNat < 0x10000) (r : Text) :
    bodyLetter (unit (0xD800 + (c.toNat - 0x10000) / 0x400) ++
      (unit (0xDC00 + (c.toNat - 0x10000) % 0x400) ++ r)) = .ok (some (.char c), r) := by
  have limit := Utf8.toNat_lt_limit c
  have isHigh : isHighUnit (0xD800 + (c.toNat - 0x10000) / 0x400) = true := by
    rw [isHighUnit_iff]
    omega
  have isLow : isLowUnit (0xDC00 + (c.toNat - 0x10000) % 0x400) = true := by
    rw [isLowUnit_iff]
    omega
  have whole : 0x10000 + (0xD800 + (c.toNat - 0x10000) / 0x400 - 0xD800) * 0x400 +
      (0xDC00 + (c.toNat - 0x10000) % 0x400 - 0xDC00) = c.toNat := by omega
  rw [bodyLetter_unit (by omega), isHigh, if_pos rfl, lowUnit?_unit isLow (by omega)]
  simp only [pairChar, whole, Char.ofNat_toNat]

/-- A character is read back from the way in which it is written. -/
theorem bodyLetter_charText (c : Char) (r : Text) :
    bodyLetter (charText c ++ r) = .ok (some (.char c), r) := by
  unfold charText
  split
  · subst c; rfl
  rename_i quote
  split
  · subst c; rfl
  rename_i backslash
  split
  · subst c; rfl
  split
  · subst c; rfl
  split
  · subst c; rfl
  split
  · subst c; rfl
  split
  · subst c; rfl
  simp only
  split
  · rename_i printable
    simp only [Bool.and_eq_true, decide_eq_true_eq] at printable
    exact bodyLetter_plain quote backslash printable.1 r
  split
  · rename_i small
    exact bodyLetter_basic small r
  · rename_i large
    rw [List.append_assoc]
    exact bodyLetter_pair large r

/-- What is written of a character ends no pair. -/
theorem lowUnit?_charText (c : Char) (r : Text) : lowUnit? (charText c ++ r) = none := by
  have unpaired : ∀ {n}, n < 0x10000 → isLowUnit n = false → ∀ r, lowUnit? (unit n ++ r) = none := by
    intro n small notLow r
    rw [unit, List.cons_append, List.cons_append, lowUnit?, hexUnit?_hex small]
    exact if_neg (by rw [notLow]; exact Bool.false_ne_true)
  have limit := Utf8.toNat_lt_limit c
  unfold charText
  split
  · rfl
  split
  · rfl
  split
  · rfl
  split
  · rfl
  split
  · rfl
  split
  · rfl
  split
  · rfl
  rename_i backslash _ _ _ _ _
  simp only
  split
  · unfold lowUnit?
    split
    · rename_i heq
      exact absurd (List.cons.inj heq).1 backslash
    · rfl
  split
  · rename_i small
    have noHalf : c.toNat < 0xD800 ∨ 0xDFFF < c.toNat := c.valid.imp_right And.left
    refine unpaired small (Bool.eq_false_iff.2 fun low => ?_) r
    rw [isLowUnit_iff] at low
    omega
  · rw [List.append_assoc]
    refine unpaired (by omega) (Bool.eq_false_iff.2 fun low => ?_) _
    rw [isLowUnit_iff] at low
    omega

/-! ## Halves of pairs -/

theorem unit_lt (half : Half) : half.unit < 0x10000 := by
  have range := half.isLt
  unfold Half.unit
  omega

theorem isHighUnit_unit (half : Half) : isHighUnit half.unit = half.isHigh := by
  have range := half.isLt
  rw [Bool.eq_iff_iff, isHighUnit_iff, Half.isHigh, decide_eq_true_eq, Fin.lt_def, Half.unit]
  show _ ↔ half.val < 0x400
  omega

theorem isLowUnit_unit (half : Half) : isLowUnit half.unit = !half.isHigh := by
  have range := half.isLt
  rw [Bool.eq_iff_iff, isLowUnit_iff, Bool.not_eq_true', Half.isHigh, decide_eq_false_iff_not,
    Fin.lt_def, Half.unit]
  show _ ↔ ¬ half.val < 0x400
  omega

theorem unitLetter_unit (half : Half) : unitLetter half.unit = .half half := by
  have same : Half.ofUnit half.unit = half := by
    apply Fin.ext
    unfold Half.ofUnit Half.unit
    rw [Nat.add_sub_cancel_left]
    exact Nat.mod_eq_of_lt half.isLt
  rw [unitLetter, isHighUnit_unit, isLowUnit_unit, Bool.or_not_self, if_pos rfl, same]

/-- Half of a pair is read as such unless the other half comes next. -/
theorem bodyLetter_half (next : half.isHigh = true → lowUnit? r = none) :
    bodyLetter (unit half.unit ++ r) = .ok (some (.half half), r) := by
  rw [bodyLetter_unit (unit_lt half), isHighUnit_unit]
  cases high : half.isHigh with
  | false => rw [if_neg Bool.false_ne_true, unitLetter_unit]
  | true => rw [if_pos rfl, next high, unitLetter_unit]

/-- What is written of a text that ends no pair, up to the closing quote, does not end one either. -/
theorem lowUnit?_wideText (unpaired : w.EndsNoPair) (r : Text) :
    lowUnit? (wideText w ++ '"' :: r) = none := by
  cases w with
  | text t =>
    cases t with
    | nil => rfl
    | cons c t =>
      rw [wideText, List.flatMap_cons, List.append_assoc]
      exact lowUnit?_charText c _
  | torn t half rest =>
    cases t with
    | nil =>
      have high : half.isHigh = true := unpaired
      rw [wideText, List.flatMap_nil, List.nil_append, List.append_assoc, unit, List.cons_append,
        List.cons_append, lowUnit?, hexUnit?_hex (unit_lt half)]
      exact if_neg (by rw [isLowUnit_unit, high]; exact Bool.false_ne_true)
    | cons c t =>
      rw [wideText, List.flatMap_cons, List.append_assoc, List.append_assoc, List.append_assoc]
      exact lowUnit?_charText c _

/-! ## Strings -/

theorem body_charTexts (s u : Text) (done : List Letter) :
    body (steps + s.length) done (s.flatMap charText ++ u) =
      body steps ((s.map .char).reverse ++ done) u := by
  induction s generalizing done with
  | nil => rfl
  | cons c s ih =>
    rw [List.flatMap_cons, List.append_assoc, List.length_cons, ← Nat.add_assoc, body,
      bodyLetter_charText]
    exact (ih _).trans (by rw [List.map_cons, List.reverse_cons, List.append_assoc]; rfl)

/-- The body of a written string is read up to its closing quote, if no two halves of a pair stand next
to each other. -/
theorem body_letters (apart : w.Apart) (enough : w.letters.length < steps) (done : List Letter)
    (r : Text) : body steps done (wideText w ++ '"' :: r) =
      .ok (.ofLetters (done.reverse ++ w.letters), r) := by
  induction w generalizing steps done with
  | text t =>
    rw [Wide.letters, List.length_map] at enough
    obtain ⟨k, rfl⟩ : ∃ k, steps = k + 1 + t.length := ⟨steps - t.length - 1, by omega⟩
    rw [wideText, body_charTexts, body, bodyLetter]
    simp only [List.reverse_append, List.reverse_reverse, Wide.letters]
  | torn t half rest ih =>
    rw [Wide.letters, List.length_append, List.length_map, List.length_cons] at enough
    obtain ⟨k, rfl⟩ : ∃ k, steps = k + 1 + t.length := ⟨steps - t.length - 1, by omega⟩
    have letter : bodyLetter (unit half.unit ++ (wideText rest ++ '"' :: r)) =
        .ok (some (.half half), wideText rest ++ '"' :: r) :=
      bodyLetter_half fun high => lowUnit?_wideText (apart.1 high) r
    rw [wideText, List.append_assoc, List.append_assoc, body_charTexts, body, letter]
    simp only
    rw [ih apart.2 (by omega)]
    simp only [List.reverse_append, List.reverse_cons, List.reverse_reverse, Wide.letters,
      List.append_assoc, List.singleton_append]

theorem body_wideText (apart : w.Apart) (enough : w.letters.length < steps) (r : Text) :
    body steps [] (wideText w ++ '"' :: r) = .ok (w, r) := by
  rw [body_letters apart enough, List.reverse_nil, List.nil_append, Wide.ofLetters_letters]

/-! ## Numbers and words -/

theorem word?_digit (digit : isAsciiDigit c = true) (t : Text) :
    word? (c :: t) = none ∧ word? ('-' :: c :: t) = none := by
  have other : ∀ d, isAsciiDigit d = false → d ≠ c := by
    rintro d hd rfl
    rw [digit] at hd
    cases hd
  constructor <;>
    simp [word?, words, Text.ofString, Text.after?, other 'n' rfl, other 't' rfl, other 'f' rfl,
      other 'N' rfl, other 'I' rfl, other '-' rfl]

theorem head_of_unsignedNumber {negative : Bool} {q : Number × Text}
    (h : unsignedNumber negative t = .ok q) : ∃ c u, t = c :: u ∧ isAsciiDigit c = true := by
  rcases t with _ | ⟨c, u⟩
  · cases h
  · refine ⟨c, u, rfl, ?_⟩
    by_contra other
    rw [unsignedNumber.eq_def] at h
    split at h
    · rename_i heq
      exact other (by rw [(List.cons.inj heq).1]; rfl)
    · rename_i heq
      obtain ⟨rfl, rfl⟩ := List.cons.inj heq
      rw [if_neg other] at h
      cases h
    · contradiction

theorem scalar_positive (h : unsignedNumber false t = .ok (x, r)) : scalar t = .ok (num x, r) := by
  obtain ⟨c, u, rfl, digit⟩ := head_of_unsignedNumber h
  have sign : c ≠ '-' := by
    rintro rfl
    cases digit
  unfold scalar
  rw [(word?_digit digit u).1]
  split
  · contradiction
  · split
    · rename_i heq
      exact absurd (List.cons.inj heq).1 sign
    · simp only [h]

theorem scalar_negative (h : unsignedNumber true t = .ok (x, r)) :
    scalar ('-' :: t) = .ok (num x, r) := by
  obtain ⟨c, u, rfl, digit⟩ := head_of_unsignedNumber h
  unfold scalar
  rw [(word?_digit digit u).2]
  simp only [h]

/-- A number that there is and that can be written: an integer of not too many digits, or a binary64
number. -/
def SoundNumber : Number → Prop
  | .int i => (Text.ofNat i.natAbs).length ≤ Text.maxDigits
  | .float x => x.Proper

theorem scalar_numberText (sound : SoundNumber x) (ends : Ends r) :
    scalar (numberText x ++ r) = .ok (num x, r) := by
  cases x with
  | int i =>
    cases i with
    | ofNat n => exact scalar_positive (unsignedNumber_ofNat sound ends)
    | negSucc n => exact scalar_negative (unsignedNumber_ofNat sound ends)
  | float x =>
    cases x with
    | nan => rfl
    | infinite negative => cases negative <;> rfl
    | finite negative m q =>
      have read : unsignedNumber negative (Binary64.layout (Binary64.shortest m q).1
          (Binary64.shortest m q).2 ++ r) = .ok (.float (.finite negative m q), r) := by
        rw [unsignedNumber_layout _ _ ends, Binary64.ofDecimal_shortest sound]
      cases negative with
      | false => exact scalar_positive read
      | true => exact scalar_negative read

end JavaStudio.Json
