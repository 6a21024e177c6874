import JavaStudio.Source.File

/-!
# A text that was written is read back

The bytes of a text in UTF-8 are decoded to that text. The encoding that they show is UTF-8, with a
mark when the text begins with the character that a mark stands for; so reading loses only such
characters at the head of the text.

* `Utf8.decode?_encode`: the bytes of a text hold that text.
* `Source.decodeAs_named`, `Source.guess_unmarked`: how an encoding is found by its name or without one.
* `Source.textOf_encode`: what is read back of a text is that text, up to line ends and marks at its
  head.
-/

namespace JavaStudio

namespace Utf8

/-! ## One character -/

theorem charFrom?_toNat {least : Nat} {c : Char} (h : least ≤ c.toNat) :
    charFrom? least c.toNat = some c := by
  have valid : c.toNat.isValidChar := c.valid
  unfold charFrom?
  rw [dif_pos ⟨h, valid⟩, Option.some.injEq]
  exact Char.ext (UInt32.toNat_inj.1 rfl)

theorem toNat_tail (n : Nat) : (tail n).toNat = 0x80 + n % 64 := by
  have small : 0x80 + n % 64 < UInt8.size := by show 0x80 + n % 64 < 256; omega
  rw [tail, UInt8.toNat_ofNat_of_lt' small]

theorem tailBits?_tail (n : Nat) : tailBits? (tail n) = some (n % 64) := by
  have low : 0x80 ≤ (tail n).toNat := by rw [toNat_tail]; omega
  have high : (tail n).toNat ≤ 0xBF := by rw [toNat_tail]; omega
  unfold tailBits?
  rw [if_pos (by simp only [low, high, decide_true, Bool.and_self]), toNat_tail,
    Nat.add_sub_cancel_left]

theorem toNat_lead {b k : Nat} (h : b + k < 256) : (UInt8.ofNat (b + k)).toNat = b + k :=
  UInt8.toNat_ofNat_of_lt' h

theorem toNat_lt_limit (c : Char) : c.toNat < 0x110000 := by
  rcases c.valid with h | ⟨-, h⟩
  · exact Nat.lt_trans h (by decide)
  · exact h

/-- Decoding goes past a character and goes on behind it. -/
theorem decode?_encodeChar (c : Char) (r : Bytes) :
    decode? (encodeChar c ++ r) = (decode? r).map (c :: ·) := by
  have limit := toNat_lt_limit c
  unfold encodeChar
  simp only
  split
  · rename_i h
    have small : c.toNat < UInt8.size := Nat.lt_trans h (by decide)
    have lead : (UInt8.ofNat c.toNat).toNat = c.toNat := UInt8.toNat_ofNat_of_lt' small
    rw [List.singleton_append, decode?.eq_def]
    simp only [lead, h, if_true, Char.ofNat_toNat]
  split
  · rename_i h₁ h₂
    have lead := toNat_lead (b := 0xC0) (k := c.toNat / 64) (by omega)
    have whole : c.toNat / 64 * 64 + c.toNat % 64 = c.toNat := Nat.div_add_mod' _ _
    have read : two? (UInt8.ofNat (0xC0 + c.toNat / 64)) (tail c.toNat) = some c := by
      unfold two?
      rw [tailBits?_tail, lead, Nat.add_sub_cancel_left]
      show charFrom? 0x80 (c.toNat / 64 * 64 + c.toNat % 64) = some c
      rw [whole, charFrom?_toNat (by omega)]
    rw [List.cons_append, List.singleton_append, decode?]
    simp only [lead, read]
    rw [if_neg (by omega), if_neg (by omega), if_pos (by omega)]
    cases decode? r <;> rfl
  split
  · rename_i h₁ h₂ h₃
    have lead := toNat_lead (b := 0xE0) (k := c.toNat / 4096) (by omega)
    have whole : (c.toNat / 4096 * 64 + c.toNat / 64 % 64) * 64 + c.toNat % 64 = c.toNat := by omega
    have read : three? (UInt8.ofNat (0xE0 + c.toNat / 4096)) (tail (c.toNat / 64)) (tail c.toNat) =
        some c := by
      unfold three?
      rw [tailBits?_tail, tailBits?_tail, lead, Nat.add_sub_cancel_left]
      show charFrom? 0x800 ((c.toNat / 4096 * 64 + c.toNat / 64 % 64) * 64 + c.toNat % 64) = some c
      rw [whole, charFrom?_toNat (by omega)]
    simp only [List.cons_append, List.nil_append]
    rw [decode?]
    simp only [lead, read]
    rw [if_neg (by omega), if_neg (by omega), if_neg (by omega), if_pos (by omega)]
    cases decode? r <;> rfl
  · rename_i h₁ h₂ h₃
    have lead := toNat_lead (b := 0xF0) (k := c.toNat / 262144) (by omega)
    have whole : ((c.toNat / 262144 * 64 + c.toNat / 4096 % 64) * 64 + c.toNat / 64 % 64) * 64 +
        c.toNat % 64 = c.toNat := by omega
    have read : four? (UInt8.ofNat (0xF0 + c.toNat / 262144)) (tail (c.toNat / 4096))
        (tail (c.toNat / 64)) (tail c.toNat) = some c := by
      unfold four?
      rw [tailBits?_tail, tailBits?_tail, tailBits?_tail, lead, Nat.add_sub_cancel_left]
      show charFrom? 0x10000 (((c.toNat / 262144 * 64 + c.toNat / 4096 % 64) * 64 +
        c.toNat / 64 % 64) * 64 + c.toNat % 64) = some c
      rw [whole, charFrom?_toNat (by omega)]
    simp only [List.cons_append, List.nil_append]
    rw [decode?]
    simp only [lead, read]
    rw [if_neg (by omega), if_neg (by omega), if_neg (by omega), if_neg (by omega),
      if_pos (by omega)]
    cases decode? r <;> rfl

/-! ## A text -/

theorem encode_cons (c : Char) (t : Text) : encode (c :: t) = encodeChar c ++ encode t :=
  List.flatMap_cons

/-- The bytes of a text hold that text. -/
theorem decode?_encode (t : Text) : decode? (encode t) = some t := by
  induction t with
  | nil => rfl
  | cons c t ih => rw [encode_cons, decode?_encodeChar, ih, Option.map_some]

/-- No text has bytes that begin with such a byte. -/
theorem decode?_of_ge {a : UInt8} (h : 0xF8 ≤ a.toNat) (r : Bytes) : decode? (a :: r) = none := by
  rw [decode?.eq_def]
  simp only
  rw [if_neg (by omega), if_neg (by omega), if_neg (by omega), if_neg (by omega), if_neg (by omega)]

theorem encode_ne_of_ge {a : UInt8} (h : 0xF8 ≤ a.toNat) (t : Text) (r : Bytes) :
    encode t ≠ a :: r := by
  intro he
  have read := decode?_encode t
  rw [he, decode?_of_ge h] at read
  cases read

end Utf8

/-! ## Encodings by their names -/

namespace Source

open Encoding

variable {m : Machine} {e : Encoding} {name : String} {names : List String} {bs r : Bytes} {t : Text}

theorem decode_of_decode? (h : e.decode? bs = some t) : e.decode bs = .ok t := by
  rw [Encoding.decode, Encoding.check, h]
  rfl

theorem decode_of_decode?_eq_none (h : e.decode? bs = none) :
    e.decode bs = .error (.undecodable (e.badBytes bs)) := by
  rw [Encoding.decode, Encoding.check, h]
  rfl

theorem codecNamed_of_ofName? (named : ofName? name = some e) : codecNamed m name = .ok e.codec := by
  rw [codecNamed, named]

/-- Every encoding of the table takes no bytes for the empty text. -/
theorem decodeAs_named (named : ofName? name = some e) (checked : checkName name = .ok ()) :
    decodeAs m name bs = e.decode bs := by
  rw [decodeAs, checked]
  cases bs with
  | nil => cases e <;> rfl
  | cons b bs =>
    show (codecNamed m name).bind (fun codec => codec.decode (b :: bs)) = e.decode (b :: bs)
    rw [codecNamed_of_ofName? named]
    rfl

theorem decodes_named (named : ofName? name = some e) (checked : checkName name = .ok ()) :
    decodes m name bs = .ok (e.decode? bs).isSome := by
  rw [decodes, decodeAs_named named checked]
  cases decoded : e.decode? bs with
  | none => rw [decode_of_decode?_eq_none decoded, Option.isSome_none]
  | some t => rw [decode_of_decode? decoded, Option.isSome_some]

theorem firstThatDecodes_cons {b : Bool} (h : decodes m name bs = .ok b) :
    firstThatDecodes m bs (name :: names) =
      if b then .ok name else firstThatDecodes m bs names := by
  rw [firstThatDecodes, h]
  cases b <;> rfl

/-! ## The encoding that the bytes show -/

/-- The content begins with no mark. -/
structure Unmarked (bs : Bytes) : Prop where
  not8 : ¬ mark8 <+: bs
  notLittle : ¬ markLittle <+: bs
  notBig : ¬ markBig <+: bs

theorem guess_unmarked (h : Unmarked bs) : guess m bs = firstThatDecodes m bs (candidates m) := by
  unfold guess
  rw [if_neg fun hp => h.not8 (List.isPrefixOf_iff_prefix.1 hp),
    if_neg fun hp => h.notLittle (List.isPrefixOf_iff_prefix.1 hp),
    if_neg fun hp => h.notBig (List.isPrefixOf_iff_prefix.1 hp)]

theorem guess_utf8 (h : Unmarked bs) (text : Utf8.decode? bs = some t) : guess m bs = .ok "utf-8" := by
  have decodes : decodes m "utf-8" bs = .ok true := by
    have decoded : Encoding.utf8.decode? bs = some t := text
    rw [decodes_named (e := .utf8) rfl rfl, decoded, Option.isSome_some]
  rw [guess_unmarked h, candidates, firstThatDecodes_cons decodes, if_pos rfl]

theorem decode_guessed (guessed : guess m bs = .ok name) : decode m none bs = decodeAs m name bs := by
  show (guess m bs).bind (fun name => decodeAs m name bs) = _
  rw [guessed]
  rfl

/-- What begins with the mark of UTF-8 is decoded as UTF-8 behind it. -/
theorem decode_mark8 (m : Machine) (r : Bytes) :
    decode m none (mark8 ++ r) = Encoding.utf8Marked.decode (mark8 ++ r) := by
  have guessed : guess m (mark8 ++ r) = .ok "utf-8-sig" := rfl
  rw [decode_guessed guessed, decodeAs_named (e := .utf8Marked) rfl rfl]

theorem encodeChar_mark : Utf8.encodeChar markChar = mark8 := by decide

/-- The bytes of a text begin with the mark exactly when the text begins with its character. -/
theorem encode_eq_mark (h : Utf8.encode t = mark8 ++ r) :
    ∃ t', t = markChar :: t' ∧ Utf8.decode? r = some t' := by
  have read := Utf8.decode?_encode t
  rw [h, ← encodeChar_mark, Utf8.decode?_encodeChar, Option.map_eq_some_iff] at read
  obtain ⟨t', ht', rfl⟩ := read
  exact ⟨t', rfl, ht'⟩

/-- The bytes of a text can show the mark of their own encoding, but none of the other two. -/
theorem unmarked_encode (h : ¬ mark8 <+: Utf8.encode t) : Unmarked (Utf8.encode t) where
  not8 := h
  notLittle := fun ⟨_, hr⟩ => Utf8.encode_ne_of_ge (by decide) t _ hr.symm
  notBig := fun ⟨_, hr⟩ => Utf8.encode_ne_of_ge (by decide) t _ hr.symm

theorem dropMark_cons (c : Char) (t : Text) :
    dropMark (c :: t) = if c = markChar then t else c :: t := rfl

theorem dropMark_unmarked (h : Unmarked (Utf8.encode t)) : dropMark t = t := by
  rcases t with _ | ⟨c, t⟩
  · rfl
  · refine if_neg fun hc => h.not8 ⟨Utf8.encode t, ?_⟩
    rw [Utf8.encode_cons, hc, encodeChar_mark]

theorem decode_encode (m : Machine) (t : Text) : decode m none (Utf8.encode t) = .ok (dropMark t) := by
  by_cases marked : mark8 <+: Utf8.encode t
  · obtain ⟨r, hr⟩ := marked
    obtain ⟨t', rfl, read⟩ := encode_eq_mark hr.symm
    rw [← hr, decode_mark8]
    exact decode_of_decode? read
  · have unmarked := unmarked_encode marked
    rw [decode_guessed (guess_utf8 unmarked (Utf8.decode?_encode t)),
      decodeAs_named (e := .utf8) rfl rfl, dropMark_unmarked unmarked]
    exact decode_of_decode? (Utf8.decode?_encode t)

/-- What is read of a file that a text was written to: a mark at its head is taken for the mark of
the encoding, and one more is dropped. -/
theorem textOf_encode (m : Machine) (t : Text) :
    textOf m none (Utf8.encode t) = .ok (Text.unixNewlines (dropMark (dropMark t))) := by
  rw [textOf, decode_encode]
  rfl

theorem contentOf_eq_ok {newline : String} {w : Wide} :
    contentOf m name newline w = .ok bs ↔ checkName name = .ok () ∧
      ∃ codec, codecNamed m name = .ok codec ∧ codec.encode (w.map (body newline)) = .ok bs := by
  unfold contentOf
  rcases checkName name with f | ⟨⟩
  · exact ⟨nofun, nofun⟩
  · rcases codecNamed m name with f | codec
    · exact ⟨nofun, nofun⟩
    · exact ⟨fun encoded => ⟨rfl, codec, rfl, encoded⟩, fun ⟨_, _, same, encoded⟩ => by
        cases same
        exact encoded⟩

/-- What is written of a text in an encoding of the table. -/
theorem codec_encode_eq_ok {w : Wide} :
    e.codec.encode w = .ok bs ↔ ∃ t, w = .text t ∧ e.encode? t = some bs := by
  unfold Encoding.codec
  cases w with
  | torn t half rest => simp
  | text t => cases he : e.encode? t <;> simp [he]

theorem contentOf_named (named : ofName? name = some e) (checked : checkName name = .ok ())
    (newline : String) (w : Wide) :
    contentOf m name newline w = e.codec.encode (w.map (body newline)) := by
  rw [contentOf, checked]
  show (codecNamed m name).bind (fun codec => codec.encode (w.map (body newline))) = _
  rw [codecNamed_of_ofName? named]
  rfl

theorem contentOf_standard (m : Machine) (t : Text) :
    contentOf m "utf-8" "\n" (.text t) = .ok (Utf8.encode (Text.unixNewlines t)) := by
  rw [contentOf_named (e := .utf8) rfl rfl]
  rfl

/-! ## Texts up to line ends and marks -/

/-- A text with line feeds for its line ends and without the marks at its head. -/
def plain (t : Text) : Text := (Text.unixNewlines t).dropWhile (· == markChar)

theorem unixNewlines_dropMark (t : Text) :
    Text.unixNewlines (dropMark t) = dropMark (Text.unixNewlines t) := by
  fun_cases Text.unixNewlines t with
  | case1 => rfl
  | case2 t => rfl
  | case3 c t h =>
    by_cases hc : c = markChar
    · subst hc
      rfl
    · have head : (if c = '\r' then '\n' else c) ≠ markChar := by
        split
        · decide
        · exact hc
      rw [dropMark_cons, if_neg hc, Text.unixNewlines.eq_3 c t h, dropMark_cons, if_neg head]

theorem dropWhile_dropMark (t : Text) :
    (dropMark t).dropWhile (· == markChar) = t.dropWhile (· == markChar) := by
  rcases t with _ | ⟨c, t⟩
  · rfl
  · rw [dropMark_cons]
    split
    · rename_i hc
      rw [List.dropWhile_cons_of_pos (by simp [hc])]
    · rfl

theorem plain_dropMark (t : Text) : plain (dropMark t) = plain t := by
  rw [plain, unixNewlines_dropMark, dropWhile_dropMark, plain]

theorem plain_unixNewlines (t : Text) : plain (Text.unixNewlines t) = plain t := by
  rw [plain, Text.unixNewlines_of_not_mem (Text.return_not_mem_unixNewlines t), plain]

/-- Reading a file that a text was written to gives that text, up to line ends and marks. -/
theorem plain_of_textOf_encode {t' : Text}
    (h : textOf m none (Utf8.encode (Text.unixNewlines t)) = .ok t') : plain t' = plain t := by
  rw [textOf_encode, Except.ok.injEq] at h
  rw [← h, plain_unixNewlines, plain_dropMark, plain_dropMark, plain_unixNewlines]

end Source

end JavaStudio
