import JavaStudio.Text.Basic
import JavaStudio.Files.Tree

/-!
# UTF-8

A character is one to four bytes. `decode?` is strict: it refuses stray and missing continuation
bytes, forms longer than need be, surrogates and numbers past the last code point.
-/

namespace JavaStudio.Utf8

/-- A byte with six more bits of a character. -/
def tail (n : Nat) : UInt8 := UInt8.ofNat (0x80 + n % 64)

/-- The bytes of a character. -/
def encodeChar (c : Char) : Bytes :=
  let n := c.toNat
  if n < 0x80 then [UInt8.ofNat n]
  else if n < 0x800 then [UInt8.ofNat (0xC0 + n / 64), tail n]
  else if n < 0x10000 then [UInt8.ofNat (0xE0 + n / 4096), tail (n / 64), tail n]
  else [UInt8.ofNat (0xF0 + n / 262144), tail (n / 4096), tail (n / 64), tail n]

/-- The bytes of a text. -/
def encode (t : Text) : Bytes := t.flatMap encodeChar

/-- The six bits of a continuation byte. -/
def tailBits? (b : UInt8) : Option Nat :=
  if 0x80 ≤ b.toNat && b.toNat ≤ 0xBF then some (b.toNat - 0x80) else none

/-- The character with a code point of at least `least`. -/
def charFrom? (least n : Nat) : Option Char :=
  if h : least ≤ n ∧ n.isValidChar then some (Char.ofNatAux n h.2) else none

/-- A character of two bytes. -/
def two? (a b : UInt8) : Option Char := do
  let b ← tailBits? b
  charFrom? 0x80 ((a.toNat - 0xC0) * 64 + b)

/-- A character of three bytes. -/
def three? (a b c : UInt8) : Option Char := do
  let b ← tailBits? b
  let c ← tailBits? c
  charFrom? 0x800 (((a.toNat - 0xE0) * 64 + b) * 64 + c)

/-- A character of four bytes. -/
def four? (a b c d : UInt8) : Option Char := do
  let b ← tailBits? b
  let c ← tailBits? c
  let d ← tailBits? d
  charFrom? 0x10000 ((((a.toNat - 0xF0) * 64 + b) * 64 + c) * 64 + d)

/-- The text that some bytes hold. -/
def decode? : Bytes → Option Text
  | [] => some []
  | a :: r =>
    if a.toNat < 0x80 then (decode? r).map (Char.ofNat a.toNat :: ·)
    else if a.toNat < 0xC0 then none
    else if a.toNat < 0xE0 then
      match r with
      | b :: r => do
        let ch ← two? a b
        let t ← decode? r
        return ch :: t
      | _ => none
    else if a.toNat < 0xF0 then
      match r with
      | b :: c :: r => do
        let ch ← three? a b c
        let t ← decode? r
        return ch :: t
      | _ => none
    else if a.toNat < 0xF8 then
      match r with
      | b :: c :: d :: r => do
        let ch ← four? a b c d
        let t ← decode? r
        return ch :: t
      | _ => none
    else none

end JavaStudio.Utf8
