import JavaStudio.Text.Basic
import JavaStudio.Files.Tree

/-!
# UTF-16

A character is one unit of sixteen bits or a pair of them, and a unit is two bytes in either order.
A text is first turned into units, the units into bytes. Decoding refuses a single byte at the end
and half of a pair.
-/

namespace JavaStudio.Utf16

/-- The order of the two bytes of a unit. -/
inductive Order
  | little
  | big
  deriving DecidableEq, Repr

/-- The units of a character. -/
def unitsOfChar (c : Char) : List Nat :=
  let n := c.toNat
  if n < 0x10000 then [n] else [0xD800 + (n - 0x10000) / 0x400, 0xDC00 + (n - 0x10000) % 0x400]

/-- The bytes of a unit. -/
def bytesOfUnit (order : Order) (n : Nat) : Bytes :=
  let low := UInt8.ofNat (n % 256)
  let high := UInt8.ofNat (n / 256)
  match order with
  | .little => [low, high]
  | .big => [high, low]

/-- The bytes of a text. -/
def encode (order : Order) (t : Text) : Bytes :=
  (t.flatMap unitsOfChar).flatMap (bytesOfUnit order)

/-- The unit of two bytes. -/
def unitOfBytes (order : Order) (a b : UInt8) : Nat :=
  match order with
  | .little => a.toNat + 256 * b.toNat
  | .big => 256 * a.toNat + b.toNat

/-- The units of an even number of bytes. -/
def units? (order : Order) : Bytes → Option (List Nat)
  | [] => some []
  | [_] => none
  | a :: b :: r => (units? order r).map (unitOfBytes order a b :: ·)

/-- The text of some units. -/
def ofUnits? : List Nat → Option Text
  | [] => some []
  | n :: r =>
    if 0xD800 ≤ n && n ≤ 0xDBFF then
      match r with
      | m :: r =>
        if 0xDC00 ≤ m && m ≤ 0xDFFF then
          (ofUnits? r).map (Char.ofNat (0x10000 + (n - 0xD800) * 0x400 + (m - 0xDC00)) :: ·)
        else none
      | [] => none
    else if 0xDC00 ≤ n && n ≤ 0xDFFF then none
    else (ofUnits? r).map (Char.ofNat n :: ·)

/-- The text that some bytes hold. -/
def decode? (order : Order) (bs : Bytes) : Option Text := (units? order bs).bind ofUnits?

end JavaStudio.Utf16
