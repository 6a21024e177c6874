import JavaStudio.Encoding.Basic
import JavaStudio.Machine

/-!
# Where bytes stop being text

Bytes that an encoding refuses are refused at a place: the first at which no character can go on. The
bytes of a broken character up to there are named together, and what is said of them tells a byte that
begins no character from one that does not go on with it and from an end that comes too early.
Positions count from the first byte after a mark of UTF-8, and with a mark of UTF-16.
-/

namespace JavaStudio

/-- The bytes at a position that are no character, and why. -/
structure Flaw where
  start : Nat
  length : Nat
  reason : String
  deriving DecidableEq, Repr

namespace Utf8

/-- How many bytes follow the first one of a character, if a character begins so. -/
def tailLength? (first : UInt8) : Option Nat :=
  let n := first.toNat
  if n < 0x80 then some 0
  else if n < 0xC2 then none
  else if n < 0xE0 then some 1
  else if n < 0xF0 then some 2
  else if n < 0xF5 then some 3
  else none

/-- The least byte that can be the second one of a character. -/
def leastSecond (first : UInt8) : Nat :=
  if first = 0xE0 then 0xA0 else if first = 0xF0 then 0x90 else 0x80

/-- The greatest byte that can be the second one of a character. -/
def greatestSecond (first : UInt8) : Nat :=
  if first = 0xED then 0x9F else if first = 0xF4 then 0x8F else 0xBF

/-- How many of the bytes after the first one of a character go on with it. -/
def goodTail (first : UInt8) (count : Nat) : Bytes → Nat
  | [] => 0
  | b :: r =>
    if count ≠ 0 && leastSecond first ≤ b.toNat && b.toNat ≤ greatestSecond first then
      1 + ((r.take (count - 1)).takeWhile fun b => (tailBits? b).isSome).length
    else 0

/-- Where some bytes from a position on stop being text. -/
def flaw? (position : Nat) : Bytes → Option Flaw
  | [] => none
  | a :: r => match tailLength? a with
    | none => some ⟨position, 1, "invalid start byte"⟩
    | some count =>
      let good := goodTail a count r
      if good = count then flaw? (position + 1 + good) (r.drop good)
      else if good = r.length then some ⟨position, 1 + good, "unexpected end of data"⟩
      else some ⟨position, 1 + good, "invalid continuation byte"⟩
  termination_by bs => bs.length
  decreasing_by rw [List.length_drop, List.length_cons]; omega

end Utf8

namespace Utf16

/-- Where some bytes from a position on stop being text. -/
def flaw? (order : Order) (position : Nat) : Bytes → Option Flaw
  | [] => none
  | [_] => some ⟨position, 1, "truncated data"⟩
  | a :: b :: r =>
    let n := unitOfBytes order a b
    if 0xD800 ≤ n && n ≤ 0xDBFF then
      match r with
      | c :: d :: r =>
        let m := unitOfBytes order c d
        if 0xDC00 ≤ m && m ≤ 0xDFFF then flaw? order (position + 4) r
        else some ⟨position, 2, "illegal UTF-16 surrogate"⟩
      | r => some ⟨position, 2 + r.length, "unexpected end of data"⟩
    else if 0xDC00 ≤ n && n ≤ 0xDFFF then some ⟨position, 2, "illegal encoding"⟩
    else flaw? order (position + 2) r

end Utf16

namespace Encoding

/-- Where bytes of one character each reach `limit`. -/
def flawBelow? (limit : Nat) (bs : Bytes) : Option Flaw :=
  (bs.findIdx? (limit ≤ ·.toNat)).map fun k => ⟨k, 1, s!"ordinal not in range({limit})"⟩

/-- Where some bytes stop being text, with the name of the encoding that says so and the bytes whose
positions it counts. -/
def flaw? : Encoding → Bytes → String × Bytes × Option Flaw
  | utf8Marked, 0xEF :: 0xBB :: 0xBF :: bs => ("utf-8", bs, Utf8.flaw? 0 bs)
  | utf8, bs | utf8Marked, bs => ("utf-8", bs, Utf8.flaw? 0 bs)
  | utf16, 0xFE :: 0xFF :: bs => ("utf-16-be", 0xFE :: 0xFF :: bs, Utf16.flaw? .big 2 bs)
  | utf16, bs | utf16Little, bs => ("utf-16-le", bs, Utf16.flaw? .little 0 bs)
  | utf16Big, bs => ("utf-16-be", bs, Utf16.flaw? .big 0 bs)
  | latin1, bs => ("latin-1", bs, flawBelow? 256 bs)
  | ascii, bs => ("ascii", bs, flawBelow? 128 bs)

/-- What is said of bytes that are not text in the encoding. -/
def badBytes (e : Encoding) (bs : Bytes) : BadBytes :=
  let (encoding, bs, found) := e.flaw? bs
  let place := found.getD ⟨0, bs.length, ""⟩
  { encoding := encoding
    start := place.start
    length := place.length
    first := (bs[place.start]?.getD 0).toNat
    reason := place.reason }

/-- The text of some bytes, or what is said of those that are none. -/
def check (e : Encoding) (bs : Bytes) : Except BadBytes Text :=
  match e.decode? bs with
  | some t => .ok t
  | none => .error (e.badBytes bs)

/-- The text of some bytes. -/
def decode (e : Encoding) (bs : Bytes) : Except Failure Text := (e.check bs).mapError .undecodable

/-- What the encoding makes of texts and bytes. It has no bytes for half of a surrogate pair. -/
def codec (e : Encoding) : Codec where
  encode w := match w with
    | .text t => match e.encode? t with
      | some bs => .ok bs
      | none => .error .unencodable
    | .torn .. => .error .unencodable
  decode := e.decode

end Encoding

end JavaStudio
