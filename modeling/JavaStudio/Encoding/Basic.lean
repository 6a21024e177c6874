import JavaStudio.Encoding.Utf8
import JavaStudio.Encoding.Utf16
import JavaStudio.Text.Basic

/-!
# Encodings of source files

The encodings that the studio itself writes and finds, their names and the marks that some of them
begin with.
-/

namespace JavaStudio

/-- An encoding of source text, one of those that need nothing of the machine. -/
inductive Encoding
  | utf8
  | utf8Marked
  | utf16
  | utf16Little
  | utf16Big
  | latin1
  | ascii
  deriving DecidableEq, Repr

namespace Encoding

/-- A character of the words of names. -/
def isNameChar (c : Char) : Bool := c.isAlphanum || c == '.'

/-- The words of a name in small letters, with a low line between neighbours: case does not matter in a
name, nor what separates its words. -/
def nameKey (name : String) : String :=
  let words := (Text.splitAt (!isNameChar ·) name.toList).filter (!·.isEmpty)
  String.ofList ((Text.join ['_'] words).map Char.toLower)

/-- The names proper. -/
def names : List (String × Encoding) := [
  ("utf_8", utf8), ("utf_8_sig", utf8Marked), ("utf_16", utf16), ("utf_16_le", utf16Little),
  ("utf_16_be", utf16Big), ("latin_1", latin1), ("ascii", ascii)]

/-- The other names in use. -/
def aliases : List (String × Encoding) := [
  ("u8", utf8), ("utf", utf8), ("utf8", utf8), ("utf8_ucs2", utf8), ("utf8_ucs4", utf8),
  ("cp65001", utf8),
  ("u16", utf16), ("utf16", utf16),
  ("unicodelittleunmarked", utf16Little), ("utf_16le", utf16Little),
  ("unicodebigunmarked", utf16Big), ("utf_16be", utf16Big),
  ("8859", latin1), ("cp819", latin1), ("csisolatin1", latin1), ("ibm819", latin1),
  ("iso8859", latin1), ("iso8859_1", latin1), ("iso_8859_1", latin1), ("iso_8859_1_1987", latin1),
  ("iso_ir_100", latin1), ("l1", latin1), ("latin", latin1), ("latin1", latin1),
  ("646", ascii), ("ansi_x3.4_1968", ascii), ("ansi_x3_4_1968", ascii), ("ansi_x3.4_1986", ascii),
  ("cp367", ascii), ("csascii", ascii), ("ibm367", ascii), ("iso646_us", ascii),
  ("iso_646.irv_1991", ascii), ("iso_ir_6", ascii), ("us", ascii), ("us_ascii", ascii)]

/-- The encoding that a name stands for. In the other names a point may stand for a low line. -/
def ofName? (name : String) : Option Encoding :=
  let key := nameKey name
  let spelled := String.ofList (key.toList.map fun c => if c = '.' then '_' else c)
  (aliases.lookup key).or ((aliases.lookup spelled).or (names.lookup key))

/-- The mark of UTF-8. -/
def mark8 : Bytes := [0xEF, 0xBB, 0xBF]

/-- The mark of UTF-16 with the low byte first. -/
def markLittle : Bytes := [0xFF, 0xFE]

/-- The mark of UTF-16 with the high byte first. -/
def markBig : Bytes := [0xFE, 0xFF]

/-- The bytes of a text whose characters are below `limit`, one byte each. -/
def encodeBelow (limit : Nat) (t : Text) : Option Bytes :=
  if t.all (·.toNat < limit) then some (t.map fun c => UInt8.ofNat c.toNat) else none

/-- The text of bytes below `limit`, one character each. -/
def decodeBelow (limit : Nat) (bs : Bytes) : Option Text :=
  if bs.all (·.toNat < limit) then some (bs.map fun b => Char.ofNat b.toNat) else none

/-- The bytes of a text, if the encoding has all of its characters. -/
def encode? : Encoding → Text → Option Bytes
  | utf8, t => some (Utf8.encode t)
  | utf8Marked, t => some (mark8 ++ Utf8.encode t)
  | utf16, t => some (markLittle ++ Utf16.encode .little t)
  | utf16Little, t => some (Utf16.encode .little t)
  | utf16Big, t => some (Utf16.encode .big t)
  | latin1, t => encodeBelow 256 t
  | ascii, t => encodeBelow 128 t

/-- The text of some bytes, if they are in the encoding. A mark is taken off where the encoding has
one; without it UTF-16 has the low byte first. -/
def decode? : Encoding → Bytes → Option Text
  | utf8, bs => Utf8.decode? bs
  | utf8Marked, 0xEF :: 0xBB :: 0xBF :: bs => Utf8.decode? bs
  | utf8Marked, bs => Utf8.decode? bs
  | utf16, 0xFF :: 0xFE :: bs => Utf16.decode? .little bs
  | utf16, 0xFE :: 0xFF :: bs => Utf16.decode? .big bs
  | utf16, bs => Utf16.decode? .little bs
  | utf16Little, bs => Utf16.decode? .little bs
  | utf16Big, bs => Utf16.decode? .big bs
  | latin1, bs => decodeBelow 256 bs
  | ascii, bs => decodeBelow 128 bs

end Encoding

end JavaStudio
