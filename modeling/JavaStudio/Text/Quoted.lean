import JavaStudio.Text.PrintableTable
import JavaStudio.Text.Basic

/-!
# Quoted text

How messages show a text so that its ends and its invisible characters can be seen: between single
quotes, or between double quotes when it holds a single quote and no double quote; the backslash,
the chosen quote and whatever does not show as itself are escaped.
-/

namespace JavaStudio.Text

/-- A character that shows as itself. -/
def isPrintable (c : Char) : Bool :=
  (32 ≤ c.toNat && c.toNat ≤ 126) || (128 ≤ c.toNat && inRanges printableRanges c.toNat)

/-- `n` in hexadecimal, with zeros up to `width` digits. -/
def hex (width n : Nat) : Text :=
  let ds := Nat.toDigits 16 n
  List.replicate (width - ds.length) '0' ++ ds

/-- One character between `quote`s. -/
def quoteChar (quote c : Char) : Text :=
  if c = quote || c = '\\' then ['\\', c]
  else if c = '\n' then ['\\', 'n']
  else if c = '\r' then ['\\', 'r']
  else if c = '\t' then ['\\', 't']
  else if isPrintable c then [c]
  else if c.toNat < 0x100 then '\\' :: 'x' :: hex 2 c.toNat
  else if c.toNat < 0x10000 then '\\' :: 'u' :: hex 4 c.toNat
  else '\\' :: 'U' :: hex 8 c.toNat

/-- The quote that encloses a text. -/
def quoteOf (t : Text) : Char := if t.contains '\'' && !t.contains '"' then '"' else '\''

/-- The text between quotes. -/
def quoted (t : Text) : Text := quoteOf t :: t.flatMap (quoteChar (quoteOf t)) ++ [quoteOf t]

end JavaStudio.Text

namespace JavaStudio

/-- A string between quotes. -/
def quoted (s : String) : String := String.ofList (Text.quoted s.toList)

end JavaStudio
