import JavaStudio.Text.Blank
import JavaStudio.Text.Digit

/-!
# Numerals

An integer as a person writes it: blanks around it, a sign, digits of any decimal script and single
underscores between them. The four separators among the controls are not taken for blanks here.
-/

namespace JavaStudio.Numeral

/-- The values of digits with single underscores between them. -/
def digits? : Text → Option (List Nat)
  | [] => none
  | [c] => (Text.digitValue? c).map ([·])
  | c :: '_' :: t => do
    let d ← Text.digitValue? c
    let ds ← digits? t
    return d :: ds
  | c :: t => do
    let d ← Text.digitValue? c
    let ds ← digits? t
    return d :: ds

/-- A number without its sign, if it has no more digits than are read. -/
def natural? (t : Text) : Option Nat := do
  let ds ← digits? t
  if Text.maxDigits < ds.length then none else return Text.digitsValue ds

/-- A character of the margin around a number. -/
def isMargin (c : Char) : Bool := Text.isBlank c && !(28 ≤ c.toNat && c.toNat ≤ 31)

/-- The text without its margins. -/
def core (t : Text) : Text := ((t.dropWhile isMargin).reverse.dropWhile isMargin).reverse

/-- The integer that a text writes. -/
def read? (t : Text) : Option Int :=
  match core t with
  | '-' :: t => (natural? t).map fun n => -(n : Int)
  | '+' :: t => (natural? t).map Int.ofNat
  | t => (natural? t).map Int.ofNat

end JavaStudio.Numeral
