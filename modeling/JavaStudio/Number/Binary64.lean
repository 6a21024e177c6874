/-!
# Binary floating point

A binary64 number is kept as what it is: a mantissa times a power of two, an infinity, or not a
number. `ofRatio` rounds a ratio of naturals to the nearest such number, a tie going to the even
mantissa, and `ofDecimal` reads a decimal through it. All arithmetic is exact.
-/

namespace JavaStudio

/-- A binary64 number. The finite ones are `± mantissa · 2 ^ exponent` with `-1074 ≤ exponent ≤ 971`
and `mantissa < 2 ^ 53`, and `2 ^ 52 ≤ mantissa` unless the exponent is the least one. -/
inductive Binary64
  | nan
  | infinite (negative : Bool)
  | finite (negative : Bool) (mantissa : Nat) (exponent : Int)
  deriving DecidableEq, Repr, Inhabited

namespace Binary64

/-- A power of two. -/
def twoTo (n : Nat) : Nat := Nat.pow 2 n

/-- A power of ten. -/
def tenTo (n : Nat) : Nat := Nat.pow 10 n

/-- The quotient rounded to the nearest integer, a half going to the even neighbour. -/
def roundDiv (num den : Nat) : Nat :=
  let n := num / den
  let r := num % den
  if 2 * r < den then n else if den < 2 * r then n + 1 else n + n % 2

/-- `num / den` divided by `2 ^ q`, as a ratio. -/
def scaleBinary (num den : Nat) (q : Int) : Nat × Nat :=
  if 0 ≤ q then (num, den * twoTo q.toNat) else (num * twoTo (-q).toNat, den)

/-- The exponent at which `num / den` has a mantissa of 53 bits, or the least exponent. -/
def exponentOf (num den : Nat) : Int :=
  let q := max ((num.log2 : Int) - den.log2 - 53) (-1074)
  let (n, d) := scaleBinary num den q
  if twoTo 53 ≤ n / d then q + 1 else q

/-- The binary64 number nearest to `± num / den`. -/
def ofRatio (negative : Bool) (num den : Nat) : Binary64 :=
  if num = 0 then finite negative 0 (-1074)
  else
    let q := exponentOf num den
    let (n, d) := scaleBinary num den q
    let m := roundDiv n d
    let (m, q) := if m = twoTo 53 then (twoTo 52, q + 1) else (m, q)
    if 971 < q then infinite negative else finite negative m q

/-- The binary64 number nearest to `± digits · 10 ^ exponent`. Powers far outside the range are
settled by the size alone. -/
def ofDecimal (negative : Bool) (digits : Nat) (exponent : Int) : Binary64 :=
  if digits = 0 then finite negative 0 (-1074)
  else
    let size : Int := (Nat.toDigits 10 digits).length + exponent
    if 400 < size then infinite negative
    else if size < -400 then finite negative 0 (-1074)
    else if 0 ≤ exponent then ofRatio negative (digits * tenTo exponent.toNat) 1
    else ofRatio negative digits (tenTo (-exponent).toNat)

/-- A finite number as an integer over a power of two. -/
def ratio (negative : Bool) (mantissa : Nat) (exponent : Int) : Int × Nat :=
  let m : Int := if negative then -mantissa else mantissa
  if 0 ≤ exponent then (m * twoTo exponent.toNat, 1) else (m, twoTo (-exponent).toNat)

/-- The integer that the number is, if it is one. -/
def toInt? : Binary64 → Option Int
  | finite negative m q =>
    let (n, d) := ratio negative m q
    if n % d = 0 then some (n / d) else none
  | _ => none

/-- The number lies below the integer. -/
def ltInt (x : Binary64) (k : Int) : Bool :=
  match x with
  | nan => false
  | infinite negative => negative
  | finite negative m q =>
    let (n, d) := ratio negative m q
    n < k * d

/-- The number lies above the integer. -/
def gtInt (x : Binary64) (k : Int) : Bool :=
  match x with
  | nan => false
  | infinite negative => !negative
  | finite negative m q =>
    let (n, d) := ratio negative m q
    k * d < n

/-- The greatest integer that is not above a finite number. -/
def floor : Binary64 → Int
  | finite negative m q =>
    let (n, d) := ratio negative m q
    n.fdiv d
  | _ => 0

/-- The number with a natural number added, rounded to the nearest. -/
def addNat (x : Binary64) (k : Nat) : Binary64 :=
  match x with
  | finite negative m q =>
    let (n, d) := ratio negative m q
    let sum := n + k * d
    ofRatio (decide (sum < 0)) sum.natAbs d
  | x => x

/-- Plus or minus zero. -/
def isZero : Binary64 → Bool
  | finite _ 0 _ => true
  | _ => false

end Binary64

end JavaStudio
