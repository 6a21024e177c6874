import JavaStudio.Number.Binary64
import JavaStudio.Text.Digit

/-!
# The shortest decimal of a binary64 number

`shortest` gives the fewest digits that read back as the number and, of those, the nearest; of two
that are as near, the even one. For
each count of digits only the two neighbours of the exact value on that decimal grid can read back
first, so they are all that is tried; seventeen digits always suffice. `Binary64.text` lays the
digits out: positionally from one ten-thousandth up to sixteen places, with an exponent beyond.
-/

namespace JavaStudio.Binary64

/-- `num / den` divided by `10 ^ k`, as a ratio. -/
def scaleDecimal (num den : Nat) (k : Int) : Nat × Nat :=
  if 0 ≤ k then (num, den * tenTo k.toNat) else (num * tenTo (-k).toNat, den)

/-- How many places after the point are zero: the least `k` below the bound with
`1 ≤ num / den · 10 ^ (k + 1)`. -/
def leadingZeros (num den : Nat) : Nat → Nat
  | 0 => 0
  | bound + 1 => if den ≤ num * 10 then 0 else leadingZeros (num * 10) den bound + 1

/-- The `e` with `10 ^ (e - 1) ≤ num / den < 10 ^ e`. -/
def magnitude (num den : Nat) : Int :=
  if den ≤ num then (Nat.toDigits 10 (num / den)).length else -(leadingZeros num den 400 : Int)

/-- The whole numbers next to `n / d`, the nearer one first; of two as near the even one. -/
def nearest (n d : Nat) : List Nat :=
  let low := n / d
  if 2 * (n % d) < d || (2 * (n % d) = d && low % 2 = 0) then [low, low + 1] else [low + 1, low]

/-- The decimals `n · 10 ^ k` next to `num / den` that read back as `x`, the nearer one first. -/
def neighbours (x : Binary64) (num den : Nat) (k : Int) : List Nat :=
  let (n, d) := scaleDecimal num den k
  (nearest n d).filter fun c => ofDecimal false c k = x

/-- Digits and power of ten of the first grid that has a decimal reading back as `x`, from `count`
digits on. -/
def searchFrom (x : Binary64) (num den : Nat) (e : Int) (count : Nat) : Nat → Nat × Int
  | 0 => (0, 0)
  | tries + 1 =>
    let k := e - count
    match neighbours x num den k with
    | c :: _ => (c, k)
    | [] => searchFrom x num den e (count + 1) tries

/-- The shortest decimal `n · 10 ^ k` of a finite number without its sign. -/
def shortest (mantissa : Nat) (exponent : Int) : Nat × Int :=
  if mantissa = 0 then (0, 0)
  else
    let (num, den) := scaleBinary mantissa 1 (-exponent)
    searchFrom (finite false mantissa exponent) num den (magnitude num den) 1 17

/-- The digits without the zeros at their end, of which one digit is kept. -/
def dropZeros (ds : Text) : Text :=
  match (ds.reverse.dropWhile (· == '0')).reverse with
  | [] => ['0']
  | kept => kept

/-- An exponent with its sign and two digits at least. -/
def exponentText (e : Int) : Text :=
  let ds := Text.ofNat e.natAbs
  (if e < 0 then '-' else '+') :: (if ds.length < 2 then '0' :: ds else ds)

/-- The digits of `n · 10 ^ k` laid out with a point, or with an exponent when the point falls more
than three places before them or after the sixteenth. -/
def layout (n : Nat) (k : Int) : Text :=
  let all := Text.ofNat n
  let point : Int := if n = 0 then 1 else all.length + k
  let ds := dropZeros all
  if point ≤ -4 || 16 < point then
    let fraction := match ds.drop 1 with
      | [] => []
      | rest => '.' :: rest
    ds.take 1 ++ fraction ++ 'e' :: exponentText (point - 1)
  else if point ≤ 0 then
    '0' :: '.' :: List.replicate (-point).toNat '0' ++ ds
  else
    let whole := ds.take point.toNat
    let fraction := ds.drop point.toNat
    whole ++ List.replicate (point.toNat - whole.length) '0' ++
      '.' :: (if fraction.isEmpty then ['0'] else fraction)

/-- The number in decimal. -/
def text : Binary64 → Text
  | nan => ['n', 'a', 'n']
  | infinite negative => (if negative then ['-'] else []) ++ ['i', 'n', 'f']
  | finite negative m q =>
    let (n, k) := shortest m q
    (if negative then ['-'] else []) ++ layout n k

end JavaStudio.Binary64
