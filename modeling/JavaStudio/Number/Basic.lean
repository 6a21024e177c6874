import JavaStudio.Number.Shortest

/-!
# Numbers of a configuration

A configured number is an integer of any size or a binary64 number. The two kinds compare by value
and keep their kind: `2` and `2.0` are written differently.
-/

namespace JavaStudio

/-- An integer or a binary64 number. -/
inductive Number
  | int (value : Int)
  | float (value : Binary64)
  deriving DecidableEq, Repr, Inhabited

namespace Number

/-- The number lies below the integer. -/
def ltInt : Number → Int → Bool
  | int i, k => i < k
  | float x, k => x.ltInt k

/-- The number lies above the integer. -/
def gtInt : Number → Int → Bool
  | int i, k => k < i
  | float x, k => x.gtInt k

/-- The integer that the number is, if it is one, whatever its kind. -/
def toInt? : Number → Option Int
  | int i => some i
  | float x => x.toInt?

/-- The number is an integer beyond all floating-point numbers. -/
def isHuge : Number → Bool
  | int i => match Binary64.ofRatio false i.natAbs 1 with
    | .infinite _ => true
    | _ => false
  | float _ => false

/-- The larger of an integer and a number, the integer unless the number exceeds it. -/
def atLeast (k : Int) (x : Number) : Number := if x.gtInt k then x else int k

/-- A number counts as false when it is zero. -/
def isZero : Number → Bool
  | int i => i == 0
  | float x => x.isZero

/-- The number in decimal. -/
def text : Number → Text
  | int i => Text.ofInt i
  | float x => x.text

@[simp] theorem atLeast_int (k i : Int) : atLeast k (int i) = int (max k i) := by
  by_cases h : k < i
  · simp [atLeast, gtInt, h, Int.max_eq_right (Int.le_of_lt h)]
  · simp [atLeast, gtInt, h, Int.max_eq_left (Int.not_lt.1 h)]

end Number

end JavaStudio
