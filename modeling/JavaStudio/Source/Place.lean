import JavaStudio.Failure
import JavaStudio.Json.Basic

/-!
# Places in a text

A place lies between two characters of a text, or at an end of it, and is known by the number of
characters before it. A place that was given as a truth value or as a floating-point number keeps that
form until it is moved to a whole number.
-/

namespace JavaStudio

/-- A place in a text. -/
inductive Place
  | whole (offset : Nat)
  | flag
  | floating (x : Binary64)
  deriving DecidableEq, Repr

instance : Inhabited Place := ⟨.whole 0⟩

namespace Place

/-- The number of characters before a place. -/
def offset : Place → Nat
  | whole k => k
  | flag => 1
  | floating x => x.floor.toNat

/-- A place as the value that it was given as. -/
def toJson : Place → Json
  | whole k => .int k
  | flag => .bool true
  | floating x => .num (.float x)

/-- The place for a value in a text of some length; what lies outside is moved to the nearer end. -/
def ofJson (length : Nat) : Json → Except Failure Place
  | .num (.int k) => .ok (.whole (min k.toNat length))
  | .num (.float x) =>
    .ok (if x.gtInt length then .whole length else if x.gtInt 0 then .floating x else .whole 0)
  | .bool b => .ok (if b && 0 < length then .flag else .whole 0)
  | v => .error (.wrongKind (.incomparable "<" "int" v.kind))

/-- A place moved into a text of some length. -/
def within (length : Nat) : Place → Place
  | whole k => .whole (min k length)
  | flag => if length = 0 then .whole 0 else .flag
  | floating x => if x.gtInt length then .whole length else .floating x

/-- A place behind so many more characters. -/
def forward (count : Nat) : Place → Place
  | whole k => .whole (k + count)
  | flag => .whole (1 + count)
  | floating x => .floating (x.addNat count)

/-- A place at which a text can be cut, which a floating-point number is not. -/
def cut : Place → Except Failure Nat
  | whole k => .ok k
  | flag => .ok 1
  | floating _ => .error (.wrongKind .notPlace)

/-- The line that a value stands for, counted from one. -/
def lineOf : Json → Except Failure Int
  | .num (.int k) => .ok k
  | .num (.float x) => if x.ltInt 1 then .ok 1 else .error (.wrongKind (.notCount "float"))
  | .bool _ => .ok 1
  | v => .error (.wrongKind (.incomparable ">" "int" v.kind))

@[simp] theorem offset_whole (k : Nat) : (whole k).offset = k := rfl

@[simp] theorem within_whole (length k : Nat) :
    (whole k).within length = whole (min k length) := rfl

@[simp] theorem forward_whole (count k : Nat) : (whole k).forward count = whole (k + count) := rfl

@[simp] theorem ofJson_int (length : Nat) (k : Int) :
    ofJson length (.int k) = .ok (.whole (min k.toNat length)) := rfl

end Place

end JavaStudio
