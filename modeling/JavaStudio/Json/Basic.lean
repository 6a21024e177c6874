import JavaStudio.Number.Basic
import JavaStudio.Text.Wide

/-!
# JSON values

An object is the list of its fields in the order in which their names came first; a later field of
the same name takes the place of the earlier one. A string is a wide text: `str` if it has no half of a
surrogate pair, else `torn`.
-/

namespace JavaStudio

/-- A JSON value. -/
inductive Json
  | null
  | bool (value : Bool)
  | num (value : Number)
  | str (value : String)
  | torn (t : Text) (half : Half) (rest : Wide)
  | arr (items : List Json)
  | obj (fields : List (String × Json))
  deriving Repr, Inhabited, BEq

namespace Json

/-- An integer value. -/
abbrev int (i : Int) : Json := num (.int i)

/-- The string of a wide text. -/
def ofWide : Wide → Json
  | .text t => str (String.ofList t)
  | .torn t half rest => torn t half rest

/-- The wide text of a string. -/
def wide? : Json → Option Wide
  | str s => some (.text s.toList)
  | torn t half rest => some (.torn t half rest)
  | _ => none

theorem wide?_eq_some {v : Json} {w : Wide} : v.wide? = some w ↔ v = ofWide w := by
  constructor
  · intro h
    cases v with
    | str s =>
      cases h
      rw [ofWide, String.ofList_toList]
    | torn t half rest =>
      cases h
      rfl
    | _ => cases h
  · rintro rfl
    cases w with
    | text t => rw [ofWide, wide?, String.toList_ofList]
    | torn t half rest => rfl

theorem ofWide_injective : Function.Injective ofWide := fun w w' same => by
  have read : (ofWide w).wide? = some w' := wide?_eq_some.2 same
  rw [wide?_eq_some.2 rfl] at read
  exact Option.some.inj read

theorem str_eq_ofWide (s : String) : str s = ofWide (.text s.toList) := by
  rw [ofWide, String.ofList_toList]

/-- The array of some strings. -/
def strings (ss : List String) : Json := arr (ss.map str)

/-- The fields with `value` under `name`. -/
def put (name : String) (value : Json) : List (String × Json) → List (String × Json)
  | [] => [(name, value)]
  | (k, v) :: fs => if k = name then (k, value) :: fs else (k, v) :: put name value fs

/-- The value of the first field called `name`. -/
def lookup (name : String) : List (String × Json) → Option Json
  | [] => none
  | (k, v) :: fs => if k = name then some v else lookup name fs

/-- The field of an object. -/
def field? (name : String) : Json → Option Json
  | obj fields => lookup name fields
  | _ => none

/-- Null, false, zero and whatever is empty count as false. -/
def isTrue : Json → Bool
  | null => false
  | bool b => b
  | num n => !n.isZero
  | str s => !s.isEmpty
  | torn .. => true
  | arr items => !items.isEmpty
  | obj fields => !fields.isEmpty

/-- The name of a value's kind. -/
def kind : Json → String
  | null => "NoneType"
  | bool _ => "bool"
  | num (.int _) => "int"
  | num (.float _) => "float"
  | str _ | torn .. => "str"
  | arr _ => "list"
  | obj _ => "dict"

mutual

/-- How deep arrays and objects are nested in a value. -/
def depth : Json → Nat
  | arr vs => itemsDepth vs + 1
  | obj fs => fieldsDepth fs + 1
  | _ => 0

/-- The largest depth of some items. -/
def itemsDepth : List Json → Nat
  | [] => 0
  | v :: vs => max (depth v) (itemsDepth vs)

/-- The largest depth of some fields. -/
def fieldsDepth : List (String × Json) → Nat
  | [] => 0
  | (_, v) :: fs => max (depth v) (fieldsDepth fs)

end

mutual

/-- The room that a copy takes: two for an array or object beside its largest part, three for any other
value and for a name. -/
def room : Json → Nat
  | arr vs => 2 + itemsRoom vs
  | obj fs => 2 + fieldsRoom fs
  | _ => 3

/-- The largest room of some items. -/
def itemsRoom : List Json → Nat
  | [] => 0
  | v :: vs => max (room v) (itemsRoom vs)

/-- The largest room of some fields. -/
def fieldsRoom : List (String × Json) → Nat
  | [] => 0
  | (_, v) :: fs => max (max 3 (room v)) (fieldsRoom fs)

end

/-- The value is null. -/
def isNull : Json → Bool
  | null => true
  | _ => false

end Json

end JavaStudio
