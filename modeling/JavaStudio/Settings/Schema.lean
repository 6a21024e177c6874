import JavaStudio.Failure
import JavaStudio.Json.Basic
import JavaStudio.Text.Blank

/-!
# The schema of a settings file

What the value of each key must be like (`Conforms`), and the faults that a validator finds in a
document. Validators are found on the host; what the studio needs of them is that they find no fault
exactly in what conforms (`Sound`). `check` is such a validator. A number with a point is an integer if
its value is one.
-/

namespace JavaStudio.Schema

/-- What a value is asked to be. -/
inductive Demand
  | integer
  | integerFrom (least : Int)
  | truth
  | stringOrNull
  | nonEmptyString
  | solidString
  | strings
  deriving DecidableEq, Repr

/-- The demands on the keys of a settings file. -/
def demands : List (String × Demand) := [
  ("version", .integer), ("launcher_keyword", .solidString), ("active_compiler", .stringOrNull),
  ("javac_path", .nonEmptyString), ("compile_output_dir", .stringOrNull),
  ("extra_classpath", .strings), ("indent_width", .integerFrom 0),
  ("history_limit", .integerFrom 1), ("debug_logging", .truth), ("log_dir", .stringOrNull),
  ("recent_files", .strings)]

/-- A value that is an integer. -/
def isInteger : Json → Bool
  | .num n => n.toInt?.isSome
  | _ => false

/-- A value that is a string. -/
def isString (v : Json) : Bool := v.wide?.isSome

/-- A value that is a number below a bound. -/
def isBelow (least : Int) : Json → Bool
  | .num n => n.ltInt least
  | _ => false

/-- A text without blanks that is not empty, but for one line feed at its end. Half of a pair is no
blank. -/
def isSolid (w : Wide) : Bool :=
  let t := w.mended
  let core := if t.getLast? = some '\n' then t.dropLast else t
  !core.isEmpty && core.all fun c => !Text.isBlank c

/-- A value is as it is asked to be. -/
def Demand.isMet : Demand → Json → Bool
  | integer, v => isInteger v
  | integerFrom least, v => isInteger v && !isBelow least v
  | truth, .bool _ => true
  | truth, _ => false
  | stringOrNull, v => v.isNull || isString v
  | nonEmptyString, v => isString v && v.isTrue
  | solidString, v => v.wide?.any isSolid
  | strings, .arr vs => vs.all isString
  | strings, _ => false

/-- A document with fields that are as the schema asks. -/
def Conforms : Json → Prop
  | .obj fields => ∀ key demand, (key, demand) ∈ demands →
      ∀ v, Json.lookup key fields = some v → demand.isMet v = true
  | _ => False

/-! ## Validators -/

/-- A fault of a document: the key, the index of an item where one is at fault, and what is wrong. -/
structure Violation where
  key : Option String
  index : Option Nat
  detail : String
  deriving DecidableEq, Repr

/-- Where a fault stands. -/
def Violation.place (v : Violation) : String :=
  match v.key, v.index with
  | none, _ => "<root>"
  | some key, none => key
  | some key, some index => s!"{key}/{index}"

/-- Where a fault stands comes before or with where another one does. -/
def Violation.notAfter (a b : Violation) : Bool :=
  let ka := a.key.getD ""
  let kb := b.key.getD ""
  if ka = kb then
    match a.index, b.index with
    | none, _ => true
    | some _, none => false
    | some i, some j => decide (i ≤ j)
  else decide (ka ≤ kb)

/-- What lists the faults of a document. It may fail to put them into words. -/
abbrev Validator := Json → Except Failure (List Violation)

/-- A validator finds no fault exactly in the documents that conform to the schema. -/
def Sound (validate : Validator) : Prop := ∀ v, validate v = .ok [] ↔ Conforms v

/-- What is said of a value that is not of the kind asked for. -/
def notA (kind : String) : String := "not of type " ++ kind

/-- The faults of the items of an array, with their indices. -/
def itemFaults : Nat → List Json → List (Option Nat × String)
  | _, [] => []
  | k, v :: vs =>
    if isString v then itemFaults (k + 1) vs
    else (some k, notA "string") :: itemFaults (k + 1) vs

/-- The faults of a value, each with the index of the item it is about. -/
def faults : Demand → Json → List (Option Nat × String)
  | .integer, v => if isInteger v then [] else [(none, notA "integer")]
  | .integerFrom least, v =>
    (if isInteger v then [] else [(none, notA "integer")]) ++
      (if isBelow least v then [(none, s!"less than the minimum of {least}")] else [])
  | .truth, .bool _ => []
  | .truth, _ => [(none, notA "boolean")]
  | .stringOrNull, v => if v.isNull || isString v then [] else [(none, notA "string or null")]
  | .nonEmptyString, v =>
    if isString v then if v.isTrue then [] else [(none, "too short")] else [(none, notA "string")]
  | .solidString, v => match v.wide? with
    | some w => if isSolid w then [] else [(none, "does not match")]
    | none => [(none, notA "string")]
  | .strings, .arr vs => itemFaults 0 vs
  | .strings, _ => [(none, notA "array")]

/-- The faults of a document under one key. -/
def faultsAt (fields : List (String × Json)) (key : String) (demand : Demand) : List Violation :=
  match Json.lookup key fields with
  | some v => (faults demand v).map fun (index, detail) => ⟨some key, index, detail⟩
  | none => []

/-- The faults of a document. -/
def violations : Json → List Violation
  | .obj fields => demands.flatMap fun (key, demand) => faultsAt fields key demand
  | _ => [⟨none, none, notA "object"⟩]

/-- A validator that lists what is not as the schema asks, key by key. -/
def check : Validator := fun v => .ok (violations v)

end JavaStudio.Schema
