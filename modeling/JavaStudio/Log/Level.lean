import JavaStudio.Failure
import JavaStudio.Json.Printer

/-!
# Levels of records

How much a record matters, as a number. Six of the numbers have names, two of them a second one.
-/

namespace JavaStudio

/-- The importance of a record, larger for what matters more. A level that was given as a truth value
counts as one or zero and is shown as it was given. -/
structure Level where
  value : Int
  isFlag : Bool := false
  deriving DecidableEq, Repr, Inhabited

namespace Level

/-- For what is not sorted by importance. -/
def notSet : Level := { value := 0 }

/-- For following the program step by step. -/
def debug : Level := { value := 10 }

/-- For news that calls for nothing. -/
def info : Level := { value := 20 }

/-- For what may surprise. -/
def warning : Level := { value := 30 }

/-- For what failed. -/
def error : Level := { value := 40 }

/-- For what stops the program. -/
def critical : Level := { value := 50 }

/-- The names of levels, the name that is shown of each first. -/
def names : List (String × Level) := [
  ("NOTSET", notSet), ("DEBUG", debug), ("INFO", info), ("WARNING", warning), ("ERROR", error),
  ("CRITICAL", critical), ("WARN", warning), ("FATAL", critical)]

/-- A level as the value that it was given as. -/
def toJson (l : Level) : Json := if l.isFlag then .bool (l.value ≠ 0) else .int l.value

/-- The name that is shown of a level. -/
def name (l : Level) : String :=
  match names.find? (·.2.value == l.value) with
  | some (n, _) => n
  | none => "Level " ++ String.ofList l.toJson.display

/-- A level is as high as another one. -/
def reaches (l least : Level) : Bool := least.value ≤ l.value

/-- The higher of two levels, the second one if they are alike. -/
def higher (l least : Level) : Level := if least.value < l.value then l else least

/-- The level that a value stands for: a number, a truth value or a name. -/
def ofJson : Json → Except Failure Level
  | .num (.int l) => .ok { value := l }
  | .bool b => .ok { value := if b then 1 else 0, isFlag := true }
  | .str n => match names.lookup n with
    | some l => .ok l
    | none => .error (.unknownLevel (quoted n))
  | v => .error (.wrongKind (.notLevel (String.ofList v.shown)))

end Level

end JavaStudio
