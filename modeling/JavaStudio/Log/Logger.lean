import JavaStudio.Text.Basic

/-!
# Loggers below loggers

A logger hangs on the nearest of the loggers above it that there are. Those above it have the parts of
its name before its dots; of dots side by side only every second one counts, from the last one back,
and a dot at the head never does.
-/

namespace JavaStudio.Logger

/-- The positions, from the last one back, without those right before one that is kept. -/
def spaced : List Nat → List Nat
  | i :: j :: ds => if j + 1 = i then i :: spaced ds else i :: spaced (j :: ds)
  | ds => ds

/-- The positions of the dots of a name, from the last one back. -/
def dots (name : Text) : List Nat :=
  ((name.zipIdx.filter fun c => c.1 == '.').map (·.2)).reverse

/-- The names above a name, the nearest first. -/
def above (name : String) : List String :=
  ((spaced (dots name.toList)).filter (0 < ·)).map fun i => String.ofList (name.toList.take i)

/-- The loggers that a logger hangs on, the nearest first, among those there are. The number bounds how
many they are. -/
def chain (there : List String) : Nat → String → List String
  | 0, _ => []
  | height + 1, name => match (above name).find? there.contains with
    | none => []
    | some n => n :: chain there height n

/-- A logger is the named one or hangs on it, among those there are. -/
def isBelow (there : List String) (name logger : String) : Bool :=
  logger == name || (chain there logger.length logger).contains name

/-- The logger of a name; without a name it is the one above all others. -/
def named (name : String) : String := if name.isEmpty then "root" else name

end JavaStudio.Logger
