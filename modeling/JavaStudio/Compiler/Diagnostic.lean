import JavaStudio.Failure
import JavaStudio.Text.Blank
import JavaStudio.Text.Lines

/-!
# Diagnostics

What a compiler says about its sources, read from its output line by line. A diagnostic line is a
path, a line number, a kind and a message; the source line and the caret line that may follow it
give the column. A warning without a place is a line of its own.
-/

namespace JavaStudio

/-- A message of a compiler. Line and column are -1 when they are unknown. -/
structure Diagnostic where
  file : Text
  line : Int
  column : Int
  message : Text
  warning : Bool
  deriving DecidableEq, Repr

/-- The outcome of a compile; none means success. -/
abbrev Diagnostics := List Diagnostic

namespace Diagnostic

/-- An error without a place in the file. -/
def unlocated (file message : Text) : Diagnostic := ⟨file, -1, -1, message, false⟩

/-- A diagnostic line: its path, the digits of its line number, its kind and its message. -/
structure Head where
  path : Text
  digits : Text
  warning : Bool
  message : Text
  deriving DecidableEq, Repr

/-- The mark of an error and the mark of a warning, each with what it says of the kind. -/
def kinds : List (Text × Bool) :=
  [(Text.ofString ": error: ", false), (Text.ofString ": warning: ", true)]

/-- Digits, a kind and a message after the colon of a path. -/
def place? (t : Text) : Option (Text × Bool × Text) :=
  match t.takeWhile Text.isDigit with
  | [] => none
  | ds => kinds.findSome? fun (mark, warning) =>
    (Text.after? mark (t.dropWhile Text.isDigit)).map fun message => (ds, warning, message)

/-- A diagnostic line whose path begins with the reversed text `path`; the shortest path counts. -/
def headFrom (path : Text) : Text → Option Head
  | [] => none
  | c :: t =>
    match if c = ':' && !path.isEmpty then place? t else none with
    | some (ds, warning, message) => some ⟨path.reverse, ds, warning, message⟩
    | none => if c = '\n' then none else headFrom (c :: path) t

/-- A line as a diagnostic line. -/
def head? (line : Text) : Option Head := headFrom [] line

/-- The message of a warning without a place. -/
def globalWarning? (line : Text) : Option Text := Text.after? (Text.ofString "warning: ") line

/-- The column that a caret line points at. -/
def caretColumn? (line : Text) : Option Nat :=
  if Text.trim line = ['^'] then some (line.findIdx (· == '^') + 1) else none

/-- A diagnostic line with its column. A line number of too many digits is not read. -/
def ofHead (h : Head) (column : Int) : Except Failure Diagnostic :=
  if Text.maxDigits < h.digits.length then .error (.tooManyDigits h.digits.length)
  else .ok ⟨h.path, Text.digitsValue (h.digits.filterMap Text.digitValue?), column, h.message,
    h.warning⟩

/-- The diagnostics of some lines. -/
def ofLines : List Text → Except Failure Diagnostics
  | [] => .ok []
  | line :: rest =>
    match head? line with
    | none => match globalWarning? line with
      | some message => (ofLines rest).map (⟨[], -1, -1, message, true⟩ :: ·)
      | none => ofLines rest
    | some h => match rest with
      | source :: caret :: after => match caretColumn? caret with
        | some column => do
          let d ← ofHead h column
          let ds ← ofLines after
          return d :: ds
        | none => do
          let d ← ofHead h (-1)
          let ds ← ofLines (source :: caret :: after)
          return d :: ds
      | rest => do
        let d ← ofHead h (-1)
        let ds ← ofLines rest
        return d :: ds

/-- The diagnostics in a compiler's output. -/
def parse (output : Text) : Except Failure Diagnostics := ofLines (Text.lines output)

end Diagnostic

end JavaStudio
