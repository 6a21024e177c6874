import JavaStudio.Json.Basic
import JavaStudio.Source.File
import JavaStudio.Source.Package
import JavaStudio.Source.Place

/-!
# The text buffer of a document

The text being edited, a cursor between two characters and whether the text has changed since it
was last read or written. Offsets outside the text are moved to its nearer end.
-/

namespace JavaStudio

/-- A text with a cursor. -/
structure Buffer where
  text : Text := []
  place : Place := .whole 0
  modified : Bool := false
  indent : Json := .int 2
  deriving Repr, Inhabited

/-- The closing bracket's partner. -/
def openerOf? : Char → Option Char
  | ')' => some '('
  | ']' => some '['
  | '}' => some '\x7b'
  | _ => none

/-- An opening bracket. -/
def isOpener (c : Char) : Bool := c == '(' || c == '[' || c == '\x7b'

/-- Reads a text backwards from a closing bracket: the distance to its partner. The stack holds the
openers still to come, the nearest first. -/
def matchBack : List Char → Nat → Text → Option Nat
  | _, _, [] => none
  | stack, distance, c :: t =>
    match openerOf? c with
    | some o => matchBack (o :: stack) (distance + 1) t
    | none =>
      if isOpener c then
        match stack with
        | [] => none
        | o :: rest =>
          if o ≠ c then none
          else if rest.isEmpty then some (distance + 1)
          else matchBack rest (distance + 1) t
      else matchBack stack (distance + 1) t

/-- The length of a text up to and with its first line feed. -/
def lineLength? (t : Text) : Option Nat := (t.findIdx? (· == '\n')).map (· + 1)

/-- The offset after so many line feeds, or after the last one if there are fewer. -/
def lineOffset : Nat → Text → Nat
  | 0, _ => 0
  | n + 1, t => match lineLength? t with
    | none => 0
    | some k => k + lineOffset n (t.drop k)

namespace Buffer

/-- The number of characters before the cursor. -/
def cursor (b : Buffer) : Nat := b.place.offset

/-- An offset moved into the text. -/
def clamp (b : Buffer) (offset : Int) : Nat := min offset.toNat b.text.length

/-- Moves the cursor. -/
def setCursor (b : Buffer) (offset : Int) : Buffer := { b with place := .whole (b.clamp offset) }

/-- Moves the cursor to where a value says. -/
def setCursorTo (b : Buffer) (offset : Json) : Except Failure Buffer :=
  (Place.ofJson b.text.length offset).map fun place => { b with place := place }

/-- Replaces the whole text. -/
def setText (b : Buffer) (text : Text) : Buffer :=
  { b with text := text, place := b.place.within text.length, modified := true }

/-- Puts a fragment at an offset. The cursor keeps its place in the text, and goes behind a fragment
put right at it. -/
def insert (b : Buffer) (offset : Int) (fragment : Text) : Buffer :=
  let k := b.clamp offset
  { b with
    text := b.text.take k ++ fragment ++ b.text.drop k
    place := if k ≤ b.cursor then b.place.forward fragment.length else b.place
    modified := true }

/-- Puts a fragment where a value says. -/
def insertAt (b : Buffer) (offset : Json) (fragment : Text) : Except Failure Buffer := do
  let place ← Place.ofJson b.text.length offset
  return b.insert (← place.cut) fragment

/-- The text is on file as it is. -/
def markSaved (b : Buffer) : Buffer := { b with modified := false }

/-- The start of a line, counted from one; past the end it is that of the last line. -/
def lineStart (b : Buffer) (line : Int) : Nat := lineOffset (max line 1 - 1).toNat b.text

/-- Moves the cursor to the start of a line. -/
def gotoLine (b : Buffer) (line : Int) : Buffer := { b with place := .whole (b.lineStart line) }

/-- The distance from the cursor back to the partner of the closing bracket before it; -1 when there
is none. -/
def balanceBackward (b : Buffer) : Int :=
  match (b.text.take b.cursor).reverse with
  | [] => -1
  | c :: t =>
    if (openerOf? c).isSome then
      match matchBack [] 0 (c :: t) with
      | some d => d
      | none => -1
    else -1

/-- The distance back from the cursor, which must be a place at which a text can be cut. -/
def balance (b : Buffer) : Except Failure Int :=
  match b.place with
  | .floating _ => .error (.wrongKind (.notCharacterPlace "float"))
  | _ => .ok b.balanceBackward

/-- Moves the cursor to the start of the line that a value says. -/
def gotoLineOf (b : Buffer) (line : Json) : Except Failure Buffer :=
  (Place.lineOf line).map b.gotoLine

/-- The indent that a width asks for, which is never negative. -/
def indentFor : Json → Except Failure Json
  | .num width => .ok (.num (width.atLeast 0))
  | .bool b => .ok (if b then .bool true else .int 0)
  | v => .error (.wrongKind (.incomparable ">" v.kind "int"))

/-- Sets the indent. -/
def setIndent (b : Buffer) (indent : Json) : Buffer := { b with indent := indent }

/-- The package that the text declares. -/
def package (b : Buffer) : Except Failure Text := Package.declared b.text

/-- The buffer with the text of a file. -/
def read (b : Buffer) (fs : Files) (p : Path) : Except Failure Buffer :=
  match Source.read fs p none with
  | .ok t => .ok { b with text := t, place := .whole 0, modified := false }
  | .error e => .error e

/-- Writes the text to a file on a system that may refuse. -/
def writeUnder (refused : Refusals) (b : Buffer) (p : Path) : Task Files Unit := do
  let _ ← Source.writeUnder refused p (.text b.text) "utf-8" "\n"

/-- Writes the text to a file on a system that refuses nothing. -/
def write (b : Buffer) (p : Path) : Task Files Unit := b.writeUnder (fun _ => none) p

end Buffer

end JavaStudio
