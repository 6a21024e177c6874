import JavaStudio.Json.Basic
import JavaStudio.Text.Quoted

/-!
# Writing JSON

The written form is ASCII: other characters are escaped as UTF-16 units. `indented` puts every item
on a line of its own and the fields in the order of their names; `compact` keeps all on one line.
-/

namespace JavaStudio.Json

/-- An escaped UTF-16 unit. -/
def unit (n : Nat) : Text := '\\' :: 'u' :: Text.hex 4 n

/-- A character inside a string. -/
def charText (c : Char) : Text :=
  if c = '"' then ['\\', '"']
  else if c = '\\' then ['\\', '\\']
  else if c = '\n' then ['\\', 'n']
  else if c = '\r' then ['\\', 'r']
  else if c = '\t' then ['\\', 't']
  else if c = '\x08' then ['\\', 'b']
  else if c = '\x0c' then ['\\', 'f']
  else
    let n := c.toNat
    if 32 ≤ n && n ≤ 126 then [c]
    else if n < 0x10000 then unit n
    else unit (0xD800 + (n - 0x10000) / 0x400) ++ unit (0xDC00 + (n - 0x10000) % 0x400)

/-- A string between its quotes. -/
def stringText (s : String) : Text := '"' :: s.toList.flatMap charText ++ ['"']

/-- A wide text inside a string. -/
def wideText : Wide → Text
  | .text t => t.flatMap charText
  | .torn t half rest => t.flatMap charText ++ unit half.unit ++ wideText rest

/-- A number; the three that have no digits are written by name. -/
def numberText : Number → Text
  | .float .nan => Text.ofString "NaN"
  | .float (.infinite false) => Text.ofString "Infinity"
  | .float (.infinite true) => Text.ofString "-Infinity"
  | n => n.text

/-- A value that is neither array nor object. -/
def scalarText : Json → Text
  | bool true => Text.ofString "true"
  | bool false => Text.ofString "false"
  | num n => numberText n
  | str s => stringText s
  | torn t half rest => '"' :: wideText (.torn t half rest) ++ ['"']
  | _ => Text.ofString "null"

/-- A number that is no integer of more digits than are written. -/
def isWritableNumber : Number → Bool
  | .int i => (Text.ofNat i.natAbs).length ≤ Text.maxDigits
  | .float _ => true

mutual

/-- No integer in a value has more digits than are written. -/
def isWritable : Json → Bool
  | num n => isWritableNumber n
  | arr vs => areWritable vs
  | obj fs => fieldsAreWritable fs
  | _ => true

/-- No integer in some items has more digits than are written. -/
def areWritable : List Json → Bool
  | [] => true
  | v :: vs => isWritable v && areWritable vs

/-- No integer in some fields has more digits than are written. -/
def fieldsAreWritable : List (String × Json) → Bool
  | [] => true
  | (_, v) :: fs => isWritable v && fieldsAreWritable fs

end

/-- The start of a line at some depth. -/
def newline (depth : Nat) : Text := '\n' :: List.replicate (2 * depth) ' '

/-- Items at `depth + 1` between brackets, each on its own line. -/
def block (depth : Nat) (opening closing : Char) : List Text → Text
  | [] => [opening, closing]
  | ts =>
    opening :: newline (depth + 1) ++ Text.join (',' :: newline (depth + 1)) ts ++
      newline depth ++ [closing]

/-- The fields in the order of their names. -/
def byName (fields : List (String × Text)) : List (String × Text) :=
  fields.mergeSort fun a b => decide (a.1 ≤ b.1)

mutual

/-- The written form at some depth, an item to a line. -/
def indentedAt (depth : Nat) : Json → Text
  | arr vs => block depth '[' ']' (indentedItems (depth + 1) vs)
  | obj fs =>
    block depth '{' '}' ((byName (indentedFields (depth + 1) fs)).map fun f =>
      stringText f.1 ++ [':', ' '] ++ f.2)
  | v => scalarText v

/-- The written forms of items. -/
def indentedItems (depth : Nat) : List Json → List Text
  | [] => []
  | v :: vs => indentedAt depth v :: indentedItems depth vs

/-- The written forms of fields. -/
def indentedFields (depth : Nat) : List (String × Json) → List (String × Text)
  | [] => []
  | (k, v) :: fs => (k, indentedAt depth v) :: indentedFields depth fs

end

/-- The written form with an item to a line and fields in the order of their names. -/
def indented (v : Json) : Text := indentedAt 0 v

mutual

/-- The written form on one line. -/
def compact : Json → Text
  | arr vs => '[' :: Text.join [','] (compactItems vs) ++ [']']
  | obj fs => '{' :: Text.join [','] (compactFields fs) ++ ['}']
  | v => scalarText v

/-- The written forms of items on one line. -/
def compactItems : List Json → List Text
  | [] => []
  | v :: vs => compact v :: compactItems vs

/-- The written forms of fields on one line. -/
def compactFields : List (String × Json) → List Text
  | [] => []
  | (k, v) :: fs => (stringText k ++ ':' :: compact v) :: compactFields fs

end

mutual

/-- How a value is shown inside another: strings between quotes. -/
def shown : Json → Text
  | null => Text.ofString "None"
  | bool true => Text.ofString "True"
  | bool false => Text.ofString "False"
  | num n => n.text
  | str s => Text.quoted s.toList
  | torn t half rest => (Wide.torn t half rest).quoted
  | arr vs => '[' :: Text.join [',', ' '] (shownItems vs) ++ [']']
  | obj fs => '\x7b' :: Text.join [',', ' '] (shownFields fs) ++ ['\x7d']

/-- How items are shown. -/
def shownItems : List Json → List Text
  | [] => []
  | v :: vs => shown v :: shownItems vs

/-- How fields are shown. -/
def shownFields : List (String × Json) → List Text
  | [] => []
  | (k, v) :: fs => (Text.quoted k.toList ++ [':', ' '] ++ shown v) :: shownFields fs

end

/-- How a value is shown to a reader: a string as it is, with its halves of pairs replaced. -/
def display : Json → Text
  | str s => s.toList
  | torn t half rest => (Wide.torn t half rest).mended
  | v => shown v

end JavaStudio.Json
