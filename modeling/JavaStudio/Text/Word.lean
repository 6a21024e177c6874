import JavaStudio.Text.WordTable
import JavaStudio.Text.Basic

/-!
# Word characters and identifiers

A word character is a letter, a number or an underscore. An identifier of a package begins with
an ASCII letter, an underscore or a dollar sign and goes on with word characters and dollar signs.
-/

namespace JavaStudio.Text

/-- An ASCII letter. -/
def isAsciiLetter (c : Char) : Bool :=
  ('a' ≤ c && c ≤ 'z') || ('A' ≤ c && c ≤ 'Z')

/-- A letter, a number or an underscore. -/
def isWord (c : Char) : Bool :=
  isAsciiLetter c || ('0' ≤ c && c ≤ '9') || c == '_' ||
    (128 ≤ c.toNat && inRanges wordRanges c.toNat)

/-- A character that an identifier may begin with. -/
def isIdentStart (c : Char) : Bool := isAsciiLetter c || c == '_' || c == '$'

/-- A character that an identifier may go on with. -/
def isIdentPart (c : Char) : Bool := isWord c || c == '$'

/-- An identifier at the head of a text, as long as it can be, and what follows it. -/
def identifier? : Text → Option (Text × Text)
  | [] => none
  | c :: t =>
    if isIdentStart c then some (c :: t.takeWhile isIdentPart, t.dropWhile isIdentPart) else none

end JavaStudio.Text
