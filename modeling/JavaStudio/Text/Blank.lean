import JavaStudio.Text.Basic

/-!
# White space

The class of blank characters, trimming and the cut into words. `words` gives the maximal runs of
characters that are not blank, in order.
-/

namespace JavaStudio.Text

/-- Blank characters: the controls from tab to carriage return and from file to unit separator,
next line, and the space separators with the line and paragraph separator. -/
def isBlank (c : Char) : Bool :=
  let n := c.toNat
  (9 ≤ n && n ≤ 13) || (28 ≤ n && n ≤ 32) || n == 0x85 || n == 0xA0 || n == 0x1680 ||
    (0x2000 ≤ n && n ≤ 0x200A) || n == 0x2028 || n == 0x2029 || n == 0x202F || n == 0x205F ||
    n == 0x3000

/-- The text without its leading blanks. -/
def dropBlank (t : Text) : Text := t.dropWhile isBlank

/-- The text without its blanks at either end. -/
def trim (t : Text) : Text := (dropBlank (dropBlank t).reverse).reverse

/-- The runs of characters that are not blank. -/
def words : Text → List Text
  | [] => []
  | c :: t =>
    if isBlank c then words t
    else match t with
      | [] => [[c]]
      | d :: _ =>
        if isBlank d then [c] :: words t
        else match words t with
          | [] => [[c]]
          | w :: ws => (c :: w) :: ws

end JavaStudio.Text
