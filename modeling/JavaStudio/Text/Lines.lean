import JavaStudio.Text.Basic

/-!
# Lines

Two views of line ends. `lines` cuts a text at every line boundary that Unicode knows, for the
output of other programs. `unixNewlines` turns the carriage returns of source text into line feeds.
-/

namespace JavaStudio.Text

/-- Line feed, vertical tab, form feed, carriage return, the file, group and record separators,
next line, and the line and paragraph separators end a line. -/
def isLineEnd (c : Char) : Bool :=
  let n := c.toNat
  (10 ≤ n && n ≤ 13) || (28 ≤ n && n ≤ 30) || n == 0x85 || n == 0x2028 || n == 0x2029

/-- Puts a character in front of the first line. -/
def onFirst (c : Char) : List Text → List Text
  | [] => [[c]]
  | l :: ls => (c :: l) :: ls

/-- The lines of a text without their ends. A carriage return and the line feed after it are one
end, and nothing follows the last end. -/
def lines : Text → List Text
  | [] => []
  | '\r' :: '\n' :: t => [] :: lines t
  | c :: t => if isLineEnd c then [] :: lines t else onFirst c (lines t)

/-- Every line end of the text written as a line feed. -/
def unixNewlines : Text → Text
  | [] => []
  | '\r' :: '\n' :: t => '\n' :: unixNewlines t
  | c :: t => (if c = '\r' then '\n' else c) :: unixNewlines t

/-- Every line feed written as `newline`. -/
def withNewline (newline : Text) : Text → Text
  | [] => []
  | c :: t => (if c = '\n' then newline else [c]) ++ withNewline newline t

theorem return_not_mem_unixNewlines (t : Text) : '\r' ∉ unixNewlines t := by
  fun_induction unixNewlines t with
  | case1 => simp
  | case2 t ih => simp [ih]
  | case3 c t _ ih =>
    by_cases h : c = '\r'
    · simp [h, ih]
    · simp [h, ih, Ne.symm h]

/-- A text without carriage returns is left as it is. -/
theorem unixNewlines_of_not_mem {t : Text} (h : '\r' ∉ t) : unixNewlines t = t := by
  fun_induction unixNewlines t with
  | case1 => rfl
  | case2 t _ => simp at h
  | case3 c t _ ih =>
    simp only [List.mem_cons, not_or] at h
    simp [Ne.symm h.1, ih h.2]

end JavaStudio.Text
