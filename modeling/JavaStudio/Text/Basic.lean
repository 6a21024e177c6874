/-!
# Text

Source text, compiler output and interaction lines are sequences of code points. Offsets and
lengths count code points, and a text is taken apart by recursion on its characters.
-/

namespace JavaStudio

/-- A text is the list of its characters. -/
abbrev Text := List Char

namespace Text

/-- The text of a string. -/
abbrev ofString (s : String) : Text := s.toList

/-- `n` lies in one of the closed ranges. -/
def inRanges (ranges : List (Nat × Nat)) (n : Nat) : Bool :=
  ranges.any fun r => r.1 ≤ n && n ≤ r.2

/-- What follows the leading `p` of a text, if the text begins with `p`. -/
def after? : (p t : Text) → Option Text
  | [], t => some t
  | _ :: _, [] => none
  | a :: p, c :: t => if a = c then after? p t else none

theorem after?_eq_some_iff {p t r : Text} : after? p t = some r ↔ t = p ++ r := by
  induction p generalizing t with
  | nil => simp [after?, eq_comm]
  | cons a p ih =>
    cases t with
    | nil => simp [after?]
    | cons c t =>
      by_cases h : a = c
      · simp [after?, h, ih]
      · simp [after?, h, Ne.symm h]

/-- The texts with `sep` between neighbours. -/
def join (sep : Text) : List Text → Text
  | [] => []
  | [t] => t
  | t :: u :: ts => t ++ sep ++ join sep (u :: ts)

/-- The text cut at every character of the class, which is dropped: one part more than cuts. -/
def splitAt (cut : Char → Bool) : Text → List Text
  | [] => [[]]
  | c :: t =>
    if cut c then [] :: splitAt cut t
    else match splitAt cut t with
      | [] => [[c]]
      | p :: ps => (c :: p) :: ps

end Text

end JavaStudio
