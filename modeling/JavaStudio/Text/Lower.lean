import JavaStudio.Text.LowerTable
import JavaStudio.Text.Basic

/-!
# Lower case

The full lower-case map: one code point goes to one code point, but for a dotted capital I, which
keeps its dot as a mark of its own, and a capital sigma, which takes its final form at the end of a
word.
-/

namespace JavaStudio.Text

/-- The lower-case form of a code point that has one form only. -/
def lowerCode (n : Nat) : Nat :=
  if n < 128 then (if 65 ≤ n && n ≤ 90 then n + 32 else n)
  else match lowerRuns.find? fun (a, b, step, _) => a ≤ n && n ≤ b && (n - a) % step == 0 with
    | some (a, _, _, image) => image + (n - a)
    | none => n

/-- The first character that is not looked through is cased. -/
def casedNext (t : Text) : Bool :=
  match t.find? fun c => !inRanges looseRanges c.toNat with
  | some c => inRanges asciiCased c.toNat || inRanges casedRanges c.toNat
  | none => false
where
  asciiCased : List (Nat × Nat) := [(65, 90), (97, 122)]

/-- The lower-case form of `c` after the reversed text `before` and ahead of `rest`. -/
def lowerChar (before : Text) (c : Char) (rest : Text) : Text :=
  if c = 'İ' then ['i', '\u0307']
  else if c = 'Σ' then [if casedNext before && !casedNext rest then 'ς' else 'σ']
  else [Char.ofNat (lowerCode c.toNat)]

/-- The lower-case form of a text that follows the reversed text `before`. -/
def lowerFrom (before : Text) : Text → Text
  | [] => []
  | c :: t => lowerChar before c t ++ lowerFrom (c :: before) t

/-- The lower-case form of a text. -/
def lower (t : Text) : Text := lowerFrom [] t

end JavaStudio.Text
