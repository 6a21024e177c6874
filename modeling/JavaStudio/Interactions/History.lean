import JavaStudio.Act
import JavaStudio.Number.Basic

/-!
# The history of interactions

The lines submitted so far, oldest first, with a cursor that lies at one of them or past the newest.
Only the newest lines up to the limit are kept.
-/

namespace JavaStudio

/-- Submitted lines with a cursor. -/
structure History where
  entries : List Text
  limit : Number
  cursor : Nat
  deriving DecidableEq, Repr, Inhabited

namespace History

/-- The empty history that keeps so many lines, one at least. -/
def empty (limit : Number) : History := ⟨[], limit.atLeast 1, 0⟩

/-- The history with a line after its newest and the cursor past it. A limit that is not written as
an integer cannot trim: when it should, the line stays and the cursor too. -/
def add (entry : Text) : Task History Unit := fun h =>
  let entries := h.entries ++ [entry]
  if h.limit.ltInt entries.length then
    match h.limit with
    | .int limit =>
      let kept := entries.drop (entries.length - limit.toNat)
      (.ok (), { h with entries := kept, cursor := kept.length })
    | .float _ => (.error (.wrongKind .notPlace), { h with entries := entries })
  else (.ok (), { h with entries := entries, cursor := entries.length })

/-- The history with its cursor past the newest line. -/
def moveEnd (h : History) : History := { h with cursor := h.entries.length }

/-- A line stands before the cursor. -/
def hasPrevious (h : History) : Bool := 0 < h.cursor

/-- A line stands at the cursor. -/
def hasNext (h : History) : Bool := h.cursor < h.entries.length

/-- The line at the cursor, empty past the newest. -/
def current (h : History) : Text := h.entries[h.cursor]?.getD []

/-- Steps back to the line before the cursor. -/
def previous : Task History Text := fun h =>
  if h.hasPrevious then
    let h := { h with cursor := h.cursor - 1 }
    (.ok h.current, h)
  else (.error .noPreviousEntry, h)

/-- Steps on to the line after the cursor's. -/
def next : Task History Text := fun h =>
  if h.hasNext then
    let h := { h with cursor := h.cursor + 1 }
    (.ok h.current, h)
  else (.error .noNextEntry, h)

end History

end JavaStudio
