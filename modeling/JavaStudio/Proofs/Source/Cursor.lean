import JavaStudio.Proofs.Source.Brackets

/-!
# The cursor of a buffer

Offsets, lines and widths are whole numbers here, of any size. Whatever is done with a buffer, its
cursor stays a whole number of characters within the text (`Seated`), which one call keeps
(`Seated.after`) and with it a run of calls (`Seated.play`). A fragment that is put into the text leaves
the cursor at its place there (`Inserted`).

* `cursor_in_text`: both for every buffer that a run of calls leads to.
-/

namespace JavaStudio.Buffer

variable {b b' : Buffer} {refused : Refusals} {fs : Files}

/-! ## Calls -/

/-- What is done with a buffer. -/
inductive Call
  | setText (text : Text)
  | insert (offset : Int) (fragment : Text)
  | setCursor (offset : Int)
  | gotoLine (line : Int)
  | setIndent (width : Int)
  | markSaved
  | read (path : Path)
  | write (path : Path)

/-- What a call makes of a buffer, among the files that it finds. -/
def Call.run (refused : Refusals) (fs : Files) (b : Buffer) : Call → Except Failure Buffer
  | setText text => .ok (b.setText text)
  | insert offset fragment => b.insertAt (.int offset) fragment
  | setCursor offset => b.setCursorTo (.int offset)
  | gotoLine line => b.gotoLineOf (.int line)
  | setIndent width => (indentFor (.int width)).map b.setIndent
  | markSaved => .ok b.markSaved
  | read path => b.read fs path
  | write path => (b.writeUnder refused path fs).1.map fun _ => b

/-- The buffer after a call. One that fails leaves it as it was. -/
def Call.after (refused : Refusals) (fs : Files) (b : Buffer) (call : Call) : Buffer :=
  match call.run refused fs b with
  | .ok b' => b'
  | .error _ => b

/-- The buffer after some calls, with the files that each of them finds. -/
def play (refused : Refusals) (b : Buffer) (calls : List (Files × Call)) : Buffer :=
  calls.foldl (fun b call => call.2.after refused call.1 b) b

/-! ## The cursor stays in the text -/

/-- The cursor is a whole number of characters within the text. -/
structure Seated (b : Buffer) : Prop where
  whole : ∃ k, b.place = .whole k
  fits : b.Fits

theorem insertAt_int (b : Buffer) (offset : Int) (fragment : Text) :
    b.insertAt (.int offset) fragment = .ok (b.insert offset fragment) := by
  have clamped : b.clamp (min offset.toNat b.text.length : Nat) = b.clamp offset := by
    simp only [clamp, Int.toNat_natCast]
    omega
  show Except.ok (b.insert (min offset.toNat b.text.length : Nat) fragment) = _
  rw [insert, insert, clamped]

namespace Seated

theorem cursor_le (h : b.Seated) : b.cursor ≤ b.text.length := by
  obtain ⟨k, place⟩ := h.whole
  have within := h.fits k (by rw [place]; rfl)
  rwa [cursor, place]

theorem new (text : Text) (indent : Json) : Seated { text := text, indent := indent } :=
  ⟨⟨0, rfl⟩, .whole (Nat.zero_le _)⟩

theorem setText (h : b.Seated) (text : Text) : (b.setText text).Seated := by
  obtain ⟨k, place⟩ := h.whole
  exact ⟨⟨min k text.length, by rw [Buffer.setText, place]; rfl⟩, .setText b text⟩

theorem insert (h : b.Seated) (offset : Int) (fragment : Text) :
    (b.insert offset fragment).Seated := by
  refine ⟨?_, h.fits.insert offset fragment⟩
  obtain ⟨k, place⟩ := h.whole
  simp only [Buffer.insert, place]
  split
  · exact ⟨k + fragment.length, rfl⟩
  · exact ⟨k, rfl⟩

theorem run (h : b.Seated) {call : Call} (run : call.run refused fs b = .ok b') : b'.Seated := by
  cases call with
  | setText text =>
    cases run
    exact h.setText text
  | insert offset fragment =>
    rw [Call.run, insertAt_int] at run
    cases run
    exact h.insert offset fragment
  | setCursor offset =>
    cases run
    exact ⟨⟨_, rfl⟩, .setCursor b offset⟩
  | gotoLine line =>
    cases run
    exact ⟨⟨_, rfl⟩, .gotoLine b line⟩
  | setIndent width =>
    cases run
    exact ⟨h.whole, h.fits⟩
  | markSaved =>
    cases run
    exact ⟨h.whole, h.fits⟩
  | read path =>
    have opened : b.read fs path = .ok b' := run
    refine ⟨⟨0, ?_⟩, .read opened⟩
    unfold Buffer.read at opened
    split at opened <;> cases opened
    rfl
  | write path =>
    have kept : (b.writeUnder refused path fs).1.map (fun _ => b) = .ok b' := run
    cases written : (b.writeUnder refused path fs).1 with
    | error e => rw [written] at kept; cases kept
    | ok _ => rw [written] at kept; cases kept; exact h

theorem after (h : b.Seated) (call : Call) : (call.after refused fs b).Seated := by
  unfold Call.after
  split
  · rename_i run
    exact h.run run
  · exact h

theorem play (h : b.Seated) (calls : List (Files × Call)) : (b.play refused calls).Seated := by
  induction calls generalizing b with
  | nil => exact h
  | cons call calls ih => exact ih (h.after call.2)

end Seated

/-! ## A fragment leaves the cursor at its place -/

/-- A buffer after a fragment was put into its text. The text behind the cursor is as it was if the
fragment came to stand before the cursor or at it, and else the text before the cursor. -/
structure Inserted (b b' : Buffer) (k : Nat) (fragment : Text) : Prop where
  behind : k ≤ b.cursor → b'.text.drop b'.cursor = b.text.drop b.cursor
  before : b.cursor < k → b'.text.take b'.cursor = b.text.take b.cursor
  there : (b'.text.drop k).take fragment.length = fragment
  removed : b'.text.take k ++ b'.text.drop (k + fragment.length) = b.text

theorem Seated.cursor_insert (h : b.Seated) (offset : Int) (fragment : Text) :
    (b.insert offset fragment).cursor =
      if b.clamp offset ≤ b.cursor then b.cursor + fragment.length else b.cursor := by
  obtain ⟨c, place⟩ := h.whole
  have cursor : b.cursor = c := by rw [Buffer.cursor, place]; rfl
  rw [Buffer.cursor, Buffer.insert]
  split
  · rw [place, cursor]
    rfl
  · rw [place, cursor]
    rfl

theorem text_insert (b : Buffer) (offset : Int) (fragment : Text) :
    (b.insert offset fragment).text =
      b.text.take (b.clamp offset) ++ (fragment ++ b.text.drop (b.clamp offset)) :=
  List.append_assoc _ _ _

theorem Seated.inserted (h : b.Seated) (offset : Int) (fragment : Text) :
    Inserted b (b.insert offset fragment) (b.clamp offset) fragment := by
  have head : (b.text.take (b.clamp offset)).length = b.clamp offset :=
    List.length_take_of_le (Nat.min_le_right _ _)
  refine ⟨fun le => ?_, fun lt => ?_, ?_, ?_⟩
  · have back : b.cursor + fragment.length =
        b.clamp offset + (fragment.length + (b.cursor - b.clamp offset)) := by omega
    rw [h.cursor_insert, if_pos le, text_insert, back, ← List.drop_drop, List.drop_left' head,
      List.drop_length_add_append, List.drop_drop, Nat.add_sub_of_le le]
  · rw [h.cursor_insert, if_neg (Nat.not_le_of_lt lt), text_insert,
      List.take_append_of_le_length (by omega), List.take_take, Nat.min_eq_left (by omega)]
  · rw [text_insert, List.drop_left' head, List.take_left]
  · rw [text_insert, List.take_left' head, ← List.drop_drop, List.drop_left' head, List.drop_left,
      List.take_append_drop]

/-- Whatever was done with a buffer, its cursor lies in the text, so that brackets can be balanced from
it, and a fragment that is put anywhere into the text leaves it at its place. -/
theorem cursor_in_text (refused : Refusals) (text : Text) (indent : Json)
    (calls : List (Files × Call)) : ∃ b, play refused { text := text, indent := indent } calls = b ∧
      b.cursor ≤ b.text.length ∧ (b.text.take b.cursor).length = b.cursor ∧
      b.balance = .ok b.balanceBackward ∧
      ∀ (offset : Int) (fragment : Text), ∃ (b' : Buffer) (k : Nat),
        b.insertAt (.int offset) fragment = .ok b' ∧ (k : Int) = max 0 (min offset b.text.length) ∧
        Inserted b b' k fragment := by
  have seated : Seated (play refused { text := text, indent := indent } calls) :=
    (Seated.new text indent).play calls
  obtain ⟨c, place⟩ := seated.whole
  refine ⟨_, rfl, seated.cursor_le, List.length_take_of_le seated.cursor_le, ?_, ?_⟩
  · exact (balance_of_cut (i := c) (by rw [place]; rfl)).2
  · intro offset fragment
    exact ⟨_, _, insertAt_int _ offset fragment, by unfold clamp; omega,
      seated.inserted offset fragment⟩

end JavaStudio.Buffer
