import JavaStudio.Interactions.History

/-!
# Histories that moves lead to

Lines are added to a history and its cursor goes back, forth and to the end. A limit that is an integer
is met by trimming, so a history is known by the lines that were added: it `Keeps` the newest of them, as
many as there is room for, and its cursor lies at one of them or past the newest.

* `keeps_played`: this is so after all moves.
* `navigable`: back and forth fail at the two ends only, where they change nothing, and undo each other.
-/

namespace JavaStudio.History

/-- What can be done to a history. -/
inductive Move
  | add (line : Text)
  | previous
  | next
  | moveEnd
  deriving DecidableEq, Repr

/-- The history after a move, whatever the move gives. -/
def Move.after (h : History) : Move → History
  | add line => (History.add line h).2
  | previous => (History.previous h).2
  | next => (History.next h).2
  | moveEnd => h.moveEnd

/-- The line that a move adds. -/
def Move.line? : Move → Option Text
  | add line => some line
  | previous | next | moveEnd => none

/-- The history that moves lead to from a new one. -/
def played (limit : Int) (moves : List Move) : History := moves.foldl Move.after (empty (.int limit))

/-- The lines that moves add. -/
def added (moves : List Move) : List Text := moves.filterMap Move.line?

/-- How many lines a history keeps at most. -/
def room (limit : Int) : Nat := (max 1 limit).toNat

/-- A history keeps the newest lines, as many as there is room for, with its cursor among them or past
the newest. -/
structure Keeps (limit : Int) (lines : List Text) (h : History) : Prop where
  bound : h.limit = .int (max 1 limit)
  newest : h.entries <:+ lines
  length : h.entries.length = min (room limit) lines.length
  cursor : h.cursor ≤ h.entries.length

section

variable {limit : Int} {lines : List Text} {h : History}

theorem room_pos (limit : Int) : 0 < room limit := by
  unfold room
  omega

theorem add_eq (line : Text) (hl : h.limit = .int limit) :
    add line h = (.ok (), { h with
      entries := (h.entries ++ [line]).drop (h.entries.length + 1 - limit.toNat)
      cursor := ((h.entries ++ [line]).drop (h.entries.length + 1 - limit.toNat)).length }) := by
  simp only [add, hl, Number.ltInt, List.length_append, List.length_singleton]
  split
  · rfl
  · rename_i fits
    have none : h.entries.length + 1 - limit.toNat = 0 := by
      simp only [decide_eq_true_eq] at fits
      omega
    simp [none]

theorem suffix_drop_concat {α : Type} {kept all : List α} (h : kept <:+ all) (x : α) (n : Nat) :
    (kept ++ [x]).drop n <:+ all ++ [x] := by
  obtain ⟨dropped, rfl⟩ := h
  rw [List.append_assoc]
  exact (List.drop_suffix n _).trans (List.suffix_append dropped _)

theorem Keeps.after_add (hk : Keeps limit lines h) (line : Text) :
    Keeps limit (lines ++ [line]) (add line h).2 := by
  have room : room limit = (max 1 limit).toNat := rfl
  have pos := room_pos limit
  have length := hk.length
  rw [add_eq line hk.bound]
  refine ⟨hk.bound, suffix_drop_concat hk.newest line _, ?_, Nat.le_refl _⟩
  simp only [List.length_drop, List.length_append, List.length_singleton, ← room]
  omega

/-- The history with its cursor elsewhere. -/
def withCursor (h : History) (k : Nat) : History := { h with cursor := k }

theorem previous_of_pos (inside : 0 < h.cursor) :
    previous h = (.ok (h.withCursor (h.cursor - 1)).current, h.withCursor (h.cursor - 1)) := by
  rw [previous, if_pos (by simpa [hasPrevious] using inside), withCursor]

theorem previous_of_zero (start : h.cursor = 0) : previous h = (.error .noPreviousEntry, h) := by
  rw [previous, if_neg (by simp [hasPrevious, start])]

theorem next_of_lt (below : h.cursor < h.entries.length) :
    next h = (.ok (h.withCursor (h.cursor + 1)).current, h.withCursor (h.cursor + 1)) := by
  rw [next, if_pos (by simpa [hasNext] using below), withCursor]

theorem next_of_le (past : h.entries.length ≤ h.cursor) : next h = (.error .noNextEntry, h) := by
  rw [next, if_neg (by simpa [hasNext] using past)]

theorem current_of_lt (below : h.cursor < h.entries.length) :
    h.entries[h.cursor]? = some h.current := by
  rw [current, List.getElem?_eq_getElem below, Option.getD_some]

theorem current_of_le (past : h.entries.length ≤ h.cursor) : h.current = [] := by
  rw [current, List.getElem?_eq_none past, Option.getD_none]

theorem Keeps.withCursor (hk : Keeps limit lines h) {k : Nat} (hcursor : k ≤ h.entries.length) :
    Keeps limit lines (h.withCursor k) :=
  ⟨hk.bound, hk.newest, hk.length, hcursor⟩

/-- What one move preserves. -/
theorem Keeps.after (hk : Keeps limit lines h) (m : Move) :
    Keeps limit (lines ++ m.line?.toList) (m.after h) := by
  have unchanged : lines ++ Option.toList none = lines := List.append_nil lines
  cases m with
  | add line => exact hk.after_add line
  | previous =>
    rw [Move.line?, unchanged, Move.after]
    rcases Nat.eq_zero_or_pos h.cursor with start | inside
    · rwa [previous_of_zero start]
    · rw [previous_of_pos inside]
      exact hk.withCursor (Nat.le_trans (Nat.sub_le _ _) hk.cursor)
  | next =>
    rw [Move.line?, unchanged, Move.after]
    rcases Nat.lt_or_ge h.cursor h.entries.length with below | past
    · rw [next_of_lt below]
      exact hk.withCursor below
    · rwa [next_of_le past]
  | moveEnd =>
    rw [Move.line?, unchanged]
    exact hk.withCursor (Nat.le_refl _)

theorem Keeps.afterAll (hk : Keeps limit lines h) (moves : List Move) :
    Keeps limit (lines ++ added moves) (moves.foldl Move.after h) := by
  induction moves generalizing lines h with
  | nil => rwa [added, List.filterMap_nil, List.append_nil]
  | cons m moves ih =>
    have rest := ih (hk.after m)
    rw [List.append_assoc] at rest
    have split : added (m :: moves) = m.line?.toList ++ added moves := by
      cases hm : m.line? <;> simp [added, hm]
    rwa [split]

/-- After all moves a history keeps the newest of the lines that were added. -/
theorem keeps_played (limit : Int) (moves : List Move) :
    Keeps limit (added moves) (played limit moves) := by
  have new : Keeps limit [] (empty (.int limit)) :=
    ⟨by simp [empty], List.suffix_refl [], by simp [empty], Nat.le_refl _⟩
  exact new.afterAll moves

end

/-! ## Back and forth -/

/-- A history can be gone through: back from everywhere but its oldest line and forth from everywhere but
past its newest one. Both ways give the line that the cursor comes to, and each is taken back by the
other. -/
structure Navigable (h : History) : Prop where
  oldest : h.cursor = 0 → previous h = (.error .noPreviousEntry, h)
  back : 0 < h.cursor → ∃ line h', previous h = (.ok line, h') ∧ h'.cursor + 1 = h.cursor ∧
    h'.entries = h.entries ∧ h.entries[h'.cursor]? = some line ∧ next h' = (.ok h.current, h)
  newest : h.cursor = h.entries.length → next h = (.error .noNextEntry, h)
  forth : h.cursor < h.entries.length → ∃ line h', next h = (.ok line, h') ∧
    h'.cursor = h.cursor + 1 ∧ h'.entries = h.entries ∧
    (h'.cursor < h.entries.length → h.entries[h'.cursor]? = some line) ∧
    (h'.cursor = h.entries.length → line = []) ∧ previous h' = (.ok h.current, h)

theorem navigable {h : History} (cursor : h.cursor ≤ h.entries.length) : Navigable h where
  oldest start := previous_of_zero start
  back inside := by
    have below : h.cursor - 1 < h.entries.length := by omega
    have again : h.cursor - 1 + 1 = h.cursor := Nat.sub_add_cancel inside
    refine ⟨_, _, previous_of_pos inside, again, rfl, current_of_lt (h := h.withCursor _) below, ?_⟩
    rw [next_of_lt (h := h.withCursor _) below]
    simp only [withCursor, again]
  newest past := next_of_le (Nat.le_of_eq past.symm)
  forth below := by
    refine ⟨_, _, next_of_lt below, rfl, rfl, fun inside => current_of_lt (h := h.withCursor _) inside,
      fun past => current_of_le (h := h.withCursor _) (Nat.le_of_eq past.symm), ?_⟩
    exact previous_of_pos (h := h.withCursor _) (Nat.succ_pos _)

end JavaStudio.History
