import JavaStudio.Source.Buffer

/-!
# Where lines start

A line starts at the head of the text and behind every line feed, and is known by the number of line
feeds before it. `lineOffset` goes from one line feed to the next and stops at the last.

* `feedsBefore_lt`: of two line starts the later one has more line feeds before it, so that the number
  tells them apart.
* `lineOffset_lands`: the search passes as many line feeds as it is asked to, or all of them.
* `Buffer.gotoLine_exact`: going to a line leads to the start with that many line feeds before it.
-/

namespace JavaStudio

variable {t l r : Text} {o o' : Nat}

/-- A line starts at the offset: at the head of the text, or behind a line feed. -/
def StartsLine (t : Text) (o : Nat) : Prop := o = 0 ∨ ∃ i, o = i + 1 ∧ t[i]? = some '\n'

/-- The line feeds before an offset. -/
def feedsBefore (t : Text) (o : Nat) : Nat := (t.take o).count '\n'

/-! ## Line starts are told apart -/

theorem feedsBefore_mono (t : Text) (h : o ≤ o') : feedsBefore t o ≤ feedsBefore t o' :=
  (List.take_prefix_take_left h).sublist.count_le '\n'

theorem feedsBefore_lt (h : o < o') (start : StartsLine t o') :
    feedsBefore t o < feedsBefore t o' := by
  rcases start with rfl | ⟨i, rfl, feed⟩
  · exact absurd h (Nat.not_lt_zero o)
  · have one : feedsBefore t (i + 1) = feedsBefore t i + 1 := by
      rw [feedsBefore, List.take_add_one, feed, List.count_append]
      rfl
    rw [one]
    exact Nat.lt_succ_of_le (feedsBefore_mono t (Nat.le_of_lt_succ h))

theorem StartsLine.eq_of_feeds (start : StartsLine t o) (start' : StartsLine t o')
    (same : feedsBefore t o = feedsBefore t o') : o = o' := by
  rcases Nat.lt_trichotomy o o' with before | rfl | after
  · exact absurd same (Nat.ne_of_lt (feedsBefore_lt before start'))
  · rfl
  · exact absurd same (Nat.ne_of_gt (feedsBefore_lt after start))

/-! ## Behind a first line -/

theorem StartsLine.behind (start : StartsLine r o) :
    StartsLine (l ++ '\n' :: r) (l.length + 1 + o) := by
  refine .inr ?_
  rcases start with rfl | ⟨i, rfl, feed⟩
  · exact ⟨l.length, rfl, by simp⟩
  · refine ⟨l.length + 1 + i, rfl, ?_⟩
    rw [List.getElem?_append_right (by omega), show l.length + 1 + i - l.length = i + 1 by omega,
      List.getElem?_cons_succ, feed]

theorem feedsBefore_behind (hl : '\n' ∉ l) (r : Text) (o : Nat) :
    feedsBefore (l ++ '\n' :: r) (l.length + 1 + o) = feedsBefore r o + 1 := by
  rw [feedsBefore, Nat.add_assoc, List.take_length_add_append, Nat.add_comm 1 o,
    List.take_succ_cons, List.count_append, List.count_eq_zero_of_not_mem hl, List.count_cons_self,
    Nat.zero_add, feedsBefore]

/-! ## The search for a line -/

theorem lineLength?_eq_none (h : lineLength? t = none) : '\n' ∉ t := by
  rw [lineLength?, Option.map_eq_none_iff, List.findIdx?_eq_none_iff] at h
  exact fun feed => absurd (h _ feed) (by decide)

/-- The first line feed ends a line without one. -/
theorem lineLength?_eq_some {k : Nat} (h : lineLength? t = some k) :
    ∃ l r, t = l ++ '\n' :: r ∧ '\n' ∉ l ∧ k = l.length + 1 := by
  obtain ⟨i, first, rfl⟩ := Option.map_eq_some_iff.1 h
  obtain ⟨inside, feed, earlier⟩ := List.findIdx?_eq_some_iff_getElem.1 first
  have feed : t[i] = '\n' := by simpa using feed
  have length : (t.take i).length = i := List.length_take_of_le (Nat.le_of_lt inside)
  refine ⟨t.take i, t.drop (i + 1), ?_, fun mem => ?_, by rw [length]⟩
  · rw [← feed, ← List.drop_eq_getElem_cons inside, List.take_append_drop]
  · obtain ⟨j, hj, found⟩ := List.getElem_of_mem mem
    rw [List.getElem_take] at found
    exact absurd (earlier j (length ▸ hj)) (by simp [found])

/-- The search ends at the start of a line, behind as many line feeds as it was to pass or behind all
of them. -/
theorem lineOffset_lands (n : Nat) (t : Text) : StartsLine t (lineOffset n t) ∧
    feedsBefore t (lineOffset n t) = min n (t.count '\n') := by
  induction n generalizing t with
  | zero => exact ⟨.inl rfl, (Nat.zero_min _).symm⟩
  | succ n ih =>
    rw [lineOffset]
    split
    · rename_i none
      rw [List.count_eq_zero_of_not_mem (lineLength?_eq_none none), Nat.min_zero]
      exact ⟨.inl rfl, rfl⟩
    · rename_i k found
      obtain ⟨l, r, rfl, hl, rfl⟩ := lineLength?_eq_some found
      obtain ⟨start, feeds⟩ := ih r
      have rest : (l ++ '\n' :: r).drop (l.length + 1) = r := by
        rw [List.drop_append, List.drop_of_length_le (Nat.le_succ _), Nat.add_sub_cancel_left]
        rfl
      have count : (l ++ '\n' :: r).count '\n' = r.count '\n' + 1 := by
        rw [List.count_append, List.count_eq_zero_of_not_mem hl, List.count_cons_self, Nat.zero_add]
      rw [rest, feedsBefore_behind hl, feeds, count]
      exact ⟨start.behind, (Nat.succ_min_succ _ _).symm⟩

theorem lineOffset_mono {n m : Nat} (le : n ≤ m) (t : Text) : lineOffset n t ≤ lineOffset m t := by
  obtain ⟨start, feeds⟩ := lineOffset_lands n t
  have feeds' := (lineOffset_lands m t).2
  refine Nat.le_of_not_lt fun after => ?_
  have less := feedsBefore_lt after start
  rw [feeds, feeds'] at less
  omega

namespace Buffer

/-- Going to a line puts the cursor to the one line start that has as many line feeds before it as
lines come before the line. Lines are counted from one, a line before the first is the first and one
past the last is the last; and a later line starts no earlier. -/
theorem gotoLine_exact (b : Buffer) :
    (∀ line : Int, ∃ b', b.gotoLineOf (.int line) = .ok b' ∧ b'.text = b.text ∧
      b'.cursor = b.lineStart line ∧
      ∀ o : Nat, b.lineStart line = o ↔ StartsLine b.text o ∧
        (feedsBefore b.text o : Int) = min (max line 1) (b.text.count '\n' + 1) - 1) ∧
    ∀ line line' : Int, line ≤ line' → b.lineStart line ≤ b.lineStart line' := by
  constructor
  · intro line
    obtain ⟨start, feeds⟩ := lineOffset_lands (max line 1 - 1).toNat b.text
    have count : (feedsBefore b.text (b.lineStart line) : Int) =
        min (max line 1) (b.text.count '\n' + 1) - 1 := by
      rw [lineStart, feeds]
      omega
    refine ⟨b.gotoLine line, rfl, rfl, rfl, fun o => ⟨?_, fun ⟨start', count'⟩ => ?_⟩⟩
    · rintro rfl
      exact ⟨start, count⟩
    · exact start.eq_of_feeds start' (Int.ofNat_inj.1 (count.trans count'.symm))
  · intro line line' le
    exact lineOffset_mono (by omega) b.text

/-- A text that ends in a line feed has an empty last line, where every later line leads. -/
example : (({ text := Text.ofString "a\nb\n" } : Buffer).gotoLine 9).cursor = 4 := by decide

end Buffer

end JavaStudio
