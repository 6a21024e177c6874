import JavaStudio.Proofs.Compiler.Lines

/-!
# Blocks of a compiler's output

The output of a compiler is made of blocks: diagnostics with or without a snippet of the source,
warnings without a place, and other lines. The reader of diagnostics knows no blocks. It goes from line
to line and looks two lines ahead for a caret, so what one block is read as depends on what follows it.

* `ofLines_block`: the lines of a block are read as its diagnostic, whatever lines follow whose second
  one is no caret line. No second line of some blocks is one (`caretColumn?_second`).
* `blocks_read_back`: joined by line feeds, blocks are read as their diagnostics, unless a line number
  has more digits than are read.
-/

namespace JavaStudio

namespace Diagnostic

open Text

/-- A line of the source and the column at which the line below it points. -/
structure Snippet where
  source : Text
  column : Nat

/-- A part of a compiler's output. The number of a diagnostic is the one that its digits stand for. -/
inductive Block
  | located (head : Head) (number : Nat) (snippet : Option Snippet)
  | global (message : Text)
  | filler (line : Text)

namespace Block

variable {b : Block} {bs : List Block} {rest : List Text} {line l m : Text} {h : Head} {n : Nat}

def lines : Block → List Text
  | located h _ none => [h.line]
  | located h _ (some s) => [h.line, s.source, caretLine s.column]
  | global m => [ofString "warning: " ++ m]
  | filler l => [l]

/-- The column of a snippet, -1 without one. -/
def column : Option Snippet → Int
  | none => -1
  | some s => s.column

/-- What a reader of the block is told. -/
def report : Block → Diagnostics
  | located h n s => [⟨h.path, n, column s, h.message, h.warning⟩]
  | global m => [⟨[], -1, -1, m, true⟩]
  | filler _ => []

/-- The parts of the block are what they are taken for. -/
def Sound : Block → Prop
  | located h n s => h.path ≠ [] ∧ ¬HasMark h.path ∧ Decimal h.digits n ∧
      ∀ t ∈ s, 1 ≤ t.column ∧ trim t.source ≠ ['^']
  | global m => ¬HasMark m
  | filler l => ¬Located l ∧ ¬Global l ∧ trim l ≠ ['^']

/-- Sound parts, each on one line. -/
structure Formed (b : Block) : Prop where
  sound : b.Sound
  oneLine : ∀ l ∈ b.lines, OneLine l

/-- The line number has no more digits than are read. -/
def Legible : Block → Prop
  | located h _ _ => h.digits.length ≤ maxDigits
  | _ => True

instance : DecidablePred Legible
  | located h _ _ => inferInstanceAs (Decidable (h.digits.length ≤ maxDigits))
  | global _ | filler _ => .isTrue trivial

/-- The block as it is read: its report, or a failure where its line number is too long. -/
def reading : Block → Except Failure Diagnostics
  | located h n s =>
    if maxDigits < h.digits.length then .error (.tooManyDigits h.digits.length)
    else .ok [⟨h.path, n, column s, h.message, h.warning⟩]
  | global m => .ok [⟨[], -1, -1, m, true⟩]
  | filler _ => .ok []

end Block

/-- The blocks as they are read one after another. -/
def readings : List Block → Except Failure Diagnostics
  | [] => .ok []
  | b :: bs => do
    let ds ← b.reading
    let es ← readings bs
    return ds ++ es

/-- The output that consists of some blocks. -/
def written (bs : List Block) : Text := join ['\n'] (bs.flatMap Block.lines)

variable {b : Block} {bs : List Block} {rest : List Text} {line l m : Text} {h : Head} {n : Nat}

/-! ## Lines that are no caret lines -/

theorem caretColumn?_line (h : Head) : caretColumn? h.line = none :=
  caretColumn?_eq_none (c := ':') (by decide) (by decide) (by simp [Head.line, mark])

theorem caretColumn?_global (m : Text) : caretColumn? (ofString "warning: " ++ m) = none :=
  caretColumn?_eq_none (c := 'w') (by decide) (by decide) (List.mem_append_left m (by decide))

theorem caretColumn?_of_trim (h : trim l ≠ ['^']) : caretColumn? l = none := if_neg h

theorem caretColumn?_first {caret : Text} (formed : ∀ b ∈ bs, b.Formed)
    (eq : bs.flatMap Block.lines = caret :: rest) : caretColumn? caret = none := by
  cases bs with
  | nil => cases eq
  | cons b bs =>
    have sound := (formed b List.mem_cons_self).sound
    rw [List.flatMap_cons] at eq
    rcases b with ⟨h, n, _ | s⟩ | m | l <;> obtain ⟨rfl, -⟩ := List.cons.inj eq
    · exact caretColumn?_line h
    · exact caretColumn?_line h
    · exact caretColumn?_global m
    · exact caretColumn?_of_trim sound.2.2

/-- A caret line is the third line of a snippet, so it is not the second line of some blocks. -/
theorem caretColumn?_second {source caret : Text} (formed : ∀ b ∈ bs, b.Formed)
    (eq : bs.flatMap Block.lines = source :: caret :: rest) : caretColumn? caret = none := by
  cases bs with
  | nil => cases eq
  | cons b bs =>
    have sound := (formed b List.mem_cons_self).sound
    have following := fun b hb => formed b (List.mem_cons_of_mem _ hb)
    rw [List.flatMap_cons] at eq
    rcases b with ⟨h, n, _ | s⟩ | m | l <;> obtain ⟨-, eq⟩ := List.cons.inj eq
    · exact caretColumn?_first following eq
    · obtain ⟨rfl, -⟩ := List.cons.inj eq
      exact caretColumn?_of_trim (sound.2.2.2 s rfl).2
    · exact caretColumn?_first following eq
    · exact caretColumn?_first following eq

/-! ## One block after another -/

theorem ofHead_eq (value : Decimal h.digits n) (column : Int) :
    ofHead h column = if maxDigits < h.digits.length then .error (.tooManyDigits h.digits.length)
      else .ok ⟨h.path, n, column, h.message, h.warning⟩ := by
  rw [ofHead, value.value]

theorem ofLines_block (formed : b.Formed)
    (dark : ∀ source caret after, rest = source :: caret :: after → caretColumn? caret = none) :
    ofLines (b.lines ++ rest) = do
      let ds ← b.reading
      let es ← ofLines rest
      return ds ++ es := by
  obtain ⟨sound, oneLine⟩ := formed
  rcases b with ⟨h, n, s⟩ | m | l
  · obtain ⟨nonempty, clear, value, snippet⟩ := sound
    have line : OneLine h.line := by cases s <;> exact oneLine _ List.mem_cons_self
    have feed : '\n' ∉ h.path := fun mem => line.not_feed (List.mem_append_left _ mem)
    have head : head? h.line = some h := head?_line feed nonempty clear value.isNumeral
    cases s with
    | none =>
      rw [Block.lines, List.singleton_append, ofLines_bare head dark, ofHead_eq value, Block.reading]
      split <;> rfl
    | some s =>
      have pointed := caretColumn?_caretLine (snippet s rfl).1
      simp only [Block.lines, List.cons_append, List.nil_append]
      rw [ofLines_pointed head pointed, ofHead_eq value, Block.reading]
      split <;> rfl
  · have line : OneLine (ofString "warning: " ++ m) := oneLine _ List.mem_cons_self
    have head := (head?_eq_none_iff line.not_feed).2 (not_located_global sound)
    rw [Block.lines, List.singleton_append,
      ofLines_global head (globalWarning?_eq_some_iff.2 rfl), Block.reading]
    rcases ofLines rest with e | ds <;> rfl
  · obtain ⟨unlocated, unmarked, -⟩ := sound
    have head := (head?_eq_none_iff (oneLine l List.mem_cons_self).not_feed).2 unlocated
    rw [Block.lines, List.singleton_append,
      ofLines_silent head (globalWarning?_eq_none_iff.2 unmarked), Block.reading]
    rcases ofLines rest with e | ds <;> rfl

theorem ofLines_blocks (formed : ∀ b ∈ bs, b.Formed) :
    ofLines (bs.flatMap Block.lines) = readings bs := by
  induction bs with
  | nil => rfl
  | cons b bs ih =>
    have following := fun b hb => formed b (List.mem_cons_of_mem _ hb)
    rw [List.flatMap_cons, ofLines_block (formed b List.mem_cons_self)
      (fun _ _ _ eq => caretColumn?_second following eq), ih following]
    rfl

theorem parse_written (formed : ∀ b ∈ bs, b.Formed) : parse (written bs) = readings bs := by
  have oneLine : ∀ l ∈ bs.flatMap Block.lines, OneLine l := by
    intro l hl
    obtain ⟨b, hb, hl⟩ := List.mem_flatMap.1 hl
    exact (formed b hb).oneLine l hl
  rw [parse, written, ← ofLines_blocks formed]
  rcases lines_join oneLine with same | same
  · rw [same]
  · rw [congrArg ofLines same, ofLines_append_nil]

/-! ## What the blocks report -/

theorem reading_of_legible (legible : b.Legible) : b.reading = .ok b.report := by
  rcases b with ⟨h, n, s⟩ | m | l
  · exact if_neg (Nat.not_lt.2 legible)
  · rfl
  · rfl

theorem readings_of_legible (legible : ∀ b ∈ bs, b.Legible) :
    readings bs = .ok (bs.flatMap Block.report) := by
  induction bs with
  | nil => rfl
  | cons b bs ih =>
    rw [readings, reading_of_legible (legible b List.mem_cons_self),
      ih fun b hb => legible b (List.mem_cons_of_mem _ hb)]
    rfl

theorem reading_of_illegible (illegible : ¬b.Legible) :
    ∃ k, maxDigits < k ∧ b.reading = .error (.tooManyDigits k) := by
  rcases b with ⟨h, n, s⟩ | m | l
  · have long : maxDigits < h.digits.length := Nat.not_le.1 illegible
    exact ⟨_, long, if_pos long⟩
  · exact absurd trivial illegible
  · exact absurd trivial illegible

theorem readings_of_illegible (illegible : ∃ b ∈ bs, ¬b.Legible) :
    ∃ k, maxDigits < k ∧ readings bs = .error (.tooManyDigits k) := by
  induction bs with
  | nil => simp at illegible
  | cons b bs ih =>
    by_cases legible : b.Legible
    · obtain ⟨a, ha, long⟩ := illegible
      rcases List.mem_cons.1 ha with rfl | ha
      · exact absurd legible long
      · obtain ⟨k, hk, failed⟩ := ih ⟨a, ha, long⟩
        refine ⟨k, hk, ?_⟩
        rw [readings, reading_of_legible legible, failed]
        rfl
    · obtain ⟨k, hk, failed⟩ := reading_of_illegible legible
      refine ⟨k, hk, ?_⟩
      rw [readings, failed]
      rfl

/-- Blocks are read as their diagnostics, in order, with the columns of their carets. The reader fails
exactly when a line number has more digits than are read. -/
theorem blocks_read_back (formed : ∀ b ∈ bs, b.Formed) :
    ((∀ b ∈ bs, b.Legible) → parse (written bs) = .ok (bs.flatMap Block.report)) ∧
      ((∃ b ∈ bs, ¬b.Legible) →
        ∃ k, maxDigits < k ∧ parse (written bs) = .error (.tooManyDigits k)) := by
  rw [parse_written formed]
  exact ⟨readings_of_legible, readings_of_illegible⟩

/-- A diagnostic whose message and source line look like others, one without a snippet, a warning
without a place and a count. -/
def mixedBlocks : List Block :=
  [.located ⟨ofString "C:1.java", ofNat 7, false, ofString "D:2: error: no"⟩ 7
      (some ⟨ofString "E:3: warning: x", 4⟩),
    .located ⟨ofString "A.java", ofNat 12, true, []⟩ 12 none,
    .global (ofString "[options] old"),
    .filler (ofString "1 error")]

theorem mixedBlocks_formed : ∀ b ∈ mixedBlocks, b.Formed := by
  have clear (t : Text) (feed : '\n' ∉ t) (h : headFrom ['.'] t = none) : ¬HasMark t :=
    (headFrom_singleton_eq_none_iff feed).1 h
  simp only [mixedBlocks, List.forall_mem_cons, List.not_mem_nil, false_implies, implies_true, and_true]
  refine ⟨⟨⟨by decide, clear _ (by decide) (by decide), decimal_toDigits 7, ?_⟩, by decide⟩,
    ⟨⟨by decide, clear _ (by decide) (by decide), decimal_toDigits 12, ?_⟩, by decide⟩,
    ⟨clear _ (by decide) (by decide), by decide⟩,
    ⟨(head?_eq_none_iff (by decide)).1 (by decide), globalWarning?_eq_none_iff.1 (by decide),
      by decide⟩, by decide⟩
  · rintro s ⟨⟩
    decide
  · rintro s ⟨⟩

theorem blocks_read_back_mixed :
    (∀ b ∈ mixedBlocks, b.Formed) ∧ (∀ b ∈ mixedBlocks, b.Legible) ∧
      parse (written mixedBlocks) = .ok
        [⟨ofString "C:1.java", 7, 4, ofString "D:2: error: no", false⟩,
          ⟨ofString "A.java", 12, -1, [], true⟩, ⟨[], -1, -1, ofString "[options] old", true⟩] := by
  have legible : ∀ b ∈ mixedBlocks, b.Legible := by decide
  exact ⟨mixedBlocks_formed, legible, (blocks_read_back mixedBlocks_formed).1 legible⟩

/-- A diagnostic whose line number has one digit more than are read. -/
def longBlock : Block :=
  .located ⟨['A'], List.replicate maxDigits '0' ++ ['1'], false, ['m']⟩ 1 none

theorem decimal_zeros (k : Nat) : Decimal (List.replicate (k + 1) '0') 0 := by
  have zero : digitValue? '0' = some 0 := by decide
  induction k with
  | zero => exact .digit zero
  | succ k ih =>
    rw [List.replicate_succ']
    exact ih.snoc zero

theorem longBlock_formed : longBlock.Formed where
  sound := by
    have one : digitValue? '1' = some 1 := by decide
    refine ⟨by simp, (headFrom_singleton_eq_none_iff (c := '.') (by decide)).1 (by decide),
      (decimal_zeros 4299).snoc one, ?_⟩
    rintro s ⟨⟩
  oneLine := by
    have zeros : OneLine (List.replicate maxDigits '0') := fun c hc => by
      rw [List.eq_of_mem_replicate hc]
      decide
    have front : OneLine ['A', ':'] := by decide
    have back : OneLine ('1' :: (kindMark false ++ ['m'])) := by decide
    intro l hl
    have line : l = ['A', ':'] ++
        (List.replicate maxDigits '0' ++ '1' :: (kindMark false ++ ['m'])) := by
      rw [List.mem_singleton.1 hl]
      simp [Head.line, mark]
    rw [line]
    exact front.append (zeros.append back)

/-- A line number with leading zeros enough is not read. -/
theorem longBlock_refused :
    longBlock.Formed ∧ longBlock.report = [⟨['A'], 1, -1, ['m'], false⟩] ∧
      parse (written [longBlock]) ≠ .ok longBlock.report := by
  have formed : ∀ b ∈ [longBlock], b.Formed := fun b hb => List.mem_singleton.1 hb ▸ longBlock_formed
  have long : ¬longBlock.Legible := by
    simp [longBlock, Block.Legible]
  obtain ⟨k, -, failed⟩ := readings_of_illegible ⟨longBlock, List.mem_singleton_self _, long⟩
  refine ⟨longBlock_formed, rfl, ?_⟩
  rw [parse_written formed, failed]
  simp

end Diagnostic

end JavaStudio
