import JavaStudio.Compiler.Diagnostic
import Mathlib.Data.List.TakeWhile

/-!
# The lines of a compiler's output

What a line says to a reader of diagnostics. A mark is a colon, a row of digits, a colon and a kind. A
line that has a mark behind a path is `Located`, and the path goes up to its first mark; a line is
`Global` when it begins as a warning without a place. A caret line points at a column.

* `Text.lines_join`: lines that are joined by line feeds are cut apart again.
* `head?_line`, `head?_eq_none_iff`: a line is read as the path, the number, the kind and the message
  that it was made from, and not read exactly when it is not located.
-/

namespace JavaStudio

/-! ## Lines joined by line feeds -/

namespace Text

variable {t l : Text} {ls : List Text} {c : Char} {ds : Text} {n v : Nat}

/-- A text without line ends. -/
def OneLine (t : Text) : Prop := ∀ c ∈ t, isLineEnd c = false

instance (t : Text) : Decidable (OneLine t) := List.decidableBAll (fun c => isLineEnd c = false) t

theorem OneLine.tail (h : OneLine (c :: t)) : OneLine t := fun d hd => h d (List.mem_cons_of_mem c hd)

theorem OneLine.append (h : OneLine t) (h' : OneLine l) : OneLine (t ++ l) := fun c hc =>
  (List.mem_append.1 hc).elim (h c) (h' c)

theorem OneLine.not_feed (h : OneLine t) : '\n' ∉ t := fun feed => by
  have := h _ feed
  revert this
  decide

theorem lines_cons (h : isLineEnd c = false) (t : Text) : lines (c :: t) = onFirst c (lines t) := by
  have feed : c ≠ '\r' := by
    rintro rfl
    revert h
    decide
  rw [lines]
  · simp [h]
  · rintro u rfl
    exact absurd rfl feed

theorem lines_append_feed (h : OneLine l) (t : Text) : lines (l ++ '\n' :: t) = l :: lines t := by
  induction l with
  | nil => rfl
  | cons c l ih =>
    rw [List.cons_append, lines_cons (h c List.mem_cons_self), ih h.tail]
    rfl

theorem lines_oneLine (h : OneLine l) (nonempty : l ≠ []) : lines l = [l] := by
  induction l with
  | nil => exact absurd rfl nonempty
  | cons c l ih =>
    rw [lines_cons (h c List.mem_cons_self)]
    cases l with
    | nil => rfl
    | cons d l =>
      rw [ih h.tail (by simp)]
      rfl

/-- The lines of joined lines are these, but for an empty one at the end. -/
theorem lines_join (h : ∀ l ∈ ls, OneLine l) :
    lines (join ['\n'] ls) = ls ∨ ls = lines (join ['\n'] ls) ++ [[]] := by
  induction ls with
  | nil => exact .inl rfl
  | cons l ls ih =>
    have first := h l List.mem_cons_self
    cases ls with
    | nil =>
      by_cases empty : l = []
      · subst empty
        exact .inr rfl
      · exact .inl (lines_oneLine first empty)
    | cons m ls =>
      have cut : lines (join ['\n'] (l :: m :: ls)) = l :: lines (join ['\n'] (m :: ls)) := by
        rw [join, List.append_assoc, List.singleton_append, lines_append_feed first]
      rw [cut]
      rcases ih fun k hk => h k (List.mem_cons_of_mem l hk) with same | same
      · exact .inl (congrArg (l :: ·) same)
      · exact .inr (congrArg (l :: ·) same)

/-! ## Numbers in decimal -/

/-- The row of digits stands for the number. -/
inductive Decimal : Text → Nat → Prop
  | digit {c : Char} {v : Nat} : digitValue? c = some v → Decimal [c] v
  | snoc {ds : Text} {c : Char} {n v : Nat} : Decimal ds n → digitValue? c = some v →
      Decimal (ds ++ [c]) (10 * n + v)

/-- A row of digits, at least one. -/
def IsNumeral (ds : Text) : Prop := ds ≠ [] ∧ ∀ c ∈ ds, isDigit c = true

theorem Decimal.isNumeral (h : Decimal ds n) : IsNumeral ds := by
  induction h with
  | digit value => exact ⟨by simp, by simp [isDigit, value]⟩
  | snoc _ value ih =>
    refine ⟨by simp, fun c hc => ?_⟩
    rcases List.mem_append.1 hc with hc | hc
    · exact ih.2 c hc
    · rw [List.mem_singleton.1 hc, isDigit, value]
      rfl

theorem Decimal.value (h : Decimal ds n) : digitsValue (ds.filterMap digitValue?) = n := by
  induction h with
  | digit value => simp [value, digitsValue]
  | snoc _ value ih =>
    rw [List.filterMap_append, digitsValue, List.foldl_append, ← digitsValue, ih]
    simp [value]

theorem digitValue?_digitChar : ∀ v < 10, digitValue? (Nat.digitChar v) = some v := by decide

theorem decimal_toDigits (n : Nat) : Decimal (ofNat n) n := by
  induction n using Nat.strongRecOn with
  | ind n ih =>
    rw [ofNat, Nat.toDigits_eq_if (by decide)]
    split
    next small => exact .digit (digitValue?_digitChar n small)
    next large =>
      have split : Decimal (ofNat (n / 10) ++ [(n % 10).digitChar]) (10 * (n / 10) + n % 10) :=
        .snoc (ih (n / 10) (by omega)) (digitValue?_digitChar _ (Nat.mod_lt n (by decide)))
      rwa [Nat.div_add_mod] at split

/-! ## Lines that show no more than one character -/

theorem mem_dropBlank (hc : c ∈ t) : isBlank c = true ∨ c ∈ dropBlank t := by
  rw [← List.takeWhile_append_dropWhile (p := isBlank) (l := t)] at hc
  rcases List.mem_append.1 hc with hc | hc
  · exact .inl (List.mem_takeWhile_imp hc)
  · exact .inr hc

theorem mem_trim (hc : c ∈ t) : isBlank c = true ∨ c ∈ trim t := by
  rcases mem_dropBlank hc with blank | hc
  · exact .inl blank
  · rcases mem_dropBlank (List.mem_reverse.2 hc) with blank | hc
    · exact .inl blank
    · exact .inr (List.mem_reverse.2 hc)

end Text

namespace Diagnostic

open Text

variable {c : Char} {t l a r ds m path : Text} {w : Bool} {n : Nat}

/-! ## Caret lines -/

theorem caretColumn?_eq_none (dark : isBlank c = false) (other : c ≠ '^') (hc : c ∈ l) :
    caretColumn? l = none := by
  unfold caretColumn?
  split
  next single =>
    rcases mem_trim hc with blank | mem
    · rw [dark] at blank
      cases blank
    · rw [single, List.mem_singleton] at mem
      exact absurd mem other
  next => rfl

/-- A line that points at a column. -/
def caretLine (column : Nat) : Text := List.replicate (column - 1) ' ' ++ ['^']

theorem dropBlank_replicate (k : Nat) (t : Text) :
    dropBlank (List.replicate k ' ' ++ t) = dropBlank t :=
  List.dropWhile_append_of_pos fun c hc => by
    rw [List.eq_of_mem_replicate hc]
    decide

theorem findIdx_replicate (k : Nat) :
    (List.replicate k ' ' ++ ['^']).findIdx (· == '^') = k := by
  induction k with
  | zero => rfl
  | succ k ih => rw [List.replicate_succ, List.cons_append, List.findIdx_cons, ih]; rfl

theorem caretColumn?_caretLine {column : Nat} (pos : 1 ≤ column) :
    caretColumn? (caretLine column) = some column := by
  have single : trim (caretLine column) = ['^'] := by
    rw [trim, caretLine, dropBlank_replicate]
    decide
  rw [caretColumn?, if_pos single, caretLine, findIdx_replicate, Nat.sub_add_cancel pos]

/-! ## Marks -/

/-- What stands between the line number and the message. -/
def kindMark (warning : Bool) : Text := ofString (if warning then ": warning: " else ": error: ")

/-- The line number and the kind that stand behind a path. -/
def mark (digits : Text) (warning : Bool) : Text := ':' :: (digits ++ kindMark warning)

theorem mark_append (ds : Text) (w : Bool) (m : Text) :
    mark ds w ++ m = ':' :: (ds ++ (kindMark w ++ m)) := by
  rw [mark, List.cons_append, List.append_assoc]

/-- Somewhere in the text stands a mark. -/
def HasMark (t : Text) : Prop := ∃ x ds w m, IsNumeral ds ∧ t = x ++ (mark ds w ++ m)

/-- The line has a mark behind a path. -/
def Located (l : Text) : Prop :=
  ∃ path ds w m, path ≠ [] ∧ IsNumeral ds ∧ l = path ++ (mark ds w ++ m)

/-- The line begins as a warning without a place. -/
def Global (l : Text) : Prop := ∃ m, l = ofString "warning: " ++ m

/-- The line of a diagnostic. -/
def Head.line (h : Head) : Text := h.path ++ (mark h.digits h.warning ++ h.message)

theorem isDigit_colon : isDigit ':' = false := by decide

theorem kindMark_eq (w : Bool) : ∃ k, kindMark w = ':' :: k := by
  cases w <;> exact ⟨_, rfl⟩

theorem takeWhile_numeral (digits : ∀ c ∈ ds, isDigit c = true) :
    (ds ++ (kindMark w ++ m)).takeWhile isDigit = ds ∧
      (ds ++ (kindMark w ++ m)).dropWhile isDigit = kindMark w ++ m := by
  obtain ⟨k, hk⟩ := kindMark_eq w
  rw [hk, List.cons_append, List.takeWhile_append_of_pos digits, List.dropWhile_append_of_pos digits,
    List.takeWhile_cons_of_neg (by simp [isDigit_colon]),
    List.dropWhile_cons_of_neg (by simp [isDigit_colon]), List.append_nil]
  exact ⟨rfl, rfl⟩

theorem findSome?_kinds {p : Text × Bool × Text} :
    (kinds.findSome? fun (k, warning) => (after? k t).map fun message => (ds, warning, message)) =
      some p ↔ ∃ w m, p = (ds, w, m) ∧ t = kindMark w ++ m := by
  simp only [kinds, List.findSome?_cons, List.findSome?_nil]
  constructor
  · intro h
    rcases error : after? (ofString ": error: ") t with _ | m
    · rcases warning : after? (ofString ": warning: ") t with _ | m
      · rw [error, warning] at h
        cases h
      · rw [error, warning] at h
        cases h
        exact ⟨true, m, rfl, after?_eq_some_iff.1 warning⟩
    · rw [error] at h
      cases h
      exact ⟨false, m, rfl, after?_eq_some_iff.1 error⟩
  · rintro ⟨w, m, rfl, rfl⟩
    cases w with
    | false =>
      have error : after? (ofString ": error: ") (kindMark false ++ m) = some m :=
        after?_eq_some_iff.2 rfl
      rw [error]
      rfl
    | true =>
      have error : after? (ofString ": error: ") (kindMark true ++ m) = none := rfl
      have warning : after? (ofString ": warning: ") (kindMark true ++ m) = some m :=
        after?_eq_some_iff.2 rfl
      rw [error, warning]
      rfl

theorem place?_eq_some_iff :
    place? t = some (ds, w, m) ↔ IsNumeral ds ∧ t = ds ++ (kindMark w ++ m) := by
  unfold place?
  constructor
  · intro h
    split at h
    next => cases h
    next nonempty =>
      obtain ⟨w', m', eq, rest⟩ := findSome?_kinds.1 h
      cases eq
      refine ⟨⟨nonempty, fun c hc => List.mem_takeWhile_imp hc⟩, ?_⟩
      rw [← rest, List.takeWhile_append_dropWhile]
  · rintro ⟨⟨nonempty, digits⟩, rfl⟩
    obtain ⟨taken, dropped⟩ := takeWhile_numeral (w := w) (m := m) digits
    rw [taken, dropped]
    split
    next => exact absurd rfl nonempty
    next => exact findSome?_kinds.2 ⟨w, m, rfl, rfl⟩

/-! ## Colons in front of blanks -/

/-- Every colon of the text has a blank behind it. -/
def Spaced (t : Text) : Prop := ∀ x y, t = x ++ ':' :: y → ∃ z, y = ' ' :: z

theorem spaced_of_getElem? (h : ∀ i < t.length, t[i]? = some ':' → t[i + 1]? = some ' ') :
    Spaced t := by
  rintro x y rfl
  have blank := h x.length (by simp) (by simp)
  rw [List.getElem?_append_right (by omega), Nat.add_sub_cancel_left] at blank
  cases y with
  | nil => cases blank
  | cons c y =>
    cases blank
    exact ⟨y, rfl⟩

theorem spaced_kindMark (w : Bool) : Spaced (kindMark w) :=
  spaced_of_getElem? (by cases w <;> decide)

theorem spaced_warning : Spaced (ofString "warning: ") := spaced_of_getElem? (by decide)

theorem Spaced.append_digits (digits : ∀ c ∈ ds, isDigit c = true) (h : Spaced t) :
    Spaced (ds ++ t) := by
  induction ds with
  | nil => exact h
  | cons d ds ih =>
    rintro (_ | ⟨c, x⟩) y eq
    · obtain ⟨rfl, -⟩ := List.cons.inj eq
      have digit := digits ':' List.mem_cons_self
      rw [isDigit_colon] at digit
      cases digit
    · obtain ⟨-, rest⟩ := List.cons.inj eq
      exact ih (fun c hc => digits c (List.mem_cons_of_mem d hc)) x y rest

/-- A mark that begins before the end of such a text does not go on behind it. -/
theorem Spaced.mark_behind (h : Spaced t) (numeral : IsNumeral ds)
    (eq : t ++ r = l ++ (mark ds w ++ m)) : ∃ x, l = t ++ x := by
  rcases List.append_eq_append_iff.1 eq with ⟨x, rfl, -⟩ | ⟨_ | ⟨c, x⟩, rfl, split⟩
  · exact ⟨x, rfl⟩
  · exact ⟨[], by simp⟩
  · obtain ⟨rfl, rest⟩ := List.cons.inj split
    obtain ⟨z, rfl⟩ := h l x rfl
    obtain ⟨d, ds, rfl⟩ := List.exists_cons_of_ne_nil numeral.1
    obtain ⟨rfl, -⟩ := List.cons.inj rest
    have blank : isDigit ' ' = false := by decide
    rw [numeral.2 ' ' List.mem_cons_self] at blank
    cases blank

/-! ## Heads -/

theorem HasMark.cons (h : HasMark l) : HasMark (c :: l) := by
  obtain ⟨x, ds, w, m, numeral, rfl⟩ := h
  exact ⟨c :: x, ds, w, m, numeral, rfl⟩

/-- No number stands behind a colon of a text without marks, whatever mark follows the text. -/
theorem place?_eq_none (clear : ¬HasMark (':' :: l)) (numeral : IsNumeral ds) :
    place? (l ++ (mark ds w ++ m)) = none := by
  rcases found : place? (l ++ (mark ds w ++ m)) with _ | ⟨ds', w', m'⟩
  · rfl
  · obtain ⟨numeral', eq⟩ := place?_eq_some_iff.1 found
    rw [← List.append_assoc ds'] at eq
    obtain ⟨x, rfl⟩ := ((spaced_kindMark w').append_digits numeral'.2).mark_behind numeral eq.symm
    exact absurd ⟨[], ds', w', x, numeral', by simp [mark_append]⟩ clear

theorem headFrom_of_mark (feed : '\n' ∉ l) (clear : ¬HasMark l) (nonempty : a.reverse ++ l ≠ [])
    (numeral : IsNumeral ds) :
    headFrom a (l ++ (mark ds w ++ m)) = some ⟨a.reverse ++ l, ds, w, m⟩ := by
  induction l generalizing a with
  | nil =>
    have place : place? (ds ++ (kindMark w ++ m)) = some (ds, w, m) :=
      place?_eq_some_iff.2 ⟨numeral, rfl⟩
    have filled : a.isEmpty = false := by
      cases a with
      | nil => exact absurd rfl nonempty
      | cons _ _ => rfl
    simp only [List.nil_append, mark_append, headFrom, filled, decide_true, Bool.not_false,
      Bool.and_self, if_true, place, List.append_nil]
  | cons c l ih =>
    have place : (if c = ':' && !a.isEmpty then place? (l ++ (mark ds w ++ m)) else none) = none := by
      split
      next colon =>
        simp only [Bool.and_eq_true, decide_eq_true_eq] at colon
        exact place?_eq_none (colon.1 ▸ clear) numeral
      next => rfl
    have other : c ≠ '\n' := fun h => feed (h ▸ List.mem_cons_self)
    rw [List.cons_append, headFrom, place]
    simp only [other, if_false]
    rw [ih (fun h => feed (List.mem_cons_of_mem c h)) (fun h => clear h.cons) (by simp)]
    simp

theorem exists_mark_cons_iff :
    (∃ x ds w m, a.reverse ++ x ≠ [] ∧ IsNumeral ds ∧ c :: l = x ++ (mark ds w ++ m)) ↔
      (c = ':' ∧ a ≠ [] ∧ (place? l).isSome = true) ∨
        ∃ x ds w m, (c :: a).reverse ++ x ≠ [] ∧ IsNumeral ds ∧ l = x ++ (mark ds w ++ m) := by
  constructor
  · rintro ⟨_ | ⟨b, x⟩, ds, w, m, nonempty, numeral, eq⟩
    · rw [List.nil_append, mark_append] at eq
      obtain ⟨rfl, rfl⟩ := List.cons.inj eq
      rw [place?_eq_some_iff.2 ⟨numeral, rfl⟩]
      exact .inl ⟨rfl, by simpa using nonempty, rfl⟩
    · obtain ⟨rfl, rfl⟩ := List.cons.inj eq
      exact .inr ⟨x, ds, w, m, by simp, numeral, rfl⟩
  · rintro (⟨rfl, nonempty, found⟩ | ⟨x, ds, w, m, -, numeral, rfl⟩)
    · obtain ⟨⟨ds, w, m⟩, found⟩ := Option.isSome_iff_exists.1 found
      obtain ⟨numeral, rfl⟩ := place?_eq_some_iff.1 found
      exact ⟨[], ds, w, m, by simpa using nonempty, numeral, (mark_append ds w m).symm⟩
    · exact ⟨c :: x, ds, w, m, by simp, numeral, rfl⟩

theorem headFrom_eq_none_iff (feed : '\n' ∉ l) :
    headFrom a l = none ↔
      ¬∃ x ds w m, a.reverse ++ x ≠ [] ∧ IsNumeral ds ∧ l = x ++ (mark ds w ++ m) := by
  induction l generalizing a with
  | nil => simp [headFrom, mark]
  | cons c l ih =>
    have other : c ≠ '\n' := fun h => feed (h ▸ List.mem_cons_self)
    rw [exists_mark_cons_iff, not_or, ← @ih (c :: a) fun h => feed (List.mem_cons_of_mem c h)]
    by_cases colon : c = ':' ∧ a ≠ []
    · obtain ⟨rfl, filled⟩ := colon
      have tested : (if ':' = ':' && !a.isEmpty then place? l else none) = place? l :=
        if_pos (by simpa using filled)
      rw [headFrom, tested]
      rcases place? l with _ | ⟨ds, w, m⟩
      · simp
      · simp [filled]
    · have skipped : (if c = ':' && !a.isEmpty then place? l else none) = none :=
        if_neg (by simpa using colon)
      have out : ¬(c = ':' ∧ a ≠ [] ∧ (place? l).isSome = true) := fun h => colon ⟨h.1, h.2.1⟩
      rw [headFrom, skipped]
      simp only [other, if_false, out, not_false_eq_true, true_and]

/-- A text without line feeds has a mark exactly when one is found behind any character. -/
theorem headFrom_singleton_eq_none_iff (feed : '\n' ∉ l) : headFrom [c] l = none ↔ ¬HasMark l := by
  rw [headFrom_eq_none_iff feed]
  simp [HasMark]

theorem head?_line {h : Head} (feed : '\n' ∉ h.path) (nonempty : h.path ≠ [])
    (clear : ¬HasMark h.path) (numeral : IsNumeral h.digits) : head? h.line = some h :=
  headFrom_of_mark feed clear nonempty numeral

theorem head?_eq_none_iff (feed : '\n' ∉ l) : head? l = none ↔ ¬Located l :=
  headFrom_eq_none_iff feed

theorem globalWarning?_eq_some_iff : globalWarning? l = some m ↔ l = ofString "warning: " ++ m :=
  after?_eq_some_iff

theorem globalWarning?_eq_none_iff : globalWarning? l = none ↔ ¬Global l := by
  rw [Option.eq_none_iff_forall_ne_some]
  simp only [Global, not_exists, ne_eq, globalWarning?_eq_some_iff]

/-- A warning without a place has no place behind the first colon either. -/
theorem not_located_global (clear : ¬HasMark m) : ¬Located (ofString "warning: " ++ m) := by
  rintro ⟨path, ds, w, m', -, numeral, eq⟩
  obtain ⟨x, rfl⟩ := spaced_warning.mark_behind numeral eq
  rw [List.append_assoc] at eq
  exact clear ⟨x, ds, w, m', numeral, List.append_cancel_left eq⟩

/-! ## Line by line -/

section

variable {rest : List Text} {line source caret : Text} {h : Head} {column : Nat}

theorem ofLines_bare (head : head? line = some h)
    (dark : ∀ source caret after, rest = source :: caret :: after → caretColumn? caret = none) :
    ofLines (line :: rest) = do
      let d ← ofHead h (-1)
      let ds ← ofLines rest
      return d :: ds := by
  rcases rest with _ | ⟨source, _ | ⟨caret, after⟩⟩
  · simp only [ofLines, head]
  · simp only [ofLines, head]
  · rw [ofLines, head]
    simp only [dark source caret after rfl]

theorem ofLines_pointed (head : head? line = some h)
    (pointed : caretColumn? caret = some column) :
    ofLines (line :: source :: caret :: rest) = do
      let d ← ofHead h column
      let ds ← ofLines rest
      return d :: ds := by
  rw [ofLines, head]
  simp only [pointed]

theorem ofLines_silent (head : head? line = none) (global : globalWarning? line = none) :
    ofLines (line :: rest) = ofLines rest := by
  rw [ofLines, head]
  simp only [global]

theorem ofLines_global (head : head? line = none) (global : globalWarning? line = some m) :
    ofLines (line :: rest) = (ofLines rest).map (⟨[], -1, -1, m, true⟩ :: ·) := by
  rw [ofLines, head]
  simp only [global]

/-- An empty line at the end says nothing. -/
theorem ofLines_append_nil (ls : List Text) : ofLines (ls ++ [[]]) = ofLines ls := by
  fun_induction ofLines ls with
  | case1 => rfl
  | case2 line rest head m global ih => rw [List.cons_append, ofLines_global head global, ih]
  | case3 line rest head global ih => rw [List.cons_append, ofLines_silent head global, ih]
  | case4 line h head source caret after column pointed ih =>
    simp only [List.cons_append]
    rw [ofLines_pointed head pointed, ih]
  | case5 line h head source caret after dark ih =>
    simp only [List.cons_append] at ih ⊢
    rw [ofLines_bare head, ih]
    rintro _ _ _ ⟨⟩
    exact dark
  | case6 line h head rest short ih =>
    rw [List.cons_append, ofLines_bare head, ih]
    intro source caret after eq
    -- with fewer than two lines behind the head, the second one can only be the empty line
    rcases rest with _ | ⟨_, _ | ⟨_, _⟩⟩
    · cases eq
    · cases eq
      rfl
    · exact (short _ _ _ rfl).elim

end

end Diagnostic

end JavaStudio
