import JavaStudio.Proofs.Source.Header
import JavaStudio.Text.Lines

/-!
# Line ends and the package

A file has line feeds where its text has line ends of any kind. The statement of the package is made of
words and blanks, so the spelling of a line end does not matter to it (`Alike`). It matters to a line
comment, which goes on over a carriage return in the text and ends there in the file (`uncovers`).

* `dropBlocks_unixNewlines`: block comments are the same in both.
* `declared_of_alike`: texts that are alike without their comments declare the same package.
* `declared_unixNewlines`: where the file shows no more than the text, the package is the same.
-/

namespace JavaStudio

/-! ## Line ends one by one -/

namespace Text

variable {b c d : Char} {t r : Text}

/-- A character is the first of two that end a line, ends a line alone, or ends none. -/
theorem unixNewlines_cons (c : Char) (t : Text) :
    (c = '\r' ∧ (∃ u, t = '\n' :: u) ∧ unixNewlines (c :: t) = unixNewlines t) ∨
      (c = '\r' ∧ t.head? ≠ some '\n' ∧ unixNewlines (c :: t) = '\n' :: unixNewlines t) ∨
      (c ≠ '\r' ∧ unixNewlines (c :: t) = c :: unixNewlines t) := by
  by_cases ret : c = '\r'
  · subst ret
    by_cases feed : t.head? = some '\n'
    · obtain ⟨u, rfl⟩ := List.head?_eq_some_iff.1 feed
      exact .inl ⟨rfl, ⟨u, rfl⟩, rfl⟩
    · refine .inr (.inl ⟨rfl, feed, ?_⟩)
      rw [unixNewlines, if_pos rfl]
      rintro _ - rfl
      exact feed rfl
  · refine .inr (.inr ⟨ret, ?_⟩)
    rw [unixNewlines, if_neg ret]
    exact fun _ h _ => ret h

theorem unixNewlines_return (h : t.head? ≠ some '\n') :
    unixNewlines ('\r' :: t) = '\n' :: unixNewlines t := by
  obtain ⟨-, ⟨u, rfl⟩, -⟩ | ⟨-, -, eq⟩ | ⟨ret, -⟩ := unixNewlines_cons '\r' t
  · exact absurd rfl h
  · exact eq
  · exact absurd rfl ret

theorem unixNewlines_other (h : c ≠ '\r') (t : Text) : unixNewlines (c :: t) = c :: unixNewlines t := by
  obtain ⟨ret, -⟩ | ⟨ret, -⟩ | ⟨-, eq⟩ := unixNewlines_cons c t
  · exact absurd ret h
  · exact absurd ret h
  · exact eq

/-- What is no line end stands in the text. -/
theorem of_unixNewlines_cons (feed : c ≠ '\n') (h : unixNewlines t = c :: r) :
    ∃ u, t = c :: u ∧ unixNewlines u = r := by
  cases t with
  | nil => cases h
  | cons d t =>
    obtain ⟨-, ⟨u, rfl⟩, eq⟩ | ⟨-, -, eq⟩ | ⟨-, eq⟩ := unixNewlines_cons d t
    · rw [eq] at h
      cases h
      exact absurd rfl feed
    · rw [eq] at h
      cases h
      exact absurd rfl feed
    · rw [eq] at h
      cases h
      exact ⟨t, rfl, rfl⟩

/-- Two characters of which the second is no line end stand side by side in both or in neither. -/
theorem unpaired_unixNewlines (feed : d ≠ '\n') (h : ∀ u, c = b → t = d :: u → False) :
    ∀ r, c = b → unixNewlines t = d :: r → False := by
  intro r first second
  obtain ⟨u, there, -⟩ := of_unixNewlines_cons feed second
  exact h u first there

end Text

namespace Package

open Text

variable {c d : Char} {s t u : Text}

/-! ## Block comments -/

theorem closes_unixNewlines (t : Text) : closes (unixNewlines t) = closes t := by
  fun_induction closes t with
  | case1 t => rfl
  | case2 c t other ih =>
    obtain ⟨rfl, ⟨u, rfl⟩, eq⟩ | ⟨rfl, -, eq⟩ | ⟨-, eq⟩ := unixNewlines_cons c t
    · rw [eq]
      exact ih
    · rw [eq, closes, ih]
      rintro _ h
      cases h
    · rw [eq, closes, ih]
      exact unpaired_unixNewlines (by decide) other
  | case3 => rfl

/-- Taking a block comment out does not bring a line feed forward. -/
theorem head_dropBlocks (h : t.head? ≠ some '\n') : (dropBlocks false t).head? ≠ some '\n' := by
  cases t with
  | nil => nofun
  | cons c t =>
    by_cases slash : c = '/'
    · subst slash
      by_cases star : t.head? = some '*'
      · obtain ⟨u, rfl⟩ := List.head?_eq_some_iff.1 star
        rw [dropBlocks]
        split <;> simp
      · rw [dropBlocks_slash star]
        simp
    · rwa [dropBlocks_cons slash]

/-- Line ends and block comments are independent of each other. -/
theorem dropBlocks_unixNewlines (inside : Bool) (t : Text) :
    dropBlocks inside (unixNewlines t) = unixNewlines (dropBlocks inside t) := by
  fun_induction dropBlocks inside t with
  | case1 t closed ih =>
    show dropBlocks false ('/' :: '*' :: unixNewlines t) = ' ' :: unixNewlines (dropBlocks true t)
    rw [dropBlocks, closes_unixNewlines, if_pos closed, ih]
  | case2 t opened ih =>
    show dropBlocks false ('/' :: '*' :: unixNewlines t) =
      '/' :: unixNewlines (dropBlocks false ('*' :: t))
    rw [dropBlocks, closes_unixNewlines, if_neg opened, ← ih]
    rfl
  | case3 c t other ih =>
    obtain ⟨rfl, ⟨u, rfl⟩, eq⟩ | ⟨rfl, feed, eq⟩ | ⟨ret, eq⟩ := unixNewlines_cons c t
    · rw [eq, ih, dropBlocks_cons (by decide)]
      rfl
    · rw [eq, dropBlocks_cons (by decide), ih, unixNewlines_return (head_dropBlocks feed)]
    · rw [eq, unixNewlines_other ret, ← ih, dropBlocks]
      exact unpaired_unixNewlines (by decide) other
  | case4 t ih => exact ih
  | case5 c t other ih =>
    obtain ⟨rfl, ⟨u, rfl⟩, eq⟩ | ⟨rfl, -, eq⟩ | ⟨-, eq⟩ := unixNewlines_cons c t
    · rw [eq, ih]
    · rw [eq, dropBlocks, ih]
      rintro _ h
      cases h
    · rw [eq, dropBlocks, ih]
      exact unpaired_unixNewlines (by decide) other
  | case6 inside => cases inside <;> rfl

/-! ## Words and blanks -/

/-- A character that a package statement does not go on with, whatever comes before it. -/
def isStop (c : Char) : Bool := !(isBlank c || isIdentPart c || c == '.')

theorem isStop_eq_false_of_isBlank (h : isBlank c = true) : isStop c = false := by
  simp [isStop, h]

theorem isStop_eq_false_of_isIdentPart (h : isIdentPart c = true) : isStop c = false := by
  simp [isStop, h]

theorem isBlank_of_isStop (h : isStop c = true) : isBlank c = false := by
  cases blank : isBlank c with
  | false => rfl
  | true => rw [isStop_eq_false_of_isBlank blank] at h; cases h

/-- A text ends or goes on with a blank. -/
def Pauses (t : Text) : Prop := ∀ c ∈ t.head?, isBlank c = true

theorem pauses_cons : Pauses (c :: t) ↔ isBlank c = true := by
  simp [Pauses]

/-- Texts with the same words and other blanks between them, up to a character that a package statement
does not go on with. -/
inductive Alike : Text → Text → Prop
  | nil : Alike [] []
  | same {c : Char} {s t : Text} : Alike s t → Alike (c :: s) (c :: t)
  | blank {c d : Char} {s t : Text} : isBlank c = true → isBlank d = true → Alike s t →
      Alike (c :: s) (d :: t)
  | left {c : Char} {s t : Text} : isBlank c = true → Pauses t → Alike s t → Alike (c :: s) t
  | right {d : Char} {s t : Text} : isBlank d = true → Pauses s → Alike s t → Alike s (d :: t)
  | stop {c : Char} {s t : Text} : isStop c = true → Alike (c :: s) (c :: t)

theorem dropBlank_of_isBlank (h : isBlank c = true) (t : Text) : dropBlank (c :: t) = dropBlank t := by
  rw [dropBlank, List.dropWhile_cons_of_pos h, dropBlank]

theorem dropBlank_length (t : Text) : (dropBlank t).length ≤ t.length :=
  (List.dropWhile_sublist isBlank).length_le

theorem length_of_identifier? {name r : Text} (h : identifier? t = some (name, r)) :
    r.length < t.length := by
  cases t with
  | nil => cases h
  | cons c t =>
    rw [identifier?] at h
    split at h
    · cases h
      exact Nat.lt_succ_of_le (List.dropWhile_sublist isIdentPart).length_le
    · cases h

theorem keyword_part : ∀ c ∈ keyword, isIdentPart c = true :=
  List.all_eq_true.1 (by decide)

namespace Pauses

/-- Behind its blanks a text does not go on with another one. -/
theorem eq_nil (h : Pauses (dropBlank t)) : dropBlank t = [] := by
  have head := List.head?_dropWhile_not isBlank t
  cases rest : t.dropWhile isBlank with
  | nil => exact rest
  | cons c u =>
    have blank := h c (by rw [dropBlank, rest, List.head?_cons]; rfl)
    rw [rest] at head
    simp [blank] at head

theorem after? {p : Text} (h : Pauses t) (hc : isIdentPart c = true) : after? (c :: p) t = none := by
  cases t with
  | nil => rfl
  | cons d t =>
    rw [Text.after?, if_neg]
    rintro rfl
    rw [isIdentPart_of_isBlank (pauses_cons.1 h)] at hc
    cases hc

theorem parts (h : Pauses t) : t.takeWhile isIdentPart = [] ∧ t.dropWhile isIdentPart = t := by
  cases t with
  | nil => exact ⟨rfl, rfl⟩
  | cons c t => simp [isIdentPart_of_isBlank (pauses_cons.1 h)]

theorem identifier? (h : Pauses t) : identifier? t = none := by
  cases t with
  | nil => rfl
  | cons c t =>
    rw [Text.identifier?, if_neg]
    intro start
    have part := isIdentPart_of_isIdentStart start
    rw [isIdentPart_of_isBlank (pauses_cons.1 h)] at part
    cases part

end Pauses

namespace Alike

/-- Texts that are alike both pause, or go on with one character. -/
theorem heads (h : Alike s t) :
    (Pauses s ∧ Pauses t) ∨
      ∃ c s' t', s = c :: s' ∧ t = c :: t' ∧ isBlank c = false ∧ (isStop c = true ∨ Alike s' t') := by
  induction h with
  | nil => exact .inl ⟨nofun, nofun⟩
  | @same c s t h _ =>
    cases blank : isBlank c with
    | true => exact .inl ⟨pauses_cons.2 blank, pauses_cons.2 blank⟩
    | false => exact .inr ⟨c, s, t, rfl, rfl, blank, .inr h⟩
  | blank hc hd _ _ => exact .inl ⟨pauses_cons.2 hc, pauses_cons.2 hd⟩
  | left hc ht _ _ => exact .inl ⟨pauses_cons.2 hc, ht⟩
  | right hd hs _ _ => exact .inl ⟨hs, pauses_cons.2 hd⟩
  | @stop c s t hc => exact .inr ⟨c, s, t, rfl, rfl, isBlank_of_isStop hc, .inl hc⟩

theorem dropBlank (h : Alike s t) : Alike (dropBlank s) (dropBlank t) := by
  induction h with
  | nil => exact .nil
  | @same c s t h ih =>
    cases blank : isBlank c with
    | true => rwa [dropBlank_of_isBlank blank, dropBlank_of_isBlank blank]
    | false =>
      rw [dropBlank_cons blank, dropBlank_cons blank]
      exact .same h
  | blank hc hd _ ih => rwa [dropBlank_of_isBlank hc, dropBlank_of_isBlank hd]
  | left hc _ _ ih => rwa [dropBlank_of_isBlank hc]
  | right hd _ _ ih => rwa [dropBlank_of_isBlank hd]
  | stop hc =>
    rw [dropBlank_cons (isBlank_of_isStop hc), dropBlank_cons (isBlank_of_isStop hc)]
    exact .stop hc

/-- A word at the head of one text is at the head of the other. -/
theorem after? {p : Text} (hp : ∀ c ∈ p, isIdentPart c = true) (h : Alike s t) :
    Option.Rel Alike (after? p s) (after? p t) := by
  induction p generalizing s t with
  | nil => exact .some h
  | cons a p ih =>
    have part := hp a List.mem_cons_self
    rcases h.heads with ⟨hs, ht⟩ | ⟨c, s', t', rfl, rfl, -, rest⟩
    · rw [hs.after? part, ht.after? part]
      exact .none
    · rw [Text.after?, Text.after?]
      split
      · rename_i same
        subst same
        have rest := rest.resolve_left (Bool.eq_false_iff.1 (isStop_eq_false_of_isIdentPart part))
        exact ih (fun c hc => hp c (List.mem_cons_of_mem _ hc)) rest
      · exact .none

/-- A name goes on as far in one text as in the other. -/
theorem parts (h : Alike s t) :
    s.takeWhile isIdentPart = t.takeWhile isIdentPart ∧
      Alike (s.dropWhile isIdentPart) (t.dropWhile isIdentPart) := by
  have pausing : ∀ {s t}, Alike s t → Pauses s → Pauses t →
      s.takeWhile isIdentPart = t.takeWhile isIdentPart ∧
        Alike (s.dropWhile isIdentPart) (t.dropWhile isIdentPart) := by
    intro s t h hs ht
    rw [hs.parts.1, hs.parts.2, ht.parts.1, ht.parts.2]
    exact ⟨rfl, h⟩
  induction h with
  | nil => exact ⟨rfl, .nil⟩
  | @same c s t h ih =>
    cases part : isIdentPart c with
    | true => simpa only [List.takeWhile_cons, List.dropWhile_cons, part, if_true] using
        ⟨by rw [ih.1], ih.2⟩
    | false => simpa [part] using h.same
  | blank hc hd h _ => exact pausing (.blank hc hd h) (pauses_cons.2 hc) (pauses_cons.2 hd)
  | left hc ht h _ => exact pausing (.left hc ht h) (pauses_cons.2 hc) ht
  | right hd hs h _ => exact pausing (.right hd hs h) hs (pauses_cons.2 hd)
  | @stop c s t hc =>
    have part : isIdentPart c = false := by
      cases part : isIdentPart c with
      | false => rfl
      | true => rw [isStop_eq_false_of_isIdentPart part] at hc; cases hc
    simpa [part] using Alike.stop hc

theorem identifier? (h : Alike s t) :
    Option.Rel (fun x y => x.1 = y.1 ∧ Alike x.2 y.2) (identifier? s) (identifier? t) := by
  rcases h.heads with ⟨hs, ht⟩ | ⟨c, s', t', rfl, rfl, -, rest⟩
  · rw [hs.identifier?, ht.identifier?]
    exact .none
  · rw [Text.identifier?, Text.identifier?]
    split
    · rename_i start
      have part := isIdentPart_of_isIdentStart start
      have rest := rest.resolve_left (Bool.eq_false_iff.1 (isStop_eq_false_of_isIdentPart part))
      exact .some ⟨by rw [rest.parts.1], rest.parts.2⟩
    · exact .none

/-- The rest of a name is read alike, in as many steps as each text needs. -/
theorem dottedRest {m n : Nat} (h : Alike s t) (hm : s.length < m) (hn : t.length < n) :
    dottedRest m s = dottedRest n t := by
  induction m generalizing s t n with
  | zero => omega
  | succ m ih =>
    obtain ⟨n, rfl⟩ : ∃ k, n = k + 1 := ⟨n - 1, by omega⟩
    rw [Package.dottedRest, Package.dottedRest]
    have shorter := dropBlank_length s
    have shorter' := dropBlank_length t
    rcases h.dropBlank.heads with ⟨hs, ht⟩ | ⟨c, s', t', hs, ht, -, rest⟩
    · rw [hs.eq_nil, ht.eq_nil]
    · rw [hs, List.length_cons] at shorter
      rw [ht, List.length_cons] at shorter'
      rw [hs, ht]
      by_cases semicolon : c = ';'
      · subst semicolon
        rfl
      by_cases dot : c = '.'
      · subst dot
        have names := (rest.resolve_left (by decide)).dropBlank.identifier?
        have left := dropBlank_length s'
        have left' := dropBlank_length t'
        simp only
        generalize hx : Text.identifier? (Text.dropBlank s') = x at names
        generalize hy : Text.identifier? (Text.dropBlank t') = y at names
        cases names with
        | none => rfl
        | some alike =>
          have less := length_of_identifier? hx
          have less' := length_of_identifier? hy
          have read := @ih _ _ n alike.2 (by omega) (by omega)
          simp only
          rw [alike.1, read]
      · -- neither text goes on with a dot or ends the statement
        split <;> simp_all

/-- A dotted name is read alike. -/
theorem dotted? (h : Alike s t) : dotted? s = dotted? t := by
  rw [Package.dotted?, Package.dotted?]
  have names := h.identifier?
  generalize Text.identifier? s = x at names
  generalize Text.identifier? t = y at names
  cases names with
  | none => rfl
  | some alike =>
    simp only
    rw [alike.1, alike.2.dottedRest (Nat.lt_succ_self _) (Nat.lt_succ_self _)]

/-- The keyword stands at the head of both or of neither. -/
theorem keyword (h : Alike s t) : Option.Rel Alike
    (Text.after? Package.keyword (Text.dropBlank s))
    (Text.after? Package.keyword (Text.dropBlank t)) :=
  h.dropBlank.after? keyword_part

end Alike

/-- A pause behind the keyword is left out. -/
theorem statement?_of_pauses {r : Text} (h : after? keyword (dropBlank t) = some r) (pause : Pauses r) :
    statement? t = dotted? (dropBlank r) := by
  rw [statement?, h]
  cases r with
  | nil => rfl
  | cons c r =>
    have blank := pauses_cons.1 pause
    simp only [blank, if_true, dropBlank_of_isBlank]

theorem afterKeyword?_of_pauses {r : Text} (h : after? keyword (dropBlank t) = some r)
    (pause : Pauses r) : afterKeyword? t = some r := by
  rw [afterKeyword?, h]
  cases r with
  | nil => rfl
  | cons c r => simp only [isWord_of_isBlank (pauses_cons.1 pause), Bool.false_eq_true, if_false]

namespace Alike

theorem statement? (h : Alike s t) : statement? s = statement? t := by
  have rest := h.keyword
  generalize hx : Text.after? Package.keyword (Text.dropBlank s) = x at rest
  generalize hy : Text.after? Package.keyword (Text.dropBlank t) = y at rest
  cases rest with
  | none => rw [Package.statement?, Package.statement?, hx, hy]
  | some h =>
    rcases h.heads with ⟨hs, ht⟩ | ⟨c, s', t', rfl, rfl, solid, -⟩
    · rw [statement?_of_pauses hx hs, statement?_of_pauses hy ht]
      exact h.dropBlank.dotted?
    · rw [Package.statement?, Package.statement?, hx, hy]
      simp only [solid, Bool.false_eq_true, if_false]

theorem afterKeyword? (h : Alike s t) : (afterKeyword? s).isSome = (afterKeyword? t).isSome := by
  have rest := h.keyword
  generalize hx : Text.after? Package.keyword (Text.dropBlank s) = x at rest
  generalize hy : Text.after? Package.keyword (Text.dropBlank t) = y at rest
  cases rest with
  | none => rw [Package.afterKeyword?, Package.afterKeyword?, hx, hy]
  | some h =>
    rcases h.heads with ⟨hs, ht⟩ | ⟨c, s', t', rfl, rfl, -, -⟩
    · rw [afterKeyword?_of_pauses hx hs, afterKeyword?_of_pauses hy ht]
      rfl
    · rw [Package.afterKeyword?, Package.afterKeyword?, hx, hy]
      simp only
      split <;> rfl

end Alike

/-- The package is declared by words and blanks. -/
theorem declared_of_alike (h : Alike (bare s) (bare t)) : declared s = declared t := by
  rw [declared, declared]
  simp only [h.statement?, h.afterKeyword?]

/-! ## Line comments -/

/-- Where a character stands: outside of line comments, inside one, or inside one of the text that the
file does not have, behind a carriage return. -/
inductive Region
  | code
  | comment
  | hidden

/-- The region is a line comment of the text. -/
def Region.inText : Region → Bool
  | code => false
  | comment | hidden => true

/-- The region is a line comment of the file. -/
def Region.inFile : Region → Bool
  | code | hidden => false
  | comment => true

/-- In front of a character that a package statement does not go on with, the file shows what a line
comment of the text hides: something that is neither a blank nor a line comment itself. -/
def uncovers : Region → Text → Bool
  | .code, '/' :: '/' :: t => uncovers .comment t
  | .code, c :: t => !isStop c && uncovers .code t
  | .comment, '\n' :: t => uncovers .code t
  | .comment, '\r' :: '\n' :: t => uncovers .code t
  | .comment, '\r' :: t => uncovers .hidden t
  | .comment, _ :: t => uncovers .comment t
  | .hidden, '\n' :: t => uncovers .code t
  | .hidden, '\r' :: '\n' :: t => uncovers .code t
  | .hidden, '/' :: '/' :: t => uncovers .comment t
  | .hidden, c :: t => !isBlank c || uncovers .hidden t
  | _, [] => false

theorem pauses_dropLineComments (t : Text) : Pauses (dropLineComments true t) := by
  intro c head
  have feed := head_dropLineComments t
  rw [Option.mem_def.1 head] at feed
  simp only [List.mem_cons, reduceCtorEq, Option.some.injEq, List.not_mem_nil, or_false,
    false_or] at feed
  rw [feed]
  decide

/-- Where nothing is uncovered, the text and the file are alike without their line comments. -/
theorem alike_of_covered (r : Region) (u : Text) (h : uncovers r u = false) :
    Alike (dropLineComments r.inText u) (dropLineComments r.inFile (unixNewlines u)) := by
  fun_induction uncovers r u with
  | case1 t ih => exact ih h
  | case2 c t other ih =>
    rw [Bool.and_eq_false_iff, Bool.not_eq_false'] at h
    simp only [Region.inText, Region.inFile] at ih ⊢
    obtain ⟨rfl, ⟨u, rfl⟩, eq⟩ | ⟨rfl, feed, eq⟩ | ⟨ret, eq⟩ := unixNewlines_cons c t
    · have rest := ih (h.resolve_left (by decide))
      rw [eq, dropLineComments_cons (by decide)]
      exact .left (by decide) (pauses_cons.2 (by decide)) rest
    · rw [eq, dropLineComments_cons (by decide), dropLineComments_cons (by decide)]
      exact .blank (by decide) (by decide) (ih (h.resolve_left (by decide)))
    · rw [eq, dropLineComments, dropLineComments]
      · exact h.elim .stop fun rest => .same (ih rest)
      · exact unpaired_unixNewlines (by decide) other
      · exact other
  | case3 t ih => exact .same (ih h)
  | case4 t ih => exact .same (ih h)
  | case5 t pair ih =>
    -- the comment ends in the file and not in the text, where a pause follows at its end
    rw [unixNewlines_return fun feed => ?_]
    · exact .right (by decide) (pauses_dropLineComments t) (ih h)
    · obtain ⟨u, rfl⟩ := List.head?_eq_some_iff.1 feed
      exact pair u rfl
  | case6 c t feed pair ret ih =>
    simp only [Region.inText, Region.inFile] at ih ⊢
    rw [unixNewlines_other ret, dropLineComments, dropLineComments]
    · exact ih h
    · exact feed
    · exact feed
  | case7 t ih => exact .same (ih h)
  | case8 t ih => exact .same (ih h)
  | case9 t ih => exact ih h
  | case10 c t feed pair other ih =>
    obtain ⟨blank, rest⟩ := Bool.or_eq_false_iff.1 h
    rw [Bool.not_eq_false'] at blank
    simp only [Region.inText, Region.inFile] at ih ⊢
    have pause := pauses_dropLineComments t
    rw [dropLineComments]
    · obtain ⟨rfl, ⟨u, rfl⟩, -⟩ | ⟨rfl, -, eq⟩ | ⟨-, eq⟩ := unixNewlines_cons c t
      · exact (pair u rfl rfl).elim
      · rw [eq, dropLineComments_cons (by decide)]
        exact .right (by decide) pause (ih rest)
      · rw [eq, dropLineComments_cons (by rintro rfl; revert blank; decide)]
        exact .right blank pause (ih rest)
    · exact feed
  | case11 r => cases r <;> exact .nil

/-- Where nothing is uncovered, the spelling of the line ends does not matter to the package. -/
theorem declared_unixNewlines (h : uncovers .code (dropBlocks false t) = false) :
    declared (unixNewlines t) = declared t := by
  refine (declared_of_alike ?_).symm
  rw [bare, bare, dropBlocks_unixNewlines]
  exact alike_of_covered .code _ h

end Package

end JavaStudio
