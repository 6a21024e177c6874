import JavaStudio.Interactions.Launch
import JavaStudio.Proofs.Source.Header
import Mathlib.Data.List.TakeWhile

/-!
# Arguments of launch lines

A launch line is cut into words, and all words but the first go into string literals of a call. The
literals can be read back: a reader that knows the two escapes finds the words again, so what stands in
one of them never closes its literal.

* `words_eq_iff`: the words of a text are its runs of characters between blanks.
* `arguments?_eq_some_iff`: the reader takes a row of literals just if it is written for what it reads.
* `expand_recovers`: a launch line becomes a call that names the class and holds the arguments, and
  any other line stays as it is.
-/

namespace JavaStudio.Launch

open Text
open Package (Blanks)

/-! ## Words -/

/-- A text is a row of words: runs of characters that are not blank, with blanks between them. -/
inductive Words : Text → List Text → Prop
  | none {blanks : Text} : Blanks blanks → Words blanks []
  | more {blanks w rest : Text} {ws : List Text} : Blanks blanks → w ≠ [] →
      (∀ c ∈ w, isBlank c = false) → (∀ c ∈ rest.head?, isBlank c = true) → Words rest ws →
      Words (blanks ++ (w ++ rest)) (w :: ws)

section

variable {blanks w rest t : Text} {c : Char} {ws : List Text}

theorem words_blanks (h : Blanks blanks) (t : Text) : words (blanks ++ t) = words t := by
  induction blanks with
  | nil => rfl
  | cons c blanks ih =>
    rw [List.cons_append, words.eq_def]
    simp only [h c List.mem_cons_self, if_true]
    exact ih fun d hd => h d (List.mem_cons_of_mem _ hd)

theorem words_word (hw : w ≠ []) (filled : ∀ c ∈ w, isBlank c = false)
    (stop : ∀ c ∈ rest.head?, isBlank c = true) : words (w ++ rest) = w :: words rest := by
  induction w with
  | nil => exact absurd rfl hw
  | cons c w ih =>
    obtain ⟨hc, filled⟩ := List.forall_mem_cons.1 filled
    cases w with
    | nil =>
      rw [List.cons_append, List.nil_append, words.eq_def]
      cases rest with
      | nil =>
        simp only [hc, Bool.false_eq_true, if_false]
        rfl
      | cons d rest => simp only [hc, stop d rfl, Bool.false_eq_true, if_false, if_true]
    | cons d w =>
      have next := ih (by simp) filled
      rw [List.cons_append] at next
      rw [List.cons_append, List.cons_append, words.eq_def]
      simp only [hc, (List.forall_mem_cons.1 filled).1, next, if_false, Bool.false_eq_true]

theorem Words.words (h : Words t ws) : words t = ws := by
  induction h with
  | none hb =>
    have := words_blanks hb []
    rwa [List.append_nil] at this
  | more hb hw filled stop _ ih => rw [words_blanks hb, words_word hw filled stop, ih]

theorem Words.blank (hc : isBlank c = true) (h : Words t ws) : Words (c :: t) ws := by
  cases h with
  | none hb => exact .none (List.forall_mem_cons.2 ⟨hc, hb⟩)
  | @more blanks _ _ _ hb hw filled stop rest =>
    have longer : Blanks (c :: blanks) := List.forall_mem_cons.2 ⟨hc, hb⟩
    exact .more longer hw filled stop rest

theorem Words.word (hw : w ≠ []) (filled : ∀ c ∈ w, isBlank c = false)
    (stop : ∀ c ∈ t.head?, isBlank c = true) (h : Words t ws) : Words (w ++ t) (w :: ws) := by
  have none : Blanks [] := by simp [Blanks]
  exact .more none hw filled stop h

/-- A character that is not blank stands alone in front of a blank, and belongs to the first word
otherwise. -/
theorem Words.letter (hc : isBlank c = false) (h : Words t ws) : ∃ ws', Words (c :: t) ws' := by
  have alone : ∀ d ∈ [c], isBlank d = false := by simpa using hc
  cases h with
  | none hb =>
    have stop : ∀ d ∈ t.head?, isBlank d = true := fun d hd => hb d (List.mem_of_mem_head? hd)
    exact ⟨_, .word (by simp) alone stop (.none hb)⟩
  | @more blanks w rest ws hb hw filled stop after =>
    cases blanks with
    | nil => exact ⟨_, .word (w := c :: w) (by simp) (List.forall_mem_cons.2 ⟨hc, filled⟩) stop after⟩
    | cons b blanks =>
      have next : ∀ d ∈ (b :: blanks ++ (w ++ rest)).head?, isBlank d = true := by
        intro d hd
        cases hd
        exact hb b List.mem_cons_self
      exact ⟨_, .word (by simp) alone next (.more hb hw filled stop after)⟩

theorem exists_words (t : Text) : ∃ ws, Words t ws := by
  induction t with
  | nil => exact ⟨[], .none (by simp [Blanks])⟩
  | cons c t ih =>
    obtain ⟨ws, h⟩ := ih
    cases hc : isBlank c with
    | true => exact ⟨ws, h.blank hc⟩
    | false => exact h.letter hc

theorem words_eq_iff : Text.words t = ws ↔ Words t ws := by
  constructor
  · intro h
    obtain ⟨us, hus⟩ := exists_words t
    rwa [← h, hus.words]
  · exact Words.words

theorem Words.filled (h : Words t ws) : ∀ w ∈ ws, w ≠ [] ∧ ∀ c ∈ w, isBlank c = false := by
  induction h with
  | none => nofun
  | more _ hw filled _ _ ih => exact List.forall_mem_cons.2 ⟨⟨hw, filled⟩, ih⟩

end

/-! ## Launch lines -/

/-- A text launches a class with arguments: behind the keyword and blanks stand the words for both,
and there may be one semicolon more at the end. -/
inductive Launches (keyword : Text) : Text → Text → List Text → Prop
  | mk {blanks content stop className : Text} {arguments : List Text} : blanks ≠ [] → Blanks blanks →
      (stop = [';'] ∨ stop = [] ∧ content.getLast? ≠ some ';') →
      Words content (className :: arguments) →
      Launches keyword (keyword ++ (blanks ++ (content ++ stop))) className arguments

section

variable {keyword t body content stop className : Text} {arguments : List Text}

theorem dropSemicolon_append (hstop : stop = [';'] ∨ stop = [] ∧ content.getLast? ≠ some ';') :
    dropSemicolon (content ++ stop) = content := by
  rcases hstop with rfl | ⟨rfl, open_⟩
  · simp [dropSemicolon]
  · rw [List.append_nil, dropSemicolon, if_neg open_]

theorem exists_stop (body : Text) : ∃ stop, body = dropSemicolon body ++ stop ∧
    (stop = [';'] ∨ stop = [] ∧ (dropSemicolon body).getLast? ≠ some ';') := by
  unfold dropSemicolon
  split
  · rename_i h
    obtain ⟨content, rfl⟩ := List.getLast?_eq_some_iff.1 h
    exact ⟨[';'], by rw [List.dropLast_concat], .inl rfl⟩
  · rename_i h
    exact ⟨[], (List.append_nil body).symm, .inr ⟨rfl, h⟩⟩

theorem body?_eq_some (h : body? keyword t = some body) :
    ∃ blanks, blanks ≠ [] ∧ Blanks blanks ∧ t = keyword ++ (blanks ++ body) := by
  unfold body? at h
  split at h
  · rename_i c r hafter
    split at h
    · rename_i hc
      split at h
      · cases h
      · cases h
        refine ⟨c :: r.takeWhile isBlank, by simp, ?_, ?_⟩
        · exact List.forall_mem_cons.2 ⟨hc, fun d hd => List.mem_takeWhile_imp hd⟩
        · rw [List.cons_append, dropBlank, List.takeWhile_append_dropWhile]
          exact after?_eq_some_iff.1 hafter
    · cases h
  · cases h

/-- Blanks in front of the words belong to the blanks behind the keyword. -/
theorem Launches.words_body (h : Launches keyword t className arguments) :
    ∃ body, body? keyword t = some body ∧ words (dropSemicolon body) = className :: arguments := by
  cases h with
  | @mk blanks content stop _ _ hblanks hb hstop spelled =>
    obtain ⟨c, blanks, rfl⟩ := List.exists_cons_of_ne_nil hblanks
    obtain ⟨hc, hb⟩ := List.forall_mem_cons.1 hb
    cases spelled with
    | @more front _ rest _ hfront hw filled stopped after =>
      obtain ⟨d, w, rfl⟩ := List.exists_cons_of_ne_nil hw
      have hd : isBlank d = false := filled d List.mem_cons_self
      refine ⟨d :: w ++ rest ++ stop, ?_, ?_⟩
      · have trimmed : dropBlank (blanks ++ (front ++ (d :: w ++ rest) ++ stop)) =
            d :: (w ++ rest ++ stop) := by
          rw [Blanks.dropBlank hb, List.append_assoc, hfront.dropBlank]
          exact Package.dropBlank_cons hd _
        rw [body?, after?_eq_some_iff.2 rfl, List.cons_append]
        simp only [hc, if_true, trimmed]
        rfl
      · have hstop' : stop = [';'] ∨ stop = [] ∧ (d :: w ++ rest).getLast? ≠ some ';' := by
          simpa [List.getLast?_append] using hstop
        rw [dropSemicolon_append hstop', words_word hw filled stopped, after.words]

theorem launches_of_body (hbody : body? keyword t = some body)
    (hwords : words (dropSemicolon body) = className :: arguments) :
    Launches keyword t className arguments := by
  obtain ⟨blanks, hblanks, hb, rfl⟩ := body?_eq_some hbody
  obtain ⟨stop, whole, hstop⟩ := exists_stop body
  rw [whole]
  exact .mk hblanks hb hstop (words_eq_iff.1 hwords)

theorem Launches.expand (h : Launches keyword t className arguments) :
    expand keyword t = mainCall className arguments := by
  obtain ⟨body, hbody, hwords⟩ := h.words_body
  simp only [Launch.expand, hbody, hwords]

theorem Launches.filled (h : Launches keyword t className arguments) :
    ∀ c ∈ className, isBlank c = false := by
  cases h with
  | mk _ _ _ spelled => exact (spelled.filled _ List.mem_cons_self).2

theorem expand_other (h : ∀ className arguments, ¬ Launches keyword t className arguments) :
    expand keyword t = t := by
  unfold expand
  split
  · rfl
  · rename_i body hbody
    split
    · rfl
    · rename_i className arguments hwords
      exact absurd (launches_of_body hbody hwords) (h className arguments)

end

/-! ## Reading a row of literals -/

/-- The character in front of the first value. -/
def push (c : Char) : List Text → List Text
  | [] => []
  | v :: vs => (c :: v) :: vs

/-- The values of a row of literals behind the quote that opens its first one. A backslash stands
for the quote or backslash that follows it. -/
def values? : Text → Option (List Text)
  | ['"'] => some [[]]
  | '"' :: ',' :: '"' :: t => (values? t).map ([] :: ·)
  | '\\' :: '\\' :: t => (values? t).map (push '\\')
  | '\\' :: '"' :: t => (values? t).map (push '"')
  | c :: t => if c = '"' ∨ c = '\\' then none else (values? t).map (push c)
  | [] => none

/-- The values of a row of literals with commas between them; there may be none at all. -/
def arguments? : Text → Option (List Text)
  | [] => some []
  | '"' :: t => values? t
  | _ => none

/-- What a row of literals is behind the quote that opens its first one. -/
def values (v : Text) : List Text → Text
  | [] => v.flatMap literalChar ++ ['"']
  | u :: us => v.flatMap literalChar ++ '"' :: ',' :: '"' :: values u us

section

variable {c : Char} {u v t : Text} {us vs : List Text}

theorem join_literal (v : Text) (vs : List Text) :
    join [','] ((v :: vs).map literal) = '"' :: values v vs := by
  induction vs generalizing v with
  | nil => simp [join, literal, values]
  | cons u us ih =>
    rw [List.map_cons, List.map_cons, join, ← List.map_cons, ih, values]
    simp [literal]

theorem values_cons (c : Char) (v : Text) (vs : List Text) :
    values (c :: v) vs = literalChar c ++ values v vs := by
  cases vs <;> simp [values]

theorem values?_letter (hq : c ≠ '"') (hb : c ≠ '\\') (t : Text) :
    values? (c :: t) = (values? t).map (push c) := by
  rw [values?, if_neg (not_or.2 ⟨hq, hb⟩)]
  -- no other pattern begins with the character
  · exact fun h => absurd h hq
  · exact fun _ h => absurd h hq
  · exact fun _ h => absurd h hb
  · exact fun _ h => absurd h hb

theorem values?_literalChar (c : Char) (t : Text) :
    values? (literalChar c ++ t) = (values? t).map (push c) := by
  unfold literalChar
  split
  · rename_i h
    rw [h]
    rfl
  · rename_i hb
    split
    · rename_i h
      rw [h]
      rfl
    · rename_i hq
      exact values?_letter hq hb t

theorem values?_of_empty (h : values? (values [] vs) = some ([] :: vs)) (v : Text) :
    values? (values v vs) = some (v :: vs) := by
  induction v with
  | nil => exact h
  | cons c v ih => rw [values_cons, values?_literalChar, ih, Option.map_some, push]

theorem values?_values (v : Text) (vs : List Text) : values? (values v vs) = some (v :: vs) := by
  induction vs generalizing v with
  | nil => exact values?_of_empty rfl v
  | cons u us next =>
    have read : values? (values [] (u :: us)) = (values? (values u us)).map ([] :: ·) := rfl
    rw [next] at read
    exact values?_of_empty read v

theorem values_push (h : (values? t).map (push c) = some vs)
    (ih : ∀ us, values? t = some us → ∃ v ws, us = v :: ws ∧ t = values v ws) :
    ∃ v ws, vs = v :: ws ∧ literalChar c ++ t = values v ws := by
  obtain ⟨us, hus, rfl⟩ := Option.map_eq_some_iff.1 h
  obtain ⟨v, ws, rfl, rfl⟩ := ih us hus
  exact ⟨c :: v, ws, rfl, (values_cons c v ws).symm⟩

theorem values_of_values? (h : values? t = some vs) : ∃ v us, vs = v :: us ∧ t = values v us := by
  induction t using values?.induct generalizing vs with
  | case1 =>
    cases h
    exact ⟨[], [], rfl, rfl⟩
  | case2 t ih =>
    obtain ⟨us, hus, rfl⟩ := Option.map_eq_some_iff.1 h
    obtain ⟨v, us, rfl, rfl⟩ := ih hus
    exact ⟨[], v :: us, rfl, rfl⟩
  | case3 t ih => exact values_push h fun us => ih
  | case4 t ih => exact values_push h fun us => ih
  | case5 c t alone comma backslash quote hc =>
    rw [values?, if_pos hc] at h
    · cases h
    · exact alone
    · exact comma
    · exact backslash
    · exact quote
  | case6 c t _ _ _ _ hc ih =>
    obtain ⟨hq, hb⟩ := not_or.1 hc
    rw [values?_letter hq hb] at h
    have := values_push h fun us => ih
    rwa [literalChar, if_neg hb, if_neg hq] at this
  | case7 => cases h

/-- The reader takes a row of literals just if it is written for the values that it reads. -/
theorem arguments?_eq_some_iff : arguments? t = some vs ↔ t = join [','] (vs.map literal) := by
  constructor
  · intro h
    unfold arguments? at h
    split at h
    · cases h
      rfl
    · obtain ⟨v, us, rfl, rfl⟩ := values_of_values? h
      exact (join_literal v us).symm
    · cases h
  · rintro rfl
    cases vs with
    | nil => rfl
    | cons v us =>
      rw [join_literal, arguments?]
      exact values?_values v us

end

/-! ## Calls -/

section

variable {className className' row row' : Text}

/-- What stands between the name of the class and the row of its arguments. -/
def opening : Text := ofString ".main(new String[]\x7b"

/-- What stands behind the row of arguments. -/
def closing : Text := ofString "\x7d);"

theorem mainCall_eq (className : Text) (arguments : List Text) :
    mainCall className arguments =
      className ++ opening ++ join [','] (arguments.map literal) ++ closing := rfl

/-- A name without blanks can be read off a call: the first blank of the opening comes behind it. -/
theorem call_inj (h : ∀ c ∈ className, isBlank c = false) (h' : ∀ c ∈ className', isBlank c = false)
    (same : className ++ opening ++ row ++ closing = className' ++ opening ++ row' ++ closing) :
    className = className' ∧ row = row' := by
  have head : ∀ (w r : Text), (∀ c ∈ w, isBlank c = false) →
      (w ++ opening ++ r ++ closing).takeWhile (fun c => !isBlank c) = w ++ ofString ".main(new" := by
    intro w r hw
    rw [List.append_assoc, List.append_assoc, List.takeWhile_append_of_pos (by simpa using hw)]
    rfl
  have names := congrArg (List.takeWhile fun c => !isBlank c) same
  rw [head className row h, head className' row' h'] at names
  obtain rfl := List.append_cancel_right names
  refine ⟨rfl, List.append_cancel_left (List.append_cancel_right same)⟩

end

/-- A text that launches a class becomes the call of its main method with a row of literals from which
its arguments can be read back, and any other text stays as it is. Launches of other classes or with
other arguments become other calls, also under another keyword. -/
theorem expand_recovers (keyword t : Text) :
    (∀ className arguments, Launches keyword t className arguments →
      ∃ row, expand keyword t = className ++ opening ++ row ++ closing ∧
        arguments? row = some arguments) ∧
    ((∀ className arguments, ¬ Launches keyword t className arguments) → expand keyword t = t) ∧
    ∀ keyword' t' className className' arguments arguments',
      Launches keyword t className arguments → Launches keyword' t' className' arguments' →
      expand keyword t = expand keyword' t' → className = className' ∧ arguments = arguments' := by
  refine ⟨fun className arguments h => ?_, expand_other, ?_⟩
  · exact ⟨_, h.expand, arguments?_eq_some_iff.2 rfl⟩
  · intro keyword' t' className className' arguments arguments' h h' same
    rw [h.expand, h'.expand, mainCall_eq, mainCall_eq] at same
    obtain ⟨rfl, rows⟩ := call_inj h.filled h'.filled same
    -- both rows are read as the same arguments
    have read := arguments?_eq_some_iff.2 rows
    rw [arguments?_eq_some_iff.2 rfl] at read
    exact ⟨rfl, Option.some.inj read⟩

theorem expand_recovers_quotes :
    Launches (ofString "java") (ofString "java  Foo \"a\\\",b\\ c;") (ofString "Foo")
        [ofString "\"a\\\",b\\", ofString "c"] ∧
      ∃ row, expand (ofString "java") (ofString "java  Foo \"a\\\",b\\ c;") =
          ofString "Foo" ++ opening ++ row ++ closing ∧
        arguments? row = some [ofString "\"a\\\",b\\", ofString "c"] := by
  have line : Launches (ofString "java") (ofString "java  Foo \"a\\\",b\\ c;") (ofString "Foo")
      [ofString "\"a\\\",b\\", ofString "c"] := by
    have body : body? (ofString "java") (ofString "java  Foo \"a\\\",b\\ c;") =
        some (ofString "Foo \"a\\\",b\\ c;") := by decide
    exact launches_of_body body (by decide)
  exact ⟨line, (expand_recovers _ _).1 _ _ line⟩

end JavaStudio.Launch
