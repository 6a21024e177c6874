import JavaStudio.Source.Package

/-!
# Headers of source texts

A header is what may stand before the package statement of a text: white space, line comments and
block comments, read from left to right. `declared` does not read from left to right. It takes all
block comments out of the text before it looks for line comments, so an opening of a block comment
inside a line comment counts.

* `bare_header`: a header whose line comments hold no opening leaves nothing but blanks.
* `declared_after_header`: behind such a header the declared name is found, and none is found where
  another token stands in its place.
* `declared_astray`: an opening inside a line comment can hide the statement, and an identifier that
  goes on with a dollar sign after the letters of the keyword is taken for the keyword.
-/

namespace JavaStudio.Package

open Text

/-! ## Blanks and identifiers -/

/-- The code points of the blank characters. -/
def blankCodes : List Nat :=
  [9, 10, 11, 12, 13, 28, 29, 30, 31, 32, 0x85, 0xA0, 0x1680, 0x2000, 0x2001, 0x2002, 0x2003, 0x2004,
    0x2005, 0x2006, 0x2007, 0x2008, 0x2009, 0x200A, 0x2028, 0x2029, 0x202F, 0x205F, 0x3000]

theorem mem_blankCodes {c : Char} (h : isBlank c = true) : c.toNat ∈ blankCodes := by
  simp only [isBlank, Bool.or_eq_true, Bool.and_eq_true, decide_eq_true_eq, beq_iff_eq] at h
  simp only [blankCodes, List.mem_cons, List.not_mem_nil, or_false]
  omega

theorem isWord_of_isBlank {c : Char} (h : isBlank c = true) : isWord c = false := by
  have apart : ∀ n ∈ blankCodes, isWord (Char.ofNat n) = false := by decide +kernel
  have hc := apart _ (mem_blankCodes h)
  rwa [Char.ofNat_toNat] at hc

theorem isIdentPart_of_isBlank {c : Char} (h : isBlank c = true) : isIdentPart c = false := by
  have hd : c ≠ '$' := by rintro rfl; revert h; decide
  simp [isIdentPart, isWord_of_isBlank h, hd]

theorem isIdentPart_of_isIdentStart {c : Char} (h : isIdentStart c = true) :
    isIdentPart c = true := by
  simp only [isIdentStart, Bool.or_eq_true, beq_iff_eq] at h
  rcases h with (h | rfl) | rfl
  · simp [isIdentPart, isWord, h]
  · decide
  · decide

theorem isBlank_of_isIdentPart {c : Char} (h : isIdentPart c = true) : isBlank c = false := by
  cases hb : isBlank c with
  | false => rfl
  | true => rw [isIdentPart_of_isBlank hb] at h; cases h

/-- Nothing but blanks. -/
def Blanks (w : Text) : Prop := ∀ c ∈ w, isBlank c = true

theorem Blanks.dropBlank {w : Text} (hw : Blanks w) (t : Text) :
    dropBlank (w ++ t) = Text.dropBlank t :=
  List.dropWhile_append_of_pos hw

theorem dropBlank_cons {c : Char} (h : isBlank c = false) (t : Text) :
    dropBlank (c :: t) = c :: t := by
  simp [dropBlank, h]

/-- A name without dots. -/
inductive Identifier : Text → Prop
  | mk {c : Char} {t : Text} : isIdentStart c = true → (∀ d ∈ t, isIdentPart d = true) →
      Identifier (c :: t)

theorem Identifier.part {x : Text} (h : Identifier x) : ∀ c ∈ x, isIdentPart c = true := by
  cases h with
  | mk start parts =>
    intro c hc
    rcases List.mem_cons.1 hc with rfl | hc
    · exact isIdentPart_of_isIdentStart start
    · exact parts c hc

theorem Identifier.dropBlank {x : Text} (h : Identifier x) (t : Text) :
    dropBlank (x ++ t) = x ++ t := by
  cases h with
  | mk start _ => exact dropBlank_cons (isBlank_of_isIdentPart (isIdentPart_of_isIdentStart start)) _

theorem Identifier.length_pos {x : Text} (h : Identifier x) : 0 < x.length := by
  cases h
  simp

theorem Identifier.read {x : Text} (h : Identifier x) {c : Char} (hc : isIdentPart c = false)
    (t : Text) : identifier? (x ++ c :: t) = some (x, c :: t) := by
  cases h with
  | mk start parts =>
    rw [List.cons_append, identifier?, if_pos start, List.takeWhile_append_of_pos parts,
      List.dropWhile_append_of_pos parts]
    simp [hc]

/-! ## Statements -/

/-- The spelling of a dotted name up to its semicolon: there may be blanks around the dots and in
front of the semicolon. -/
inductive Spells : (name spelling : Text) → Prop
  | last {x w : Text} : Identifier x → Blanks w → Spells x (x ++ (w ++ [';']))
  | dot {x w v name spelling : Text} : Identifier x → Blanks w → Blanks v → Spells name spelling →
      Spells (x ++ '.' :: name) (x ++ (w ++ '.' :: (v ++ spelling)))

inductive Declares : (name statement : Text) → Prop
  | mk {c : Char} {w name spelling : Text} : isBlank c = true → Blanks w → Spells name spelling →
      Declares name (keyword ++ c :: (w ++ spelling))

theorem Spells.dropBlank {name spelling : Text} (h : Spells name spelling) (t : Text) :
    dropBlank (spelling ++ t) = spelling ++ t := by
  cases h with
  | last hx _ => rw [List.append_assoc]; exact hx.dropBlank _
  | dot hx _ _ _ => rw [List.append_assoc]; exact hx.dropBlank _

/-- Blanks and a character that belongs to no identifier end an identifier. -/
theorem Identifier.read_blanks {x w : Text} (hx : Identifier x) (hw : Blanks w) {c : Char}
    (hc : isIdentPart c = false) (t : Text) :
    identifier? (x ++ (w ++ c :: t)) = some (x, w ++ c :: t) := by
  cases w with
  | nil => exact hx.read hc t
  | cons b w => exact hx.read (isIdentPart_of_isBlank (hw b List.mem_cons_self)) _

/-- What is read of a dotted name, one identifier first and then the rest. -/
theorem Spells.read {name spelling : Text} (h : Spells name spelling) (t : Text) :
    ∃ x rest after, identifier? (spelling ++ t) = some (x, after) ∧ name = x ++ rest ∧
      after.length < (spelling ++ t).length ∧
      ∀ steps, after.length < steps → dottedRest steps after = some rest := by
  induction h with
  | @last x w hx hw =>
    have hsplit : x ++ (w ++ [';']) ++ t = x ++ (w ++ ';' :: t) := by simp
    have hend : Text.dropBlank (w ++ ';' :: t) = ';' :: t := by
      rw [hw.dropBlank, dropBlank_cons (by decide)]
    rw [hsplit]
    refine ⟨x, [], _, hx.read_blanks hw (by decide) t, (List.append_nil x).symm, ?_, ?_⟩
    · have := hx.length_pos
      simp only [List.length_append]
      omega
    · intro steps hlen
      obtain ⟨n, rfl⟩ : ∃ n, steps = n + 1 := ⟨steps - 1, by omega⟩
      rw [dottedRest, hend]
      rfl
  | @dot x w v name spelling hx hw hv hs ih =>
    obtain ⟨y, rest, after, hread, rfl, hlt, hrest⟩ := ih
    have hsplit : x ++ (w ++ '.' :: (v ++ spelling)) ++ t =
        x ++ (w ++ '.' :: (v ++ (spelling ++ t))) := by simp
    have hdot : Text.dropBlank (w ++ '.' :: (v ++ (spelling ++ t))) =
        '.' :: (v ++ (spelling ++ t)) := by
      rw [hw.dropBlank, dropBlank_cons (by decide)]
    have hname : Text.dropBlank (v ++ (spelling ++ t)) = spelling ++ t := by
      rw [hv.dropBlank, hs.dropBlank]
    rw [hsplit]
    refine ⟨x, '.' :: (y ++ rest), _, hx.read_blanks hw (by decide) _, rfl, ?_, ?_⟩
    · have := hx.length_pos
      simp only [List.length_append]
      omega
    · intro steps hlen
      obtain ⟨n, rfl⟩ : ∃ n, steps = n + 1 := ⟨steps - 1, by omega⟩
      simp only [List.length_append, List.length_cons] at hlen hlt
      rw [dottedRest, hdot]
      simp only [hname, hread, hrest n (by omega), Option.map_some, List.cons_append]

theorem Spells.dotted {name spelling : Text} (h : Spells name spelling) (t : Text) :
    dotted? (spelling ++ t) = some name := by
  obtain ⟨x, rest, after, hread, rfl, -, hrest⟩ := h.read t
  rw [dotted?, hread]
  simp only [hrest _ (Nat.lt_succ_self _), Option.map_some]

/-- Behind blanks a statement is found. -/
theorem Declares.statement {name statement : Text} (h : Declares name statement) {w : Text}
    (hw : Blanks w) (t : Text) : statement? (w ++ (statement ++ t)) = some name := by
  cases h with
  | @mk c v _ spelling hc hv hs =>
    have hkey : Text.dropBlank (w ++ (keyword ++ c :: (v ++ spelling) ++ t)) =
        keyword ++ c :: (v ++ (spelling ++ t)) := by
      rw [hw.dropBlank, List.append_assoc]
      simp only [List.cons_append, List.append_assoc]
      exact dropBlank_cons (by decide) _
    rw [statement?, hkey, after?_eq_some_iff.2 rfl]
    simp only [hc, if_true, hv.dropBlank, hs.dropBlank, hs.dotted]

/-! ## What the passes leave -/

section

variable {c : Char} {p body h t : Text}

theorem dropBlocks_cons (hc : c ≠ '/') (t : Text) :
    dropBlocks false (c :: t) = c :: dropBlocks false t := by
  rw [dropBlocks]
  rintro _ rfl
  exact absurd rfl hc

theorem dropLineComments_cons (hc : c ≠ '/') (t : Text) :
    dropLineComments false (c :: t) = c :: dropLineComments false t := by
  rw [dropLineComments]
  rintro _ rfl
  exact absurd rfl hc

theorem bare_cons (hc : c ≠ '/') (t : Text) : bare (c :: t) = c :: bare t := by
  rw [bare, dropBlocks_cons hc, dropLineComments_cons hc, bare]

theorem bare_append (hp : '/' ∉ p) (t : Text) : bare (p ++ t) = p ++ bare t := by
  induction p with
  | nil => rfl
  | cons c p ih =>
    rw [List.mem_cons, not_or] at hp
    rw [List.cons_append, bare_cons (Ne.symm hp.1), ih hp.2, List.cons_append]

theorem dropBlocks_slash (ht : t.head? ≠ some '*') :
    dropBlocks false ('/' :: t) = '/' :: dropBlocks false t := by
  rw [dropBlocks]
  rintro _ - rfl
  exact ht rfl

/-- A line without an opening is left as it is. -/
theorem dropBlocks_unopened (hp : ¬ ['/', '*'] <:+: p) (t : Text) :
    dropBlocks false (p ++ '\n' :: t) = p ++ '\n' :: dropBlocks false t := by
  induction p with
  | nil => exact dropBlocks_cons (by decide) t
  | cons c p ih =>
    have hrest : ¬ ['/', '*'] <:+: p := fun h => hp (h.trans (List.suffix_cons c p).isInfix)
    rw [List.cons_append, List.cons_append, ← ih hrest]
    by_cases hc : c = '/'
    · subst hc
      -- at the end of the line a slash is followed by the line feed
      refine dropBlocks_slash fun hd => ?_
      cases p with
      | nil => cases hd
      | cons d p =>
        cases hd
        exact hp ⟨[], p, rfl⟩
    · exact dropBlocks_cons hc _

theorem dropLineComments_line (hbody : '\n' ∉ body) (t : Text) :
    dropLineComments true (body ++ '\n' :: t) = '\n' :: dropLineComments false t := by
  induction body with
  | nil => rfl
  | cons c body ih =>
    rw [List.mem_cons, not_or] at hbody
    rw [List.cons_append, dropLineComments, ih hbody.2]
    rintro rfl
    exact absurd rfl hbody.1

theorem bare_line (hbody : '\n' ∉ body) (hopen : ¬ ['/', '*'] <:+: '/' :: '/' :: body) (t : Text) :
    bare ('/' :: '/' :: body ++ '\n' :: t) = '\n' :: bare t := by
  rw [bare, dropBlocks_unopened hopen]
  exact dropLineComments_line hbody _

theorem closes_append (body t : Text) : closes (body ++ '*' :: '/' :: t) = true := by
  induction body with
  | nil => rfl
  | cons c body ih =>
    rw [List.cons_append, closes.eq_def]
    split
    · rfl
    · rename_i heq
      cases heq
      exact ih
    · rename_i heq
      cases heq

theorem dropBlocks_block (hbody : ¬ ['*', '/'] <:+: body) (t : Text) :
    dropBlocks true (body ++ '*' :: '/' :: t) = dropBlocks false t := by
  induction body with
  | nil => rfl
  | cons c body ih =>
    have hrest : ¬ ['*', '/'] <:+: body := fun h => hbody (h.trans (List.suffix_cons c body).isInfix)
    rw [List.cons_append, dropBlocks, ih hrest]
    -- a star at the end of the body is followed by the star of the close
    rintro u rfl hu
    cases body with
    | nil => cases hu
    | cons d body =>
      obtain rfl : d = '/' := by simpa using (List.cons.inj hu).1
      exact hbody ⟨[], body, rfl⟩

theorem bare_block (hbody : ¬ ['*', '/'] <:+: body) (t : Text) :
    bare ('/' :: '*' :: body ++ '*' :: '/' :: t) = ' ' :: bare t := by
  have hblock : dropBlocks false ('/' :: '*' :: body ++ '*' :: '/' :: t) =
      ' ' :: dropBlocks false t := by
    simp only [List.cons_append, dropBlocks, closes_append, if_true, dropBlocks_block hbody]
  rw [bare, hblock, dropLineComments_cons (by decide), bare]

end

/-! ## Headers -/

/-- White space and comments from left to right. A line comment goes on up to the first line feed, a
block comment up to the first close. What a line comment holds with its slashes is left to `held`. -/
inductive Header (held : Text → Prop) : Text → Prop
  | nil : Header held []
  | blank {c : Char} {h : Text} : isBlank c = true → Header held h → Header held (c :: h)
  | line {body h : Text} : '\n' ∉ body → held ('/' :: '/' :: body) → Header held h →
      Header held ('/' :: '/' :: body ++ '\n' :: h)
  | block {body h : Text} : ¬ ['*', '/'] <:+: body → Header held h →
      Header held ('/' :: '*' :: body ++ '*' :: '/' :: h)

/-- A line comment holds no opening of a block comment, its own slashes included. -/
def Unopened (line : Text) : Prop := ¬ ['/', '*'] <:+: line

/-- A header without openings in its line comments leaves blanks. -/
theorem bare_header {h : Text} (header : Header Unopened h) :
    ∃ w, Blanks w ∧ ∀ t, bare (h ++ t) = w ++ bare t := by
  induction header with
  | nil => exact ⟨[], nofun, fun t => rfl⟩
  | @blank c h hc _ ih =>
    obtain ⟨w, hw, hbare⟩ := ih
    have hslash : c ≠ '/' := by rintro rfl; revert hc; decide
    refine ⟨c :: w, List.forall_mem_cons.2 ⟨hc, hw⟩, fun t => ?_⟩
    rw [List.cons_append, bare_cons hslash, hbare, List.cons_append]
  | @line body h hbody hopen _ ih =>
    obtain ⟨w, hw, hbare⟩ := ih
    refine ⟨'\n' :: w, List.forall_mem_cons.2 ⟨by decide, hw⟩, fun t => ?_⟩
    have hsplit : '/' :: '/' :: body ++ '\n' :: h ++ t = '/' :: '/' :: body ++ '\n' :: (h ++ t) := by
      simp
    rw [hsplit, bare_line hbody hopen, hbare, List.cons_append]
  | @block body h hbody _ ih =>
    obtain ⟨w, hw, hbare⟩ := ih
    refine ⟨' ' :: w, List.forall_mem_cons.2 ⟨by decide, hw⟩, fun t => ?_⟩
    have hsplit : '/' :: '*' :: body ++ '*' :: '/' :: h ++ t =
        '/' :: '*' :: body ++ '*' :: '/' :: (h ++ t) := by simp
    rw [hsplit, bare_block hbody, hbare, List.cons_append]

/-! ## Other tokens -/

/-- What may follow a header where no package is declared: the end of the text, a last line that is a
comment, or a token that does not begin with the keyword, unless it goes on with a word character. -/
inductive Undeclared : Text → Prop
  | nothing : Undeclared []
  | comment {body : Text} : '\n' ∉ body → Undeclared ('/' :: '/' :: body)
  | token {c : Char} {t : Text} : isBlank c = false → ¬ ['/', '/'] <+: c :: t →
      ¬ ['/', '*'] <+: c :: t → (∀ u, c :: t = keyword ++ u → ∃ d v, u = d :: v ∧ isWord d = true) →
      Undeclared (c :: t)

/-- Text that is left where no package is declared. -/
inductive Silent : Text → Prop
  | nil : Silent []
  | cons {c : Char} {t : Text} : isBlank c = false →
      (∀ u, c :: t = keyword ++ u → ∃ d v, u = d :: v ∧ isWord d = true) → Silent (c :: t)

theorem Silent.of_slash (t : Text) : Silent ('/' :: t) := by
  refine .cons (by decide) fun u hu => ?_
  cases hu

theorem Silent.declared {w t : Text} (hw : Blanks w) (ht : Silent t) :
    statement? (w ++ t) = none ∧ afterKeyword? (w ++ t) = none := by
  rw [statement?, afterKeyword?, hw.dropBlank]
  cases ht with
  | nil => exact ⟨rfl, rfl⟩
  | @cons c t hc hkey =>
    rw [dropBlank_cons hc]
    cases hafter : after? keyword (c :: t) with
    | none => exact ⟨rfl, rfl⟩
    | some u =>
      obtain ⟨d, v, rfl, hd⟩ := hkey u (after?_eq_some_iff.1 hafter)
      have hblank : isBlank d = false := isBlank_of_isIdentPart (by simp [isIdentPart, hd])
      simp [hblank, hd]

/-- What the second pass leaves of the rest of a line comment begins with its line feed, if there is
one. -/
theorem head_dropLineComments (t : Text) : (dropLineComments true t).head? ∈ [none, some '\n'] := by
  induction t with
  | nil => decide
  | cons c t ih =>
    by_cases hc : c = '\n'
    · subst hc
      simp [dropLineComments]
    · rwa [dropLineComments]
      intro hn
      exact absurd hn hc

theorem dropLineComments_slash {t : Text} (ht : t.head? ≠ some '/') :
    dropLineComments false ('/' :: t) = '/' :: dropLineComments false t := by
  rw [dropLineComments]
  rintro _ - rfl
  exact ht rfl

/-- Where a slash stands, what is left begins with it or with what replaces a comment. -/
theorem head_bare_slash (t : Text) :
    (bare ('/' :: t)).head? ∈ [none, some '\n', some ' ', some '/'] := by
  obtain ⟨c, u, hblocks, hc⟩ :
      ∃ c u, dropBlocks false ('/' :: t) = c :: u ∧ (c = ' ' ∨ c = '/') := by
    rw [dropBlocks.eq_def]
    split
    · split
      · exact ⟨_, _, rfl, .inl rfl⟩
      · exact ⟨_, _, rfl, .inr rfl⟩
    · rename_i heq
      cases heq
      exact ⟨_, _, rfl, .inr rfl⟩
    all_goals simp_all
  rw [bare, hblocks]
  rcases hc with rfl | rfl
  · rw [dropLineComments_cons (by decide)]
    simp
  · by_cases hu : u.head? = some '/'
    · obtain ⟨u, rfl⟩ := List.head?_eq_some_iff.1 hu
      rw [dropLineComments]
      have := head_dropLineComments u
      simp only [List.mem_cons, List.not_mem_nil, or_false] at this ⊢
      exact this.imp_right .inl
    · rw [dropLineComments_slash hu]
      simp

theorem keyword_plain : ∀ c ∈ keyword, c ≠ '\n' ∧ c ≠ ' ' ∧ c ≠ '/' := by
  have all : (keyword.all fun c => c ≠ '\n' ∧ c ≠ ' ' ∧ c ≠ '/') = true := by decide
  exact fun c hc => of_decide_eq_true (List.all_eq_true.1 all c hc)

/-- What is left without blanks and slashes at its head stood there before. -/
theorem of_bare_append {p : Text} (hp : ∀ c ∈ p, c ≠ '\n' ∧ c ≠ ' ' ∧ c ≠ '/') {t u : Text}
    (h : bare t = p ++ u) : ∃ v, t = p ++ v ∧ bare v = u := by
  induction p generalizing t with
  | nil => exact ⟨t, rfl, h⟩
  | cons c p ih =>
    obtain ⟨hc, hrest⟩ := List.forall_mem_cons.1 hp
    cases t with
    | nil => cases h
    | cons d t =>
      by_cases hd : d = '/'
      · subst hd
        have := head_bare_slash t
        rw [h] at this
        simp [hc] at this
      · rw [bare_cons hd, List.cons_append] at h
        obtain ⟨rfl, htail⟩ := List.cons.inj h
        obtain ⟨v, rfl, hv⟩ := ih hrest htail
        exact ⟨v, rfl, hv⟩

theorem dropBlocks_on_line (inside : Bool) {t : Text} (ht : '\n' ∉ t) :
    '\n' ∉ dropBlocks inside t := by
  fun_induction dropBlocks inside t <;> simp_all

theorem dropLineComments_on_line {t : Text} (ht : '\n' ∉ t) : dropLineComments true t = [] := by
  induction t with
  | nil => rfl
  | cons c t ih =>
    rw [List.mem_cons, not_or] at ht
    rw [dropLineComments, ih ht.2]
    rintro rfl
    exact absurd rfl ht.1

/-- Other tokens are left as they are, as far as it matters. -/
theorem Undeclared.silent {t : Text} (h : Undeclared t) : Silent (bare t) := by
  cases h with
  | nothing => exact .nil
  | @comment body hbody =>
    have hline : '\n' ∉ '/' :: body := by simp [hbody]
    rw [bare, dropBlocks_slash (by simp)]
    by_cases hu : (dropBlocks false ('/' :: body)).head? = some '/'
    · obtain ⟨u, hu⟩ := List.head?_eq_some_iff.1 hu
      have hfree := dropBlocks_on_line false hline
      rw [hu, List.mem_cons, not_or] at hfree
      rw [hu, dropLineComments, dropLineComments_on_line hfree.2]
      exact .nil
    · rw [dropLineComments_slash hu]
      exact .of_slash _
  | @token c t hc hline hblock hkey =>
    by_cases hslash : c = '/'
    · subst hslash
      have hstar : t.head? ≠ some '*' := fun ht => by
        obtain ⟨u, rfl⟩ := List.head?_eq_some_iff.1 ht
        exact hblock ⟨u, rfl⟩
      have hnext : (dropBlocks false t).head? ≠ some '/' := by
        cases t with
        | nil => simp [dropBlocks]
        | cons d t =>
          have hd : d ≠ '/' := by
            rintro rfl
            exact hline ⟨t, rfl⟩
          simpa [dropBlocks_cons hd] using hd
      rw [bare, dropBlocks_slash hstar, dropLineComments_slash hnext]
      exact .of_slash _
    · rw [bare_cons hslash]
      refine .cons hc fun u hu => ?_
      rw [← bare_cons hslash] at hu
      obtain ⟨v, hv, rfl⟩ := of_bare_append keyword_plain hu
      obtain ⟨d, v, rfl, hd⟩ := hkey v hv
      refine ⟨d, bare v, bare_cons ?_ v, hd⟩
      rintro rfl
      revert hd
      decide

/-! ## The declared name -/

theorem Identifier.no_slash {x : Text} (h : Identifier x) : '/' ∉ x := fun hx => by
  have := h.part _ hx
  revert this
  decide

theorem Blanks.no_slash {w : Text} (h : Blanks w) : '/' ∉ w := fun hw => by
  have := h _ hw
  revert this
  decide

theorem Spells.no_slash {name spelling : Text} (h : Spells name spelling) : '/' ∉ spelling := by
  induction h with
  | last hx hw => simp [hx.no_slash, hw.no_slash]
  | dot hx hw hv _ ih => simp [hx.no_slash, hw.no_slash, hv.no_slash, ih]

theorem Declares.no_slash {name statement : Text} (h : Declares name statement) :
    '/' ∉ statement := by
  cases h with
  | @mk c w _ spelling hc hw hs =>
    have hslash : '/' ≠ c := by rintro rfl; revert hc; decide
    have hkey : '/' ∉ keyword := by decide
    simp [hkey, hslash, hw.no_slash, hs.no_slash]

/-- Behind a header without openings in its line comments the declared name is found, whatever comes
after the statement; and none is found where there is no package statement. -/
theorem declared_after_header {h : Text} (header : Header Unopened h) :
    (∀ name statement rest, Declares name statement →
      declared (h ++ (statement ++ rest)) = .ok name) ∧
    ∀ t, Undeclared t → declared (h ++ t) = .ok [] := by
  obtain ⟨w, hw, hbare⟩ := bare_header header
  constructor
  · intro name statement rest hd
    rw [declared, hbare, bare_append hd.no_slash]
    simp only [hd.statement hw]
  · intro t ht
    obtain ⟨hstatement, hafter⟩ := ht.silent.declared hw
    rw [declared, hbare]
    simp only [hstatement, hafter]
    rfl

/-- Comments that hold each other's delimiters, a name with blanks around its dot, an opening in the
rest, and a word that goes on behind the letters of the keyword. -/
theorem declared_after_header_remarks :
    Header Unopened (Text.ofString "/* // */ // */\n") ∧
    declared (Text.ofString "/* // */ // */\npackage a . b ; /*") = .ok (Text.ofString "a.b") ∧
    declared (Text.ofString "/* // */ // */\npackages") = .ok [] := by
  have header : Header Unopened (Text.ofString "/* // */ // */\n") :=
    @Header.block _ (Text.ofString " // ") _ (by decide) (.blank (by decide)
      (@Header.line _ (Text.ofString " */") _ (by decide) (by unfold Unopened; decide) .nil))
  have letter : ∀ c, isIdentStart c = true → Identifier [c] := fun c hc => .mk hc nofun
  have blank : Blanks [' '] := List.forall_mem_singleton.2 (by decide)
  have statement : Declares (Text.ofString "a.b") (Text.ofString "package a . b ;") :=
    @Declares.mk ' ' [] _ _ (by decide) nofun
      (.dot (letter 'a' (by decide)) blank blank (.last (letter 'b' (by decide)) blank))
  have word : Undeclared (Text.ofString "packages") := by
    refine .token (by decide) (by decide) (by decide) fun u hu => ?_
    have : keyword ++ ['s'] = keyword ++ u := hu
    exact ⟨'s', [], (List.append_cancel_left this).symm, by decide⟩
  exact ⟨header, (declared_after_header header).1 _ _ (Text.ofString " /*") statement,
    (declared_after_header header).2 _ word⟩

/-- An opening in a line comment of the header hides the statement when a close follows anywhere; and
an identifier that begins with the keyword and a dollar sign is taken for a broken statement. -/
theorem declared_astray :
    (Header (fun _ => True) (Text.ofString "// /*\n") ∧
      Declares (Text.ofString "a") (Text.ofString "package a;") ∧
      declared (Text.ofString "// /*\npackage a;\n/* */") = .ok []) ∧
    Identifier (Text.ofString "package$x") ∧
      declared (Text.ofString "package$x y;") = .error malformed := by
  refine ⟨⟨?_, ?_, rfl⟩, .mk (by decide) (List.all_eq_true.1 (by decide)), rfl⟩
  · exact @Header.line _ (Text.ofString " /*") _ (by decide) trivial .nil
  · exact @Declares.mk ' ' [] _ _ (by decide) nofun
      (@Spells.last ['a'] [] (.mk (by decide) nofun) nofun)

end JavaStudio.Package
