import JavaStudio.Source.Buffer

/-!
# Matching brackets

`Balanced` are the words of brackets in which every opening bracket has its partner, `Enclosed` those
that are one pair around such a word. `matchBack` reads a text backwards and keeps a stack of the
openers that are still to come.

* `Opens stack word`: what the stack says of the brackets that are not read yet. Reading one more
  bracket changes the stack as it changes the words (`opens_concat_closer`, `opens_concat_opener`).
* `Buffer.Fits`: the cursor lies in the text, which every change of the text or the cursor keeps or
  brings about.
* `balance_finds_partner`: the distance that a buffer gives is that of the bracket with which the
  closing bracket before the cursor makes a pair around a balanced word.
-/

namespace JavaStudio

/-! ## Balanced words -/

/-- An opening bracket and the closing bracket of its kind. -/
inductive Partners : Char → Char → Prop
  | round : Partners '(' ')'
  | square : Partners '[' ']'
  | curly : Partners '\x7b' '}'

/-- Pairs of brackets one after another, each around such a word. -/
inductive Balanced : Text → Prop
  | nil : Balanced []
  | pair {o c : Char} {w v : Text} : Partners o c → Balanced w → Balanced v →
      Balanced (o :: (w ++ c :: v))

/-- One pair of brackets around a balanced word. -/
def Enclosed (t : Text) : Prop := ∃ o c w, Partners o c ∧ Balanced w ∧ t = o :: (w ++ [c])

/-- The brackets of all kinds. -/
def isBracket (c : Char) : Bool := ['(', ')', '[', ']', '\x7b', '}'].contains c

/-- The brackets of a text, in order. -/
def brackets (t : Text) : Text := t.filter isBracket

variable {o o' c : Char} {s : List Char} {t u v w : Text} {d n : Nat}

theorem Partners.openerOf?_eq (h : Partners o c) : openerOf? c = some o := by
  cases h <;> rfl

theorem partners_of_openerOf? (h : openerOf? c = some o) : Partners o c := by
  unfold openerOf? at h
  split at h
  · cases h; exact .round
  · cases h; exact .square
  · cases h; exact .curly
  · cases h

theorem isOpener_iff : isOpener o = true ↔ ∃ c, Partners o c := by
  constructor
  · intro h
    simp only [isOpener, Bool.or_eq_true, beq_iff_eq] at h
    rcases h with (rfl | rfl) | rfl
    · exact ⟨_, .round⟩
    · exact ⟨_, .square⟩
    · exact ⟨_, .curly⟩
  · rintro ⟨c, h⟩
    cases h <;> rfl

theorem Partners.opens (h : Partners o c) : isOpener o = true := isOpener_iff.2 ⟨c, h⟩

/-- No bracket both opens and closes. -/
theorem Partners.opens_not (h : Partners o c) : isOpener c = false := by
  cases h <;> rfl

theorem Partners.inj (h : Partners o c) (h' : Partners o' c) : o = o' :=
  Option.some.inj (h.openerOf?_eq.symm.trans h'.openerOf?_eq)

theorem isBracket_iff : isBracket c = true ↔ (openerOf? c).isSome = true ∨ isOpener c = true := by
  constructor
  · intro h
    simp only [isBracket, List.contains_cons, List.contains_nil, Bool.or_eq_true, beq_iff_eq,
      Bool.false_eq_true, or_false] at h
    rcases h with rfl | rfl | rfl | rfl | rfl | rfl <;> decide
  · rintro (h | h)
    · obtain ⟨o, h⟩ := Option.isSome_iff_exists.1 h
      cases partners_of_openerOf? h <;> rfl
    · obtain ⟨c', h⟩ := isOpener_iff.1 h
      cases h <;> rfl

theorem brackets_concat_of_bracket (h : isBracket c = true) (t : Text) :
    brackets (t ++ [c]) = brackets t ++ [c] := by
  simp [brackets, h]

theorem brackets_concat_of_other (h : isBracket c = false) (t : Text) :
    brackets (t ++ [c]) = brackets t := by
  simp [brackets, h]

namespace Balanced

theorem append (hw : Balanced w) (hv : Balanced v) : Balanced (w ++ v) := by
  induction hw with
  | nil => exact hv
  | @pair o c x y partners hx _ _ ihy =>
    have joined : o :: (x ++ c :: y) ++ v = o :: (x ++ c :: (y ++ v)) := by simp
    rw [joined]
    exact .pair partners hx ihy

/-- A word that is not empty ends with a pair, which another balanced word may precede. -/
theorem eq_nil_or_concat (hw : Balanced w) :
    w = [] ∨ ∃ v o u c, Balanced v ∧ Partners o c ∧ Balanced u ∧ w = v ++ o :: (u ++ [c]) := by
  induction hw with
  | nil => exact .inl rfl
  | @pair o c x y partners hx hy _ ihy =>
    right
    rcases ihy with rfl | ⟨v, o', u, c', hv, partners', hu, rfl⟩
    · exact ⟨[], o, x, c, .nil, partners, hx, rfl⟩
    · exact ⟨o :: (x ++ c :: v), o', u, c', .pair partners hx hv, partners', hu, by simp⟩

end Balanced

/-! ## Words behind open brackets -/

/-- The word holds the openers of the stack, the nearest last, with a balanced word behind each. -/
inductive Opens : List Char → Text → Prop
  | nil : Opens [] []
  | cons {o : Char} {s : List Char} {v w : Text} : isOpener o = true → Opens s v → Balanced w →
      Opens (o :: s) (v ++ o :: w)

theorem opens_nil_iff : Opens [] v ↔ v = [] := by
  constructor
  · rintro ⟨⟩
    rfl
  · rintro rfl
    exact .nil

theorem opens_cons_iff :
    Opens (o :: s) v ↔ isOpener o = true ∧ ∃ x w, Opens s x ∧ Balanced w ∧ v = x ++ o :: w := by
  constructor
  · rintro (_ | ⟨opens, hx, hw⟩)
    exact ⟨opens, _, _, hx, hw, rfl⟩
  · rintro ⟨opens, x, w, hx, hw, rfl⟩
    exact .cons opens hx hw

theorem opens_singleton_iff : Opens [o] v ↔ isOpener o = true ∧ ∃ w, Balanced w ∧ v = o :: w := by
  simp only [opens_cons_iff, opens_nil_iff, exists_and_left, exists_eq_left, List.nil_append]

theorem Opens.ne_nil (h : Opens s v) (hs : s ≠ []) : v ≠ [] := by
  cases h with
  | nil => exact absurd rfl hs
  | cons _ _ _ => simp

/-- Behind a closing bracket its opener is still to come, before those of the stack. -/
theorem opens_concat_closer (partners : Partners o c) (hs : s ≠ []) :
    Opens s (v ++ [c]) ↔ Opens (o :: s) v := by
  obtain ⟨o', s, rfl⟩ := List.exists_cons_of_ne_nil hs
  simp only [opens_cons_iff]
  constructor
  · rintro ⟨opens, x, w, hx, hw, eq⟩
    rcases hw.eq_nil_or_concat with rfl | ⟨y, o₁, z, c₁, hy, partners₁, hz, rfl⟩
    · obtain ⟨-, h⟩ := List.append_inj' eq rfl
      cases h
      rw [partners.opens_not] at opens
      cases opens
    · have split : x ++ o' :: (y ++ o₁ :: (z ++ [c₁])) = (x ++ o' :: y ++ o₁ :: z) ++ [c₁] := by simp
      rw [split] at eq
      obtain ⟨rfl, h⟩ := List.append_inj' eq rfl
      cases h
      cases partners₁.inj partners
      exact ⟨partners.opens, x ++ o' :: y, z, ⟨opens, x, y, hx, hy, rfl⟩, hz, rfl⟩
  · rintro ⟨-, _, z, ⟨opens, x, y, hx, hy, rfl⟩, hz, rfl⟩
    exact ⟨opens, x, y ++ o :: (z ++ c :: []), hx, hy.append (.pair partners hz .nil), by simp⟩

/-- An opening bracket is the nearest one of the stack, which is met at once. -/
theorem opens_concat_opener (opens : isOpener c = true) :
    Opens (o :: s) (v ++ [c]) ↔ o = c ∧ Opens s v := by
  rw [opens_cons_iff]
  constructor
  · rintro ⟨-, x, w, hx, hw, eq⟩
    rcases hw.eq_nil_or_concat with rfl | ⟨y, o₁, z, c₁, -, partners, -, rfl⟩
    · obtain ⟨rfl, h⟩ := List.append_inj' eq rfl
      cases h
      exact ⟨rfl, hx⟩
    · -- a balanced word does not end with an opening bracket
      have split : x ++ o :: (y ++ o₁ :: (z ++ [c₁])) = (x ++ o :: y ++ o₁ :: z) ++ [c₁] := by simp
      rw [split] at eq
      obtain ⟨-, h⟩ := List.append_inj' eq rfl
      cases h
      rw [partners.opens_not] at opens
      cases opens
  · rintro ⟨rfl, hv⟩
    exact ⟨opens, v, [], hv, .nil, rfl⟩

/-! ## Reading backwards -/

/-- A stretch of text, read backwards, that ends with the last opener of the stack and not before. -/
structure Exhausts (s : List Char) (u : Text) : Prop where
  opens : Opens s (brackets u.reverse)
  last : ∃ o ∈ u.getLast?, isOpener o = true

theorem not_exhausts_nil : ¬Exhausts s [] := by
  rintro ⟨-, o, ho, -⟩
  cases ho

theorem last_cons_iff (hc : isOpener c = false) :
    (∃ o ∈ (c :: u).getLast?, isOpener o = true) ↔ ∃ o ∈ u.getLast?, isOpener o = true := by
  cases u with
  | nil => simp [hc]
  | cons a u => simp

theorem exhausts_other (hc : isBracket c = false) : Exhausts s (c :: u) ↔ Exhausts s u := by
  have opens : isOpener c = false := by
    cases h : isOpener c with
    | false => rfl
    | true => rw [isBracket_iff.2 (.inr h)] at hc; cases hc
  constructor
  · rintro ⟨h, last⟩
    rw [List.reverse_cons, brackets_concat_of_other hc] at h
    exact ⟨h, (last_cons_iff opens).1 last⟩
  · rintro ⟨h, last⟩
    refine ⟨?_, (last_cons_iff opens).2 last⟩
    rwa [List.reverse_cons, brackets_concat_of_other hc]

theorem exhausts_closer (partners : Partners o c) (hs : s ≠ []) :
    Exhausts s (c :: u) ↔ Exhausts (o :: s) u := by
  have bracket : isBracket c = true := isBracket_iff.2 (.inl (by rw [partners.openerOf?_eq]; rfl))
  constructor
  · rintro ⟨h, last⟩
    rw [List.reverse_cons, brackets_concat_of_bracket bracket] at h
    exact ⟨(opens_concat_closer partners hs).1 h, (last_cons_iff partners.opens_not).1 last⟩
  · rintro ⟨h, last⟩
    refine ⟨?_, (last_cons_iff partners.opens_not).2 last⟩
    rw [List.reverse_cons, brackets_concat_of_bracket bracket]
    exact (opens_concat_closer partners hs).2 h

/-- With the last opener of the stack the stretch is over. -/
theorem exhausts_opener (opens : isOpener c = true) :
    Exhausts (o :: s) (c :: u) ↔ o = c ∧ (s = [] ∧ u = [] ∨ s ≠ [] ∧ Exhausts s u) := by
  have bracket : isBracket c = true := isBracket_iff.2 (.inr opens)
  constructor
  · rintro ⟨h, last⟩
    rw [List.reverse_cons, brackets_concat_of_bracket bracket, opens_concat_opener opens] at h
    obtain ⟨rfl, h⟩ := h
    refine ⟨rfl, ?_⟩
    cases u with
    | nil =>
      by_cases hs : s = []
      · exact .inl ⟨hs, rfl⟩
      · exact absurd rfl (h.ne_nil hs)
    | cons a u =>
      rw [List.getLast?_cons_cons] at last
      refine .inr ⟨?_, h, last⟩
      rintro rfl
      obtain ⟨b, hb, opener⟩ := last
      have mem : b ∈ brackets (a :: u).reverse :=
        List.mem_filter.2 ⟨List.mem_reverse.2 (List.mem_of_getLast? hb), isBracket_iff.2 (.inr opener)⟩
      rw [opens_nil_iff.1 h] at mem
      cases mem
  · rintro ⟨rfl, (⟨rfl, rfl⟩ | ⟨hs, h, last⟩)⟩
    · refine ⟨?_, o, rfl, opens⟩
      rw [List.reverse_cons, brackets_concat_of_bracket bracket]
      exact (opens_concat_opener opens).2 ⟨rfl, .nil⟩
    · refine ⟨?_, ?_⟩
      · rw [List.reverse_cons, brackets_concat_of_bracket bracket]
        exact (opens_concat_opener opens).2 ⟨rfl, h⟩
      · cases u with
        | nil => exact absurd ⟨h, last⟩ not_exhausts_nil
        | cons a u => rwa [List.getLast?_cons_cons]

/-- A stretch that is not empty begins with the next character. -/
theorem exists_stretch_cons {P : Text → Prop} (hP : ¬P []) :
    (∃ u r, c :: t = u ++ r ∧ d = n + u.length ∧ P u) ↔
      ∃ u r, t = u ++ r ∧ d = n + 1 + u.length ∧ P (c :: u) := by
  constructor
  · rintro ⟨_ | ⟨a, u⟩, r, eq, rfl, h⟩
    · exact absurd h hP
    · cases eq
      exact ⟨u, r, rfl, by simp only [List.length_cons]; omega, h⟩
  · rintro ⟨u, r, rfl, rfl, h⟩
    exact ⟨c :: u, r, rfl, by simp only [List.length_cons]; omega, h⟩

theorem matchBack_closer (h : openerOf? c = some o) :
    matchBack s n (c :: t) = matchBack (o :: s) (n + 1) t := by
  simp only [matchBack, h]

theorem matchBack_other (closes : openerOf? c = none) (opens : isOpener c = false) :
    matchBack s n (c :: t) = matchBack s (n + 1) t := by
  simp only [matchBack, closes, opens, Bool.false_eq_true, if_false]

theorem matchBack_opener (closes : openerOf? c = none) (opens : isOpener c = true) :
    matchBack (o :: s) n (c :: t) =
      if o = c then if s = [] then some (n + 1) else matchBack s (n + 1) t else none := by
  simp only [matchBack, closes, opens, if_true, ne_eq, List.isEmpty_iff, ite_not]

/-- With openers still to come, the distance found is that of the stretch which exhausts them. -/
theorem matchBack_eq_some_iff (hs : s ≠ []) :
    matchBack s n t = some d ↔ ∃ u r, t = u ++ r ∧ d = n + u.length ∧ Exhausts s u := by
  induction t generalizing s n with
  | nil =>
    simp only [matchBack, reduceCtorEq, false_iff]
    rintro ⟨u, r, eq, -, h⟩
    rw [(List.append_eq_nil_iff.1 eq.symm).1] at h
    exact not_exhausts_nil h
  | cons c t ih =>
    rw [exists_stretch_cons not_exhausts_nil]
    rcases closes : openerOf? c with _ | o
    · rcases opens : isOpener c with _ | _
      · have other : isBracket c = false := by
          rw [← Bool.not_eq_true, isBracket_iff, closes, opens]
          simp
        simp only [matchBack_other closes opens, ih hs, exhausts_other other]
      · obtain ⟨o, s, rfl⟩ := List.exists_cons_of_ne_nil hs
        simp only [matchBack_opener closes opens, exhausts_opener opens]
        by_cases same : o = c
        · by_cases last : s = []
          · simp [same, last, eq_comm]
          · simp only [same, last, if_true, if_false, ih last, true_and, false_and, false_or,
              ne_eq, not_false_eq_true]
        · simp [same]
    · simp only [matchBack_closer closes, ih (List.cons_ne_nil o s),
        exhausts_closer (partners_of_openerOf? closes) hs]

/-! ## The partner of a bracket -/

/-- In the text, `d` characters before the place `c` stands an opening bracket that makes one pair
with the closing bracket right before `c`, around a balanced word. -/
structure PartnerAt (t : Text) (c d : Nat) : Prop where
  pos : 1 ≤ d
  le : d ≤ c
  closing : ∃ o k, t[c - 1]? = some k ∧ Partners o k
  opening : ∃ o k, t[c - d]? = some o ∧ Partners o k
  enclosed : Enclosed (brackets ((t.take c).drop (c - d)))

section

variable {k : Char} {i : Nat}

theorem head?_stretch (pos : 1 ≤ d) (le : d ≤ i) : ((t.take i).drop (i - d)).head? = t[i - d]? := by
  rw [List.head?_drop, List.getElem?_take_of_lt (by omega)]

theorem getLast?_stretch (pos : 1 ≤ d) (le : d ≤ i) (within : i ≤ t.length) :
    ((t.take i).drop (i - d)).getLast? = t[i - 1]? := by
  rw [List.getLast?_eq_getElem?, List.getElem?_drop, List.getElem?_take_of_lt]
  · congr 1
    simp
    omega
  · simp
    omega

theorem Partners.closes (h : Partners o k) : isBracket k = true :=
  isBracket_iff.2 (.inl (by rw [h.openerOf?_eq]; rfl))

theorem head?_reverse_append (hu : u ≠ []) (v : Text) : (u.reverse ++ v).head? = u.getLast? := by
  rw [List.head?_append, List.head?_reverse, List.getLast?_eq_some_getLast hu]
  rfl

theorem Exhausts.of_enclosed (partners : Partners o k) (h : Enclosed (brackets (u.reverse ++ [k])))
    (first : ∃ a ∈ (u.reverse ++ [k]).head?, isOpener a = true) : Exhausts [o] u := by
  obtain ⟨o', k', w, partners', hw, eq⟩ := h
  rw [brackets_concat_of_bracket partners.closes, ← List.cons_append] at eq
  obtain ⟨word, last⟩ := List.append_inj' eq rfl
  cases last
  cases partners'.inj partners
  have nonempty : u ≠ [] := by
    rintro rfl
    cases word
  rw [head?_reverse_append nonempty] at first
  exact ⟨opens_singleton_iff.2 ⟨partners.opens, w, hw, word⟩, first⟩

theorem Exhausts.enclosed (partners : Partners o k) (h : Exhausts [o] u) :
    Enclosed (brackets (u.reverse ++ [k])) ∧ ∃ a ∈ (u.reverse ++ [k]).head?, isOpener a = true := by
  obtain ⟨w, hw, eq⟩ := (opens_singleton_iff.1 h.opens).2
  have nonempty : u ≠ [] := by
    rintro rfl
    exact not_exhausts_nil h
  rw [head?_reverse_append nonempty, brackets_concat_of_bracket partners.closes, eq]
  exact ⟨⟨o, k, w, partners, hw, rfl⟩, h.last⟩

/-- The partner of a bracket is where reading backwards exhausts its opener. -/
theorem partnerAt_iff (within : i ≤ t.length) :
    PartnerAt t i d ↔ ∃ o k u r, (t.take i).reverse = k :: (u ++ r) ∧ Partners o k ∧
      d = 1 + u.length ∧ Exhausts [o] u := by
  have length : (t.take i).length = i := List.length_take_of_le within
  constructor
  · rintro ⟨pos, le, ⟨o, k, closing, partners⟩, ⟨o₁, k₁, opening, partners₁⟩, enclosed⟩
    rw [← getLast?_stretch pos le within, List.getLast?_eq_some_iff] at closing
    rw [← head?_stretch pos le] at opening
    obtain ⟨x, hx⟩ := closing
    rw [hx] at opening enclosed
    obtain ⟨front, cut⟩ : ∃ front, t.take i = front ++ (x ++ [k]) :=
      ⟨(t.take i).take (i - d), by rw [← hx, List.take_append_drop]⟩
    have size : d = 1 + x.length := by
      have := congrArg List.length hx
      simp only [List.length_drop, length, List.length_append, List.length_singleton] at this
      omega
    rw [← List.reverse_reverse x] at opening enclosed
    refine ⟨o, k, x.reverse, front.reverse, ?_, partners, by simpa using size,
      .of_enclosed partners enclosed ⟨o₁, opening, partners₁.opens⟩⟩
    rw [cut]
    simp
  · rintro ⟨o, k, u, r, eq, partners, rfl, exhausts⟩
    have cut : t.take i = r.reverse ++ (u.reverse ++ [k]) := by
      rw [← List.reverse_reverse (t.take i), eq]
      simp
    have size : i = r.reverse.length + (1 + u.length) := by
      rw [← length, cut]
      simp
      omega
    have pos : 1 ≤ 1 + u.length := Nat.le_add_right _ _
    have le : 1 + u.length ≤ i := by omega
    have stretch : (t.take i).drop (i - (1 + u.length)) = u.reverse ++ [k] := by
      rw [cut, show i - (1 + u.length) = r.reverse.length by omega, List.drop_left]
    obtain ⟨enclosed, a, first, opener⟩ := exhausts.enclosed partners
    refine ⟨pos, le, ⟨o, k, ?_, partners⟩, ?_, stretch ▸ enclosed⟩
    · rw [← getLast?_stretch pos le within, stretch]
      simp
    · obtain ⟨k', partners'⟩ := isOpener_iff.1 opener
      exact ⟨a, k', by rw [← head?_stretch pos le, stretch]; exact first, partners'⟩

/-- The partner is what reading backwards from the closing bracket finds. -/
theorem partnerAt_iff_matchBack (within : i ≤ t.length) :
    PartnerAt t i d ↔ ∃ o k rest, (t.take i).reverse = k :: rest ∧ Partners o k ∧
      matchBack [o] 1 rest = some d := by
  rw [partnerAt_iff within]
  constructor
  · rintro ⟨o, k, u, r, eq, partners, size, exhausts⟩
    exact ⟨o, k, u ++ r, eq, partners,
      (matchBack_eq_some_iff (List.cons_ne_nil o [])).2 ⟨u, r, rfl, size, exhausts⟩⟩
  · rintro ⟨o, k, rest, eq, partners, found⟩
    obtain ⟨u, r, rfl, size, exhausts⟩ := (matchBack_eq_some_iff (List.cons_ne_nil o [])).1 found
    exact ⟨o, k, u, r, eq, partners, size, exhausts⟩

theorem partnerAt_unique {e : Nat} (within : i ≤ t.length) (hd : PartnerAt t i d)
    (he : PartnerAt t i e) : d = e := by
  obtain ⟨o, k, rest, eq, partners, found⟩ := (partnerAt_iff_matchBack within).1 hd
  obtain ⟨o', k', rest', eq', partners', found'⟩ := (partnerAt_iff_matchBack within).1 he
  cases eq.symm.trans eq'
  cases partners.inj partners'
  exact Option.some.inj (found.symm.trans found')

end

/-! ## Cursors -/

/-- Where the place cuts, it lies in a text of that length. -/
def Place.Fits (length : Nat) (p : Place) : Prop := ∀ i, p.cut = .ok i → i ≤ length

namespace Place.Fits

variable {p : Place} {length : Nat}

theorem whole {k : Nat} (h : k ≤ length) : (Place.whole k).Fits length := by
  rintro _ ⟨⟩
  exact h

theorem flag (h : 0 < length) : Place.flag.Fits length := by
  rintro _ ⟨⟩
  exact h

theorem floating (x : Binary64) : (Place.floating x).Fits length := by
  rintro _ ⟨⟩

theorem within (length : Nat) (p : Place) : (p.within length).Fits length := by
  unfold Place.within
  split
  · exact whole (Nat.min_le_right _ _)
  · split
    · exact whole (Nat.zero_le _)
    · next filled => exact flag (Nat.pos_of_ne_zero filled)
  · split
    · exact whole (Nat.le_refl _)
    · exact floating _

theorem mono (h : p.Fits length) {more : Nat} (le : length ≤ more) : p.Fits more :=
  fun i cut => Nat.le_trans (h i cut) le

theorem forward (h : p.Fits length) (count : Nat) : (p.forward count).Fits (length + count) := by
  cases p with
  | whole k => exact whole (Nat.add_le_add_right (h k rfl) count)
  | flag => exact whole (Nat.add_le_add_right (h 1 rfl) count)
  | floating x => exact floating _

end Place.Fits

theorem lineOffset_le (n : Nat) (t : Text) : lineOffset n t ≤ t.length := by
  induction n generalizing t with
  | zero => exact Nat.zero_le _
  | succ n ih =>
    rw [lineOffset]
    split
    · exact Nat.zero_le _
    · next k found =>
      obtain ⟨i, feed, rfl⟩ := Option.map_eq_some_iff.1 found
      have inside := (List.findIdx?_eq_some_iff_getElem.1 feed).1
      have rest := ih (t.drop (i + 1))
      rw [List.length_drop] at rest
      omega

namespace Buffer

variable {b : Buffer}

/-- The cursor lies in the text. -/
def Fits (b : Buffer) : Prop := b.place.Fits b.text.length

namespace Fits

theorem setCursor (b : Buffer) (offset : Int) : (b.setCursor offset).Fits :=
  .whole (Nat.min_le_right _ _)

theorem setText (b : Buffer) (text : Text) : (b.setText text).Fits := Place.Fits.within _ _

theorem insert (h : b.Fits) (offset : Int) (fragment : Text) : (b.insert offset fragment).Fits := by
  have length : (b.insert offset fragment).text.length = b.text.length + fragment.length := by
    simp [Buffer.insert, clamp]
    omega
  rw [Fits, length]
  unfold Buffer.insert
  dsimp only
  split
  · exact Place.Fits.forward h _
  · exact Place.Fits.mono h (Nat.le_add_right _ _)

theorem gotoLine (b : Buffer) (line : Int) : (b.gotoLine line).Fits := .whole (lineOffset_le _ _)

theorem read {b' : Buffer} {fs : Files} {p : Path} (h : b.read fs p = .ok b') : b'.Fits := by
  unfold Buffer.read at h
  split at h <;> cases h
  exact .whole (Nat.zero_le _)

end Fits

/-- What a buffer gives is the distance to the partner, or -1 where there is none. -/
theorem balanceBackward_cases (within : b.cursor ≤ b.text.length) :
    (∃ d : Nat, PartnerAt b.text b.cursor d ∧ b.balanceBackward = d) ∨
      (¬∃ d, PartnerAt b.text b.cursor d) ∧ b.balanceBackward = -1 := by
  simp only [partnerAt_iff_matchBack within]
  unfold balanceBackward
  rcases (b.text.take b.cursor).reverse with _ | ⟨k, rest⟩
  · simp
  · dsimp only
    rcases closes : openerOf? k with _ | o
    · right
      simp only [Option.isSome_none, Bool.false_eq_true, if_false, and_true]
      rintro ⟨d, o, k', rest', eq, partners, -⟩
      cases eq
      rw [partners.openerOf?_eq] at closes
      cases closes
    · simp only [Option.isSome_some, if_true, matchBack_closer closes]
      rcases found : matchBack [o] (0 + 1) rest with _ | d
      · right
        refine ⟨?_, rfl⟩
        rintro ⟨d, o', k', rest', eq, partners, found'⟩
        cases eq
        cases (partners_of_openerOf? closes).inj partners
        rw [found'] at found
        cases found
      · left
        exact ⟨d, ⟨o, k, rest, rfl, partners_of_openerOf? closes, found⟩, rfl⟩

theorem balance_of_cut {i : Nat} (place : b.place.cut = .ok i) :
    b.cursor = i ∧ b.balance = .ok b.balanceBackward := by
  unfold cursor balance
  rcases h : b.place with k | _ | x <;> rw [h] at place <;> cases place <;> exact ⟨rfl, rfl⟩

/-- The bracket matching of a buffer: a distance is given exactly for the partner of the closing
bracket before the cursor, of which there is at most one, and -1 exactly where that bracket has
none. -/
theorem balance_finds_partner {i : Nat} (fits : b.Fits) (place : b.place.cut = .ok i) :
    (∀ d : Nat, b.balance = .ok d ↔ PartnerAt b.text i d) ∧
      (∀ d e, PartnerAt b.text i d → PartnerAt b.text i e → d = e) ∧
      (b.balance = .ok (-1) ↔ ¬∃ d, PartnerAt b.text i d) := by
  have within := fits i place
  obtain ⟨rfl, eq⟩ := balance_of_cut place
  have unique (d e : Nat) : PartnerAt b.text b.cursor d → PartnerAt b.text b.cursor e → d = e :=
    partnerAt_unique within
  rcases balanceBackward_cases within with ⟨d, partner, result⟩ | ⟨alone, result⟩
  · rw [eq, result]
    refine ⟨fun e => ?_, unique, ?_⟩
    · simp only [Except.ok.injEq, Int.natCast_inj]
      constructor
      · rintro rfl
        exact partner
      · exact unique d e partner
    · simp only [Except.ok.injEq]
      constructor
      · intro h
        omega
      · intro alone
        exact absurd ⟨d, partner⟩ alone
  · rw [eq, result]
    refine ⟨fun e => ?_, unique, ?_⟩
    · simp only [Except.ok.injEq]
      constructor
      · intro h
        omega
      · intro partner
        exact absurd ⟨e, partner⟩ alone
    · exact ⟨fun _ => alone, fun _ => rfl⟩

/-- A cursor right behind a pair that other brackets of all kinds surround. -/
def bracedBuffer : Buffer :=
  { text := Text.ofString "](f\x7ba[1]()b\x7d)", place := .whole 12 }

theorem balance_finds_partner_braced :
    bracedBuffer.Fits ∧ bracedBuffer.place.cut = .ok 12 ∧ bracedBuffer.balance = .ok 9 ∧
      PartnerAt bracedBuffer.text 12 9 := by
  have fits : bracedBuffer.Fits := .whole (by decide)
  have result : bracedBuffer.balance = .ok 9 := rfl
  exact ⟨fits, rfl, result, ((balance_finds_partner fits rfl).1 9).1 result⟩

end Buffer

end JavaStudio
