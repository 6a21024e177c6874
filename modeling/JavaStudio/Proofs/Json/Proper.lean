import JavaStudio.Json.Reader
import JavaStudio.Proofs.Number.Rounding

/-!
# What a document can hold

A number with a fraction or an exponent is rounded when it is read, and the two halves of a pair that
stand next to each other are read as one character. So the floating-point numbers of a value that is
read are numbers that there are, and no string of it holds a pair in halves (`proper_of_read`).
-/

namespace JavaStudio

namespace Wide

variable {l : Letter} {h : Half} {c : Char}

theorem letters_cons (l : Letter) (w : Wide) : (cons l w).letters = l :: w.letters := by
  cases l <;> cases w <;> rfl

/-- What follows a character plays no part in whether the pairs are whole. -/
theorem apart_cons_char (w : Wide) : (cons (.char c) w).Apart ↔ w.Apart := by
  cases w <;> exact Iff.rfl

theorem endsNoPair_cons_char (w : Wide) : (cons (.char c) w).EndsNoPair := by
  cases w <;> trivial

end Wide

namespace Json

variable {t r : Text} {v : Json} {x : Number} {l : Letter} {w : Wide} {n steps room : Nat}
  {fs done : List (String × Json)}

/-- The floating-point numbers in the value are numbers that there are, and its strings hold no pair in
halves. -/
inductive Proper : Json → Prop
  | null : Proper null
  | bool (b : Bool) : Proper (bool b)
  | int (i : Int) : Proper (int i)
  | float {x : Binary64} : x.Proper → Proper (num (.float x))
  | str (s : String) : Proper (str s)
  | torn {t : Text} {half : Half} {rest : Wide} :
    (Wide.torn t half rest).Apart → Proper (torn t half rest)
  | arr {vs : List Json} : (∀ v ∈ vs, Proper v) → Proper (arr vs)
  | obj {fs : List (String × Json)} : (∀ f ∈ fs, Proper f.2) → Proper (obj fs)

theorem proper_ofWide : (ofWide w).Proper ↔ w.Apart := by
  cases w with
  | text t => exact iff_of_true (.str _) trivial
  | torn t half rest =>
    refine ⟨fun h => ?_, .torn⟩
    cases h with
    | torn apart => exact apart

/-! ## Strings -/

theorem isHigh_ofUnit (high : isHighUnit n = true) : (Half.ofUnit n).isHigh = true := by
  rw [isHighUnit, Bool.and_eq_true, decide_eq_true_eq, decide_eq_true_eq] at high
  rw [Half.isHigh, decide_eq_true_eq, Fin.lt_def, Half.ofUnit]
  show (n - 0xD800) % 0x800 < 0x400
  omega

theorem isHigh_ofUnit_low (low : isLowUnit n = true) : (Half.ofUnit n).isHigh = false := by
  rw [isLowUnit, Bool.and_eq_true, decide_eq_true_eq, decide_eq_true_eq] at low
  rw [Half.isHigh, decide_eq_false_iff_not, Fin.lt_def, Half.ofUnit]
  show ¬ (n - 0xD800) % 0x800 < 0x400
  omega

/-- Half of a pair is read by itself only where the other half does not stand next to it. -/
theorem bodyLetter_half_cases {half : Half} (h : bodyLetter t = .ok (some (.half half), r)) :
    (half.isHigh = true → lowUnit? r = none) ∧ (lowUnit? t = none → half.isHigh = true) := by
  unfold bodyLetter at h
  split at h
  · cases h
  · cases h
  · rename_i t
    split at h
    · cases h
    rename_i n r' unit
    split at h
    · cases h
    rename_i unpaired
    obtain ⟨same, rfl⟩ := Prod.mk.inj (Except.ok.inj h)
    have same := Option.some.inj same
    unfold unitLetter at same
    split at same
    · rename_i isHalf
      obtain rfl := Letter.half.inj same
      rcases Bool.or_eq_true_iff.1 isHalf with high | low
      · rw [if_pos high] at unpaired
        exact ⟨fun _ => unpaired, fun _ => isHigh_ofUnit high⟩
      · refine ⟨fun high => ?_, fun none => ?_⟩
        · rw [isHigh_ofUnit_low low] at high
          cases high
        · rw [lowUnit?, unit] at none
          simp only [low, if_true] at none
          cases none
    · cases same
  · split at h <;> cases h
  · split at h <;> cases h

/-- What is read after some letters, up to the closing quote, holds no pair in halves. -/
theorem body_cases {done : List Letter} (h : body steps done t = .ok (w, r)) :
    ∃ u : Wide, w = .ofLetters (done.reverse ++ u.letters) ∧ u.Apart ∧
      (lowUnit? t = none → u.EndsNoPair) := by
  induction steps generalizing done t with
  | zero => cases h
  | succ steps ih =>
    rw [body] at h
    split at h
    · cases h
    · cases h
      refine ⟨.text [], ?_, trivial, fun _ => trivial⟩
      rw [Wide.letters, List.map_nil, List.append_nil]
    · rename_i l r' first
      obtain ⟨u, whole, apart, ends⟩ := ih h
      refine ⟨.cons l u, ?_, ?_, ?_⟩
      · rw [whole, Wide.letters_cons, List.reverse_cons, List.append_assoc, List.singleton_append]
      · cases l with
        | char c => exact (Wide.apart_cons_char u).2 apart
        | half half => exact ⟨fun high => ends ((bodyLetter_half_cases first).1 high), apart⟩
      · cases l with
        | char c => exact fun _ => Wide.endsNoPair_cons_char u
        | half half => exact (bodyLetter_half_cases first).2

/-- A string that is read holds no pair in halves. -/
theorem apart_body (h : body steps [] t = .ok (w, r)) : w.Apart := by
  obtain ⟨u, whole, apart, -⟩ := body_cases h
  rw [List.reverse_nil, List.nil_append, Wide.ofLetters_letters] at whole
  exact whole ▸ apart

/-! ## Numbers -/

theorem proper_numberRest {negative : Bool} {ds : Text}
    (h : numberRest negative ds t = .ok (x, r)) : (num x).Proper := by
  unfold numberRest at h
  simp only at h
  split at h
  · split at h <;> cases h
    exact .int _
  · cases h
    exact .float (Binary64.proper_ofDecimal _ _ _)
  · cases h
    exact .float (Binary64.proper_ofDecimal _ _ _)

theorem proper_unsignedNumber {negative : Bool} (h : unsignedNumber negative t = .ok (x, r)) :
    (num x).Proper := by
  unfold unsignedNumber at h
  split at h
  · exact proper_numberRest h
  · split at h
    · exact proper_numberRest h
    · cases h
  · cases h

theorem proper_words {w : Text} (h : (w, v) ∈ words) : v.Proper := by
  simp only [words, List.mem_cons, Prod.mk.injEq, List.not_mem_nil, or_false] at h
  rcases h with ⟨-, rfl⟩ | ⟨-, rfl⟩ | ⟨-, rfl⟩ | ⟨-, rfl⟩ | ⟨-, rfl⟩ | ⟨-, rfl⟩
  · exact .null
  · exact .bool true
  · exact .bool false
  all_goals exact .float trivial

theorem proper_scalar (h : scalar t = .ok (v, r)) : v.Proper := by
  unfold scalar at h
  split at h
  · rename_i hw
    cases h
    obtain ⟨⟨w, v'⟩, hmem, found⟩ := List.exists_of_findSome?_eq_some hw
    obtain ⟨_, -, same⟩ := Option.map_eq_some_iff.1 found
    cases same
    exact proper_words hmem
  · simp only at h
    split at h
    · rename_i hread
      cases h
      split at hread <;> exact proper_unsignedNumber hread
    · cases h

/-! ## Documents -/

theorem mem_put {name : String} {f : String × Json} (h : f ∈ put name v fs) :
    f.2 = v ∨ f ∈ fs := by
  induction fs with
  | nil =>
    rw [put, List.mem_singleton] at h
    exact .inl (congrArg Prod.snd h)
  | cons g fs ih =>
    unfold put at h
    split at h
    · rcases List.mem_cons.1 h with rfl | h
      · exact .inl rfl
      · exact .inr (List.mem_cons_of_mem _ h)
    · rcases List.mem_cons.1 h with rfl | h
      · exact .inr List.mem_cons_self
      · exact (ih h).imp_right (List.mem_cons_of_mem _)

theorem proper_put (name : String) (hv : v.Proper) (proper : ∀ f ∈ fs, f.2.Proper) :
    ∀ f ∈ put name v fs, f.2.Proper := fun f hf =>
  (mem_put hf).elim (fun same => same ▸ hv) (proper f)

mutual

theorem proper_value (steps : Nat) {room : Nat} {t r : Text} {v : Json}
    (h : value steps room t = .ok (v, r)) : v.Proper := by
  cases steps with
  | zero => cases h
  | succ steps =>
    rw [value.eq_def] at h
    simp only at h
    split at h
    · split at h
      · rename_i string
        cases h
        exact proper_ofWide.2 (apart_body string)
      · cases h
    · split at h
      · cases h
      · cases h
        exact .arr fun _ hv => absurd hv List.not_mem_nil
      · split at h
        · rename_i hitems
          cases h
          exact .arr (proper_items steps hitems)
        · cases h
    · split at h
      · cases h
      · cases h
        exact .obj fun _ hf => absurd hf List.not_mem_nil
      · split at h
        · rename_i hmembers
          cases h
          exact .obj (proper_members steps (fun _ hf => absurd hf List.not_mem_nil) hmembers)
        · cases h
    · exact proper_scalar h

theorem proper_items (steps : Nat) {room : Nat} {t r : Text} {vs : List Json}
    (h : items steps room t = .ok (vs, r)) : ∀ v ∈ vs, v.Proper := by
  cases steps with
  | zero => cases h
  | succ steps =>
    rw [items] at h
    split at h
    · cases h
    rename_i v _ hvalue
    have first := proper_value steps hvalue
    split at h
    · cases h
      exact fun w hw => List.mem_singleton.1 hw ▸ first
    · split at h
      · rename_i hitems
        cases h
        exact List.forall_mem_cons.2 ⟨first, proper_items steps hitems⟩
      · cases h
    · cases h

/-- The fields of an object that is read, after fields that were read before. -/
theorem proper_members (steps : Nat) {room : Nat} {t r : Text} {done fs : List (String × Json)}
    (proper : ∀ f ∈ done, f.2.Proper) (h : members steps room done t = .ok (fs, r)) :
    ∀ f ∈ fs, f.2.Proper := by
  cases steps with
  | zero => cases h
  | succ steps =>
    rw [members.eq_def] at h
    simp only at h
    split at h
    · split at h
      · cases h
      split at h
      · split at h
        · cases h
        rename_i v _ hvalue
        have extended := fun name => proper_put name (proper_value steps hvalue) proper
        split at h
        · cases h
          exact extended _
        · exact proper_members steps (extended _) h
        · cases h
      · cases h
    · cases h

end

/-- The values of a document that is read are proper. -/
theorem proper_of_read (h : readWithin room t = .ok (.obj fs)) : ∀ f ∈ fs, f.2.Proper := by
  unfold readWithin at h
  split at h
  · cases h
  · rename_i hvalue
    split at h
    · cases h
      cases proper_value _ hvalue with
      | obj fields => exact fields
    · cases h

end Json

end JavaStudio
