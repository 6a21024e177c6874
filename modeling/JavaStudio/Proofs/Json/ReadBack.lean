import JavaStudio.Proofs.Json.Scalar

/-!
# Documents read back

A document that was written with an item to a line is read as the same document with the fields of
every object in the order of their names. Its numbers must be numbers that there are, the names of an
object must differ, and there must be room for what is nested.

* `reads_indentedAt`: at every depth, whatever follows.
* `readWithin_indented`: for a whole document.
-/

namespace JavaStudio.Json

variable {c : Char} {d e room steps : Nat} {r t : Text} {v : Json} {vs : List Json}
  {fs : List (String × Json)} {name : String}

/-- A value that can be written: its numbers are numbers that there are, its strings hold no pair in
halves, and the fields of an object have different names. -/
inductive Sound : Json → Prop
  | null : Sound null
  | bool (b : Bool) : Sound (bool b)
  | num {x : Number} : SoundNumber x → Sound (num x)
  | string {w : Wide} : w.Apart → Sound (ofWide w)
  | arr {vs : List Json} : (∀ v ∈ vs, Sound v) → Sound (arr vs)
  | obj {fs : List (String × Json)} : (fs.map (·.1)).Nodup → (∀ f ∈ fs, Sound f.2) → Sound (obj fs)

theorem Sound.str (s : String) : Sound (str s) := by
  rw [str_eq_ofWide]
  exact .string trivial

/-- The fields in the order of their names. -/
def sortedFields (fs : List (String × Json)) : List (String × Json) :=
  fs.mergeSort fun a b => decide (a.1 ≤ b.1)

mutual

/-- The value with the fields of all objects in the order of their names. -/
def ordered : Json → Json
  | arr vs => arr (orderedItems vs)
  | obj fs => obj (sortedFields (orderedFields fs))
  | v => v

/-- Items with the fields of all objects in the order of their names. -/
def orderedItems : List Json → List Json
  | [] => []
  | v :: vs => ordered v :: orderedItems vs

/-- Fields whose values have the fields of all objects in the order of their names. -/
def orderedFields : List (String × Json) → List (String × Json)
  | [] => []
  | (k, v) :: fs => (k, ordered v) :: orderedFields fs

end

theorem orderedItems_eq_map (vs : List Json) : orderedItems vs = vs.map ordered := by
  induction vs with
  | nil => rfl
  | cons v vs ih => rw [orderedItems, ih, List.map_cons]

theorem orderedFields_eq_map (fs : List (String × Json)) :
    orderedFields fs = fs.map fun f => (f.1, ordered f.2) := by
  induction fs with
  | nil => rfl
  | cons f fs ih => rw [orderedFields, ih, List.map_cons]

theorem indentedItems_eq_map (d : Nat) (vs : List Json) :
    indentedItems d vs = vs.map (indentedAt d) := by
  induction vs with
  | nil => rfl
  | cons v vs ih => rw [indentedItems, ih, List.map_cons]

theorem indentedFields_eq_map (d : Nat) (fs : List (String × Json)) :
    indentedFields d fs = fs.map fun f => (f.1, indentedAt d f.2) := by
  induction fs with
  | nil => rfl
  | cons f fs ih => rw [indentedFields, ih, List.map_cons]

/-- Fields are put in order before or after something is made of their values. -/
theorem byName_map (g : Json → Text) (fs : List (String × Json)) :
    byName (fs.map fun f => (f.1, g f.2)) = (sortedFields fs).map fun f => (f.1, g f.2) := by
  unfold byName sortedFields
  refine (List.map_mergeSort ?_).symm
  exact fun _ _ _ _ => rfl

theorem sortedFields_map (g : Json → Json) (fs : List (String × Json)) :
    sortedFields (fs.map fun f => (f.1, g f.2)) = (sortedFields fs).map fun f => (f.1, g f.2) := by
  unfold sortedFields
  refine (List.map_mergeSort ?_).symm
  exact fun _ _ _ _ => rfl

theorem mem_sortedFields {f : String × Json} : f ∈ sortedFields fs ↔ f ∈ fs := List.mem_mergeSort

theorem sortedFields_perm (fs : List (String × Json)) : (sortedFields fs).Perm fs :=
  List.mergeSort_perm fs _

/-! ## What is read of a written value -/

/-- The text is read as the value wherever a value may end. -/
def Reads (room : Nat) (t : Text) (v : Json) : Prop :=
  ∀ steps r, t.length ≤ steps → Ends r → value steps room (t ++ r) = .ok (v, r)

theorem ends_nil : Ends [] := nofun

theorem value_scalar (quote : c ≠ '"') (bracket : c ≠ '[') (brace : c ≠ '{') :
    value (steps + 1) room (c :: t) = scalar (c :: t) := by
  rw [value.eq_def]
  split
  · contradiction
  · rename_i heq
    cases heq
    split
    · rename_i heq
      exact absurd (List.cons.inj heq).1 quote
    · rename_i heq
      exact absurd (List.cons.inj heq).1 bracket
    · rename_i heq
      exact absurd (List.cons.inj heq).1 brace
    · rfl

theorem reads_scalar (h : ∀ r, Ends r → scalar (t ++ r) = .ok (v, r)) : Reads room t v := by
  intro steps r hsteps ends
  have alone := h [] ends_nil
  rw [List.append_nil] at alone
  rcases t with _ | ⟨c, u⟩
  · cases alone
  obtain ⟨steps, rfl⟩ := Nat.exists_eq_succ_of_ne_zero (Nat.ne_zero_of_lt hsteps)
  rw [List.cons_append, value_scalar]
  · exact h r ends
  · rintro rfl
    cases alone
  · rintro rfl
    cases alone
  · rintro rfl
    cases alone

/-- A text that is read as a value begins with no space and no closing bracket. -/
theorem Reads.head (h : Reads room t v) :
    ∃ c u, t = c :: u ∧ isSpace c = false ∧ c ≠ ']' := by
  have alone := h (t.length + 1) [] (Nat.le_succ _) ends_nil
  rw [List.append_nil] at alone
  rcases t with _ | ⟨c, u⟩
  · cases alone
  refine ⟨c, u, rfl, Bool.eq_false_iff.2 fun space => ?_, ?_⟩
  · simp only [isSpace, Bool.or_eq_true, beq_iff_eq] at space
    rcases space with ((rfl | rfl) | rfl) | rfl <;> cases alone
  · rintro rfl
    cases alone

theorem skip_cons (h : isSpace c = false) (t : Text) : skip (c :: t) = c :: t :=
  List.dropWhile_cons_of_neg (by rw [h]; exact Bool.false_ne_true)

theorem skip_newline (d : Nat) (h : isSpace c = false) (t : Text) :
    skip (newline d ++ c :: t) = c :: t := by
  have spaces : ∀ k, skip (List.replicate k ' ' ++ c :: t) = c :: t := by
    intro k
    induction k with
    | zero => exact skip_cons h t
    | succ k ih => exact ih
  exact spaces (2 * d)

/-! ## Arrays and objects -/

theorem join_head {u : Text} (h : t = c :: u) (sep : Text) (ts : List Text) :
    ∃ w, Text.join sep (t :: ts) = c :: w := by
  cases ts with
  | nil => exact ⟨u, h⟩
  | cons t' ts => exact ⟨u ++ sep ++ Text.join sep (t' :: ts), by rw [Text.join, h]; rfl⟩

theorem ends_newline (d : Nat) (t : Text) : Ends (newline d ++ t) := by
  rintro _ _ ⟨⟩
  exact .inr rfl

theorem ends_comma (t : Text) : Ends (',' :: t) := by
  rintro _ _ ⟨⟩
  exact .inl rfl

/-- Items on lines of their own are read one after the other. -/
theorem items_join {x : Text × Json} {l : List (Text × Json)}
    (reads : ∀ y ∈ x :: l, Reads room y.1 y.2)
    (enough : (Text.join (',' :: newline d) ((x :: l).map (·.1))).length < steps) :
    items steps room (Text.join (',' :: newline d) ((x :: l).map (·.1)) ++
      (newline e ++ ']' :: r)) = .ok ((x :: l).map (·.2), r) := by
  induction l generalizing x steps with
  | nil =>
    obtain ⟨steps, rfl⟩ := Nat.exists_eq_succ_of_ne_zero (Nat.ne_zero_of_lt enough)
    have read := reads x List.mem_cons_self steps (newline e ++ ']' :: r)
      (Nat.lt_succ_iff.1 enough) (ends_newline e _)
    rw [List.map_cons, List.map_nil, Text.join, items, read]
    simp only [skip_newline e (show isSpace ']' = false from rfl)]
    rfl
  | cons y l ih =>
    obtain ⟨steps, rfl⟩ := Nat.exists_eq_succ_of_ne_zero (Nat.ne_zero_of_lt enough)
    have later := fun z hz => reads z (List.mem_cons_of_mem x hz)
    obtain ⟨c, u, hy, space, -⟩ := (later y List.mem_cons_self).head
    obtain ⟨w, hw⟩ := join_head hy (',' :: newline d) (l.map (·.1))
    rw [List.map_cons, List.map_cons, Text.join, List.length_append, List.length_append,
      List.length_cons] at enough
    have tail : items steps room (c :: (w ++ (newline e ++ ']' :: r))) =
        .ok ((y :: l).map (·.2), r) := by
      rw [← List.cons_append, ← hw]
      exact ih later (by rw [List.map_cons]; omega)
    have read := reads x List.mem_cons_self steps
      (',' :: (newline d ++ c :: (w ++ (newline e ++ ']' :: r)))) (by omega) (ends_comma _)
    rw [List.map_cons, List.map_cons, Text.join, hw, List.append_assoc, List.append_assoc,
      List.cons_append, List.cons_append, items, read]
    simp only [skip_cons (show isSpace ',' = false from rfl), skip_newline d space, tail]
    rfl

theorem put_of_not_mem (h : name ∉ fs.map (·.1)) (v : Json) :
    put name v fs = fs ++ [(name, v)] := by
  induction fs with
  | nil => rfl
  | cons f fs ih =>
    obtain ⟨k, w⟩ := f
    rw [List.map_cons, List.mem_cons, not_or] at h
    rw [put, if_neg (Ne.symm h.1), ih h.2]
    rfl

/-- A field on a line. -/
def fieldText (name : String) (t : Text) : Text := stringText name ++ [':', ' '] ++ t

theorem charText_ne_nil (c : Char) : charText c ≠ [] := by
  intro none
  have read := bodyLetter_charText c []
  rw [none] at read
  cases read

theorem length_le_charTexts (s : Text) : s.length ≤ (s.flatMap charText).length := by
  induction s with
  | nil => exact Nat.le_refl 0
  | cons c s ih =>
    have first := List.length_pos_iff.2 (charText_ne_nil c)
    rw [List.flatMap_cons, List.length_append, List.length_cons]
    omega

/-- A field whose name is new is read and added to those that were read before. -/
theorem members_field {done : List (String × Json)} (first : Reads room t v)
    (fresh : name ∉ done.map (·.1)) (enough : (fieldText name t).length ≤ steps) (ends : Ends r) :
    members (steps + 1) room done (fieldText name t ++ r) = match skip r with
      | '}' :: r => .ok (done ++ [(name, v)], r)
      | ',' :: r => members steps room (done ++ [(name, v)]) (skip r)
      | _ => .error .malformed := by
  obtain ⟨c, u, rfl, space, -⟩ := first.head
  have chars := length_le_charTexts name.toList
  rw [fieldText, stringText, List.length_append, List.length_append, List.length_append,
    List.length_cons] at enough
  have short : (Wide.text name.toList).letters.length < steps := by
    rw [Wide.letters, List.length_map]
    omega
  have key := body_wideText (w := .text name.toList) trivial short (':' :: ' ' :: (c :: u ++ r))
  rw [wideText] at key
  have read := first steps r (by omega) ends
  have shape : fieldText name (c :: u) ++ r =
      '"' :: (name.toList.flatMap charText ++ '"' :: ':' :: ' ' :: (c :: u ++ r)) := by
    simp only [fieldText, stringText, List.append_assoc, List.cons_append, List.nil_append]
  have space' : skip (' ' :: (c :: u ++ r)) = c :: u ++ r := skip_cons space (u ++ r)
  have colon : skip (':' :: ' ' :: (c :: u ++ r)) = ':' :: ' ' :: (c :: u ++ r) := skip_cons rfl _
  rw [shape, members, key]
  simp only [colon, space', read]
  rewrite [Wide.mended, String.ofList_toList, put_of_not_mem fresh]
  rfl

/-- Fields on lines of their own are read one after the other. -/
theorem members_join {x : String × Text × Json} {l : List (String × Text × Json)}
    (done : List (String × Json)) (reads : ∀ y ∈ x :: l, Reads room y.2.1 y.2.2)
    (distinct : (done.map (·.1) ++ (x :: l).map (·.1)).Nodup)
    (enough : (Text.join (',' :: newline d)
      ((x :: l).map fun y => fieldText y.1 y.2.1)).length < steps) :
    members steps room done (Text.join (',' :: newline d)
        ((x :: l).map fun y => fieldText y.1 y.2.1) ++ (newline e ++ '}' :: r)) =
      .ok (done ++ (x :: l).map fun y => (y.1, y.2.2), r) := by
  have fresh : ∀ {done : List (String × Json)} {x} {l : List (String × Text × Json)},
      (done.map (·.1) ++ (x :: l).map (·.1)).Nodup → x.1 ∉ done.map (·.1) := by
    intro done x l distinct member
    exact (List.nodup_append.1 distinct).2.2 _ member _ List.mem_cons_self rfl
  induction l generalizing x steps done with
  | nil =>
    obtain ⟨steps, rfl⟩ := Nat.exists_eq_succ_of_ne_zero (Nat.ne_zero_of_lt enough)
    rw [List.map_cons, List.map_nil, Text.join, members_field (reads x List.mem_cons_self)
      (fresh distinct) (Nat.lt_succ_iff.1 enough) (ends_newline e _)]
    simp only [skip_newline e (show isSpace '}' = false from rfl)]
    rfl
  | cons y l ih =>
    obtain ⟨steps, rfl⟩ := Nat.exists_eq_succ_of_ne_zero (Nat.ne_zero_of_lt enough)
    have later := fun z hz => reads z (List.mem_cons_of_mem x hz)
    obtain ⟨w, hw⟩ := join_head (show fieldText y.1 y.2.1 = '"' :: _ from rfl) (',' :: newline d)
      (l.map fun y => fieldText y.1 y.2.1)
    rw [List.map_cons, List.map_cons, Text.join, List.length_append, List.length_append,
      List.length_cons] at enough
    have distinct' : ((done ++ [(x.1, x.2.2)]).map (·.1) ++ (y :: l).map (·.1)).Nodup := by
      rwa [List.map_append, List.append_assoc]
    have tail : members steps room (done ++ [(x.1, x.2.2)])
        ('"' :: (w ++ (newline e ++ '}' :: r))) =
          .ok (done ++ (x :: y :: l).map fun y => (y.1, y.2.2), r) := by
      have enough' : (Text.join (',' :: newline d)
          ((y :: l).map fun y => fieldText y.1 y.2.1)).length < steps := by
        rw [List.map_cons]
        omega
      rw [← List.cons_append, ← hw]
      exact (ih _ later distinct' enough').trans
        (by rw [List.append_assoc, List.singleton_append]; rfl)
    rw [List.map_cons, List.map_cons, Text.join, hw, List.append_assoc, List.append_assoc,
      List.cons_append, List.cons_append, members_field (reads x List.mem_cons_self)
      (fresh distinct) (by omega) (ends_comma _)]
    simp only [skip_cons (show isSpace ',' = false from rfl),
      skip_newline d (show isSpace '"' = false from rfl), tail]

theorem block_cons (opening closing : Char) (t : Text) (ts : List Text) (r : Text) :
    block d opening closing (t :: ts) ++ r = opening :: (newline (d + 1) ++
      (Text.join (',' :: newline (d + 1)) (t :: ts) ++ (newline d ++ closing :: r))) := by
  simp only [block, List.append_assoc, List.cons_append, List.nil_append]

/-- The steps that suffice for a block suffice for what stands in it. -/
theorem steps_of_block {opening closing : Char} {t : Text} {ts : List Text}
    (h : (block d opening closing (t :: ts)).length ≤ steps) :
    ∃ s, steps = s + 1 ∧ (Text.join (',' :: newline (d + 1)) (t :: ts)).length < s := by
  have shape := block_cons (d := d) opening closing t ts []
  rw [List.append_nil] at shape
  rw [shape, List.length_cons, List.length_append, List.length_append, List.length_append,
    List.length_singleton] at h
  exact ⟨steps - 1, by omega, by omega⟩

theorem value_bracket (h : skip t = c :: r) (other : c ≠ ']') :
    value (steps + 1) (room + 1) ('[' :: t) = match items steps room (c :: r) with
      | .ok (vs, r) => .ok (arr vs, r)
      | .error f => .error f := by
  rw [value.eq_def]
  simp only [h]
  split
  · contradiction
  · rename_i heq _
    exact absurd (List.cons.inj heq).1 other
  · rename_i heq _
    cases heq
    rfl

theorem value_brace (h : skip t = c :: r) (other : c ≠ '}') :
    value (steps + 1) (room + 1) ('{' :: t) = match members steps room [] (c :: r) with
      | .ok (fs, r) => .ok (obj fs, r)
      | .error f => .error f := by
  rw [value.eq_def]
  simp only [h]
  split
  · contradiction
  · rename_i heq _
    exact absurd (List.cons.inj heq).1 other
  · rename_i heq _
    cases heq
    rfl

/-- An array whose items are read is read, in room for one more. -/
theorem reads_array {l : List (Text × Json)} (reads : ∀ y ∈ l, Reads room y.1 y.2) :
    Reads (room + 1) (block d '[' ']' (l.map (·.1))) (arr (l.map (·.2))) := by
  intro steps r hsteps _
  cases l with
  | nil =>
    obtain ⟨steps, rfl⟩ := Nat.exists_eq_succ_of_ne_zero (Nat.ne_zero_of_lt hsteps)
    rfl
  | cons x l =>
    obtain ⟨steps, rfl, enough⟩ := steps_of_block hsteps
    obtain ⟨c, u, hx, space, other⟩ := (reads x List.mem_cons_self).head
    obtain ⟨w, hw⟩ := join_head hx (',' :: newline (d + 1)) (l.map (·.1))
    have read := items_join (e := d) (r := r) reads enough
    rw [List.map_cons, hw, List.cons_append] at read
    rw [List.map_cons, block_cons, hw, List.cons_append, value_bracket (skip_newline _ space _) other,
      read]

/-- An object whose fields are read is read, in room for one more. -/
theorem reads_object {l : List (String × Text × Json)} (distinct : (l.map (·.1)).Nodup)
    (reads : ∀ y ∈ l, Reads room y.2.1 y.2.2) :
    Reads (room + 1) (block d '{' '}' (l.map fun y => fieldText y.1 y.2.1))
      (obj (l.map fun y => (y.1, y.2.2))) := by
  intro steps r hsteps _
  cases l with
  | nil =>
    obtain ⟨steps, rfl⟩ := Nat.exists_eq_succ_of_ne_zero (Nat.ne_zero_of_lt hsteps)
    rfl
  | cons x l =>
    obtain ⟨steps, rfl, enough⟩ := steps_of_block hsteps
    obtain ⟨w, hw⟩ := join_head (show fieldText x.1 x.2.1 = '"' :: _ from rfl)
      (',' :: newline (d + 1)) (l.map fun y => fieldText y.1 y.2.1)
    have read := members_join (e := d) (r := r) [] reads distinct enough
    rw [List.map_cons, hw, List.cons_append] at read
    rw [List.map_cons, block_cons, hw, List.cons_append,
      value_brace (skip_newline _ rfl _) (by decide), read]
    rfl

/-! ## Documents -/

/-- How a string is written. -/
theorem scalarText_ofWide (w : Wide) : scalarText (ofWide w) = '"' :: wideText w ++ ['"'] := by
  cases w with
  | text t => rw [ofWide, scalarText, stringText, String.toList_ofList, wideText]
  | torn t half rest => rw [ofWide, scalarText]

theorem indentedAt_ofWide (d : Nat) (w : Wide) : indentedAt d (ofWide w) = scalarText (ofWide w) := by
  cases w <;> rfl

theorem ordered_ofWide (w : Wide) : (ofWide w).ordered = ofWide w := by
  cases w <;> rfl

theorem length_letters_le (w : Wide) : w.letters.length ≤ (wideText w).length := by
  induction w with
  | text t =>
    rw [Wide.letters, List.length_map]
    exact length_le_charTexts t
  | torn t half rest ih =>
    have chars := length_le_charTexts t
    have digits : 0 < (unit half.unit).length := Nat.succ_pos _
    rw [Wide.letters, wideText, List.length_append, List.length_map, List.length_cons,
      List.length_append, List.length_append]
    omega

theorem reads_string {w : Wide} (apart : w.Apart) : Reads room (scalarText (ofWide w)) (ofWide w) := by
  intro steps r hsteps _
  have letters := length_letters_le w
  rw [scalarText_ofWide, List.length_append, List.length_cons, List.length_singleton] at hsteps
  obtain ⟨steps, rfl⟩ := Nat.exists_eq_succ_of_ne_zero (show steps ≠ 0 by omega)
  have read : body steps [] (wideText w ++ '"' :: r) = .ok (w, r) :=
    body_wideText apart (by omega) r
  rw [scalarText_ofWide, List.cons_append, List.cons_append, List.append_assoc, List.singleton_append,
    value, read]

/-- What is nested in an array or object needs less room. -/
theorem depth_le_itemsDepth (h : v ∈ vs) : v.depth ≤ itemsDepth vs := by
  induction vs with
  | nil => cases h
  | cons w vs ih =>
    rw [itemsDepth]
    rcases List.mem_cons.1 h with rfl | h
    · exact Nat.le_max_left _ _
    · exact (ih h).trans (Nat.le_max_right _ _)

theorem depth_le_fieldsDepth {f : String × Json} (h : f ∈ fs) : f.2.depth ≤ fieldsDepth fs := by
  induction fs with
  | nil => cases h
  | cons g fs ih =>
    obtain ⟨k, w⟩ := g
    rw [fieldsDepth]
    rcases List.mem_cons.1 h with rfl | h
    · exact Nat.le_max_left _ _
    · exact (ih h).trans (Nat.le_max_right _ _)

/-- A value is read back at every depth, with the fields of objects in the order of their names. -/
theorem reads_indentedAt (sound : Sound v) (fits : v.depth ≤ room) :
    Reads room (indentedAt d v) v.ordered := by
  induction sound generalizing d room with
  | null => exact reads_scalar fun r _ => rfl
  | bool b => cases b <;> exact reads_scalar fun r _ => rfl
  | num sound => exact reads_scalar fun r ends => scalar_numberText sound ends
  | @string w apart =>
    rw [indentedAt_ofWide, ordered_ofWide]
    exact reads_string apart
  | @arr vs _ ih =>
    rw [depth] at fits
    obtain ⟨room, rfl⟩ := Nat.exists_eq_succ_of_ne_zero (Nat.ne_zero_of_lt fits)
    have reads : ∀ y ∈ vs.map fun v => (indentedAt (d + 1) v, v.ordered), Reads room y.1 y.2 := by
      intro y hy
      obtain ⟨v, hv, rfl⟩ := List.mem_map.1 hy
      exact ih v hv ((depth_le_itemsDepth hv).trans (Nat.le_of_succ_le_succ fits))
    have read := reads_array (d := d) reads
    rw [List.map_map, List.map_map] at read
    rw [indentedAt, indentedItems_eq_map, ordered, orderedItems_eq_map]
    exact read
  | @obj fs distinct _ ih =>
    rw [depth] at fits
    obtain ⟨room, rfl⟩ := Nat.exists_eq_succ_of_ne_zero (Nat.ne_zero_of_lt fits)
    have reads : ∀ y ∈ (sortedFields fs).map fun f => (f.1, indentedAt (d + 1) f.2, f.2.ordered),
        Reads room y.2.1 y.2.2 := by
      intro y hy
      obtain ⟨f, hf, rfl⟩ := List.mem_map.1 hy
      have hf := mem_sortedFields.1 hf
      exact ih f hf ((depth_le_fieldsDepth hf).trans (Nat.le_of_succ_le_succ fits))
    have names : (((sortedFields fs).map fun f =>
        (f.1, indentedAt (d + 1) f.2, f.2.ordered)).map (·.1)).Nodup := by
      rw [List.map_map]
      exact (((sortedFields_perm fs).map _).nodup_iff).2 distinct
    have read := reads_object (d := d) names reads
    rw [List.map_map, List.map_map] at read
    rw [indentedAt, indentedFields_eq_map, byName_map, List.map_map, ordered, orderedFields_eq_map,
      sortedFields_map]
    exact read

/-- A whole document is read back. -/
theorem readWithin_indented (sound : Sound v) (fits : v.depth ≤ room) :
    readWithin room v.indented = .ok v.ordered := by
  have reads : Reads room v.indented v.ordered := reads_indentedAt sound fits
  obtain ⟨c, u, hv, space, -⟩ := reads.head
  have read := reads (2 * v.indented.length + 2) [] (by omega) ends_nil
  rw [List.append_nil] at read
  have start : skip v.indented = v.indented := by
    rw [hv]
    exact skip_cons space u
  unfold readWithin
  rw [start, read]
  rfl

end JavaStudio.Json
