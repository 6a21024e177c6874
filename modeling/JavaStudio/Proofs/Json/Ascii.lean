import JavaStudio.Proofs.Json.ReadBack

/-!
# Documents are written in ASCII

A written document has printable ASCII characters and line feeds, so that its bytes hold it in any
encoding and its line ends stay as they are.
-/

namespace JavaStudio.Json

open Binary64

variable {c : Char} {d n : Nat} {t u : Text} {v : Json}

/-- A character that is written: a line feed or a printable one of ASCII. -/
def IsPlain (c : Char) : Prop := c = '\n' ∨ 32 ≤ c.toNat ∧ c.toNat ≤ 126

instance (c : Char) : Decidable (IsPlain c) := inferInstanceAs (Decidable (_ ∨ _))

/-- A text of characters that are written. -/
def Plain (t : Text) : Prop := ∀ c ∈ t, IsPlain c

instance (t : Text) : Decidable (Plain t) := List.decidableBAll IsPlain t

theorem plain_nil : Plain [] := nofun

theorem Plain.cons (hc : IsPlain c) (ht : Plain t) : Plain (c :: t) := fun _ hd =>
  (List.mem_cons.1 hd).elim (fun h => h ▸ hc) (ht _)

theorem Plain.append (ht : Plain t) (hu : Plain u) : Plain (t ++ u) := fun c hc =>
  (List.mem_append.1 hc).elim (ht c) (hu c)

theorem plain_replicate (hc : IsPlain c) (n : Nat) : Plain (List.replicate n c) := fun _ hd =>
  List.eq_of_mem_replicate hd ▸ hc

theorem plain_join {sep : Text} {ts : List Text} (hsep : Plain sep) (h : ∀ t ∈ ts, Plain t) :
    Plain (Text.join sep ts) := by
  induction ts with
  | nil => exact plain_nil
  | cons t ts ih =>
    have first := h t List.mem_cons_self
    have rest := ih fun u hu => h u (List.mem_cons_of_mem t hu)
    cases ts with
    | nil => exact first
    | cons u ts => exact (first.append hsep).append rest

/-! ## Scalars -/

theorem isPlain_digit (h : isAsciiDigit c = true) : IsPlain c := by
  have range := isAsciiDigit_iff.1 h
  simp only [Char.isDigit, Bool.and_eq_true, decide_eq_true_eq, ge_iff_le,
    UInt32.le_iff_toNat_le] at range
  have low : 48 ≤ c.toNat := range.1
  have high : c.toNat ≤ 57 := range.2
  exact .inr ⟨by omega, by omega⟩

theorem Digits.plain (h : Digits t) : Plain t := fun c hc => isPlain_digit (h c hc)

theorem plain_unit (h : n < 0x10000) : Plain (unit n) := by
  have digit : ∀ k < 16, IsPlain (Nat.digitChar k) := by decide
  unfold unit
  rw [hex_four h]
  exact .cons (by decide) (.cons (by decide) (.cons (digit _ (by omega)) (.cons (digit _ (by omega))
    (.cons (digit _ (by omega)) (.cons (digit _ (by omega)) plain_nil)))))

theorem plain_charText (c : Char) : Plain (charText c) := by
  have limit := Utf8.toNat_lt_limit c
  have escape : ∀ d, IsPlain d → Plain ['\\', d] := fun d hd => .cons (by decide) (.cons hd plain_nil)
  unfold charText
  split
  · exact escape _ (by decide)
  split
  · exact escape _ (by decide)
  split
  · exact escape _ (by decide)
  split
  · exact escape _ (by decide)
  split
  · exact escape _ (by decide)
  split
  · exact escape _ (by decide)
  split
  · exact escape _ (by decide)
  simp only
  split
  · rename_i printable
    exact .cons (.inr (by simpa using printable)) plain_nil
  split
  · rename_i small
    exact plain_unit small
  · exact (plain_unit (by omega)).append (plain_unit (by omega))

theorem plain_charTexts (t : Text) : Plain (t.flatMap charText) := fun c hc => by
  obtain ⟨d, -, hd⟩ := List.mem_flatMap.1 hc
  exact plain_charText d c hd

theorem plain_wideText (w : Wide) : Plain (wideText w) := by
  induction w with
  | text t => exact plain_charTexts t
  | torn t half rest ih => exact ((plain_charTexts t).append (plain_unit (unit_lt half))).append ih

theorem Plain.between {quote : Char} (hq : IsPlain quote) (h : Plain t) :
    Plain (quote :: t ++ [quote]) :=
  (Plain.cons hq h).append (.cons hq plain_nil)

theorem plain_stringText (s : String) : Plain (stringText s) :=
  (plain_charTexts s.toList).between (by decide)

theorem plain_exponentText (e : Int) : Plain (exponentText e) := by
  unfold exponentText
  refine .cons (by split <;> decide) ?_
  split
  · exact .cons (by decide) (digits_ofNat _).plain
  · exact (digits_ofNat _).plain

theorem plain_layout (n : Nat) (k : Int) : Plain (layout n k) := by
  obtain ⟨z, all, -⟩ := dropZeros_spec n
  have digits : Plain (dropZeros (Text.ofNat n)) := fun c hc =>
    isPlain_digit (digits_ofNat n c (all ▸ List.mem_append_left _ hc))
  have taken : ∀ j, Plain ((dropZeros (Text.ofNat n)).take j) := fun j c hc =>
    digits c (List.mem_of_mem_take hc)
  have dropped : ∀ j, Plain ((dropZeros (Text.ofNat n)).drop j) := fun j c hc =>
    digits c (List.mem_of_mem_drop hc)
  unfold layout
  simp only
  generalize (if n = 0 then 1 else ((Text.ofNat n).length : Int) + k) = point
  split
  · refine ((taken 1).append ?_).append (.cons (by decide) (plain_exponentText _))
    have rest := dropped 1
    split
    · exact plain_nil
    · exact .cons (by decide) rest
  split
  · exact .append (.cons (by decide) (.cons (by decide) (plain_replicate (by decide) _))) digits
  · refine ((taken _).append (plain_replicate (by decide) _)).append (.cons (by decide) ?_)
    split
    · exact .cons (by decide) plain_nil
    · exact dropped _

theorem plain_numberText (x : Number) : Plain (numberText x) := by
  cases x with
  | int i =>
    cases i with
    | ofNat n => exact (digits_ofNat n).plain
    | negSucc n => exact .cons (by decide) (digits_ofNat (n + 1)).plain
  | float x =>
    cases x with
    | nan =>
      show Plain (Text.ofString "NaN")
      decide
    | infinite negative =>
      cases negative with
      | false =>
        show Plain (Text.ofString "Infinity")
        decide
      | true =>
        show Plain (Text.ofString "-Infinity")
        decide
    | finite negative m q =>
      refine .append ?_ (plain_layout _ _)
      split
      · exact .cons (by decide) plain_nil
      · exact plain_nil

/-! ## Documents -/

theorem plain_newline (d : Nat) : Plain (newline d) :=
  .cons (by decide) (plain_replicate (by decide) _)

theorem plain_block {opening closing : Char} {ts : List Text} (ho : IsPlain opening)
    (hc : IsPlain closing) (h : ∀ t ∈ ts, Plain t) : Plain (block d opening closing ts) := by
  unfold block
  split
  · exact .cons ho (.cons hc plain_nil)
  · exact (((Plain.cons ho (plain_newline _)).append
      (plain_join (.cons (by decide) (plain_newline _)) h)).append (plain_newline _)).append
        (.cons hc plain_nil)

theorem plain_scalarText (v : Json) : Plain (scalarText v) := by
  have null : Plain (Text.ofString "null") := by decide
  cases v with
  | bool b => cases b <;> (unfold scalarText; decide)
  | num x => exact plain_numberText x
  | str s => exact plain_stringText s
  | torn t half rest => exact (plain_wideText _).between (by decide)
  | _ => exact null

mutual

/-- A written document is plain. -/
theorem plain_indentedAt (d : Nat) (v : Json) : Plain (indentedAt d v) := by
  cases v with
  | arr vs => exact plain_block (by decide) (by decide) (plain_indentedItems (d + 1) vs)
  | obj fs =>
    rw [indentedAt]
    refine plain_block (by decide) (by decide) fun t ht => ?_
    obtain ⟨f, hf, rfl⟩ := List.mem_map.1 ht
    have value := plain_indentedFields (d + 1) fs f (List.mem_mergeSort.1 hf)
    exact ((plain_stringText f.1).append (.cons (by decide) (.cons (by decide) plain_nil))).append value
  | _ =>
    unfold indentedAt
    exact plain_scalarText _

theorem plain_indentedItems (d : Nat) (vs : List Json) : ∀ t ∈ indentedItems d vs, Plain t := by
  cases vs with
  | nil => exact fun _ ht => absurd ht List.not_mem_nil
  | cons v vs =>
    intro t ht
    rcases List.mem_cons.1 ht with rfl | ht
    · exact plain_indentedAt d v
    · exact plain_indentedItems d vs t ht

theorem plain_indentedFields (d : Nat) (fs : List (String × Json)) :
    ∀ f ∈ indentedFields d fs, Plain f.2 := by
  cases fs with
  | nil => exact fun _ hf => absurd hf List.not_mem_nil
  | cons g fs =>
    intro f hf
    rcases List.mem_cons.1 hf with rfl | hf
    · exact plain_indentedAt d g.2
    · exact plain_indentedFields d fs f hf

end

theorem Plain.no_return (h : Plain t) : '\r' ∉ t := fun hr => by
  rcases h _ hr with h | h
  · cases h
  · exact absurd h (by decide)

end JavaStudio.Json
