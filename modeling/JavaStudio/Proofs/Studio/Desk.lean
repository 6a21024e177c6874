import JavaStudio.Proofs.Studio.Step

/-!
# The desk in step

A desk keeps three things that have to agree: the registered documents, the path of each document
and the index from paths to registered documents. `Desk.InStep` says that they do and that the
documents are registered in the order in which they were made; every change of the desk that a step
makes keeps that.
-/

namespace JavaStudio

namespace PathIndex

theorem find?_eraseOld (old : Option Path) (p : Path) (ix : PathIndex) :
    find? p (eraseOld old ix) = if old = some p then none else find? p ix := by
  cases old with
  | none => rfl
  | some q =>
    split
    · rename_i h
      cases h
      exact find?_erase_same p ix
    · rename_i h
      exact find?_erase_other (fun hp => h (by rw [hp])) ix

theorem find?_put (p q : Path) (d : DocId) (ix : PathIndex) :
    find? q (put p d ix) = if q = p then some d else find? q ix := by
  split
  · rename_i h
    rw [h, find?_put_same]
  · rename_i h
    exact find?_put_other h d ix

end PathIndex

namespace Desk

variable {k : Desk} {d e : DocId} {p : Path} {b : Buffer}

/-! ## Documents after a change -/

theorem document_change (k : Desk) (d e : DocId) (f : Document → Document) :
    (k.change d f).document e =
      if d = e ∧ e < k.documents.length then f (k.document e) else k.document e := by
  unfold change document
  rw [List.getElem?_modify]
  rcases Nat.lt_or_ge e k.documents.length with h | h
  · rw [List.getElem?_eq_getElem h]
    by_cases hd : d = e <;> simp [hd, h]
  · rw [List.getElem?_eq_none h]
    simp [Nat.not_lt.2 h]

theorem path_change {f : Document → Document} (hf : ∀ doc, (f doc).path = doc.path) :
    ((k.change d f).document e).path = (k.document e).path := by
  rw [document_change]
  split
  · exact hf _
  · rfl

theorem path_changeBuffer (f : Buffer → Buffer) :
    ((k.changeBuffer d f).document e).path = (k.document e).path :=
  path_change fun _ => rfl

theorem document_append (doc : Document) (ds : List DocId) (ix : PathIndex) (n : Nat) :
    (Desk.document ⟨k.documents ++ [doc], ds, ix, n⟩ e) =
      if e = k.documents.length then doc else k.document e := by
  unfold document
  split
  · rename_i h
    rw [h, List.getElem?_concat_length, Option.getD_some]
  · rename_i h
    rw [List.getElem?_append]
    split
    · rfl
    · rename_i hlt
      have beyond : k.documents.length < e := Nat.lt_of_le_of_ne (Nat.not_lt.1 hlt) (Ne.symm h)
      rw [List.getElem?_eq_none (l := [doc]) (Nat.sub_pos_of_lt beyond),
        List.getElem?_eq_none (Nat.le_of_lt beyond)]

theorem length_change (f : Document → Document) :
    (k.change d f).documents.length = k.documents.length := List.length_modify ..

theorem holds_iff : k.holds d = true ↔ d ∈ k.registered := List.contains_iff_mem

theorem rebind_documents (k : Desk) (d : DocId) (p : Path) :
    (k.rebind d p).documents = k.documents := by
  unfold rebind
  split <;> rfl

theorem rebind_registered (k : Desk) (d : DocId) (p : Path) :
    (k.rebind d p).registered = k.registered := by
  unfold rebind
  split <;> rfl

theorem rebind_document (k : Desk) (d e : DocId) (p : Path) :
    (k.rebind d p).document e = k.document e := by
  unfold document
  rw [rebind_documents]

theorem saved_registered (k : Desk) (d : DocId) (p : Path) :
    (k.saved d p).registered = k.registered :=
  rebind_registered _ d p

theorem saved_length (k : Desk) (d : DocId) (p : Path) :
    (k.saved d p).documents.length = k.documents.length := by
  unfold saved
  rw [length_change, rebind_documents]
  exact length_change _

theorem saved_document (k : Desk) (d e : DocId) (p : Path) :
    (k.saved d p).document e =
      if d = e ∧ e < k.documents.length then
        { k.document e with buffer := (k.document e).buffer.markSaved, path := some p }
      else k.document e := by
  unfold saved
  rw [document_change, rebind_documents, rebind_document, changeBuffer, length_change,
    document_change]
  split <;> rfl

theorem saved_index (k : Desk) (d : DocId) (p : Path) :
    (k.saved d p).index =
      if k.holds d then (k.index.eraseOld (k.document d).path).put p d else k.index := by
  have h : (k.saved d p).index = ((k.changeBuffer d Buffer.markSaved).rebind d p).index := rfl
  rw [h, rebind]
  have held : (k.changeBuffer d Buffer.markSaved).holds d = k.holds d := rfl
  have path : ((k.changeBuffer d Buffer.markSaved).document d).path = (k.document d).path :=
    path_changeBuffer _
  rw [held, path]
  split <;> rfl

/-! ## The paths that documents get -/

theorem path_addUntitled (h : ((k.addUntitled b).document d).path = some p) :
    (k.document d).path = some p := by
  rw [addUntitled, document_append] at h
  split at h
  · cases h
  · exact h

theorem path_addOpened {target : Path} (h : ((k.addOpened target b).document d).path = some p) :
    (k.document d).path = some p ∨ p = target := by
  rw [addOpened, document_append] at h
  split at h
  · cases h
    exact .inr rfl
  · exact .inl h

theorem path_saved {target : Path} (h : ((k.saved e target).document d).path = some p) :
    (k.document d).path = some p ∨ p = target := by
  rw [saved_document] at h
  split at h
  · cases h
    exact .inr rfl
  · exact .inl h

/-- A registered document that was saved is found at its target. -/
theorem findAt_saved (held : k.holds d = true) : (k.saved d p).findAt p = some d := by
  have held' : (k.saved d p).holds d = true := by
    rw [holds_iff, saved_registered]
    exact holds_iff.1 held
  unfold findAt
  rw [saved_index, if_pos held, PathIndex.find?_put, if_pos rfl]
  simp only [held', if_true]

/-! ## The invariant -/

/-- Index, paths and registered documents agree, and the documents are registered in the order in
which they were made. -/
structure InStep (k : Desk) : Prop where
  index : ∀ p d, k.index.find? p = some d ↔ d ∈ k.registered ∧ (k.document d).path = some p
  order : k.registered.Sublist (List.range k.documents.length)

namespace InStep

theorem empty : InStep {} where
  index p d := by simp [PathIndex.find?]
  order := List.nil_sublist _

/-- A registered document was made. -/
theorem lt_length (h : k.InStep) (hd : d ∈ k.registered) : d < k.documents.length :=
  List.mem_range.1 (h.order.subset hd)

theorem nodup (h : k.InStep) : k.registered.Nodup := h.order.nodup List.nodup_range

/-- No two registered documents have the same path. -/
theorem unique (h : k.InStep) (hd : d ∈ k.registered) (he : e ∈ k.registered)
    (pd : (k.document d).path = some p) (pe : (k.document e).path = some p) : d = e := by
  have found := (h.index p d).2 ⟨hd, pd⟩
  rw [(h.index p e).2 ⟨he, pe⟩] at found
  exact (Option.some.inj found).symm

theorem findAt_eq (h : k.InStep) (p : Path) : k.findAt p = k.index.find? p := by
  unfold findAt
  split
  · rename_i d hd
    rw [if_pos (holds_iff.2 ((h.index p d).1 hd).1), hd]
  · rename_i hn
    exact hn.symm

theorem findAt_eq_some (h : k.InStep) :
    k.findAt p = some d ↔ d ∈ k.registered ∧ (k.document d).path = some p := by
  rw [h.findAt_eq, h.index]

theorem find_eq_some (h : k.InStep) {fs : Files} {q : Path} :
    k.find fs q = .ok (some d) ↔
      d ∈ k.registered ∧ ∃ p, fs.locate q = .ok p ∧ (k.document d).path = some p := by
  unfold find
  rcases fs.locate q with f | p
  · simp
  · simp [h.findAt_eq_some]

/-- What is found at a target is what is kept there, if resolving the target again changes nothing.
-/
theorem findAt_of_find (h : k.InStep) {fs : Files} {target : Path} {found : Option DocId}
    (settled : ∀ e ∈ k.registered, (k.document e).path = some target →
      fs.locate target = .ok target)
    (look : k.find fs target = .ok found) (own : found = none ∨ found = some d) :
    k.findAt target = none ∨ k.findAt target = some d := by
  rcases hat : k.findAt target with _ | e
  · exact .inl rfl
  · obtain ⟨he, hpath⟩ := h.findAt_eq_some.1 hat
    rw [Desk.find, settled e he hpath] at look
    cases look
    rwa [hat] at own

/-! ## What keeps it -/

theorem changeBuffer (h : k.InStep) (d : DocId) (f : Buffer → Buffer) :
    (k.changeBuffer d f).InStep where
  index p e := by
    rw [path_changeBuffer]
    exact h.index p e
  order := by
    rw [Desk.changeBuffer, length_change]
    exact h.order

theorem register (h : k.InStep) :
    (k.registered ++ [k.nextId]).Sublist (List.range (k.documents.length + 1)) := by
  rw [List.range_succ]
  exact h.order.append (List.Sublist.refl _)

theorem addUntitled (h : k.InStep) (b : Buffer) : (k.addUntitled b).InStep where
  index p e := by
    rw [Desk.addUntitled, document_append]
    simp only [List.mem_append, List.mem_singleton, nextId]
    split
    · rename_i he
      rw [h.index p e, he]
      simp only [reduceCtorEq, and_false, iff_false, not_and]
      exact fun hmem => absurd (h.lt_length hmem) (Nat.lt_irrefl _)
    · rename_i he
      rw [h.index p e]
      simp only [he, or_false]
  order := by
    simp only [Desk.addUntitled, List.length_append, List.length_singleton]
    exact h.register

theorem addOpened (h : k.InStep) (free : k.findAt p = none) (b : Buffer) :
    (k.addOpened p b).InStep where
  index q e := by
    rw [h.findAt_eq] at free
    rw [Desk.addOpened, document_append, PathIndex.find?_put]
    simp only [List.mem_append, List.mem_singleton, nextId]
    by_cases hq : q = p
    · subst hq
      rw [if_pos rfl]
      constructor
      · intro he
        cases he
        simp
      · rintro ⟨hmem, hp⟩
        split at hp
        · rename_i he
          rw [he]
        · rename_i he
          have held : e ∈ k.registered := hmem.resolve_right he
          rw [(h.index q e).2 ⟨held, hp⟩] at free
          cases free
    · rw [if_neg hq, h.index q e]
      split
      · rename_i he
        subst he
        constructor
        · exact fun ⟨hmem, _⟩ => absurd (h.lt_length hmem) (Nat.lt_irrefl _)
        · exact fun ⟨_, hp⟩ => absurd (Option.some.inj hp).symm hq
      · rename_i he
        simp only [he, or_false]
  order := by
    simp only [Desk.addOpened, List.length_append, List.length_singleton]
    exact h.register

theorem remove (h : k.InStep) (d : DocId) (held : k.holds d = true) : (k.remove d).InStep where
  index p e := by
    have same : (k.remove d).document e = k.document e := rfl
    rw [same, Desk.remove, PathIndex.find?_eraseOld, h.nodup.mem_erase_iff]
    split
    · rename_i hp
      simp only [reduceCtorEq, false_iff, not_and]
      rintro ⟨hne, he⟩ hpe
      exact hne (h.unique he (holds_iff.1 held) hpe hp)
    · rename_i hp
      rw [h.index p e]
      constructor
      · rintro ⟨he, hpe⟩
        exact ⟨⟨fun hed => hp (hed ▸ hpe), he⟩, hpe⟩
      · rintro ⟨⟨-, he⟩, hpe⟩
        exact ⟨he, hpe⟩
  order := (List.erase_sublist).trans h.order

/-- A document moves to a path that no other registered document has. -/
theorem saved (h : k.InStep) (own : k.findAt p = none ∨ k.findAt p = some d) :
    (k.saved d p).InStep where
  index q e := by
    rw [saved_index, saved_registered, saved_document]
    rw [h.findAt_eq] at own
    cases held : k.holds d with
    | false =>
      have hd : d ∉ k.registered := fun hmem => by rw [holds_iff.2 hmem] at held; cases held
      simp only [Bool.false_eq_true, if_false, h.index q e]
      split
      · rename_i he
        rw [← he.1]
        simp [hd]
      · rfl
    | true =>
      have hd : d ∈ k.registered := holds_iff.1 held
      simp only [if_true, PathIndex.find?_put, PathIndex.find?_eraseOld]
      by_cases hde : d = e
      · subst hde
        simp only [h.lt_length hd, and_self, if_true, hd, true_and, Option.some.injEq]
        by_cases hq : q = p
        · simp [hq]
        · rw [if_neg hq]
          simp only [Ne.symm hq, iff_false]
          split
          · nofun
          · rename_i hold
            exact fun hf => hold ((h.index q d).1 hf).2
      · simp only [hde, false_and, if_false]
        by_cases hq : q = p
        · subst hq
          rw [if_pos rfl]
          simp only [Option.some.injEq, hde, false_iff]
          intro he
          rw [(h.index q e).2 he] at own
          rcases own with hnone | hsome
          · cases hnone
          · exact hde (Option.some.inj hsome).symm
        · rw [if_neg hq]
          split
          · rename_i hold
            simp only [reduceCtorEq, false_iff]
            exact fun ⟨he, hpe⟩ => hde (h.unique hd he hold hpe)
          · exact h.index q e
  order := by
    rw [saved_registered, saved_length]
    exact h.order

end InStep

end Desk

end JavaStudio
