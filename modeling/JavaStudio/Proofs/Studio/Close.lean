import JavaStudio.Proofs.Studio.Poll

/-!
# Closing documents

`closeDocument` either finds nothing to give up or asks all listeners. `Closing` lists the four ways
in which a call of it can end, and `Closings` the runs of `closeAll` as chains of such calls.

* `closeDocument_eq_some`: the calls of `closeDocument` are exactly those of `Closing`.
* `closeAll_closings`, `quit_closings`: closing all documents and leaving the studio remove
  documents by such calls only.
-/

namespace JavaStudio.Studio

variable {S : Type} {c : Collaborators S} {d : DocId} {s s' : Studio S}

/-! ## Giving up changes -/

/-- The question whether the changes of a document may be given up. -/
abbrev abandonQuery (d : DocId) : Event := ⟨.abandonQuery, some d⟩

/-- The poll on a document, from the state in which it begins. -/
def Polled (c : Collaborators S) (d : DocId) (s : Studio S) (vs : List Vote) (s' : Studio S) :
    Prop :=
  Poll c (abandonQuery d) s.bus (s.marked (.asked (abandonQuery d) s.scene)) vs s'

/-- The changes of a document may be given up: there are none, or every listener that was subscribed
when the poll began consents. The second state is the one after the poll. -/
inductive Consented (c : Collaborators S) (d : DocId) : Studio S → Studio S → Prop
  | clean {s : Studio S} : (s.desk.document d).buffer.modified = false → Consented c d s s
  | polled {s s' : Studio S} {vs : List Vote} : (s.desk.document d).buffer.modified = true →
      Polled c d s vs s' → (∀ v ∈ vs, v.consents = true) → Consented c d s s'

/-- A listener refuses to give the changes of a document up, or fails when it is asked. -/
def Refused (c : Collaborators S) (d : DocId) (s s' : Studio S) : Prop :=
  (s.desk.document d).buffer.modified = true ∧
    ∃ vs, Polled c d s vs s' ∧ ∃ v ∈ vs, v.consents = false

/-- A listener ends the program when it is asked about a document. -/
def BrokenOff (c : Collaborators S) (d : DocId) (s : Studio S) (f : Failure) (s' : Studio S) :
    Prop :=
  (s.desk.document d).buffer.modified = true ∧
    PollBreaks c (abandonQuery d) s.bus (s.marked (.asked (abandonQuery d) s.scene)) f s'

theorem canAbandon_eq_some {r : Except Failure Bool} :
    canAbandon c d s = some (r, s') ↔
      (Consented c d s s' ∧ r = .ok true) ∨ (Refused c d s s' ∧ r = .ok false) ∨
        ∃ f, BrokenOff c d s f s' ∧ r = .error f := by
  unfold canAbandon
  rw [Act.get_bind]
  cases hm : (s.desk.document d).buffer.modified with
  | false =>
    simp only [Bool.false_eq_true, if_false, Act.pure_apply, Option.some.injEq, Prod.mk.injEq]
    constructor
    · rintro ⟨rfl, rfl⟩
      exact .inl ⟨.clean hm, rfl⟩
    · rintro (⟨hc, rfl⟩ | ⟨⟨h, -⟩, -⟩ | ⟨f, ⟨h, -⟩, -⟩)
      · cases hc with
        | clean => exact ⟨rfl, rfl⟩
        | polled h => exact absurd (hm.symm.trans h) (by decide)
      · exact absurd (hm.symm.trans h) (by decide)
      · exact absurd (hm.symm.trans h) (by decide)
  | true =>
    simp only [if_true]
    rw [ask_eq_some]
    constructor
    · rintro (⟨vs, hp, rfl⟩ | ⟨f, hb, rfl⟩)
      · cases hv : vs.all Vote.consents with
        | true => exact .inl ⟨.polled hm hp (List.all_eq_true.1 hv), rfl⟩
        | false =>
          obtain ⟨v, hmem, hno⟩ := List.all_eq_false.1 hv
          exact .inr (.inl ⟨⟨hm, vs, hp, v, hmem, by simpa using hno⟩, rfl⟩)
      · exact .inr (.inr ⟨f, ⟨hm, hb⟩, rfl⟩)
    · rintro (⟨hc, rfl⟩ | ⟨⟨-, vs, hp, v, hv, hno⟩, rfl⟩ | ⟨f, ⟨-, hb⟩, rfl⟩)
      · cases hc with
        | clean h => exact absurd (h.symm.trans hm) (by decide)
        | polled _ hp hv => exact .inl ⟨_, hp, by rw [List.all_eq_true.2 hv]⟩
      · refine .inl ⟨vs, hp, ?_⟩
        rw [List.all_eq_false.2 ⟨v, hv, by simp [hno]⟩]
      · exact .inr ⟨f, hb, rfl⟩

/-! ## One document -/

/-- The studio after a document was taken from its desk. -/
def without (s : Studio S) (d : DocId) : Studio S := { s with desk := s.desk.remove d }

/-- How a call to close a document can end. The listeners are told after it was removed, and what
they do then is not undone. -/
inductive Closing (c : Collaborators S) (d : DocId) (s : Studio S) :
    Except Failure Bool → Studio S → Prop
  | removed {s₁ s' : Studio S} {q : Except Failure Unit} :
      Consented c d s s₁ → s₁.desk.holds d = true →
      announce c ⟨.documentClosed, some d⟩ (s₁.without d) = some (q, s') →
      Closing c d s (q.map fun _ => true) s'
  | absent {s' : Studio S} : Consented c d s s' → s'.desk.holds d = false →
      Closing c d s (.ok false) s'
  | refused {s' : Studio S} : Refused c d s s' → Closing c d s (.ok false) s'
  | broken {s' : Studio S} {f : Failure} : BrokenOff c d s f s' → Closing c d s (.error f) s'

theorem removeAndTell_apply (s : Studio S) :
    (do
      onDesk fun k => k.remove d
      announce c ⟨.documentClosed, some d⟩
      return true : Act (Studio S) Bool) s =
      (announce c ⟨.documentClosed, some d⟩ (s.without d)).map
        fun (q, s') => (q.map fun _ => true, s') := by
  show (announce c ⟨.documentClosed, some d⟩ >>= fun _ => pure true) (s.without d) = _
  rw [Act.bind_apply]
  rcases announce c ⟨.documentClosed, some d⟩ (s.without d) with _ | ⟨_ | _, _⟩ <;> rfl

theorem closeDocument_eq_some {r : Except Failure Bool} :
    closeDocument c d s = some (r, s') ↔ Closing c d s r s' := by
  unfold closeDocument
  rw [Act.bind_eq_some]
  simp only [canAbandon_eq_some]
  constructor
  · rintro (⟨b, s₁, ⟨hc, hb⟩ | ⟨hr, hb⟩ | ⟨f, -, hb⟩, hrest⟩ |
      ⟨f, ⟨-, hb⟩ | ⟨-, hb⟩ | ⟨f', hf, hb⟩, rfl⟩)
    · cases hb
      simp only [if_true, Act.get_bind] at hrest
      cases hd : s₁.desk.holds d with
      | true =>
        simp only [hd, if_true, removeAndTell_apply, Option.map_eq_some_iff] at hrest
        obtain ⟨⟨q, s₂⟩, ha, heq⟩ := hrest
        cases heq
        exact .removed hc hd ha
      | false =>
        simp only [hd, Bool.false_eq_true, if_false] at hrest
        cases hrest
        exact .absent hc hd
    · cases hb
      simp only [Bool.false_eq_true, if_false] at hrest
      cases hrest
      exact .refused hr
    · cases hb
    · cases hb
    · cases hb
    · cases hb
      exact .broken hf
  · intro h
    cases h with
    | removed hc hd ha =>
      refine .inl ⟨true, _, .inl ⟨hc, rfl⟩, ?_⟩
      simp only [if_true, Act.get_bind, hd, removeAndTell_apply, ha]
      rfl
    | absent hc hd =>
      refine .inl ⟨true, _, .inl ⟨hc, rfl⟩, ?_⟩
      simp only [if_true, Act.get_bind, hd, Bool.false_eq_true, if_false]
      rfl
    | refused hr => exact .inl ⟨false, _, .inr (.inl ⟨hr, rfl⟩), rfl⟩
    | broken hf => exact .inr ⟨_, .inr (.inr ⟨_, hf, rfl⟩), rfl⟩

/-! ## All documents -/

/-- Calls that close the document that is the first at their time, one after another: until none is
left, one that stays is refused or one fails. -/
inductive Closings (c : Collaborators S) : Studio S → Except Failure Bool → Studio S → Prop
  | empty {s : Studio S} : s.desk.registered = [] → Closings c s (.ok true) s
  | next {s s₁ s' : Studio S} {d : DocId} {b : Bool} {r : Except Failure Bool} :
      s.desk.registered.head? = some d → closeDocument c d s = some (.ok b, s₁) →
      (b = false → s₁.desk.holds d = false) → Closings c s₁ r s' → Closings c s r s'
  | refused {s s' : Studio S} {d : DocId} : s.desk.registered.head? = some d →
      closeDocument c d s = some (.ok false, s') → s'.desk.holds d = true →
      Closings c s (.ok false) s'
  | failed {s s' : Studio S} {d : DocId} {f : Failure} : s.desk.registered.head? = some d →
      closeDocument c d s = some (.error f, s') → Closings c s (.error f) s'

theorem closeFrom_closings {r : Except Failure Bool} (n : Nat)
    (h : closeFrom c n s = some (r, s')) : Closings c s r s' := by
  -- on the patience: a close may leave as many documents as before, since listeners may open some
  induction n generalizing s with
  | zero => cases h
  | succ n ih =>
    rw [closeFrom, Act.get_bind] at h
    rcases hr : s.desk.registered with _ | ⟨d, ds⟩
    · simp only [hr] at h
      cases h
      exact .empty hr
    · have first : s.desk.registered.head? = some d := by rw [hr, List.head?_cons]
      simp only [hr] at h
      rcases Act.bind_eq_some.1 h with ⟨b, s₁, hclose, hrest⟩ | ⟨f, hclose, rfl⟩
      · cases b with
        | true =>
          simp only [if_true] at hrest
          exact .next first hclose nofun (ih hrest)
        | false =>
          simp only [Bool.false_eq_true, if_false, Act.get_bind] at hrest
          cases hd : s₁.desk.holds d with
          | true =>
            simp only [hd, if_true] at hrest
            cases hrest
            exact .refused first hclose hd
          | false =>
            simp only [hd, Bool.false_eq_true, if_false] at hrest
            exact .next first hclose (fun _ => hd) (ih hrest)
      · exact .failed first hclose

theorem closeAll_closings {r : Except Failure Bool} (h : closeAll c s = some (r, s')) :
    Closings c s r s' :=
  closeFrom_closings c.patience h

/-- The studio is left only after all documents were closed. -/
theorem quit_closings {departure : Departure} {r : Except Failure Bool}
    (h : quit c departure s = some (r, s')) :
    ∃ q s₁, Closings c s q s₁ ∧
      ((q = .ok true ∧ ∃ p, leave c departure s₁ = some (p, s') ∧ r = p.map fun _ => true) ∨
        (q = .ok false ∧ r = .ok false ∧ s' = s₁.logged quitCancelled) ∨
        (∃ f, q = .error f ∧ r = .error f ∧ s' = s₁)) := by
  unfold quit at h
  rcases Act.bind_eq_some.1 h with ⟨b, s₁, hclose, hrest⟩ | ⟨f, hclose, rfl⟩
  · refine ⟨_, s₁, closeAll_closings hclose, ?_⟩
    cases b with
    | true =>
      refine .inl ⟨rfl, ?_⟩
      simp only [if_true] at hrest
      rcases Act.bind_eq_some.1 hrest with ⟨_, s₂, hl, hr⟩ | ⟨f, hl, rfl⟩
      · cases hr
        exact ⟨_, hl, rfl⟩
      · exact ⟨_, hl, rfl⟩
    | false =>
      simp only [Bool.false_eq_true, if_false] at hrest
      cases hrest
      exact .inr (.inl ⟨rfl, rfl, rfl⟩)
  · exact ⟨_, s', closeAll_closings hclose, .inr (.inr ⟨f, rfl, rfl, rfl⟩)⟩

end JavaStudio.Studio
