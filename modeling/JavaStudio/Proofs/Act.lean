import JavaStudio.Act
import Mathlib.Logic.Relation

/-!
# Where tasks and acts lead

`Task.bind_eq` and `Act.bind_eq_some` with their kin read a run off the runs of its parts.
`Task.Keeps g x` says that `x` does not change what `g` sees of the state.
`Act.Along r x` says that whenever `x` ends, with an answer or with a failure, it has come to its
end by steps of `r`; `Act.Ends x` that it always ends, and `Act.Total r x` both at once. Every way of
putting acts together keeps these. An act that `Looks` leaves the state alone.
-/

namespace JavaStudio

namespace Task

variable {σ τ α β : Type}

@[simp] theorem pure_apply (a : α) (s : σ) : (pure a : Task σ α) s = (.ok a, s) := rfl

@[simp] theorem throw_apply (e : Failure) (s : σ) : (throw e : Task σ α) s = (.error e, s) := rfl

@[simp] theorem ofExcept_apply (x : Except Failure α) (s : σ) : ofExcept x s = (x, s) := rfl

@[simp] theorem get_bind (f : σ → Task σ β) (s : σ) : (get >>= f) s = f s s := rfl

theorem modify_bind (f : σ → σ) (k : Unit → Task σ α) (s : σ) : (modify f >>= k) s = k () (f s) := rfl

theorem bind_eq {x : Task σ α} {f : α → Task σ β} {s s' : σ} {r : Except Failure β} :
    (x >>= f) s = (r, s') ↔
      (∃ a s₁, x s = (.ok a, s₁) ∧ f a s₁ = (r, s')) ∨
        ∃ e, x s = (.error e, s') ∧ r = .error e := by
  show Task.bind x f s = _ ↔ _
  unfold Task.bind
  rcases x s with ⟨e | a, s₁⟩
  · simp only [Prod.mk.injEq, reduceCtorEq, false_and, exists_false, false_or, Except.error.injEq]
    constructor
    · rintro ⟨rfl, rfl⟩; exact ⟨e, ⟨rfl, rfl⟩, rfl⟩
    · rintro ⟨_, ⟨rfl, rfl⟩, rfl⟩; exact ⟨rfl, rfl⟩
  · simp only [Prod.mk.injEq, Except.ok.injEq, reduceCtorEq, false_and, exists_false, or_false]
    constructor
    · intro h; exact ⟨a, s₁, ⟨rfl, rfl⟩, h⟩
    · rintro ⟨_, _, ⟨rfl, rfl⟩, h⟩; exact h

theorem bind_eq_ok {x : Task σ α} {f : α → Task σ β} {s s' : σ} {b : β} :
    (x >>= f) s = (.ok b, s') ↔ ∃ a s₁, x s = (.ok a, s₁) ∧ f a s₁ = (.ok b, s') := by
  rw [bind_eq]
  constructor
  · rintro (h | ⟨e, -, h⟩)
    · exact h
    · cases h
  · exact .inl

theorem bind_of_ok {x : Task σ α} {s s₁ : σ} {a : α} (h : x s = (.ok a, s₁)) (f : α → Task σ β) :
    (x >>= f) s = f a s₁ := by
  show Task.bind x f s = _
  rw [Task.bind, h]

theorem attempt_eq {x : Task σ α} {s s' : σ} {r : Except Failure (Except Failure α)} :
    x.attempt s = (r, s') ↔ ∃ q, r = .ok q ∧ x s = (q, s') := by
  unfold attempt
  rcases x s with ⟨q, s₁⟩
  simp only [Prod.mk.injEq]
  constructor
  · rintro ⟨rfl, rfl⟩; exact ⟨q, rfl, rfl, rfl⟩
  · rintro ⟨_, rfl, rfl, rfl⟩; exact ⟨rfl, rfl⟩

theorem tryCatch_eq {x : Task σ α} {h : Failure → Task σ α} {s s' : σ} {r : Except Failure α} :
    (tryCatch x h) s = (r, s') ↔
      (∃ a, x s = (.ok a, s') ∧ r = .ok a) ∨ ∃ e s₁, x s = (.error e, s₁) ∧ h e s₁ = (r, s') := by
  show Task.recover x h s = _ ↔ _
  unfold Task.recover
  rcases x s with ⟨e | a, s₁⟩
  · simp only [Prod.mk.injEq, reduceCtorEq, false_and, exists_false, false_or, Except.error.injEq]
    constructor
    · intro h'; exact ⟨e, s₁, ⟨rfl, rfl⟩, h'⟩
    · rintro ⟨_, _, ⟨rfl, rfl⟩, h'⟩; exact h'
  · simp only [Prod.mk.injEq, Except.ok.injEq, reduceCtorEq, false_and, exists_false, or_false]
    constructor
    · rintro ⟨rfl, rfl⟩; exact ⟨a, ⟨rfl, rfl⟩, rfl⟩
    · rintro ⟨b, ⟨rfl, rfl⟩, rfl⟩; exact ⟨rfl, rfl⟩

/-! ## What stays the same -/

/-- The task leaves what is seen of the state as it is. -/
def Keeps (g : σ → τ) (x : Task σ α) : Prop := ∀ s, g (x s).2 = g s

namespace Keeps

variable {g : σ → τ} {x : Task σ α} {f : α → Task σ β}

protected theorem bind (hx : Keeps g x) (hf : ∀ a, Keeps g (f a)) : Keeps g (x >>= f) := by
  intro s
  rcases hrun : (x >>= f) s with ⟨r, s'⟩
  rcases Task.bind_eq.1 hrun with ⟨a, s₁, first, rest⟩ | ⟨e, first, -⟩
  · have after := hf a s₁
    rw [rest] at after
    rw [after, ← hx s, first]
  · rw [← hx s, first]

protected theorem pure (a : α) : Keeps g (pure a : Task σ α) := fun _ => rfl

protected theorem get : Keeps g (get : Task σ σ) := fun _ => rfl

protected theorem ite {c : Prop} [Decidable c] {y : Task σ α} (hx : Keeps g x) (hy : Keeps g y) :
    Keeps g (if c then x else y) := by
  split
  · exact hx
  · exact hy

end Keeps

end Task

namespace Act

variable {σ α β : Type}

/-! ## Runs -/

@[simp] theorem pure_apply (a : α) (s : σ) : (pure a : Act σ α) s = some (.ok a, s) := rfl

@[simp] theorem throw_apply (e : Failure) (s : σ) :
    (throw e : Act σ α) s = some (.error e, s) := rfl

@[simp] theorem ofExcept_apply (x : Except Failure α) (s : σ) : ofExcept x s = some (x, s) := rfl

@[simp] theorem get_bind (f : σ → Act σ β) (s : σ) : (get >>= f) s = f s s := rfl

theorem bind_apply (x : Act σ α) (f : α → Act σ β) (s : σ) :
    (x >>= f) s = match x s with
      | some (.ok a, s) => f a s
      | some (.error e, s) => some (.error e, s)
      | none => none := rfl

theorem bind_of_ok {x : Act σ α} {s s₁ : σ} {a : α} (h : x s = some (.ok a, s₁))
    (f : α → Act σ β) : (x >>= f) s = f a s₁ := by
  rw [bind_apply, h]

theorem bind_of_error {x : Act σ α} {s s₁ : σ} {e : Failure} (h : x s = some (.error e, s₁))
    (f : α → Act σ β) : (x >>= f) s = some (.error e, s₁) := by
  rw [bind_apply, h]

theorem bind_eq_some {x : Act σ α} {f : α → Act σ β} {s s' : σ} {r : Except Failure β} :
    (x >>= f) s = some (r, s') ↔
      (∃ a s₁, x s = some (.ok a, s₁) ∧ f a s₁ = some (r, s')) ∨
        ∃ e, x s = some (.error e, s') ∧ r = .error e := by
  rw [bind_apply]
  rcases x s with _ | ⟨_ | a, s₁⟩
  · simp
  · simp only [Option.some.injEq, Prod.mk.injEq, reduceCtorEq, false_and, exists_false, false_or,
      Except.error.injEq]
    constructor
    · rintro ⟨rfl, rfl⟩; exact ⟨_, ⟨rfl, rfl⟩, rfl⟩
    · rintro ⟨e, ⟨rfl, rfl⟩, rfl⟩; exact ⟨rfl, rfl⟩
  · simp only [Option.some.injEq, Prod.mk.injEq, Except.ok.injEq, reduceCtorEq, false_and,
      exists_false, or_false]
    constructor
    · intro h; exact ⟨a, s₁, ⟨rfl, rfl⟩, h⟩
    · rintro ⟨_, _, ⟨rfl, rfl⟩, h⟩; exact h

theorem bind_eq_ok {x : Act σ α} {f : α → Act σ β} {s s' : σ} {b : β} :
    (x >>= f) s = some (.ok b, s') ↔ ∃ a s₁, x s = some (.ok a, s₁) ∧ f a s₁ = some (.ok b, s') := by
  rw [bind_eq_some]
  constructor
  · rintro (h | ⟨e, -, h⟩)
    · exact h
    · cases h
  · exact .inl

theorem bind_assoc {γ : Type} (x : Act σ α) (f : α → Act σ β) (g : β → Act σ γ) :
    (x >>= f) >>= g = x >>= fun a => f a >>= g := by
  funext s
  rw [bind_apply, bind_apply, bind_apply]
  rcases x s with _ | ⟨_ | a, s₁⟩ <;> rfl

theorem attempt_eq_some {x : Act σ α} {s s' : σ} {r : Except Failure (Except Failure α)} :
    x.attempt s = some (r, s') ↔ ∃ q, r = .ok q ∧ x s = some (q, s') := by
  unfold attempt
  rcases x s with _ | ⟨q, s₁⟩
  · simp
  · simp only [Option.some.injEq, Prod.mk.injEq]
    constructor
    · rintro ⟨rfl, rfl⟩; exact ⟨q, rfl, rfl, rfl⟩
    · rintro ⟨_, rfl, rfl, rfl⟩; exact ⟨rfl, rfl⟩

theorem attempt_bind {x : Act σ α} {s s₁ : σ} {q : Except Failure α} (h : x s = some (q, s₁))
    (f : Except Failure α → Act σ β) : (x.attempt >>= f) s = f q s₁ :=
  bind_of_ok (attempt_eq_some.2 ⟨q, rfl, h⟩) f

/-- An act goes on after an attempt, whatever came of that. -/
theorem attempt_bind_eq_some {x : Act σ α} {f : Except Failure α → Act σ β} {s s' : σ}
    {r : Except Failure β} :
    (x.attempt >>= f) s = some (r, s') ↔ ∃ q s₁, x s = some (q, s₁) ∧ f q s₁ = some (r, s') := by
  rw [bind_apply, attempt]
  rcases x s with _ | ⟨q, s₁⟩
  · simp
  · simp only [Option.some.injEq, Prod.mk.injEq]
    constructor
    · intro h
      exact ⟨q, s₁, ⟨rfl, rfl⟩, h⟩
    · rintro ⟨_, _, ⟨rfl, rfl⟩, h⟩
      exact h

theorem tryCatch_eq_some {x : Act σ α} {h : Failure → Act σ α} {s s' : σ} {r : Except Failure α} :
    (tryCatch x h) s = some (r, s') ↔
      (∃ a, x s = some (.ok a, s') ∧ r = .ok a) ∨
        ∃ e s₁, x s = some (.error e, s₁) ∧ h e s₁ = some (r, s') := by
  show Act.recover x h s = _ ↔ _
  unfold Act.recover
  rcases x s with _ | ⟨e | a, s₁⟩
  · simp
  · simp only [Option.some.injEq, Prod.mk.injEq, Except.error.injEq, reduceCtorEq, false_and,
      exists_false, false_or]
    constructor
    · intro h'; exact ⟨e, s₁, ⟨rfl, rfl⟩, h'⟩
    · rintro ⟨_, _, ⟨rfl, rfl⟩, h'⟩; exact h'
  · simp only [Option.some.injEq, Prod.mk.injEq, Except.ok.injEq, reduceCtorEq, false_and,
      exists_false, or_false]
    constructor
    · rintro ⟨rfl, rfl⟩; exact ⟨a, ⟨rfl, rfl⟩, rfl⟩
    · rintro ⟨b, ⟨rfl, rfl⟩, rfl⟩; exact ⟨rfl, rfl⟩

theorem ensuring_of_ok {x : Act σ α} {after : Act σ Unit} {s s₁ s₂ : σ} {q : Except Failure α}
    (hx : x s = some (q, s₁)) (ha : after s₁ = some (.ok (), s₂)) :
    x.ensuring after s = some (q, s₂) := by
  rw [ensuring, attempt_bind hx, bind_of_ok ha, ofExcept_apply]

theorem ensuring_of_error {x : Act σ α} {after : Act σ Unit} {s s₁ s₂ : σ} {q : Except Failure α}
    {e : Failure} (hx : x s = some (q, s₁)) (ha : after s₁ = some (.error e, s₂)) :
    x.ensuring after s = some (.error e, s₂) := by
  rw [ensuring, attempt_bind hx, bind_of_error ha]

/-! ## Looking -/

/-- The act leaves the state alone, whatever comes of it. -/
def Looks (x : Act σ α) : Prop :=
  ∀ ⦃s : σ⦄ ⦃a : Except Failure α⦄ ⦃s' : σ⦄, x s = some (a, s') → s' = s

namespace Looks

variable {x : Act σ α} {f : α → Act σ β}

protected theorem get : Looks (get : Act σ σ) := fun _ _ _ h => by cases h; rfl

protected theorem pure (a : α) : Looks (pure a : Act σ α) := fun _ _ _ h => by cases h; rfl

protected theorem throw (e : Failure) : Looks (throw e : Act σ α) := fun _ _ _ h => by cases h; rfl

protected theorem asks (g : σ → Except Failure α) : Looks (fun s => some (g s, s)) :=
  fun _ _ _ h => by cases h; rfl

protected theorem bind (hx : Looks x) (hf : ∀ a, Looks (f a)) : Looks (x >>= f) := by
  intro s b s' h
  rcases bind_eq_some.1 h with ⟨a, s₁, h₁, h₂⟩ | ⟨e, h₁, -⟩
  · rw [hf a h₂, hx h₁]
  · exact hx h₁

/-- After a look the next act goes on from the same state, or nothing else happens. -/
theorem bind_elim {s s' : σ} {r : Except Failure β} {p : Prop} (hx : Looks x)
    (h : (x >>= f) s = some (r, s')) (stops : ∀ e, r = .error e → s' = s → p)
    (goes : ∀ a, x s = some (.ok a, s) → f a s = some (r, s') → p) : p := by
  rcases bind_eq_some.1 h with ⟨a, s₁, h₁, h₂⟩ | ⟨e, h₁, hr⟩
  · obtain rfl := hx h₁
    exact goes a h₁ h₂
  · exact stops e hr (hx h₁)

end Looks

/-! ## Ways -/

/-- Whenever the act ends, steps of `r` lead from its start to its end. -/
def Along (r : σ → σ → Prop) (x : Act σ α) : Prop :=
  ∀ ⦃s : σ⦄ ⦃a : Except Failure α⦄ ⦃s' : σ⦄, x s = some (a, s') → Relation.ReflTransGen r s s'

/-- The same for the runs from one state. -/
def AlongFrom (r : σ → σ → Prop) (s : σ) (x : Act σ α) : Prop :=
  ∀ ⦃a : Except Failure α⦄ ⦃s' : σ⦄, x s = some (a, s') → Relation.ReflTransGen r s s'

/-- One act after another, where the second counts on what the first one found. -/
protected theorem AlongFrom.bind {r : σ → σ → Prop} {x : Act σ α} {f : α → Act σ β} {s : σ}
    (hx : AlongFrom r s x) (hf : ∀ a s₁, x s = some (.ok a, s₁) → AlongFrom r s₁ (f a)) :
    AlongFrom r s (x >>= f) := by
  intro b s' h
  rcases bind_eq_some.1 h with ⟨a, s₁, h₁, h₂⟩ | ⟨e, h₁, -⟩
  · exact (hx h₁).trans (hf a s₁ h₁ h₂)
  · exact hx h₁

namespace Along

variable {r : σ → σ → Prop} {x : Act σ α} {f : α → Act σ β}

theorem of_looks (h : Looks x) : Along r x := fun _ _ _ hx => h hx ▸ .refl

/-- An act that takes one step, if any. -/
theorem of_step (h : ∀ s a s', x s = some (a, s') → s' = s ∨ r s s') : Along r x := by
  intro s a s' hx
  rcases h s a s' hx with rfl | hs
  · exact .refl
  · exact .single hs

theorem alongFrom (h : Along r x) (s : σ) : AlongFrom r s x := fun _ _ hx => h hx

protected theorem from_bind {s : σ} (hx : Along r x)
    (hf : ∀ a s₁, x s = some (.ok a, s₁) → AlongFrom r s₁ (f a)) : AlongFrom r s (x >>= f) :=
  (hx.alongFrom s).bind hf

protected theorem pure (a : α) : Along r (pure a : Act σ α) := of_looks (.pure a)

protected theorem throw (e : Failure) : Along r (throw e : Act σ α) := of_looks (.throw e)

protected theorem ofExcept (q : Except Failure α) : Along r (ofExcept q) :=
  of_looks (.asks fun _ => q)

protected theorem get : Along r (get : Act σ σ) := of_looks .get

protected theorem forever : Along r (forever : Act σ α) := fun _ _ _ h => nomatch h

theorem asks (g : σ → Except Failure α) : Along r (fun s => some (g s, s)) := of_looks (.asks g)

protected theorem modify {g : σ → σ} (h : ∀ s, r s (g s)) : Along r (modify g : Act σ Unit) :=
  of_step fun s b s' hx => by cases hx; exact .inr (h s)

protected theorem bind (hx : Along r x) (hf : ∀ a, Along r (f a)) : Along r (x >>= f) := by
  intro s b s' h
  rcases bind_eq_some.1 h with ⟨a, s₁, h₁, h₂⟩ | ⟨e, h₁, -⟩
  · exact (hx h₁).trans (hf a h₂)
  · exact hx h₁

protected theorem attempt (hx : Along r x) : Along r x.attempt := by
  intro s b s' h
  obtain ⟨q, -, hq⟩ := attempt_eq_some.1 h
  exact hx hq

protected theorem tryCatch {h : Failure → Act σ α} (hx : Along r x) (hh : ∀ e, Along r (h e)) :
    Along r (tryCatch x h) := by
  intro s b s' hb
  rcases tryCatch_eq_some.1 hb with ⟨a, h₁, -⟩ | ⟨e, s₁, h₁, h₂⟩
  · exact hx h₁
  · exact (hx h₁).trans (hh e h₂)

protected theorem ensuring {after : Act σ Unit} (hx : Along r x) (ha : Along r after) :
    Along r (x.ensuring after) :=
  hx.attempt.bind fun q => ha.bind fun _ => .ofExcept q

protected theorem ite {p : Prop} [Decidable p] {y : Act σ α} (hx : Along r x) (hy : Along r y) :
    Along r (if p then x else y) := by
  split
  · exact hx
  · exact hy

end Along

/-! ## Ends -/

/-- The act ends, with an answer or with a failure, wherever it begins. -/
def Ends (x : Act σ α) : Prop := ∀ s, ∃ r s', x s = some (r, s')

namespace Ends

variable {x : Act σ α} {f : α → Act σ β}

protected theorem pure (a : α) : Ends (pure a : Act σ α) := fun s => ⟨_, s, rfl⟩

protected theorem throw (e : Failure) : Ends (throw e : Act σ α) := fun s => ⟨_, s, rfl⟩

protected theorem ofExcept (q : Except Failure α) : Ends (ofExcept q : Act σ α) :=
  fun s => ⟨q, s, rfl⟩

protected theorem get : Ends (get : Act σ σ) := fun s => ⟨_, s, rfl⟩

protected theorem modify (g : σ → σ) : Ends (modify g : Act σ Unit) := fun s => ⟨_, g s, rfl⟩

theorem asks (g : σ → Except Failure α) : Ends (fun s => some (g s, s)) := fun s => ⟨_, s, rfl⟩

protected theorem bind (hx : Ends x) (hf : ∀ a, Ends (f a)) : Ends (x >>= f) := by
  intro s
  obtain ⟨_ | a, s₁, h⟩ := hx s
  · exact ⟨_, _, bind_of_error h f⟩
  · rw [bind_of_ok h]
    exact hf a s₁

protected theorem attempt (hx : Ends x) : Ends x.attempt := by
  intro s
  obtain ⟨q, s', h⟩ := hx s
  exact ⟨_, s', attempt_eq_some.2 ⟨q, rfl, h⟩⟩

protected theorem ite {p : Prop} [Decidable p] {y : Act σ α} (hx : Ends x) (hy : Ends y) :
    Ends (if p then x else y) := by
  split
  · exact hx
  · exact hy

end Ends

/-! ## Total acts -/

/-- The act ends, and `r` relates the state in which it began to the one in which it ended. -/
def Total (r : σ → σ → Prop) (x : Act σ α) : Prop := ∀ s, ∃ a s', x s = some (a, s') ∧ r s s'

namespace Total

variable {r r' : σ → σ → Prop} {x : Act σ α} {f : α → Act σ β}

protected theorem ends (h : Total r x) : Ends x := fun s =>
  let ⟨a, s', run, _⟩ := h s
  ⟨a, s', run⟩

/-- What is known of the end of a total act is known of every run of it. -/
theorem post (h : Total r x) {s s' : σ} {a : Except Failure α} (run : x s = some (a, s')) :
    r s s' := by
  obtain ⟨_, _, run', hr⟩ := h s
  cases run.symm.trans run'
  exact hr

protected theorem along (h : Total r x) : Along r x := fun _ _ _ run => .single (h.post run)

theorem mono (h : Total r x) (hr : ∀ {s s'}, r s s' → r' s s') : Total r' x := fun s =>
  let ⟨a, s', run, post⟩ := h s
  ⟨a, s', run, hr post⟩

section

variable [Std.Refl r]

theorem of_looks (ends : Ends x) (looks : Looks x) : Total r x := by
  intro s
  obtain ⟨a, s', run⟩ := ends s
  obtain rfl := looks run
  exact ⟨a, s', run, refl s'⟩

protected theorem pure (a : α) : Total r (pure a : Act σ α) := of_looks (.pure a) (.pure a)

protected theorem throw (e : Failure) : Total r (throw e : Act σ α) := of_looks (.throw e) (.throw e)

protected theorem ofExcept (q : Except Failure α) : Total r (ofExcept q : Act σ α) :=
  of_looks (.ofExcept q) (.asks fun _ => q)

protected theorem get : Total r (get : Act σ σ) := of_looks .get .get

theorem asks (g : σ → Except Failure α) : Total r (fun s => some (g s, s)) :=
  of_looks (.asks g) (.asks g)

end

theorem of_along [Std.Refl r] [IsTrans σ r] (ends : Ends x) (along : Along r x) : Total r x := by
  intro s
  obtain ⟨a, s', run⟩ := ends s
  have post := along run
  rw [Relation.reflTransGen_eq_self] at post
  exact ⟨a, s', run, post⟩

protected theorem bind [IsTrans σ r] (hx : Total r x) (hf : ∀ a, Total r (f a)) :
    Total r (x >>= f) := by
  intro s
  obtain ⟨_ | a, s₁, run, post⟩ := hx s
  · exact ⟨_, s₁, bind_of_error run f, post⟩
  · obtain ⟨b, s', run', post'⟩ := hf a s₁
    rw [bind_of_ok run]
    exact ⟨b, s', run', IsTrans.trans _ _ _ post post'⟩

protected theorem attempt (hx : Total r x) : Total r x.attempt := by
  intro s
  obtain ⟨q, s', run, post⟩ := hx s
  exact ⟨_, s', attempt_eq_some.2 ⟨q, rfl, run⟩, post⟩

end Total

end Act

end JavaStudio
