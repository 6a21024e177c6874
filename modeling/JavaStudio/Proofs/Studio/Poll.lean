import JavaStudio.Proofs.Act
import JavaStudio.Studio.Lifetime

/-!
# Polls

What came of asking a listener is a `Vote`; `Poll c e ls s vs s'` says that the listeners `ls`,
asked one after another from `s` on, gave the votes `vs` and left `s'`. Nobody is left out after a
refusal. A listener that ends the program breaks the poll off (`PollBreaks`).

* `ask_eq_some`: a question asks exactly the listeners that were subscribed when it began; its
  answer is whether all votes consent.
-/

namespace JavaStudio.Studio

variable {S : Type} {c : Collaborators S} {e : Event} {l : Listener} {ls : List Listener}
  {s s' : Studio S} {f : Failure}

/-- What came of asking a listener: it has no handler for the question, it answered or it failed. -/
inductive Vote
  | silent
  | answered (answer : Bool)
  | failed (f : Failure)
  deriving DecidableEq, Repr

/-- A listener without a handler consents, one that failed does not. -/
def Vote.consents : Vote → Bool
  | silent => true
  | answered b => b
  | failed _ => false

/-- The studio after a record was added to the log. -/
def logged (s : Studio S) (r : LogRecord) : Studio S :=
  { s with host := { s.host with log := s.host.log ++ [r] } }

/-- The studio after a moment was added to the journal. -/
def marked (s : Studio S) (m : Moment) : Studio S := { s with journal := s.journal ++ [m] }

/-! ## One listener -/

/-- How a listener votes on a question. -/
inductive Votes (c : Collaborators S) (e : Event) (l : Listener) :
    Studio S → Vote → Studio S → Prop
  | silent {s : Studio S} : handlerOf c l e = none → Votes c e l s .silent s
  | answered {s s' : Studio S} {handler : Act (Studio S) Bool} {b : Bool} :
      handlerOf c l e = some handler → handler s = some (.ok b, s') → Votes c e l s (.answered b) s'
  | failed {s s' : Studio S} {handler : Act (Studio S) Bool} {f : Failure} :
      handlerOf c l e = some handler → handler s = some (.error f, s') → f.isOrdinary = true →
      Votes c e l s (.failed f) (s'.logged (handlerFailed c l "answering" e f))

/-- A listener ends the program when it is called. -/
def Breaks (c : Collaborators S) (e : Event) (l : Listener) (s : Studio S) (f : Failure)
    (s' : Studio S) : Prop :=
  ∃ handler, handlerOf c l e = some handler ∧ handler s = some (.error f, s') ∧
    f.isOrdinary = false

theorem guardedCall_eq_some {doing : String} {handler : Act (Studio S) Bool}
    {r : Except Failure (Option Bool)} :
    guardedCall c l doing e handler s = some (r, s') ↔
      (∃ b, handler s = some (.ok b, s') ∧ r = .ok (some b)) ∨
      (∃ f s₁, handler s = some (.error f, s₁) ∧ f.isOrdinary = true ∧ r = .ok none ∧
        s' = s₁.logged (handlerFailed c l doing e f)) ∨
      ∃ f, handler s = some (.error f, s') ∧ f.isOrdinary = false ∧ r = .error f := by
  unfold guardedCall
  rw [Act.attempt_bind_eq_some]
  constructor
  · rintro ⟨q, s₁, hq, hr⟩
    rcases q with f | b
    · cases hf : f.isOrdinary with
      | true =>
        simp only [hf, if_true] at hr
        cases hr
        exact .inr (.inl ⟨f, s₁, hq, hf, rfl, rfl⟩)
      | false =>
        simp only [hf, Bool.false_eq_true, if_false] at hr
        cases hr
        exact .inr (.inr ⟨f, hq, hf, rfl⟩)
    · cases hr
      exact .inl ⟨b, hq, rfl⟩
  · rintro (⟨b, hb, rfl⟩ | ⟨f, s₁, hf, ho, rfl, rfl⟩ | ⟨f, hf, ho, rfl⟩)
    · exact ⟨_, s', hb, rfl⟩
    · refine ⟨_, s₁, hf, ?_⟩
      simp only [ho, if_true]
      rfl
    · refine ⟨_, s', hf, ?_⟩
      simp only [ho, Bool.false_eq_true, if_false]
      rfl

theorem askOne_eq_some {r : Except Failure Bool} :
    askOne c e l s = some (r, s') ↔
      (∃ v, Votes c e l s v s' ∧ r = .ok v.consents) ∨ ∃ f, Breaks c e l s f s' ∧ r = .error f := by
  unfold askOne
  rcases hh : handlerOf c l e with _ | handler
  · constructor
    · intro h
      cases h
      exact .inl ⟨.silent, .silent hh, rfl⟩
    · rintro (⟨v, hv, rfl⟩ | ⟨f, ⟨handler, hh', -⟩, -⟩)
      · cases hv with
        | silent => rfl
        | answered hh' => exact absurd hh' (by simp [hh])
        | failed hh' => exact absurd hh' (by simp [hh])
      · rw [hh] at hh'
        cases hh'
  · rw [Act.bind_eq_some]
    constructor
    · rintro (⟨a, s₁, hg, hr⟩ | ⟨f, hg, rfl⟩)
      · cases hr
        rcases guardedCall_eq_some.1 hg with ⟨b, hb, ha⟩ | ⟨f, s₂, hf, ho, ha, rfl⟩ | ⟨f, -, -, ha⟩
        · cases ha
          exact .inl ⟨.answered b, .answered hh hb, rfl⟩
        · cases ha
          exact .inl ⟨.failed f, .failed hh hf ho, rfl⟩
        · cases ha
      · rcases guardedCall_eq_some.1 hg with ⟨b, -, ha⟩ | ⟨f', s₂, -, -, ha, -⟩ | ⟨f', hf, ho, ha⟩
        · cases ha
        · cases ha
        · cases ha
          exact .inr ⟨f, ⟨handler, hh, hf, ho⟩, rfl⟩
    · rintro (⟨v, hv, rfl⟩ | ⟨f, ⟨handler', hh', hf, ho⟩, rfl⟩)
      · refine .inl ?_
        cases hv with
        | silent hn => exact absurd hn (by simp [hh])
        | answered hh' hb =>
          cases hh.symm.trans hh'
          exact ⟨_, s', guardedCall_eq_some.2 (.inl ⟨_, hb, rfl⟩), rfl⟩
        | failed hh' hf ho =>
          cases hh.symm.trans hh'
          exact ⟨_, _, guardedCall_eq_some.2 (.inr (.inl ⟨_, _, hf, ho, rfl, rfl⟩)), rfl⟩
      · cases hh.symm.trans hh'
        exact .inr ⟨f, guardedCall_eq_some.2 (.inr (.inr ⟨f, hf, ho, rfl⟩)), rfl⟩

/-! ## All listeners -/

/-- A poll that comes to its end: every listener votes, from the state that the one before it left.
-/
inductive Poll (c : Collaborators S) (e : Event) :
    List Listener → Studio S → List Vote → Studio S → Prop
  | nil {s : Studio S} : Poll c e [] s [] s
  | cons {l : Listener} {ls : List Listener} {s s₁ s' : Studio S} {v : Vote} {vs : List Vote} :
      Votes c e l s v s₁ → Poll c e ls s₁ vs s' → Poll c e (l :: ls) s (v :: vs) s'

/-- A poll that a listener breaks off, after some others voted. -/
inductive PollBreaks (c : Collaborators S) (e : Event) :
    List Listener → Studio S → Failure → Studio S → Prop
  | here {l : Listener} {ls : List Listener} {s s' : Studio S} {f : Failure} :
      Breaks c e l s f s' → PollBreaks c e (l :: ls) s f s'
  | later {l : Listener} {ls : List Listener} {s s₁ s' : Studio S} {v : Vote} {f : Failure} :
      Votes c e l s v s₁ → PollBreaks c e ls s₁ f s' → PollBreaks c e (l :: ls) s f s'

theorem askAll_eq_some {r : Except Failure Bool} :
    askAll c e ls s = some (r, s') ↔
      (∃ vs, Poll c e ls s vs s' ∧ r = .ok (vs.all Vote.consents)) ∨
        ∃ f, PollBreaks c e ls s f s' ∧ r = .error f := by
  induction ls generalizing s s' r with
  | nil =>
    constructor
    · intro h
      cases h
      exact .inl ⟨[], .nil, rfl⟩
    · rintro (⟨vs, hp, rfl⟩ | ⟨f, hb, -⟩)
      · cases hp
        rfl
      · cases hb
  | cons l ls ih =>
    rw [askAll, Act.bind_eq_some]
    simp only [askOne_eq_some, Act.bind_eq_some, ih]
    constructor
    · rintro (⟨b, s₁, hv | ⟨f, -, hf⟩, hrest⟩ | ⟨f, ⟨v, -, hv⟩ | ⟨f', hb, hf⟩, rfl⟩)
      · obtain ⟨v, hv, hb⟩ := hv
        cases hb
        rcases hrest with ⟨b, s₂, ⟨vs, hp, hb⟩ | ⟨f, -, hf⟩, hr⟩ |
          ⟨f, ⟨vs, -, hb⟩ | ⟨f', hb, hf⟩, rfl⟩
        · cases hb
          cases hr
          exact .inl ⟨v :: vs, .cons hv hp, rfl⟩
        · cases hf
        · cases hb
        · cases hf
          exact .inr ⟨f, .later hv hb, rfl⟩
      · cases hf
      · cases hv
      · cases hf
        exact .inr ⟨f, .here hb, rfl⟩
    · rintro (⟨vs, hp, rfl⟩ | ⟨f, hb, rfl⟩)
      · cases hp with
        | cons hv hp =>
          exact .inl ⟨_, _, .inl ⟨_, hv, rfl⟩, .inl ⟨_, _, .inl ⟨_, hp, rfl⟩, rfl⟩⟩
      · cases hb with
        | here hb => exact .inr ⟨f, .inr ⟨f, hb, rfl⟩, rfl⟩
        | later hv hb => exact .inl ⟨_, _, .inl ⟨_, hv, rfl⟩, .inr ⟨f, .inr ⟨f, hb, rfl⟩, rfl⟩⟩

/-- A question asks the listeners that are subscribed when it begins, and says whether all of them
consent. -/
theorem ask_eq_some {r : Except Failure Bool} :
    ask c e s = some (r, s') ↔
      (∃ vs, Poll c e s.bus (s.marked (.asked e s.scene)) vs s' ∧ r = .ok (vs.all Vote.consents)) ∨
        ∃ f, PollBreaks c e s.bus (s.marked (.asked e s.scene)) f s' ∧ r = .error f :=
  askAll_eq_some

end JavaStudio.Studio
