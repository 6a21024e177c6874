import JavaStudio.Proofs.Studio.Desk
import JavaStudio.Proofs.Studio.Runs

/-!
# Closing by consent

No document with unsaved changes is closed unless every listener that was subscribed when the
question began either has no handler for it or consents (`Consented`).

* `Step.removes`: a step that takes a document from the desk is taken by consent.
* `closes_by_consent`: so are all steps of a run, and every call that closes documents ends in one
  of the ways of `Closing` and `Closings`: a refusal, or the failure of a listener, keeps the
  document. A listener that ends the program breaks the call off (`closeDocument_interrupted`).
-/

namespace JavaStudio

variable {S α : Type}

namespace Desk

theorem holds_append {k : Desk} {d e : DocId} {ds : List Document} {ix : PathIndex} {n : Nat}
    (h : k.holds d = true) : (Desk.mk ds (k.registered ++ [e]) ix n).holds d = true :=
  holds_iff.2 (List.mem_append_left _ (holds_iff.1 h))

theorem holds_saved {k : Desk} {d e : DocId} {p : Path} (h : k.holds d = true) :
    (k.saved e p).holds d = true := by
  rw [holds_iff, saved_registered]
  exact holds_iff.1 h

theorem holds_remove {k : Desk} {d e : DocId} (hne : d ≠ e) (h : k.holds d = true) :
    (k.remove e).holds d = true :=
  holds_iff.2 ((List.mem_erase_of_ne hne).2 (holds_iff.1 h))

end Desk

namespace Studio

variable {t : Terms S} {s s' : Studio S}

/-! ## Steps -/

/-- A step keeps every document on the desk, or takes it by consent. -/
theorem Step.removes {d : DocId} (h : Step t s s') (held : s.desk.holds d = true) :
    s'.desk.holds d = true ∨ ∃ c s₀, t.crew c ∧ Consented c d s₀ s := by
  cases h with
  | aside desk _ _ => rw [desk]; exact .inl held
  | noted _ desk _ _ => rw [desk]; exact .inl held
  | touched _ _ desk _ => rw [desk]; exact .inl held
  | created desk _ _ => rw [desk]; exact .inl (Desk.holds_append held)
  | opened _ _ _ _ _ desk _ _ => rw [desk]; exact .inl (Desk.holds_append held)
  | saved _ _ _ _ _ desk _ => rw [desk]; exact .inl (Desk.holds_saved held)
  | closed consent _ desk _ _ =>
    rename_i e _ _ _
    -- consent was given for `e` only, and the document may be another one
    by_cases he : d = e
    · rw [he]
      exact .inr consent
    · rw [desk]
      exact .inl (Desk.holds_remove he held)
  | edited _ desk _ _ => rw [desk]; exact .inl held

/-- A step that takes documents from the desk only by consent. -/
def ByConsent (t : Terms S) (s s' : Studio S) : Prop :=
  Step t s s' ∧ ∀ d, s.desk.holds d = true → s'.desk.holds d = false →
    ∃ c s₀, t.crew c ∧ Consented c d s₀ s

theorem Step.byConsent (h : Step t s s') : ByConsent t s s' := by
  refine ⟨h, fun d held gone => ?_⟩
  rcases h.removes held with kept | consent
  · rw [gone] at kept
    cases kept
  · exact consent

/-! ## Calls -/

/-- How the calls that close documents end. -/
structure AsksFirst (c : Collaborators S) : Prop where
  closeDocument : ∀ d s r s', closeDocument c d s = some (r, s') ↔ Closing c d s r s'
  closeAll : ∀ s r s', closeAll c s = some (r, s') → Closings c s r s'
  quit : ∀ departure s r s', quit c departure s = some (r, s') →
    ∃ q s₁, Closings c s q s₁ ∧
      ((q = .ok true ∧ ∃ p, leave c departure s₁ = some (p, s') ∧ r = p.map fun _ => true) ∨
        (q = .ok false ∧ r = .ok false ∧ s' = s₁.logged quitCancelled) ∨
        (∃ f, q = .error f ∧ r = .error f ∧ s' = s₁))

theorem asksFirst (c : Collaborators S) : AsksFirst c where
  closeDocument _ _ _ _ := closeDocument_eq_some
  closeAll _ _ _ := closeAll_closings
  quit _ _ _ _ := quit_closings

/-! ## Runs -/

/-- In every run of every cast documents are taken from the desk by consent only, and every call
that closes documents, however deep it is nested, asks first. -/
theorem closes_by_consent (k : Cast S) (patience depth : Nat) (script : Script S α)
    {s s' : Studio S} {r : Except Failure α}
    (run : script.run (k.collaborators patience depth) s = some (r, s')) :
    Relation.ReflTransGen (ByConsent (k.terms patience True True)) s s' ∧
      ∀ n, AsksFirst (k.collaborators patience n) := by
  have steps : Relation.ReflTransGen (Step (k.terms patience True True)) s s' :=
    script.run_free k patience run
  exact ⟨Relation.ReflTransGen.mono (fun _ _ step => step.byConsent) _ _ steps,
    fun n => asksFirst _⟩

/-! ## A listener that is asked -/

theorem closes_by_consent_hearing : ∃ s',
    Script.run ((Cast.hearing .abandonQuery (.done true)).collaborators 1 1)
      (.call (.document 0 .close) fun _ => .done ()) (unsavedAmong []) = some (.ok (), s') ∧
    s'.desk.registered = [] ∧
    Relation.ReflTransGen (ByConsent ((Cast.hearing .abandonQuery (.done true)).terms 1 True True))
      (unsavedAmong []) s' ∧
    ∀ n, AsksFirst ((Cast.hearing .abandonQuery (.done true)).collaborators 1 n) :=
  ⟨_, rfl, rfl, closes_by_consent (Cast.hearing .abandonQuery (.done true)) 1 1
    (.call (.document 0 .close) fun _ => .done ()) rfl⟩

/-- A listener that breaks the program off when it is asked: the call does not come to an answer. -/
theorem closeDocument_interrupted : ∃ s',
    Breaks ((Cast.hearing .abandonQuery (.fail (.interrupted ""))).collaborators 1 1)
      (abandonQuery 0) (.outside 0)
      ((unsavedAmong []).marked (.asked (abandonQuery 0) (unsavedAmong []).scene))
      (.interrupted "") s' ∧
    closeDocument ((Cast.hearing .abandonQuery (.fail (.interrupted ""))).collaborators 1 1) 0
      (unsavedAmong []) = some (.error (.interrupted ""), s') ∧
    s'.desk.registered = [0] :=
  ⟨_, ⟨_, rfl, rfl, rfl⟩, rfl, rfl⟩

end Studio

end JavaStudio
