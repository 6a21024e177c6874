import JavaStudio.Proofs.Act

/-!
# Chains with labels

In a labelled chain some steps carry a label and others do not. The labels are listed in the order of
their steps. What acts do along such chains (`Linked`) is put together as what they do along any
relation; such chains are steps themselves, so a run is one (`Act.Along.post`).
-/

namespace JavaStudio

variable {σ ε α : Type}

/-- A chain of steps from a state. Each step of `step` carries a label, those of `aside` carry none. -/
inductive Labelled (aside : σ → σ → Prop) (step : ε → σ → σ → Prop) (s : σ) : List ε → σ → Prop
  | start : Labelled aside step s [] s
  | aside {es : List ε} {s₁ s₂ : σ} : Labelled aside step s es s₁ → aside s₁ s₂ →
      Labelled aside step s es s₂
  | step {es : List ε} {e : ε} {s₁ s₂ : σ} : Labelled aside step s es s₁ → step e s₁ s₂ →
      Labelled aside step s (es ++ [e]) s₂

variable {aside : σ → σ → Prop} {step : ε → σ → σ → Prop}

namespace Labelled

variable {s s₁ s₂ : σ} {es fs : List ε}

theorem trans (h : Labelled aside step s es s₁) (h' : Labelled aside step s₁ fs s₂) :
    Labelled aside step s (es ++ fs) s₂ := by
  induction h' with
  | start => rwa [List.append_nil]
  | aside _ hs ih => exact ih.aside hs
  | step _ hs ih =>
    rw [← List.append_assoc]
    exact ih.step hs

end Labelled

/-- Some labelled chain leads from a state to another. -/
def Linked (aside : σ → σ → Prop) (step : ε → σ → σ → Prop) (s s' : σ) : Prop :=
  ∃ es, Labelled aside step s es s'

instance : Std.Refl (Linked aside step) := ⟨fun _ => ⟨[], .start⟩⟩

instance : IsTrans σ (Linked aside step) :=
  ⟨fun _ _ _ ⟨es, h⟩ ⟨fs, h'⟩ => ⟨es ++ fs, h.trans h'⟩⟩

theorem Linked.of_aside {s s' : σ} (h : aside s s') : Linked aside step s s' :=
  ⟨[], Labelled.start.aside h⟩

theorem Linked.of_step {e : ε} {s s' : σ} (h : step e s s') : Linked aside step s s' :=
  ⟨_, Labelled.start.step h⟩

/-- Where chains of steps are steps, a run is one. -/
theorem Act.AlongFrom.post {x : Act σ α} {r : σ → σ → Prop} [Std.Refl r] [IsTrans σ r] {s s' : σ}
    (h : AlongFrom r s x) {a : Except Failure α} (run : x s = some (a, s')) : r s s' := by
  have chain := h run
  rwa [Relation.reflTransGen_eq_self] at chain

namespace Act.Along

variable {x : Act σ α}

theorem post {r : σ → σ → Prop} [Std.Refl r] [IsTrans σ r] (h : Along r x) {s s' : σ}
    {a : Except Failure α} (run : x s = some (a, s')) : r s s' :=
  (h.alongFrom s).post run

theorem mono {r r' : σ → σ → Prop} (h : Along r x) (hr : ∀ {s s'}, r s s' → r' s s') : Along r' x :=
  fun _ _ _ run => Relation.ReflTransGen.mono (fun _ _ => hr) _ _ (h run)

end Act.Along

end JavaStudio
