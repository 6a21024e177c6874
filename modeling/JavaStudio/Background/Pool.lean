import JavaStudio.Background.Queue

/-!
# Work in the background

A pool runs work away from the caller and hands what came of it to a completion, either at once or by
way of a queue. What a completion does at once is guarded: an ordinary failure is noted by the pool and
goes no further, and any other one reaches whoever runs the completion. That is the caller if the work
was done when it was handed over, and else the worker, which it ends.
-/

namespace JavaStudio

/-- Where the completion of a piece of work runs. -/
inductive Dispatch
  | atOnce
  | queued
  deriving DecidableEq, Repr

/-- A pool of workers that takes work or was shut down. -/
structure Pool where
  workers : Int := 1
  closed : Bool := false
  dispatch : Dispatch := .atOnce
  deriving DecidableEq, Repr

namespace Pool

variable {σ κ α : Type}

/-- Whether the pool takes work. -/
def accepts (p : Pool) : Except Failure Unit :=
  if p.workers ≤ 0 then .error .noWorkers
  else if p.closed then .error .poolClosed
  else .ok ()

/-- Hands a completion over. -/
def complete (p : Pool) (q : Queue σ κ) (run : κ → Act σ Unit) (k : κ) : Act σ Unit :=
  match p.dispatch with
  | .atOnce => do
    match ← (run k).attempt with
    | .ok () => pure ()
    | .error f => if f.isOrdinary then pure () else throw f
  | .queued => fun s => some (.ok (), q.put k s)

/-- Runs work and hands its outcome to the completion made for it. -/
def submit (p : Pool) (q : Queue σ κ) (run : κ → Act σ Unit) (work : Act σ α)
    (completion : Except Failure α → κ) : Act σ (Except Failure α) := do
  Act.ofExcept p.accepts
  let outcome ← work.attempt
  p.complete q run (completion outcome)
  return outcome

end Pool

end JavaStudio
