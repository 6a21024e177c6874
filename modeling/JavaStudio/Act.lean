import JavaStudio.Failure

/-!
# Steps with a state

A `Task` always comes to an end: with an answer or a failure, and with the state that it leaves. An
`Act` may call out to collaborators that call back, so it may also run on for ever, which is `none`.
In both a failure keeps the changes made before it.
-/

namespace JavaStudio

/-- A step that ends, with an answer or a failure and the state after it. -/
def Task (σ α : Type) : Type := σ → Except Failure α × σ

namespace Task

variable {σ τ α β : Type}

/-- The step that gives an answer and does nothing. -/
protected def pure (a : α) : Task σ α := fun s => (.ok a, s)

/-- One step after another; a failure ends both. -/
protected def bind (x : Task σ α) (f : α → Task σ β) : Task σ β := fun s =>
  match x s with
  | (.ok a, s) => f a s
  | (.error e, s) => (.error e, s)

/-- A step and what to do with its failure. -/
protected def recover (x : Task σ α) (h : Failure → Task σ α) : Task σ α := fun s =>
  match x s with
  | (.ok a, s) => (.ok a, s)
  | (.error e, s) => h e s

instance : Monad (Task σ) where
  pure := Task.pure
  bind := Task.bind

instance : MonadExceptOf Failure (Task σ) where
  throw e := fun s => (.error e, s)
  tryCatch := Task.recover

instance : MonadStateOf σ (Task σ) where
  get := fun s => (.ok s, s)
  set s := fun _ => (.ok (), s)
  modifyGet f := fun s => let (a, s) := f s; (.ok a, s)

/-- The answer or failure of a pure computation. -/
def ofExcept (x : Except Failure α) : Task σ α := fun s => (x, s)

/-- A step on a part of the state. -/
def within (part : τ → σ) (put : σ → τ → τ) (x : Task σ α) : Task τ α := fun t =>
  let (r, s) := x (part t)
  (r, put s t)

/-- Runs a step and gives its failure as a value. -/
def attempt (x : Task σ α) : Task σ (Except Failure α) := fun s =>
  let (r, s) := x s
  (.ok r, s)

end Task

/-- A step that may never end; when it ends, it does so as a `Task` does. -/
def Act (σ α : Type) : Type := σ → Option (Except Failure α × σ)

namespace Act

variable {σ τ α β : Type}

/-- The step that gives an answer and does nothing. -/
protected def pure (a : α) : Act σ α := fun s => some (.ok a, s)

/-- One step after another; a failure ends both. -/
protected def bind (x : Act σ α) (f : α → Act σ β) : Act σ β := fun s =>
  match x s with
  | some (.ok a, s) => f a s
  | some (.error e, s) => some (.error e, s)
  | none => none

/-- A step and what to do with its failure. -/
protected def recover (x : Act σ α) (h : Failure → Act σ α) : Act σ α := fun s =>
  match x s with
  | some (.ok a, s) => some (.ok a, s)
  | some (.error e, s) => h e s
  | none => none

instance : Monad (Act σ) where
  pure := Act.pure
  bind := Act.bind

instance : MonadExceptOf Failure (Act σ) where
  throw e := fun s => some (.error e, s)
  tryCatch := Act.recover

instance : MonadStateOf σ (Act σ) where
  get := fun s => some (.ok s, s)
  set s := fun _ => some (.ok (), s)
  modifyGet f := fun s => let (a, s) := f s; some (.ok a, s)

/-- The step that never ends. -/
def forever : Act σ α := fun _ => none

/-- A step that ends, on a part of the state. -/
def ofTask (part : τ → σ) (put : σ → τ → τ) (x : Task σ α) : Act τ α := fun t =>
  let (r, s) := x (part t)
  some (r, put s t)

/-- The answer or failure of a pure computation. -/
def ofExcept (x : Except Failure α) : Act σ α := fun s => some (x, s)

/-- Runs a step and gives its failure as a value. -/
def attempt (x : Act σ α) : Act σ (Except Failure α) := fun s =>
  match x s with
  | some (r, s) => some (.ok r, s)
  | none => none

/-- A step and another that is run after it, whether it fails or not. A failure of the second is
the one that counts. -/
def ensuring (x : Act σ α) (after : Act σ Unit) : Act σ α := do
  let r ← x.attempt
  after
  ofExcept r

end Act

end JavaStudio
