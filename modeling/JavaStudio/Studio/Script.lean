import JavaStudio.Studio.Command

/-!
# Scripts

What a collaborator of the studio may do while it is called: look at the studio, change its own part of
the state, note what it saw, write to the log and give commands. `Script.run` plays a script; a command
that fails does not end it, since the script sees the failure and decides.
-/

namespace JavaStudio

/-- What a collaborator does when it is called, up to an answer of type `α` or a failure. -/
inductive Script (S α : Type)
  | done (a : α)
  | fail (f : Failure)
  | look (next : Studio S → Script S α)
  | change (f : S → S) (next : Script S α)
  | note (row : Json) (next : Script S α)
  | report (r : LogRecord) (next : Script S α)
  | call (command : Command DocId CompilerId) (next : Except Failure Reply → Script S α)

namespace Script

variable {S α β : Type}

/-- One script after another. -/
protected def bind : Script S α → (α → Script S β) → Script S β
  | done a, k => k a
  | fail f, _ => fail f
  | look next, k => look fun s => (next s).bind k
  | change f next, k => change f (next.bind k)
  | note row next, k => note row (next.bind k)
  | report r next, k => report r (next.bind k)
  | call command next, k => call command fun r => (next r).bind k

instance : Monad (Script S) where
  pure := done
  bind := Script.bind

/-- The answer or failure of a pure computation. -/
def ofExcept : Except Failure α → Script S α
  | .ok a => done a
  | .error f => fail f

/-- Plays a script to its end and gives its failure as a value. -/
def attempt : Script S α → Script S (Except Failure α)
  | done a => done (.ok a)
  | fail f => done (.error f)
  | look next => look fun s => (next s).attempt
  | change f next => change f next.attempt
  | note row next => note row next.attempt
  | report r next => report r next.attempt
  | call command next => call command fun r => (next r).attempt

/-- A look at the studio. -/
def see (f : Studio S → α) : Script S α := look fun s => done (f s)

/-- Changes the collaborators' own state. -/
def update (f : S → S) : Script S Unit := change f (done ())

/-- Notes a row. -/
def jot (row : Json) : Script S Unit := note row (done ())

/-- Writes records to the log. -/
def reportAll : List LogRecord → Script S Unit
  | [] => done ()
  | r :: rs => report r (reportAll rs)

/-- Gives a command; its failure is the script's. -/
def command (k : Command DocId CompilerId) : Script S Reply := call k ofExcept

/-- Plays a script. The return of every command goes into the journal. -/
def run (c : Collaborators S) : Script S α → Act (Studio S) α
  | done a => pure a
  | fail f => throw f
  | look next => fun s => (next s).run c s
  | change f next => do
    modify fun s => { s with stage := f s.stage }
    next.run c
  | note row next => do
    Studio.record (.noted row)
    next.run c
  | report r next => do
    Studio.report r
    next.run c
  | call command next => do
    let r ← (command.run c).attempt
    Studio.mark .returned
    (next r).run c

end Script

end JavaStudio
