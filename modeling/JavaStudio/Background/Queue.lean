import JavaStudio.Act
import JavaStudio.Number.Basic

/-!
# Queues of callbacks

Callbacks wait in a queue until someone drains it. A drain runs them in the order in which they were
put, those that they put themselves too; one that fails is gone and ends the drain, and the others
stay. The state that holds the queue is left open: `Queue` says how a state holds one.
-/

namespace JavaStudio

/-- A queue of callbacks inside a state: how to see it and how to change it. -/
structure Queue (σ κ : Type) where
  waiting : σ → List κ
  update : List κ → σ → σ

namespace Queue

variable {σ κ : Type}

/-- Puts a callback behind the others. -/
def put (q : Queue σ κ) (k : κ) (s : σ) : σ := q.update (q.waiting s ++ [k]) s

/-- Runs callbacks until none waits and gives their number with those before; it does not end if
more wait than the patience allows for. -/
def drainFrom (q : Queue σ κ) (run : κ → Act σ Unit) : Nat → Nat → Act σ Nat
  | 0, _ => Act.forever
  | patience + 1, ran => fun s =>
    match q.waiting s with
    | [] => some (.ok ran, s)
    | k :: ks => match run k (q.update ks s) with
      | some (.ok _, s) => drainFrom q run patience (ran + 1) s
      | some (.error e, s) => some (.error e, s)
      | none => none

/-- The longest wait in seconds that the clock can tell. -/
def longestWait : Int := 9223372036

/-- Whether one can wait so long for the first callback: the wait is not negative, and when none is
there yet the clock can tell it. -/
def checkWait (isEmpty : Bool) (timeout : Number) : Except Failure Unit :=
  if timeout.ltInt 0 then .error .negativeTimeout
  else if timeout.isHuge then .error .hugeInteger
  else if isEmpty && timeout.gtInt longestWait then .error .overlongTimeout
  else .ok ()

/-- Runs the waiting callbacks. A wait for the first of them changes nothing. -/
def drain (q : Queue σ κ) (run : κ → Act σ Unit) (patience : Nat) (timeout : Option Number) :
    Act σ Nat := do
  match timeout with
  | some t => Act.ofExcept (checkWait (q.waiting (← get)).isEmpty t)
  | none => pure ()
  drainFrom q run patience 0

end Queue

end JavaStudio
