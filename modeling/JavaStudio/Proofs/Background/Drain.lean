import JavaStudio.Background.Queue
import JavaStudio.Proofs.Act

/-!
# The accounts of a queue

A drain takes turns (`Queue.Turns`) until it stops: the queue is empty, a callback fails or never ends,
or its patience is used up. A `Ledger` is a queue that keeps account of every put and of every run, for
callbacks of any conduct that may put others. Whatever is done with it, what ran and what waits are
together what was put, in that order (`Ledger.Moved`).

* `drainFrom_stops`: how a drain stops, after which turns.
* `callbacks_run_in_turn`: the account of every use of a queue, and of the end of each drain.
-/

namespace JavaStudio

namespace Queue

variable {σ κ : Type} {q : Queue σ κ} {run : κ → Act σ Unit} {s s₁ s' : σ} {done : List κ}
  {patience : Nat} {timeout : Option Number}

/-! ## Turns and where they stop -/

/-- Callbacks run one after the other, each from the front of the queue, and none fails. -/
inductive Turns (q : Queue σ κ) (run : κ → Act σ Unit) : σ → List κ → σ → Prop
  | nil (s : σ) : Turns q run s [] s
  | cons {s s₁ s' : σ} {k : κ} {ks done : List κ} (front : q.waiting s = k :: ks)
      (ran : run k (q.update ks s) = some (.ok (), s₁)) (rest : Turns q run s₁ done s') :
      Turns q run s (k :: done) s'

theorem drainFrom_of_turns (turns : Turns q run s done s₁) (patience ran : Nat) :
    q.drainFrom run (patience + done.length) ran s =
      q.drainFrom run patience (ran + done.length) s₁ := by
  induction turns generalizing ran with
  | nil => rfl
  | @cons s s₁ s' k ks done front ok rest ih =>
    have count : ran + (done.length + 1) = ran + 1 + done.length := by omega
    rw [List.length_cons, ← Nat.add_assoc, count, ← ih (ran + 1)]
    simp only [drainFrom, front, ok]

/-- Where a drain stops after its turns, and what comes of it. -/
inductive Stop (q : Queue σ κ) (run : κ → Act σ Unit) (patience : Nat) (done : List κ) (s : σ) :
    Option (Except Failure Nat × σ) → Prop
  | exhausted (out : patience = done.length) : Stop q run patience done s none
  | empty (within : done.length < patience) (nobody : q.waiting s = []) :
      Stop q run patience done s (some (.ok done.length, s))
  | failed {k : κ} {ks : List κ} {e : Failure} {s' : σ} (within : done.length < patience)
      (front : q.waiting s = k :: ks) (fails : run k (q.update ks s) = some (.error e, s')) :
      Stop q run patience done s (some (.error e, s'))
  | endless {k : κ} {ks : List κ} (within : done.length < patience) (front : q.waiting s = k :: ks)
      (hangs : run k (q.update ks s) = none) : Stop q run patience done s none

/-- A drain goes on until something stops it. -/
theorem exists_stop (q : Queue σ κ) (run : κ → Act σ Unit) (patience : Nat) (s : σ) :
    ∃ done s₁ r, Turns q run s done s₁ ∧ Stop q run patience done s₁ r := by
  induction patience generalizing s with
  | zero => exact ⟨[], s, _, .nil s, .exhausted rfl⟩
  | succ patience ih =>
    rcases front : q.waiting s with _ | ⟨k, ks⟩
    · exact ⟨[], s, _, .nil s, .empty (Nat.succ_pos _) front⟩
    · rcases ran : run k (q.update ks s) with _ | ⟨e | ⟨⟩, s₁⟩
      · exact ⟨[], s, _, .nil s, .endless (Nat.succ_pos _) front ran⟩
      · exact ⟨[], s, _, .nil s, .failed (Nat.succ_pos _) front ran⟩
      · obtain ⟨done, s₂, r, rest, stop⟩ := ih s₁
        have turns := Turns.cons front ran rest
        cases stop with
        | exhausted out => exact ⟨_, s₂, _, turns, .exhausted (congrArg (· + 1) out)⟩
        | empty within nobody => exact ⟨_, s₂, _, turns, .empty (Nat.succ_lt_succ within) nobody⟩
        | failed within front fails =>
          exact ⟨_, s₂, _, turns, .failed (Nat.succ_lt_succ within) front fails⟩
        | endless within front hangs =>
          exact ⟨_, s₂, _, turns, .endless (Nat.succ_lt_succ within) front hangs⟩

/-- A drain comes to what stops it. -/
theorem drainFrom_of_stop {r : Option (Except Failure Nat × σ)} (turns : Turns q run s done s₁)
    (stop : Stop q run patience done s₁ r) : q.drainFrom run patience 0 s = r := by
  have rest (left : Nat) (h : patience = left + done.length) :
      q.drainFrom run patience 0 s = q.drainFrom run left done.length s₁ := by
    rw [h, drainFrom_of_turns turns, Nat.zero_add]
  have more (within : done.length < patience) :
      q.drainFrom run patience 0 s = q.drainFrom run (patience - done.length - 1 + 1) done.length s₁ :=
    rest _ (by omega)
  cases stop with
  | exhausted out => exact rest 0 (by omega)
  | empty within nobody => simp only [more within, drainFrom, nobody]
  | failed within front fails => simp only [more within, drainFrom, front, fails]
  | endless within front hangs => simp only [more within, drainFrom, front, hangs]

/-- Every drain stops, and its answer is that of where it stops. -/
theorem drainFrom_stops (q : Queue σ κ) (run : κ → Act σ Unit) (patience : Nat) (s : σ) :
    ∃ done s₁, Turns q run s done s₁ ∧
      Stop q run patience done s₁ (q.drainFrom run patience 0 s) := by
  obtain ⟨done, s₁, r, turns, stop⟩ := exists_stop q run patience s
  exact ⟨done, s₁, turns, drainFrom_of_stop turns stop ▸ stop⟩

/-- Whether a drain may begin: one that does not wait may. -/
def admits (q : Queue σ κ) (timeout : Option Number) (s : σ) : Except Failure Unit :=
  match timeout with
  | some t => checkWait (q.waiting s).isEmpty t
  | none => .ok ()

theorem begin_eq (q : Queue σ κ) (t : Number) (s : σ) :
    (get >>= fun s => Act.ofExcept (checkWait (q.waiting s).isEmpty t) : Act σ Unit) s =
      some (q.admits (some t) s, s) := by
  rw [Act.get_bind, Act.ofExcept_apply, admits]

theorem drain_of_admits (admitted : q.admits timeout s = .ok ()) :
    q.drain run patience timeout s = q.drainFrom run patience 0 s := by
  rcases timeout with _ | t
  · rfl
  · have begun := begin_eq q t s
    rw [admitted] at begun
    exact Act.bind_of_ok begun _

theorem drain_of_refused {e : Failure} (refused : q.admits timeout s = .error e) :
    q.drain run patience timeout s = some (.error e, s) := by
  rcases timeout with _ | t
  · cases refused
  · have begun := begin_eq q t s
    rw [refused] at begun
    exact Act.bind_of_error begun _

end Queue

/-! ## Accounts -/

/-- What a callback does in a world: the callbacks that it puts, how it ends and the world it leaves;
none if it never ends. -/
abbrev Conduct (ω κ : Type) := κ → ω → Option (List κ × Except Failure Unit × ω)

/-- A queue with the account of it: every callback that was ever put, and every one that ran with how it
ended. -/
structure Ledger (ω κ : Type) where
  world : ω
  waiting : List κ := []
  puts : List κ := []
  runs : List (κ × Except Failure Unit) := []

namespace Ledger

variable {ω κ : Type} {c : Conduct ω κ} {l l₁ l' : Ledger ω κ} {k : κ} {ks done : List κ}
  {turns turns' : List (κ × Except Failure Unit)} {r : Except Failure Unit} {patience : Nat}
  {timeout : Option Number}

/-- The queue of a ledger. -/
def queue : Queue (Ledger ω κ) κ where
  waiting := waiting
  update ks l := { l with waiting := ks }

/-- Puts a callback and keeps account of it. -/
def put (k : κ) (l : Ledger ω κ) : Ledger ω κ := { queue.put k l with puts := l.puts ++ [k] }

/-- Puts some callbacks, one after the other. -/
def putAll (ks : List κ) (l : Ledger ω κ) : Ledger ω κ := ks.foldl (fun l k => l.put k) l

/-- Runs a callback and keeps account of it. -/
def run (c : Conduct ω κ) (k : κ) : Act (Ledger ω κ) Unit := fun l =>
  match c k l.world with
  | some (news, r, w) => some (r, { l.putAll news with runs := l.runs ++ [(k, r)], world := w })
  | none => none

/-- Runs what waits, in the queue's own way. -/
def drain (c : Conduct ω κ) (patience : Nat) (timeout : Option Number) : Act (Ledger ω κ) Nat :=
  queue.drain (run c) patience timeout

/-- What is done with a queue from outside. -/
inductive Use (κ : Type)
  | put (k : κ)
  | drain (patience : Nat) (timeout : Option Number)

/-- The ledger after some uses, none if a drain never ends. A drain that fails is followed by the next
use. -/
def after (c : Conduct ω κ) : List (Use κ) → Ledger ω κ → Option (Ledger ω κ)
  | [], l => some l
  | .put k :: us, l => (l.put k).after c us
  | .drain patience timeout :: us, l => match l.drain c patience timeout with
    | some (_, l) => l.after c us
    | none => none

/-! ## What moves -/

/-- From one ledger to a later one, with what ran meanwhile: it came from the front of those that
waited and those that were put behind them, and the others wait. -/
structure Moved (l : Ledger ω κ) (turns : List (κ × Except Failure Unit)) (l' : Ledger ω κ) :
    Prop where
  runs : l'.runs = l.runs ++ turns
  inOrder : ∃ news, l'.puts = l.puts ++ news ∧ l.waiting ++ news = turns.map (·.1) ++ l'.waiting

namespace Moved

protected theorem refl (l : Ledger ω κ) : Moved l [] l :=
  ⟨(List.append_nil _).symm, [], (List.append_nil _).symm, List.append_nil _⟩

protected theorem trans (h : Moved l turns l₁) (h' : Moved l₁ turns' l') :
    Moved l (turns ++ turns') l' := by
  obtain ⟨news, puts, moved⟩ := h.inOrder
  obtain ⟨news', puts', moved'⟩ := h'.inOrder
  refine ⟨by rw [h'.runs, h.runs, List.append_assoc], news ++ news', ?_, ?_⟩
  · rw [puts', puts, List.append_assoc]
  · calc l.waiting ++ (news ++ news') = turns.map (·.1) ++ (l₁.waiting ++ news') := by
          rw [← List.append_assoc, moved, List.append_assoc]
      _ = (turns ++ turns').map (·.1) ++ l'.waiting := by
          rw [moved', List.map_append, List.append_assoc]

theorem put (k : κ) (l : Ledger ω κ) : Moved l [] (l.put k) :=
  ⟨(List.append_nil _).symm, [k], rfl, rfl⟩

end Moved

theorem putAll_eq (ks : List κ) (l : Ledger ω κ) :
    l.putAll ks = { l with waiting := l.waiting ++ ks, puts := l.puts ++ ks } := by
  induction ks generalizing l with
  | nil => simp [putAll]
  | cons k ks ih =>
    rw [putAll, List.foldl_cons, ← putAll, ih]
    simp [Ledger.put, Queue.put, queue]

/-- One turn of a drain, however its callback ends. -/
theorem moved_turn (front : l.waiting = k :: ks)
    (ran : run c k { l with waiting := ks } = some (r, l')) : Moved l [(k, r)] l' := by
  unfold run at ran
  split at ran
  · next news r w did =>
    cases ran
    rw [putAll_eq]
    exact ⟨rfl, news, rfl, by rw [front]; rfl⟩
  · cases ran

theorem moved_turns (turns : queue.Turns (run c) l done l') :
    Moved l (done.map (·, .ok ())) l' := by
  induction turns with
  | nil => exact .refl _
  | cons front ran _ ih => exact (moved_turn front ran).trans ih

/-- Every end of a drain: it ran some callbacks that ended well, and then none waited, or one more that
failed; or it was not let begin. -/
theorem drained {x : Except Failure Nat} (run : l.drain c patience timeout = some (x, l')) :
    (∃ done : List κ, Moved l (done.map (·, .ok ())) l' ∧ x = .ok done.length ∧ l'.waiting = []) ∨
    (∃ (done : List κ) (k : κ) (e : Failure), Moved l (done.map (·, .ok ()) ++ [(k, .error e)]) l' ∧
      x = .error e) ∨
    ∃ e, queue.admits timeout l = .error e ∧ x = .error e ∧ l' = l := by
  rcases admitted : queue.admits timeout l with e | ⟨⟩
  · rw [drain, Queue.drain_of_refused admitted] at run
    cases run
    exact .inr (.inr ⟨e, rfl, rfl, rfl⟩)
  · obtain ⟨done, l₁, turns, stop⟩ := queue.drainFrom_stops (Ledger.run c) patience l
    rw [drain, Queue.drain_of_admits admitted] at run
    rw [run] at stop
    have moved := moved_turns turns
    cases stop with
    | empty within nobody => exact .inl ⟨done, moved, rfl, nobody⟩
    | failed within front fails =>
      exact .inr (.inl ⟨done, _, _, moved.trans (moved_turn front fails), rfl⟩)

theorem moved_drain {x : Except Failure Nat} (run : l.drain c patience timeout = some (x, l')) :
    ∃ turns, Moved l turns l' := by
  obtain ⟨_, moved, -⟩ | ⟨_, _, _, moved, -⟩ | ⟨_, -, -, rfl⟩ := drained run
  · exact ⟨_, moved⟩
  · exact ⟨_, moved⟩
  · exact ⟨_, .refl _⟩

theorem moved_after {us : List (Use κ)} (uses : l.after c us = some l') :
    ∃ turns, Moved l turns l' := by
  induction us generalizing l with
  | nil =>
    cases uses
    exact ⟨_, .refl _⟩
  | cons u us ih =>
    cases u with
    | put k =>
      obtain ⟨turns, moved⟩ := ih uses
      exact ⟨_, (Moved.put k l).trans moved⟩
    | drain patience timeout =>
      rw [after] at uses
      split at uses
      · next x l₁ run =>
        obtain ⟨turns, moved⟩ := moved_drain run
        obtain ⟨turns', moved'⟩ := ih uses
        exact ⟨_, moved.trans moved'⟩
      · cases uses

/-- Whatever was done with a queue, what ran and what waits are together what was put, in that order.
A drain that returns has run as many callbacks as it says, none of which failed, and leaves none. A
drain that fails has run callbacks up to the first that failed, and the others wait; or it was not let
wait, and nothing happened. A callback that fails within the patience of a drain fails the drain. -/
theorem callbacks_run_in_turn {w : ω} {us : List (Use κ)} (uses : after c us { world := w } = some l) :
    l.puts = l.runs.map (·.1) ++ l.waiting ∧
    (∀ patience timeout n l', l.drain c patience timeout = some (.ok n, l') →
      ∃ done : List κ, Moved l (done.map (·, .ok ())) l' ∧ done.length = n ∧ l'.waiting = []) ∧
    (∀ patience timeout e l', l.drain c patience timeout = some (.error e, l') →
      (∃ (done : List κ) (k : κ), Moved l (done.map (·, .ok ()) ++ [(k, .error e)]) l') ∨
        queue.admits timeout l = .error e ∧ l' = l) ∧
    ∀ patience timeout done l₁ k ks e l', queue.admits timeout l = .ok () →
      queue.Turns (run c) l done l₁ → done.length < patience → l₁.waiting = k :: ks →
      run c k { l₁ with waiting := ks } = some (.error e, l') →
        l.drain c patience timeout = some (.error e, l') := by
  refine ⟨?_, ?_, ?_, ?_⟩
  · obtain ⟨turns, moved⟩ := moved_after uses
    obtain ⟨news, puts, inOrder⟩ := moved.inOrder
    rw [puts, moved.runs]
    exact inOrder
  · intro patience timeout n l' run
    obtain ⟨done, moved, ⟨⟩, nobody⟩ | ⟨_, _, _, -, ⟨⟩⟩ | ⟨_, -, ⟨⟩, -⟩ := drained run
    exact ⟨done, moved, rfl, nobody⟩
  · intro patience timeout e l' run
    obtain ⟨_, -, ⟨⟩, -⟩ | ⟨done, k, _, moved, ⟨⟩⟩ | ⟨_, refused, ⟨⟩, same⟩ := drained run
    · exact .inl ⟨done, k, moved⟩
    · exact .inr ⟨refused, same⟩
  · intro patience timeout done l₁ k ks e l' admitted turns within front fails
    rw [drain, Queue.drain_of_admits admitted]
    exact Queue.drainFrom_of_stop turns (.failed within front fails)

/-- A callback that puts two others, one that puts another and fails, and those that do nothing. -/
def clumsy : Conduct Unit Nat
  | 0, w => some ([1, 2], .ok (), w)
  | 1, w => some ([3], .error (.runtime "no"), w)
  | _, w => some ([], .ok (), w)

/-- The ledger after a drain that failed and one more put. -/
def clumsyLedger : Ledger Unit Nat where
  world := ()
  waiting := [2, 3, 4]
  puts := [0, 1, 2, 3, 4]
  runs := [(0, .ok ()), (1, .error (.runtime "no"))]

theorem callbacks_run_in_turn_clumsy :
    after clumsy [.put 0, .drain 9 none, .put 4] { world := () } = some clumsyLedger ∧
      clumsyLedger.puts = clumsyLedger.runs.map (·.1) ++ clumsyLedger.waiting ∧
      ∃ l', clumsyLedger.drain clumsy 9 (some (.int 1)) = some (.ok 3, l') ∧ l'.waiting = [] := by
  have uses : after clumsy [.put 0, .drain 9 none, .put 4] { world := () } = some clumsyLedger := rfl
  have drained : ∃ l', clumsyLedger.drain clumsy 9 (some (.int 1)) = some (.ok 3, l') := ⟨_, rfl⟩
  obtain ⟨account, returns, -, -⟩ := callbacks_run_in_turn uses
  obtain ⟨l', drained⟩ := drained
  obtain ⟨done, -, -, nobody⟩ := returns _ _ _ _ drained
  exact ⟨uses, account, l', drained, nobody⟩

end Ledger

end JavaStudio
