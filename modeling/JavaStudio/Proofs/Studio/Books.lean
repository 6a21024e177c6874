import JavaStudio.Proofs.Studio.Poll

/-!
# The books of a studio

A `Deal` is what passes between a studio and those outside it, as far as compiles go. The books of a studio
are what is under way in the background, with the deals that belong to compiles, in their order.
-/

namespace JavaStudio

/-- What passes between a studio and its collaborators: the listeners are told of an event, a compiler
is called, a future is made, its compile is given to a pool and comes to an outcome, and the future is
answered. -/
inductive Deal
  | told (event : Event)
  | called (compiler : Choice) (root : Path) (files : List Path)
  | promised (future : Nat) (document : DocId) (ready : Bool)
  | entrusted (future : Nat) (compiler : Choice) (root file : Path)
  | diagnosed (future : Nat) (outcome : Except Failure Diagnostics)
  | resolved (future : Nat) (outcome : Except Failure (Option Diagnostics))

/-- The deal of a moment, if it has one. -/
def Moment.deal? : Moment → Option Deal
  | announced e _ => some (.told e)
  | compiled compiler root files => some (.called compiler root files)
  | promised n d ready => some (.promised n d ready)
  | entrusted n compiler root file => some (.entrusted n compiler root file)
  | diagnosed n outcome => some (.diagnosed n outcome)
  | resolved n outcome => some (.resolved n outcome)
  | _ => none

/-- The listeners are told of these in the course of a compile. -/
def EventKind.ofCompile : EventKind → Bool
  | compileStarted | compileEnded | consoleReset | interactionsReset => true
  | _ => false

namespace Deal

abbrev saveRequested (d : DocId) : Deal := told ⟨.saveRequested, some d⟩

abbrev saved (d : DocId) : Deal := told ⟨.documentSaved, some d⟩

abbrev started : Deal := told ⟨.compileStarted, none⟩

abbrev ended : Deal := told ⟨.compileEnded, none⟩

abbrev consoleReset : Deal := told ⟨.consoleReset, none⟩

abbrev interactionsReset : Deal := told ⟨.interactionsReset, none⟩

/-- The deal belongs to a compile. -/
def ofCompile : Deal → Bool
  | told e => e.kind.ofCompile
  | _ => true

end Deal

/-- What a moment adds to the ledger. -/
def Moment.entries (m : Moment) : List Deal := m.deal?.toList.filter Deal.ofCompile

/-- What is under way in the background, whether a clean compile resets console and interactions, and
the deals of compiles so far. -/
structure Books where
  jobs : List Job
  queue : List Completion
  futures : List FutureState
  resets : Bool
  ledger : List Deal

namespace Studio

variable {S : Type} {s s' : Studio S}

/-- The deals so far. -/
def deals (s : Studio S) : List Deal := s.journal.filterMap Moment.deal?

theorem deals_append {m : Moment} (h : s'.journal = s.journal ++ [m]) :
    s'.deals = s.deals ++ m.deal?.toList := by
  unfold deals
  rw [h, List.filterMap_append]
  cases m <;> rfl

/-- The books of a studio. -/
def books (s : Studio S) : Books where
  jobs := s.jobs
  queue := s.queue
  futures := s.futures
  resets := s.wiring.resetsAfterCompile
  ledger := s.deals.filter Deal.ofCompile

theorem books_marked (s : Studio S) (m : Moment) :
    (s.marked m).books = { s.books with ledger := s.books.ledger ++ m.entries } := by
  have adds : (s.marked m).deals = s.deals ++ m.deal?.toList := deals_append rfl
  simp only [books, adds, List.filter_append, Moment.entries]
  rfl

/-- A moment that does not belong to a compile leaves the books alone. -/
theorem books_marked_of_nil {m : Moment} (h : m.entries = []) (s : Studio S) :
    (s.marked m).books = s.books := by
  rw [books_marked, h, List.append_nil]

/-- All that the steps of a studio are about: the desk, the files, the journal and the background. -/
def concerns (s : Studio S) :
    Desk × Files × List Moment × List Job × List Completion × List FutureState × Bool :=
  (s.desk, s.host.files, s.journal, s.jobs, s.queue, s.futures, s.wiring.resetsAfterCompile)

end Studio

end JavaStudio
