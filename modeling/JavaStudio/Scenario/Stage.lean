import JavaStudio.Scenario.Step

/-!
# The stage

What a scenario keeps track of while it runs: which document has which label, how often a handler was
called, which compilers there are and what the interpreters have been taught. Documents are labelled
in the order in which they are met, and a label is never given away again.
-/

namespace JavaStudio.Scenario

/-- The state of the collaborators of a scenario. -/
structure Stage where
  /-- The documents that were met, in order. -/
  labels : List DocId := []
  /-- The futures that were given out, in order. -/
  futures : List Nat := []
  /-- The documents of the events being handled, the innermost first. -/
  events : List (Option DocId) := []
  /-- The calls of scripted handlers so far. -/
  calls : List (Nat × EventKind) := []
  /-- All compilers ever made. -/
  tools : List Tool := []
  /-- Which compiler a name stands for; a later entry comes first. -/
  names : List (String × CompilerId) := []
  /-- How the next compiler processes end. -/
  runs : List ProcessOutcome := []
  /-- What the interpreters have been taught. -/
  lessons : List (Text × Lesson) := []
  /-- A file was read, so that the steps after the first reading are done. -/
  hasRead : Bool := false

namespace Stage

/-- The label at a place in the order. -/
def labelAt (i : Nat) : String := s!"d{i + 1}"

/-- The label of a document, or the one that it would be given now. -/
def label (s : Stage) (d : DocId) : String := labelAt (s.labels.idxOf d)

/-- Labels a document that was not met before. -/
def meet (d : DocId) (s : Stage) : Stage :=
  if s.labels.contains d then s else { s with labels := s.labels ++ [d] }

/-- The document of a label. -/
def document (s : Stage) (label : String) : Except Failure DocId :=
  match s.labels.find? fun d => s.label d == label with
  | some d => .ok d
  | none => .error (.noSuchDocument label)

/-- The document that a step refers to. -/
def refer (s : Stage) : Subject → Except Failure DocId
  | .labelled label => s.document label
  | .ofEvent => match s.events with
    | some d :: _ => .ok d
    | _ => .error (.noSuchDocument "event")

/-- The future of a number; negative numbers count from the end. -/
def future (s : Stage) (n : Int) : Except Failure Nat :=
  let place := if n < 0 then s.futures.length + n else n
  match if place < 0 then none else s.futures[place.toNat]? with
  | some k => .ok k
  | none => .error .noSuchFuture

/-- The compiler of a name. -/
def toolNamed (s : Stage) (name : String) : Except Failure CompilerId :=
  match s.names.lookup name with
  | some k => .ok k
  | none => .error (.noSuchName name)

/-- Adds a compiler, which its name stands for from now on. -/
def addTool (tool : Tool) (s : Stage) : Stage :=
  { s with tools := s.tools ++ [tool], names := (tool.name, s.tools.length) :: s.names }

/-- Changes a compiler. -/
def changeTool (k : CompilerId) (change : ToolChange) (s : Stage) : Stage :=
  { s with tools := s.tools.modify k change.apply }

/-- Whether a compiler can run. -/
def isUp (s : Stage) (k : CompilerId) : Bool :=
  match s.tools[k]? with
  | some tool => tool.isUp
  | none => false

/-- The name of a compiler. -/
def nameOf (s : Stage) (k : CompilerId) : String :=
  match s.tools[k]? with
  | some tool => tool.name
  | none => ""

/-- The name of a choice. -/
def nameOfChoice (s : Stage) : Choice → String
  | .placeholder => Registry.placeholderName
  | .compiler k => s.nameOf k

/-- Teaches the interpreters; a new lesson takes the place of the old one. -/
def learn (lessons : List (Text × Lesson)) (s : Stage) : Stage :=
  { s with lessons := lessons.reverse ++ s.lessons }

/-- The lesson for a source; without one nothing comes of it. -/
def lesson (s : Stage) (source : Text) : Lesson :=
  (s.lessons.lookup source).getD ([], .ok .nothing)

/-- A listener begins to handle an event. -/
def enter (listener : Nat) (e : Event) (s : Stage) : Stage :=
  let s := { s with events := e.document :: s.events, calls := (listener, e.kind) :: s.calls }
  match e.document with
  | some d => s.meet d
  | none => s

/-- The innermost event has been handled. -/
def exit (s : Stage) : Stage := { s with events := s.events.drop 1 }

/-- How the next compiler process ends; once none is left, with success. -/
def nextRun (s : Stage) : ProcessOutcome := s.runs.headD (.exited 0 [])

end Stage

end JavaStudio.Scenario
