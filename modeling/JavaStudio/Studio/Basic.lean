import JavaStudio.Background.Pool
import JavaStudio.Compiler.Diagnostic
import JavaStudio.Compiler.Registry
import JavaStudio.Event
import JavaStudio.Interactions.History
import JavaStudio.Settings.Basic
import JavaStudio.Studio.Desk

/-!
# The studio

The state of a running studio and what it expects of its collaborators. Listeners, interpreters,
compilers and the callbacks of a view are outside the studio: `Collaborators` says what a call of each
does to the state, and every operation is given them. The state has a part of type `S` that belongs to
the collaborators, and a journal of all that passed between them and the studio.
-/

namespace JavaStudio

/-- A listener of the studio: the keeper of the recent files, or one from outside. -/
inductive Listener
  | recentFiles
  | outside (number : Nat)
  deriving DecidableEq, Repr

/-- A change of the subscriptions. -/
inductive Rearrangement
  | subscribed (listener : Listener)
  | unsubscribed (listener : Listener)
  | cleared
  deriving DecidableEq, Repr

/-- The listeners after a change: a new one comes last, the first subscription of one is taken away, or
all are. -/
def Rearrangement.apply (ls : List Listener) : Rearrangement → List Listener
  | subscribed l => ls ++ [l]
  | unsubscribed l => ls.erase l
  | cleared => []

/-- What an interpreter gives for a source: nothing to show, a value's text, or a value whose text
cannot be had. -/
inductive Evaluation
  | nothing
  | value (shown : Text)
  | unprintable (cause : Failure)
  deriving DecidableEq, Repr

/-- The interactive session: its history, the chunks of its transcript, the line being typed, the
interpreter by number and the word that launches a class. -/
structure Session where
  history : History
  transcript : List Text
  pending : Text
  interpreter : Nat
  keyword : Json
  deriving Inhabited

/-- A compile that is running in the background: where to answer, what to run and where its completion
goes. -/
structure Job where
  future : Nat
  compiler : Choice
  root : Path
  file : Path
  pool : Pool
  deriving Repr

/-- The completion of a background compile. -/
structure Completion where
  future : Nat
  outcome : Except Failure Diagnostics

/-- The outcome of a background compile, once there is one. -/
abbrev FutureState := Option (Except Failure (Option Diagnostics))

/-- How the parts of the studio are joined. -/
structure Wiring where
  /-- A compile without diagnostics resets the console and the interactions. -/
  resetsAfterCompile : Bool
  /-- Changing the indent changes the setting too. -/
  keepsIndent : Bool
  /-- The workspace has something to compile with. -/
  compiles : Bool
  /-- The indent of new buffers. -/
  indent : Json
  deriving Inhabited

/-- The desk and the files at some time. -/
structure Scene where
  desk : Desk
  files : Files

/-- What passed between the studio and its collaborators, or what one of them noted. An announcement
and a question carry the scene as it was when they began, the return of a command the one that it left. -/
inductive Moment
  | announced (event : Event) (scene : Scene)
  | asked (event : Event) (scene : Scene)
  | returned (scene : Scene)
  | compiled (compiler : Choice) (root : Path) (files : List Path)
  | promised (future : Nat) (document : DocId) (ready : Bool)
  | entrusted (future : Nat) (compiler : Choice) (root file : Path)
  | diagnosed (future : Nat) (outcome : Except Failure Diagnostics)
  | resolved (future : Nat) (outcome : Except Failure (Option Diagnostics))
  | created (interpreter : Nat)
  | classpath (interpreter : Nat) (path : String)
  | interpreted (interpreter : Nat) (source : Text)
  | printed (text : Text)
  | exited (code : Int)
  | rearranged (change : Rearrangement)
  | noted (row : Json)

/-- The state of a studio whose collaborators keep a state of type `S`. -/
structure Studio (S : Type) where
  host : Host
  desk : Desk
  bus : List Listener
  registry : Registry
  console : List Text
  session : Session
  interpreters : Nat
  jobs : List Job
  queue : List Completion
  futures : List FutureState
  settings : Settings
  wiring : Wiring
  journal : List Moment
  stage : S

/-- What a call of each collaborator does. -/
structure Collaborators (S : Type) where
  /-- The handler of a listener for an event, if it has one. -/
  handler : Nat → Event → Option (Act (Studio S) Bool)
  /-- The name of a listener. -/
  listenerName : Nat → String
  /-- The file that a view chooses. -/
  choose : Nat → Act (Studio S) Path
  /-- What the system refuses. -/
  refuses : S → Refusals
  /-- What happens between the reading of a file and the making of its document. -/
  afterRead : Act (Studio S) Unit
  /-- Makes the interpreter of a number. -/
  create : Nat → Act (Studio S) Unit
  /-- Adds a path to the classpath of an interpreter. -/
  addClasspath : Nat → String → Act (Studio S) Unit
  /-- Has an interpreter evaluate a source. -/
  interpret : Nat → Text → Act (Studio S) Evaluation
  /-- The text that an interpreter's complaints about syntax begin with. -/
  signature : Nat → Text
  /-- Shows a chunk of the transcript, if anyone looks at it. -/
  output : Option (Text → Act (Studio S) Unit)
  /-- What a view does when there is no entry to recall. -/
  recallFailed : Nat → Act (Studio S) Unit
  /-- Ends the program with a code. -/
  exit : Int → Act (Studio S) Unit
  /-- Runs a compiler. -/
  compile : CompilerId → Path → List Path → Act (Studio S) Diagnostics
  /-- Whether a compiler can run. -/
  isUp : S → CompilerId → Bool
  /-- The name of a compiler. -/
  nameOf : S → CompilerId → String
  /-- How often a loop goes round before it counts as endless. -/
  patience : Nat

namespace Studio

variable {S : Type}

/-- The scene of the studio. -/
def scene (s : Studio S) : Scene := ⟨s.desk, s.host.files⟩

/-- Adds a moment to the journal. -/
def record (m : Moment) : Act (Studio S) Unit := modify fun s => { s with journal := s.journal ++ [m] }

/-- Adds a moment with the present scene to the journal. -/
def mark (m : Scene → Moment) : Act (Studio S) Unit :=
  modify fun s => { s with journal := s.journal ++ [m s.scene] }

/-- A step on the host. -/
def onHost {α : Type} (x : Task Host α) : Act (Studio S) α :=
  Act.ofTask Studio.host (fun h s => { s with host := h }) x

/-- A step on the files. -/
def onFiles {α : Type} (x : Task Files α) : Act (Studio S) α := onHost (Host.onFiles x)

/-- A question about the files. -/
def askFiles {α : Type} (f : Files → Except Failure α) : Act (Studio S) α := fun s =>
  some (f s.host.files, s)

/-- Asks the system for a use of a file. -/
def permit (c : Collaborators S) (use : FileUse) : Act (Studio S) Unit := fun s =>
  some ((c.refuses s.stage).check use, s)

/-- Adds a record to the log. -/
def report (r : LogRecord) : Act (Studio S) Unit := onHost (Host.report r)

/-- Changes the desk. -/
def onDesk (f : Desk → Desk) : Act (Studio S) Unit := modify fun s => { s with desk := f s.desk }

/-- Changes the session. -/
def onSession (f : Session → Session) : Act (Studio S) Unit :=
  modify fun s => { s with session := f s.session }

/-- A step on the history of the session. -/
def onHistory {α : Type} (x : Task History α) : Act (Studio S) α :=
  Act.ofTask (fun s => s.session.history)
    (fun h s => { s with session := { s.session with history := h } }) x

end Studio

end JavaStudio
