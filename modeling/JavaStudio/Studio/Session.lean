import JavaStudio.Interactions.Launch
import JavaStudio.Studio.Workspace

/-!
# Console and interactions

The console collects what programs print. The interactive session evaluates lines with an interpreter
and shows the dialogue in its transcript: a banner, and a prompt after every evaluation. What a view of
the transcript does wrong is logged and does not disturb the session.
-/

namespace JavaStudio.Studio

variable {S : Type} (c : Collaborators S)

/-- What a fresh transcript begins with. -/
def banner : Text := Text.ofString "Welcome to the workbench interactions pane."

/-- What asks for the next line. -/
def prompt : Text := Text.ofString "\n> "

/-- What an error notice begins with. -/
def errorMark : Text := Text.ofString "\nError in evaluation: "

/-- What is said of a source that the interpreter cannot read. -/
def invalidSyntax : Text := Text.ofString "Invalid syntax"

/-- What an interpreter's complaints about syntax begin with by default. -/
def standardSignature : Text := Text.ofString "InterpreterException: Encountered"

/-- Adds to the console. -/
def appendConsole (t : Text) : Act (Studio S) Unit :=
  modify fun s => { s with console := s.console ++ [t] }

/-- Clears the console and tells the listeners. -/
def resetConsole : Act (Studio S) Unit := do
  modify fun s => { s with console := [] }
  announce c ⟨.consoleReset, none⟩

/-- Adds a chunk to the transcript and shows it. -/
def appendTranscript (t : Text) : Act (Studio S) Unit := do
  onSession fun i => { i with transcript := i.transcript ++ [t] }
  match c.output with
  | none => pure ()
  | some show_ => do
    record (.printed t)
    show_ t

/-- What is logged of a view that failed to show a chunk. -/
def outputFailed (t : Text) (f : Failure) : LogRecord :=
  { level := .error, logger := "workbench.interactions.session"
    message := "Output callback failed for " ++ String.ofList (Text.quoted t), cause := some f }

/-- Adds a chunk to the transcript whatever its view does. -/
def appendQuietly (t : Text) : Act (Studio S) Unit := do
  match ← (appendTranscript c t).attempt with
  | .ok _ => pure ()
  | .error f => if f.isOrdinary then report (outputFailed t f) else throw f

/-- Asks for the next line. -/
def showPrompt : Act (Studio S) Unit := do
  onSession fun i => { i with pending := [] }
  appendQuietly c prompt

/-- Makes the next interpreter and gives its number. -/
def createInterpreter : Act (Studio S) Nat := do
  modify fun s => { s with interpreters := s.interpreters + 1 }
  let n := (← get).interpreters
  record (.created n)
  c.create n
  return n

/-- An entry for the classpath: a path, or why it is none. -/
abbrev ClasspathEntry := Except Failure Path

/-- Adds entries to the classpath of an interpreter. -/
def addEntries (n : Nat) : List ClasspathEntry → Act (Studio S) Unit
  | [] => pure ()
  | e :: es => do
    let p ← Act.ofExcept e
    let p := ((← get).host.files.absolute p).toString
    record (.classpath n p)
    c.addClasspath n p
    addEntries n es

/-- The session after a restart with an interpreter. -/
def restarted (n : Nat) (i : Session) : Session :=
  { i with
    history := i.history.moveEnd
    transcript := [banner]
    pending := []
    interpreter := n }

/-- Starts over with a fresh interpreter that has the entries on its classpath. -/
def resetSession (entries : List ClasspathEntry) : Act (Studio S) Unit := do
  let n ← createInterpreter c
  addEntries c n entries
  onSession (restarted n)
  showPrompt c
  announce c ⟨.interactionsReset, none⟩

/-- What is said of a failed evaluation. A failure that cannot be put into words fails again. -/
def failureNotice (n : Nat) (f : Failure) : Except Failure Text :=
  match f.words with
  | .error g => .error g
  | .ok message =>
    let message := message.toList
    .ok (errorMark ++ if (c.signature n).isPrefixOf message then invalidSyntax else message)

/-- What the transcript shows of an evaluation. -/
def evaluationText : Evaluation → Except Failure (Option Text)
  | .nothing => .ok none
  | .value shown => .ok (some ('\n' :: shown))
  | .unprintable cause => .error cause

/-- Has an interpreter evaluate a source and gives the text to show. -/
def evaluate (n : Nat) (source : Text) : Act (Studio S) (Option Text) := do
  record (.interpreted n source)
  Act.ofExcept (evaluationText (← c.interpret n source))

/-- Shows what came of an evaluation. -/
def showEvaluation (n : Nat) (r : Except Failure (Option Text)) : Act (Studio S) Unit := do
  match r with
  | .ok none => pure ()
  | .ok (some t) => appendQuietly c t
  | .error f =>
    if f.isOrdinary then do
      let notice ← Act.ofExcept (failureNotice c n f)
      appendQuietly c notice
    else throw f

/-- Evaluates a line and shows it with what came of it. -/
def evaluateLine (n : Nat) (line : Text) : Act (Studio S) Unit := do
  appendQuietly c line
  let keyword ← Act.ofExcept (Settings.text (← get).session.keyword)
  let r ← (evaluate c n (Launch.expandBy keyword (Text.trim line))).attempt
  showEvaluation c n r

/-- Evaluates a line, the pending one if none is given, and asks for the next. A blank line only goes
into the history. -/
def submit (given : Option Text) : Act (Studio S) Unit := do
  let line := given.getD (← get).session.pending
  onHistory (History.add line)
  onSession fun i => { i with pending := [] }
  let n := (← get).session.interpreter
  if (Text.trim line).isEmpty then showPrompt c
  else do
    evaluateLine c n line
    showPrompt c

/-- Replaces the pending line. -/
def setPending (t : Text) : Act (Studio S) Unit := onSession fun i => { i with pending := t }

/-- Which way the history is gone through. -/
inductive Way
  | back
  | forth
  deriving DecidableEq, Repr

/-- There is an entry to recall that way. -/
def Way.possible (h : History) : Way → Bool
  | back => h.hasPrevious
  | forth => h.hasNext

/-- Steps through the history one way. -/
def Way.step : Way → Task History Text
  | back => History.previous
  | forth => History.next

/-- Replaces the pending line with the next entry one way; without one the view is told, and false is
the answer. -/
def recallEntry (way : Way) (view : Nat) : Act (Studio S) Bool := do
  if way.possible (← get).session.history then do
    let line ← onHistory way.step
    setPending line
    return true
  else do
    c.recallFailed view
    return false

/-- What is logged when documents do not fit their packages at a reset. -/
def withoutRoots (fault : PackageFault) : LogRecord :=
  { level := .warning, logger := "workbench.model"
    message := "Resetting interactions without source roots: " ++ fault.message }

/-- The source roots of the documents, or none with a warning if one does not fit its package. -/
def rootsForReset : Act (Studio S) (List Path) := do
  let s ← get
  match ← Act.ofExcept (s.desk.sourceRoots s.host.files) with
  | (roots, []) => return roots
  | (_, fault :: _) => do
    report (withoutRoots fault)
    return []

/-- Restarts the interactions with the documents' source roots and the configured entries on the
classpath. -/
def resetInteractions : Act (Studio S) Unit := do
  let roots ← rootsForReset
  let extra ← Act.ofExcept (Settings.listed (← get).settings.extraClasspath)
  resetSession c (roots.map .ok ++ extra.map Settings.path)

end JavaStudio.Studio
