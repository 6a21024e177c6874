import JavaStudio.Settings.Compilers
import JavaStudio.Studio.Compiling

/-!
# The lifetime of a studio

How a studio is put together from its parts and how it is left. A joined studio keeps recent files,
starts over after a clean compile and remembers its indent; loose parts share only their listeners.
A studio is left only when no document is open.
-/

namespace JavaStudio.Studio

variable {S : Type} (c : Collaborators S)

/-- The wiring of parts that are not joined. -/
def looseWiring : Wiring :=
  { resetsAfterCompile := false, keepsIndent := false, compiles := false, indent := .int 2 }

/-- The wiring of a joined studio whose new buffers have some indent. -/
def joinedWiring (indent : Json) : Wiring :=
  { resetsAfterCompile := true, keepsIndent := true, compiles := true, indent := indent }

/-- A studio before its parts were made. -/
def blank (host : Host) (settings : Settings) (bus : List Listener) (stage : S) : Studio S where
  host := host
  desk := {}
  bus := bus
  registry := {}
  console := []
  session := default
  interpreters := 0
  jobs := []
  queue := []
  futures := []
  settings := settings
  wiring := looseWiring
  journal := []
  stage := stage

/-- A session that has not asked for a line yet. -/
def freshSession (limit : Number) (keyword : Json) : Session where
  history := .empty limit
  transcript := [banner]
  pending := []
  interpreter := 0
  keyword := keyword

/-- Begins the interactive session with the first interpreter. -/
def beginSession (keyword limit : Json) : Act (Studio S) Unit := do
  let limit ← Act.ofExcept (Settings.number ">" limit)
  onSession fun _ => freshSession limit keyword
  let n ← createInterpreter c
  onSession fun i => { i with interpreter := n }
  showPrompt c

/-- Wires the parts. -/
def setWiring (w : Wiring) : Act (Studio S) Unit := modify fun s => { s with wiring := w }

/-- Makes the parts of a studio and joins them as the settings say. -/
def assemble (registry : Task Host Registry) : Act (Studio S) Unit := do
  setRegistry (← onHost registry)
  let settings := (← get).settings
  beginSession c settings.launcherKeyword settings.historyLimit
  setWiring (joinedWiring settings.indentWidth)
  subscribe .recentFiles

/-- Makes the parts of a studio and leaves them loose. -/
def assembleLoose (registry : Registry) (keyword limit : Json) : Act (Studio S) Unit := do
  setRegistry registry
  beginSession c keyword limit
  setWiring looseWiring

/-- How the program is ended once all documents are closed: by itself, or by what surrounds it. -/
inductive Departure
  | program
  | surroundings
  deriving DecidableEq, Repr

/-- Ends the program. -/
def leave : Departure → Act (Studio S) Unit
  | .program => throw (.exit 0)
  | .surroundings => do
    record (.exited 0)
    c.exit 0

/-- What is logged when a document stays open. -/
def quitCancelled : LogRecord :=
  { level := .info, logger := "workbench.model"
    message := "Quit cancelled: a document could not be closed" }

/-- Closes all documents and ends the program; false when one could not be closed. -/
def quit (departure : Departure) : Act (Studio S) Bool := do
  if ← closeAll c then do
    leave c departure
    return true
  else do
    report quitCancelled
    return false

end JavaStudio.Studio
