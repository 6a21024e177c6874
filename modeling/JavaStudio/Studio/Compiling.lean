import JavaStudio.Studio.Session

/-!
# Compiling

The registry of the studio and what happens around the call of a compiler. Before a compile the
listeners are asked to save the document; a document that is still unsaved is not compiled. A compile
lies between two announcements, and the second is made whatever happens between them. A compile in the
background makes the first one at once; what comes after the compiler's call is its completion, which
runs where the pool sends it.
-/

namespace JavaStudio.Studio

variable {S : Type} (c : Collaborators S)

/-! ## The registry -/

/-- Whether a compiler can run now. -/
def isUp (s : Studio S) : CompilerId → Bool := c.isUp s.stage

/-- The name of a choice. -/
def nameOfChoice (s : Studio S) : Choice → String
  | .placeholder => Registry.placeholderName
  | .compiler k => c.nameOf s.stage k

/-- Changes the registry. -/
def setRegistry (r : Registry) : Act (Studio S) Unit := modify fun s => { s with registry := r }

/-- The compilers on offer. -/
def offer : Act (Studio S) (List Choice) := do
  let s ← get
  if s.registry.lacks (s.isUp c) then report Registry.noneAvailable
  return s.registry.available (s.isUp c)

/-- The active compiler. The one chosen last is taken while it can run, else the first on offer. -/
def readActive : Act (Studio S) Choice := do
  let s ← get
  if (s.registry.holds (s.isUp c)).isNone && s.registry.lacks (s.isUp c) then
    report Registry.noneAvailable
  setRegistry (s.registry.refreshed (s.isUp c))
  return s.registry.current (s.isUp c)

/-- Makes a choice the active one. -/
def activate (choice : Choice) : Act (Studio S) Unit := do
  let s ← get
  setRegistry (← Act.ofExcept (s.registry.activate (s.isUp c) (c.nameOf s.stage) choice))

/-- Makes the first choice on offer the active one. -/
def activateFirst : Act (Studio S) Unit := do
  let choices ← offer c
  activate c (choices.headD .placeholder)

/-- Makes the first compiler of a name the active one. -/
def select (name : String) : Act (Studio S) Choice := do
  let s ← get
  let (k, r) ← Act.ofExcept (s.registry.select (s.isUp c) (c.nameOf s.stage) name)
  setRegistry r
  return .compiler k

/-- Registers a compiler. -/
def register (k : CompilerId) : Act (Studio S) Unit := do
  setRegistry ((← get).registry.register k)

/-- Whether the first choice on offer can run. -/
def firstIsUp : Act (Studio S) Bool := do
  let choices ← offer c
  let s ← get
  return match choices.headD .placeholder with
    | .placeholder => true
    | .compiler k => s.isUp c k

/-! ## The call of a compiler -/

/-- What stands in for a compiler reports that there is none. -/
def placeholderDiagnostics (root : Path) (files : List Path) : Diagnostics :=
  [.unlocated (files.headD root).toString.toList (Text.ofString Registry.noCompilerMessage)]

/-- Compiles files below a source root. -/
def compileWith (choice : Choice) (root : Path) (files : List Path) :
    Act (Studio S) Diagnostics := do
  record (.compiled choice root files)
  match choice with
  | .placeholder => return placeholderDiagnostics root files
  | .compiler k => c.compile k root files

/-- Compiles with the active compiler. -/
def compileWithActive (root : Path) (files : List Path) : Act (Studio S) Diagnostics := do
  compileWith c (← readActive c) root files

/-! ## Around the call -/

/-- Asks for the document to be saved, and says whether it is. -/
def isReady (d : DocId) : Act (Studio S) Bool := do
  requestSave c d
  let doc := (← get).desk.document d
  return !doc.buffer.modified && doc.path.isSome

/-- What is logged when a document does not fit its package. -/
def notCompiled (file : Path) (fault : PackageFault) : LogRecord :=
  { level := .info, logger := "workbench.compiler.orchestrator"
    message := s!"Cannot compile {file.toString}: {fault.message}" }

/-- The file and the source root of a document, or the diagnostics that stand for a compile when it
does not fit its package. -/
def locateSource (d : DocId) : Act (Studio S) (Except Diagnostics (Path × Path)) := do
  let s ← get
  match s.desk.sourceRoot s.host.files d with
  | .ok root => return .ok (← Act.ofExcept (s.desk.document d).backing, root)
  | .error (.invalidPackage fault) => do
    let file ← Act.ofExcept (s.desk.document d).backing
    report (notCompiled file fault)
    return .error [.unlocated file.toString.toList fault.message.toList]
  | .error f => throw f

/-- The diagnostics of a document. -/
def diagnose (d : DocId) : Act (Studio S) Diagnostics := do
  match ← locateSource d with
  | .error ds => return ds
  | .ok (file, root) => compileWithActive c root [file]

/-- A compile without diagnostics starts over with a clear console and fresh interactions, if the
studio is wired so. -/
def celebrate (ds : Diagnostics) : Act (Studio S) Unit := do
  if ds.isEmpty && (← get).wiring.resetsAfterCompile then do
    resetConsole c
    resetInteractions c

/-- Compiles a document; none when it was not saved. -/
def compile (d : DocId) : Act (Studio S) (Option Diagnostics) := do
  if ← isReady c d then do
    announce c ⟨.compileStarted, none⟩
    let ds ← (diagnose c d).ensuring (announce c ⟨.compileEnded, none⟩)
    celebrate c ds
    return some ds
  else return none

/-- Compiles a document by way of what is attached to the workspace. -/
def startCompile (d : DocId) : Act (Studio S) (Option Diagnostics) := do
  if (← get).wiring.compiles then compile c d else throw .noCompilerAttached

/-- Attaches the compile to the workspace. -/
def attachCompiler : Act (Studio S) Unit :=
  modify fun s => { s with wiring := { s.wiring with compiles := true } }

/-! ## In the background -/

/-- Adds a future without an outcome for the compile of a document, which is ready for it or not, and
gives its number. -/
def newFuture (d : DocId) (ready : Bool) : Act (Studio S) Nat := do
  let n := (← get).futures.length
  modify fun s => { s with futures := s.futures ++ [none] }
  record (.promised n d ready)
  return n

/-- Gives a future its outcome. -/
def resolve (n : Nat) (outcome : Except Failure (Option Diagnostics)) : Act (Studio S) Unit := do
  modify fun s => { s with futures := s.futures.set n (some outcome) }
  record (.resolved n outcome)

/-- What follows the end of a compile in the background: the announcement and, after a compile that
did not fail, what a clean one brings. -/
def conclude (outcome : Except Failure Diagnostics) : Act (Studio S) Unit := do
  announce c ⟨.compileEnded, none⟩
  match outcome with
  | .ok ds => celebrate c ds
  | .error _ => pure ()

/-- The completion of a compile in the background. A failure that follows the end of the compile
takes the place of its outcome. -/
def finish (k : Completion) : Act (Studio S) Unit := do
  match ← (conclude c k.outcome).attempt with
  | .ok () => resolve k.future (k.outcome.map some)
  | .error f => if f.isOrdinary then resolve k.future (.error f) else throw f

/-- The completion of a compile that comes to an outcome without a pool. -/
def finishNow (k : Completion) : Act (Studio S) Unit := do
  record (.diagnosed k.future k.outcome)
  finish c k

/-- The completions that wait to be run. -/
def completions : Queue (Studio S) Completion :=
  ⟨fun s => s.queue, fun ks s => { s with queue := ks }⟩

/-- Gives the compile of a document to a pool, or finishes it when there is nothing to compile. -/
def enlist (d : DocId) (future : Nat) (pool : Pool) : Act (Studio S) Unit := do
  match ← locateSource d with
  | .error ds => finishNow c ⟨future, .ok ds⟩
  | .ok (file, root) => do
    let compiler ← readActive c
    Act.ofExcept pool.accepts
    modify fun s => { s with jobs := s.jobs ++ [{ future, compiler, root, file, pool }] }
    record (.entrusted future compiler root file)

/-- Starts a compile of a document in the background and gives the number of its future. Nobody can
know of the future before the listeners were asked to save the document. -/
def compileAside (d : DocId) (pool : Pool) : Act (Studio S) Nat := do
  let ready ← isReady c d
  let n ← newFuture d ready
  if ready then do
    announce c ⟨.compileStarted, none⟩
    match ← (enlist c d n pool).attempt with
    | .ok () => return n
    | .error f =>
      if f.isOrdinary then do
        finishNow c ⟨n, .error f⟩
        return n
      else throw f
  else do
    resolve n (.ok none)
    return n

/-- Runs the compiler of a job and hands over its completion. -/
def settle (job : Job) : Act (Studio S) Unit := do
  let outcome ← (compileWith c job.compiler job.root [job.file]).attempt
  record (.diagnosed job.future outcome)
  job.pool.complete completions (finish c) ⟨job.future, outcome⟩

/-- Runs the jobs of a future, if it has any. -/
def settleFuture (n : Nat) : Act (Studio S) Unit := do
  let s ← get
  match s.jobs.find? fun job => job.future == n with
  | none => pure ()
  | some job => do
    modify fun s => { s with jobs := s.jobs.filter fun job => job.future != n }
    settle c job

/-- Runs the completions that wait. -/
def drain (timeout : Option Number) : Act (Studio S) Nat :=
  completions.drain (finish c) c.patience timeout

end JavaStudio.Studio
