import JavaStudio.Report
import JavaStudio.Scenario.Stage
import JavaStudio.Studio.Methods

/-!
# Playing a scenario

Steps as scripts and the cast that follows a scenario. `play` carries out a step and gives what is
reported of its answer; steps inside a call are noted one by one with their answers.
-/

namespace JavaStudio.Scenario

open Report (text path paths optional)

/-- Labels a document and reports it. -/
def meet (d : DocId) : Script Stage Json := do
  Script.update (Stage.meet d)
  Script.see fun s => .str (s.stage.label d)

/-- Reports documents. -/
def meetAll : List DocId → Script Stage (List Json)
  | [] => return []
  | d :: ds => do
    let v ← meet d
    let vs ← meetAll ds
    return v :: vs

/-- Reports the state of a future. -/
def futureNow (n : Nat) : Script Stage Json :=
  Script.see fun s => Report.future (optional Report.diagnostics) (s.futures[n]?.getD none)

/-- Reports the answer to a command. -/
def reply : Reply → Script Stage Json
  | .done => return .null
  | .flag b => return .bool b
  | .number n => return .int n
  | .text t => return text t
  | .path p => return path p
  | .document d => meet d
  | .found none => return .null
  | .found (some d) => meet d
  | .roots roots => return paths roots
  | .rootsAndFaults roots faults =>
    return .arr [paths roots, .arr (faults.map fun f => .obj (Report.failure (.invalidPackage f)))]
  | .diagnostics ds => return optional Report.diagnostics ds
  | .future n => do
    Script.update fun s => { s with futures := s.futures ++ [n] }
    futureNow n
  | .choice choice => Script.see fun s => .str (s.stage.nameOfChoice choice)
  | .choices choices => Script.see fun s => Json.strings (choices.map s.stage.nameOfChoice)
  | .bytes bs => return Report.content bs

/-- The document that a step refers to. -/
def subject (d : Subject) : Script Stage DocId :=
  .look fun s => Script.ofExcept (s.stage.refer d)

/-- The full form of a document; a star stands for its identity. -/
def shownDocument (d : Document) : String :=
  let file := match d.path with
    | some p => p.shown
    | none => "None"
  let modified := if d.buffer.modified then "True" else "False"
  s!"OpenDocument(id='*', path={file}, modified={modified})"

/-- All that is known about a document. -/
def info (k : Desk) (d : DocId) : Json :=
  let doc := k.document d
  .obj [("untitled", .bool doc.path.isNone), ("title", .str doc.title),
    ("text", text doc.buffer.text), ("modified", .bool doc.buffer.modified),
    ("cursor", doc.buffer.place.toJson), ("indent", doc.buffer.indent),
    ("path", optional path doc.path), ("repr", .str (shownDocument doc)),
    ("in_workspace", .bool (k.holds d))]

/-- Reports the answer to a question. -/
def answer : Question → Script Stage Json
  | .info d => do
    let d ← subject d
    Script.see fun s => info s.desk d
  | .documents => do
    let labels ← meetAll (← Script.see fun s => s.desk.registered)
    Script.see fun s => .arr [.int labels.length, .arr labels,
      if s.wiring.keepsIndent then .arr labels else .null]
  | .contains none => return .bool false
  | .contains (some d) => do
    let d ← subject d
    Script.see fun s => .bool (s.desk.holds d)
  | .future n => .look fun s => do futureNow (← Script.ofExcept (s.stage.future n))
  | .history => Script.see fun s =>
    .arr [.arr (s.session.history.entries.map text), .int s.session.history.cursor]
  | .interpreter => Script.see fun s => .int s.session.interpreter
  | .listeners => Script.see fun s => .arr [.int s.bus.length, .int s.bus.length]
  | .settings => .look fun s => do
    return .obj (← Script.ofExcept (s.settings.copied s.host.files.machine.reportRoom))
  | .listing directory => .look fun s => do
    return Json.strings (← Script.ofExcept (s.host.files.listingAt directory))

/-- Carries out an action and reports its answer. -/
def act : Action → Script Stage Json
  | .perform command => .look fun s => do
    let command ← Script.ofExcept (command.resolve s.stage.refer s.stage.toolNamed)
    reply (← Script.command command)
  | .performJoined command => .look fun s => do
    if s.wiring.keepsIndent then reply (← Script.command (.studio command)) else .fail .notJoined
  | .answer question => answer question
  | .makeTool tool => do
    Script.update (Stage.addTool tool)
    return .str tool.name
  | .changeTool name change => .look fun s => do
    let k ← Script.ofExcept (s.stage.toolNamed name)
    Script.update (Stage.changeTool k change)
    return .null
  | .fail failure => .fail failure

/-- Carries out a step and reports its answer. -/
def play : Step → Script Stage Json
  | .act _ action => act action
  | .teach _ lessons => do
    Script.update (Stage.learn lessons)
    return .null

/-- The name under which a step is reported. -/
def nameOf : Step → String
  | .act name _ => name
  | .teach name _ => name

/-- Carries out steps inside a call and notes them with their answers. -/
def playAll : List Step → Script Stage Unit
  | [] => return ()
  | step :: steps => do
    let v ← play step
    Script.jot (.arr [.str "nested", .str (nameOf step), v])
    playAll steps

/-! ## The collaborators -/

/-- What is noted of the call of a handler. -/
def heard (s : Stage) (r : Role) (e : Event) : Json :=
  .arr ([.str r.name, .str e.kind.handler, optional (fun d => .str (s.label d)) e.document] ++
    if e.kind = .saveRequested then [.str SaveReason.compile.word] else [])

/-- The steps of a listener at an event, which are none once it was called too often. -/
def due (s : Stage) (n : Nat) (r : Role) (e : Event) : List Step :=
  let reaction := r.reaction e.kind
  if (s.calls.count (n, e.kind) : Int) ≤ reaction.times then reaction.steps else []

/-- A scripted handler notes its call, takes the steps that are due and gives its answer. -/
def handle (n : Nat) (r : Role) (e : Event) : Script Stage Bool := do
  Script.update (Stage.enter n e)
  Script.jot (← Script.see fun s => heard s.stage r e)
  let outcome ← (playAll (← Script.see fun s => due s.stage n r e)).attempt
  Script.update Stage.exit
  Script.ofExcept outcome
  return e.kind == .abandonQuery && r.consents

/-- The method of a listener of some name, if it has one. A complete listener has one for every proper
kind of event; those that are not scripted do nothing, and consent if they are asked. -/
def method? (n : Nat) (r : Role) (name : Text) : Option (Event → Script Stage Bool) :=
  let isFor := fun k : EventKind => handlerName k.name.toList == name
  if r.scripted.any isFor then some (handle n r)
  else if r.isComplete && EventKind.proper.any isFor then
    some fun _ => .done (isFor .abandonQuery)
  else none

/-- Takes the steps that come after the first reading of a file. -/
def afterRead (steps : List Step) : Script Stage Unit := .look fun s =>
  if s.stage.hasRead then .done ()
  else do
    Script.update fun s => { s with hasRead := true }
    playAll steps

/-- An evaluation takes the steps of its lesson first. -/
def interpret (source : Text) : Script Stage Evaluation := .look fun s => do
  let (steps, outcome) := s.stage.lesson source
  playAll steps
  Script.ofExcept outcome

/-- A compiler notes what it is asked and answers. -/
def compile (k : CompilerId) (root : Path) (files : List Path) : Script Stage Diagnostics :=
  .look fun s => match s.stage.tools[k]? with
    | none => return []
    | some (.scripted name _ errors crash) => do
      Script.jot (.arr [.str "compiler", .str name, path root, paths files])
      match crash with
      | some message => .fail (.runtime message)
      | none => return errors
    | some (.javac j _) => do
      Script.jot (.arr [.str "run", .arr (j.command root files), .null])
      Script.update fun s => { s with runs := s.runs.drop 1 }
      let (r, host) := j.diagnose root files s.stage.nextRun { s.host with log := [] }
      Script.reportAll host.log
      Script.ofExcept r

/-- A text holds another one. -/
def holdsText (part : Text) : Text → Bool
  | [] => part.isEmpty
  | c :: t => part.isPrefixOf (c :: t) || holdsText part t

/-- What is written about a scenario before it begins. -/
structure Plan where
  roles : List Role := []
  readSteps : List Step := []
  signature : Text := Studio.standardSignature
  /-- The interpreters that cannot be made. -/
  stillborn : List Nat := []
  /-- The paths that interpreters refuse. -/
  refused : List String := []
  /-- A view shows the transcript; it fails at chunks that hold one of these texts. -/
  unshown : Option (List Text) := none

/-- The methods of the listeners of a plan. -/
def Plan.methods (plan : Plan) : Methods Stage := fun n name =>
  plan.roles[n]?.bind fun r => method? n r name

/-- The cast that follows a plan. -/
def Plan.cast (plan : Plan) : Cast Stage where
  handler := plan.methods.handler
  listenerName n := (plan.roles[n]?.map (·.name)).getD ""
  choose _ := .fail (.cancelled [])
  refuses _ _ := none
  afterRead := afterRead plan.readSteps
  create n := if plan.stillborn.contains n then .fail (.runtime "factory failed") else .done ()
  addClasspath _ p :=
    if plan.refused.contains p then .fail (.outside .value (some "bad classpath entry"))
    else .done ()
  interpret _ source := interpret source
  signature _ := plan.signature
  output := plan.unshown.map fun parts t =>
    if parts.any (holdsText · t) then .fail (.outside .system (some "pane closed")) else .done ()
  recallFailed view := do
    Script.jot (.arr [.str "on_failure"])
    if view = 0 then return () else .fail (.runtime "on_failure raised")
  exit code := Script.jot (.arr [.str "exit", .int code])
  compile := compile
  isUp := Stage.isUp
  nameOf := Stage.nameOf

end JavaStudio.Scenario
