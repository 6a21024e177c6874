import JavaStudio.Scenario.Play
import JavaStudio.Studio.Lifetime

/-!
# Running a scenario

A scenario puts a studio together and takes its steps one after another. Every step is reported by a
row: its answer or failure, what passed meanwhile between the studio and its collaborators, what was
logged and which parts of the state have changed.
-/

namespace JavaStudio.Scenario

open Report (Fields text path optional)

/-- How the parts of a studio are put together: joined, with new buffers of some indent or of that of
the settings, or loose, with a keyword and a limit for the session. -/
inductive Assembly
  | joined (indent : Option Json)
  | loose (keyword limit : Json)

/-- A studio to be put together and its collaborators. -/
structure Setup where
  plan : Plan := {}
  host : Host
  settings : Settings := Settings.standard
  bus : List Listener := []
  /-- The compilers; without them a joined studio has javac. -/
  tools : Option (List Tool) := none
  /-- The programs that can be run. -/
  programs : List String := []
  runs : List ProcessOutcome := []
  lessons : List (Text × Lesson) := []
  assembly : Assembly := .joined none

/-- How often a loop goes round before it counts as endless. -/
def patience : Nat := 100000

/-- How deep calls may be nested before they count as endless. -/
def depth : Nat := 1000

/-- The collaborators of a studio. -/
def Setup.collaborators (setup : Setup) : Collaborators Stage :=
  setup.plan.cast.collaborators patience depth

/-- The stage before the studio was put together. -/
def Setup.stage (setup : Setup) : Stage :=
  let stage : Stage := { runs := setup.runs }
  (setup.tools.getD []).foldl (fun s tool => s.addTool tool) (stage.learn setup.lessons)

/-- Brings javac to the stage, as the settings call it, and gives the registry that they ask for. -/
def Setup.bringJavac (setup : Setup) : Act (Studio Stage) (Task Host Registry) := do
  let j ← Act.ofExcept setup.settings.javac
  let tool := Tool.javac j (j.isAmong setup.programs)
  modify fun s => { s with stage := s.stage.addTool tool }
  return setup.settings.registry (fun _ => tool.isUp) (fun _ => tool.name) 0

/-- The registry of some compilers. -/
def registryOf (tools : List Tool) : Registry := { compilers := List.range tools.length }

/-- Puts the studio together. -/
def Setup.assemble (setup : Setup) : Act (Studio Stage) Unit := do
  let c := setup.collaborators
  match setup.assembly with
  | .loose keyword limit =>
    Studio.assembleLoose c (registryOf (setup.tools.getD [])) keyword limit
  | .joined indent => do
    let registry ← match setup.tools with
      | some tools => pure (pure (registryOf tools))
      | none => setup.bringJavac
    Studio.assemble c registry
    match indent with
    | some indent => Studio.setWiring (Studio.joinedWiring indent)
    | none => pure ()

/-- A registered document with its title and its file. -/
def documentRow (s : Studio Stage) (d : DocId) : Json :=
  let doc := s.desk.document d
  .arr [.str (s.stage.label d), .str doc.title, optional path doc.path]

/-- The recent files one by one. -/
def recentFiles (s : Studio Stage) : Except Failure Json :=
  (Settings.items s.settings.recentFiles).map .arr

/-- The state that rows tell of. -/
def view (s : Studio Stage) : Fields :=
  [("docs", .arr (s.desk.registered.map (documentRow s))),
    ("transcript", text s.session.transcript.flatten), ("pending", text s.session.pending),
    ("console", text s.console.flatten), ("recent", (recentFiles s).toOption.getD .null)]

/-- The state after some other one, without what is the same. -/
def changes (before after : Fields) : Fields :=
  after.filter fun (name, v) => Json.lookup name before != some v

/-- What was noted and logged since some state. -/
def news (before after : Studio Stage) : Fields :=
  Report.items "trace" ((after.journal.drop before.journal.length).filterMap Report.moment?) ++
    Report.items "log" ((after.host.log.drop before.host.log.length).map Report.logRecord)

/-- The studio with all registered documents labelled. -/
def labelled (s : Studio Stage) : Studio Stage :=
  { s with stage := s.desk.registered.foldl (fun stage d => stage.meet d) s.stage }

/-- The outcome of a step. A document that stands in the way of another is labelled. -/
def outcome (r : Except Failure Json) (s : Studio Stage) : Fields × Studio Stage :=
  match r with
  | .error (.alreadyOpen d title) =>
    (Report.failure (.alreadyOpen d title) ++ [("document", .str (s.stage.label d))],
      { s with stage := s.stage.meet d })
  | r => (Report.outcome r, s)

/-- The row of a step and the studio after it; a step that does not end is reported alone. -/
def row (c : Collaborators Stage) (step : Step) (before : Studio Stage) :
    Json × Option (Studio Stage) :=
  match (play step).run c before with
  | none => (.obj [("error", .str "endless")], none)
  | some (r, after) =>
    let (fields, after) := outcome r after
    let after := labelled after
    (.obj (fields ++ news before after ++ changes (view before) (view after)), some after)

/-- The rows of some steps. -/
def rows (c : Collaborators Stage) : List Step → Studio Stage → List Json
  | [], _ => []
  | step :: steps, s => match row c step s with
    | (v, some s) => v :: rows c steps s
    | (v, none) => [v]

/-- The rows of a scenario: one for the studio as it was put together and one for every step. There
are none when the recent files cannot be gone through. -/
def Setup.run (setup : Setup) (steps : List Step) : Except Failure (List Json) :=
  let blank := Studio.blank setup.host setup.settings setup.bus setup.stage
  match setup.assemble blank with
  | none => .ok [.obj [("error", .str "endless")]]
  | some (.error f, s) => .ok [.obj (Report.failure f ++ news blank s)]
  | some (.ok _, s) => do
    let _ ← recentFiles s
    return .obj (news blank s ++ (view s).filter fun (_, v) => v.isTrue) ::
      rows setup.collaborators steps s

end JavaStudio.Scenario
