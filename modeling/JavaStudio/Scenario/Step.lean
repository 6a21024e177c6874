import JavaStudio.Studio.Command

/-!
# Steps

A scenario drives a studio by steps. Documents are referred to by labels and compilers by names, since
a scenario is written before they exist. Steps also change what the collaborators do: a step can
make or change a compiler, and it can teach the interpreters what comes of a source.
-/

namespace JavaStudio.Scenario

/-- A reference to a document: its label, or the document of the event that is being handled. -/
inductive Subject
  | labelled (label : String)
  | ofEvent
  deriving DecidableEq, Repr

/-- A compiler of a scenario: one that answers what it was told, or javac. -/
inductive Tool
  | scripted (name : String) (isUp : Bool) (errors : Diagnostics) (crash : Option String)
  | javac (settings : Javac) (isUp : Bool)

namespace Tool

/-- The name of a compiler. -/
def name : Tool → String
  | scripted name _ _ _ => name
  | javac j _ => j.name

/-- Whether a compiler can run. -/
def isUp : Tool → Bool
  | scripted _ isUp _ _ => isUp
  | javac _ isUp => isUp

end Tool

/-- What changes in a compiler; what is missing stays. -/
structure ToolChange where
  isUp : Option Bool := none
  errors : Option Diagnostics := none
  crash : Option (Option String) := none

/-- A compiler after a change. -/
def ToolChange.apply (change : ToolChange) : Tool → Tool
  | .scripted name isUp errors crash =>
    .scripted name (change.isUp.getD isUp) (change.errors.getD errors) (change.crash.getD crash)
  | .javac j isUp => .javac j (change.isUp.getD isUp)

/-- A question about the state of the studio. -/
inductive Question
  | info (d : Subject)
  | documents
  | contains (d : Option Subject)
  | future (n : Int)
  | history
  | interpreter
  | listeners
  | settings
  | listing (directory : Path)

/-- What a step does. Some commands are only for a joined studio. -/
inductive Action
  | perform (command : Command Subject String)
  | performJoined (command : StudioCommand)
  | answer (question : Question)
  | makeTool (tool : Tool)
  | changeTool (name : String) (change : ToolChange)
  | fail (failure : Failure)

/-- A step with the name under which it is reported. One that teaches says for sources which steps an
interpreter takes first and what then comes of the evaluation. -/
inductive Step
  | act (name : String) (action : Action)
  | teach (name : String) (lessons : List (Text × List Step × Except Failure Evaluation))

instance : Inhabited Step := ⟨.teach "" []⟩

/-- The steps that an interpreter takes at a source and what then comes of the evaluation. -/
abbrev Lesson := List Step × Except Failure Evaluation

/-- The steps that a listener takes in a handler, at so many of its first calls. -/
structure Reaction where
  steps : List Step := []
  times : Int := 1

/-- A listener of a scenario. One that is complete has a handler for every proper kind of event; those
that are not scripted do nothing and consent. -/
structure Role where
  name : String
  isComplete : Bool := true
  scripted : List EventKind := EventKind.proper
  consents : Bool := true
  reactions : List (EventKind × Reaction) := []

/-- The reaction of a listener to a kind of event. -/
def Role.reaction (r : Role) (k : EventKind) : Reaction := (r.reactions.lookup k).getD {}

end JavaStudio.Scenario
