import JavaStudio.Studio.Script

/-!
# Casts

A cast says by scripts what all collaborators of a studio do. Scripts give commands, and commands call
collaborators, so calls are nested; `Cast.collaborators` plays the scripts up to some depth of nesting,
and deeper calls never end.
-/

namespace JavaStudio

/-- The scripts of all collaborators of a studio. -/
structure Cast (S : Type) where
  handler : Nat → Event → Option (Script S Bool)
  listenerName : Nat → String
  choose : Nat → Script S Path
  refuses : S → Refusals
  afterRead : Script S Unit
  create : Nat → Script S Unit
  addClasspath : Nat → String → Script S Unit
  interpret : Nat → Text → Script S Evaluation
  signature : Nat → Text
  output : Option (Text → Script S Unit)
  recallFailed : Nat → Script S Unit
  exit : Int → Script S Unit
  compile : CompilerId → Path → List Path → Script S Diagnostics
  isUp : S → CompilerId → Bool
  nameOf : S → CompilerId → String

namespace Cast

variable {S : Type}

/-- The collaborators whose scripts are played in a given way. -/
def playedBy (k : Cast S) (patience : Nat)
    (play : {α : Type} → Script S α → Act (Studio S) α) : Collaborators S where
  handler n e := (k.handler n e).map fun script => play script
  listenerName := k.listenerName
  choose view := play (k.choose view)
  refuses := k.refuses
  afterRead := play k.afterRead
  create n := play (k.create n)
  addClasspath n p := play (k.addClasspath n p)
  interpret n t := play (k.interpret n t)
  signature := k.signature
  output := k.output.map fun f t => play (f t)
  recallFailed view := play (k.recallFailed view)
  exit code := play (k.exit code)
  compile id root files := play (k.compile id root files)
  isUp := k.isUp
  nameOf := k.nameOf
  patience := patience

/-- The collaborators of a cast whose calls may be nested so deep. -/
def collaborators (k : Cast S) (patience : Nat) : Nat → Collaborators S
  | 0 => k.playedBy patience fun _ => Act.forever
  | depth + 1 => k.playedBy patience fun script s => script.run (k.collaborators patience depth) s

/-- Gives a command to a studio with this cast. -/
def perform (k : Cast S) (patience depth : Nat) (command : Command DocId CompilerId) :
    Act (Studio S) Reply :=
  command.run (k.collaborators patience depth)

end Cast

end JavaStudio
