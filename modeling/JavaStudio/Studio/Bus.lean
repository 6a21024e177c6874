import JavaStudio.Studio.Basic

/-!
# Telling and asking the listeners

`announce` delivers an event to every listener that was subscribed when it began, in their order.
`ask` puts a question to them and joins their answers: all are asked, a listener without a handler
agrees, and one that fails refuses. A failure of a handler is logged and goes no further, unless it
ends the program.
-/

namespace JavaStudio.Studio

variable {S : Type} (c : Collaborators S)

/-- Puts the file of an event's document at the front of the recent files. -/
def rememberFile (e : Event) : Act (Studio S) Unit := do
  match e.document with
  | none => throw .absentDocument
  | some d => match ((← get).desk.document d).path with
    | none => pure ()
    | some p => fun s => match s.settings.remember s.host.files p with
      | .ok settings => some (.ok (), { s with settings := settings })
      | .error f => some (.error f, s)

/-- The keeper of the recent files follows what is opened and saved and never refuses to abandon. -/
def keepRecent (e : Event) : Act (Studio S) Bool := do
  match e.kind with
  | .documentOpened | .documentSaved =>
    rememberFile e
    return false
  | .abandonQuery => return true
  | _ => return false

/-- The handler of a listener for an event, if it has one. -/
def handlerOf (l : Listener) (e : Event) : Option (Act (Studio S) Bool) :=
  match l with
  | .recentFiles => if e.kind.isProper then some (keepRecent e) else none
  | .outside n => c.handler n e

/-- The name of a listener. -/
def nameOfListener (l : Listener) : String :=
  match l with
  | .recentFiles => "_RecentFiles"
  | .outside n => c.listenerName n

/-- What is logged of a handler that failed. -/
def handlerFailed (l : Listener) (doing : String) (e : Event) (f : Failure) : LogRecord :=
  { level := .error, logger := "workbench.events"
    message := s!"Listener {nameOfListener c l} raised while {doing} {e.kind.name}"
    cause := some f }

/-- Calls a handler; a failure of it gives no answer. -/
def guardedCall (l : Listener) (doing : String) (e : Event) (handler : Act (Studio S) Bool) :
    Act (Studio S) (Option Bool) := do
  match ← handler.attempt with
  | .ok answer => return some answer
  | .error f =>
    if f.isOrdinary then do
      report (handlerFailed c l doing e f)
      return none
    else throw f

/-- Delivers an event to a listener. -/
def deliver (e : Event) (l : Listener) : Act (Studio S) Unit := do
  match handlerOf c l e with
  | none => pure ()
  | some handler =>
    let _ ← guardedCall c l "handling" e handler

/-- Delivers an event to listeners, one after another. -/
def deliverAll (e : Event) : List Listener → Act (Studio S) Unit
  | [] => pure ()
  | l :: ls => do
    deliver c e l
    deliverAll e ls

/-- Tells the listeners of an event. -/
def announce (e : Event) : Act (Studio S) Unit := do
  let s ← get
  mark (.announced e)
  deliverAll c e s.bus

/-- The answer of a listener to a question. -/
def askOne (e : Event) (l : Listener) : Act (Studio S) Bool := do
  match handlerOf c l e with
  | none => return true
  | some handler => return (← guardedCall c l "answering" e handler).getD false

/-- Puts a question to listeners, one after another, and joins their answers. -/
def askAll (e : Event) : List Listener → Act (Studio S) Bool
  | [] => return true
  | l :: ls => do
    let answer ← askOne c e l
    let others ← askAll e ls
    return answer && others

/-- Asks the listeners a question. -/
def ask (e : Event) : Act (Studio S) Bool := do
  let s ← get
  mark (.asked e)
  askAll c e s.bus

/-- Changes the subscriptions. -/
def rearrange (change : Rearrangement) : Act (Studio S) Unit := do
  modify fun s => { s with bus := change.apply s.bus }
  record (.rearranged change)

/-- Puts a listener behind the others. -/
def subscribe (l : Listener) : Act (Studio S) Unit := rearrange (.subscribed l)

/-- Takes the first subscription of a listener away. -/
def unsubscribe (l : Listener) : Act (Studio S) Unit := rearrange (.unsubscribed l)

/-- Takes all subscriptions away. -/
def clearBus : Act (Studio S) Unit := rearrange .cleared

end JavaStudio.Studio
