import JavaStudio.Failure
import JavaStudio.Text.Lower

/-!
# Events

What the studio tells its listeners and what it asks them. Every kind of event has a name, and the
handler that receives it is named after it: `handlerName` puts an underscore in front of every inner
capital and goes to lower case. Bare events and bare questions say nothing in particular, and only a
listener that was made for them has a handler.
-/

namespace JavaStudio

/-- The kinds of events. All are announcements but the last two, which are questions. -/
inductive EventKind
  | documentCreated
  | documentOpened
  | documentClosed
  | documentSaved
  | saveRequested
  | compileStarted
  | compileEnded
  | consoleReset
  | interactionsReset
  | bare
  | bareQuestion
  | abandonQuery
  deriving DecidableEq, Repr

namespace EventKind

/-- The kinds that every complete listener has a handler for. -/
def proper : List EventKind :=
  [documentCreated, documentOpened, documentClosed, documentSaved, saveRequested, compileStarted,
    compileEnded, consoleReset, interactionsReset, abandonQuery]

/-- All kinds. -/
def all : List EventKind := proper ++ [bare, bareQuestion]

/-- A kind that every complete listener has a handler for. -/
def isProper : EventKind → Bool
  | bare | bareQuestion => false
  | _ => true

/-- The name of a kind. -/
def name : EventKind → String
  | documentCreated => "DocumentCreated"
  | documentOpened => "DocumentOpened"
  | documentClosed => "DocumentClosed"
  | documentSaved => "DocumentSaved"
  | saveRequested => "SaveRequested"
  | compileStarted => "CompileStarted"
  | compileEnded => "CompileEnded"
  | consoleReset => "ConsoleReset"
  | interactionsReset => "InteractionsReset"
  | bare => "Event"
  | bareQuestion => "Question"
  | abandonQuery => "AbandonQuery"

/-- The kind of a name. -/
def ofName? (name : String) : Option EventKind := all.find? fun k => k.name == name

end EventKind

/-- Why a document is asked to be saved. -/
inductive SaveReason
  | compile
  deriving DecidableEq, Repr

/-- The word for a reason. -/
def SaveReason.word : SaveReason → String
  | compile => "compile"

/-- An announcement or a question, with the document that it is about. -/
structure Event where
  kind : EventKind
  document : Option DocId := none
  deriving DecidableEq, Repr

/-- Events of this kind are about a document. -/
def EventKind.hasDocument : EventKind → Bool
  | .compileStarted | .compileEnded | .consoleReset | .interactionsReset | .bare | .bareQuestion =>
    false
  | _ => true

/-- The event of a kind about a document, which counts only where the kind has one. -/
def EventKind.about (k : EventKind) (d : Option DocId) : Event :=
  ⟨k, if k.hasDocument then d else none⟩

/-- A capital of ASCII. -/
def isCapital (c : Char) : Bool := 'A' ≤ c && c ≤ 'Z'

/-- A text with an underscore in front of every capital. -/
def underscored (t : Text) : Text :=
  t.flatMap fun c => if isCapital c then ['_', c] else [c]

/-- A text with an underscore in front of every capital but one at its head. -/
def innerUnderscored : Text → Text
  | [] => []
  | c :: t => c :: underscored t

/-- The name of the handler for events of some name. -/
def handlerName (event : Text) : Text :=
  Text.ofString "on_" ++ Text.lower (innerUnderscored event)

/-- The name of the handler for a kind of event. -/
def EventKind.handler (k : EventKind) : String := String.ofList (handlerName k.name.toList)

end JavaStudio
