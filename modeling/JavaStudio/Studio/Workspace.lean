import JavaStudio.Studio.Bus

/-!
# Working with documents

Making, opening, saving and closing documents. A file is read or written before the desk changes, and
the listeners are told after it has changed. `closeDocument` asks the listeners before unsaved changes
are given up.
-/

namespace JavaStudio.Studio

variable {S : Type} (c : Collaborators S)

/-- The choice of a file: a path, a failure such as giving up, or whatever a view chooses. -/
inductive Selector
  | ok (path : Path)
  | error (failure : Failure)
  | view (number : Nat)

instance : Coe (Except Failure Path) Selector where
  coe
    | .ok p => .ok p
    | .error f => .error f

/-- Makes the choice. -/
def Selector.choose : Selector → Act (Studio S) Path
  | ok p => return p
  | error f => throw f
  | view n => c.choose n

/-- A buffer for a new document. -/
def newBuffer (s : Studio S) : Buffer := { indent := s.wiring.indent }

/-- Makes a document without a file. -/
def newDocument : Act (Studio S) DocId := do
  let s ← get
  let d := s.desk.nextId
  onDesk fun k => k.addUntitled s.newBuffer
  announce c ⟨.documentCreated, some d⟩
  return d

/-- The registered document that is kept in the file at a path. -/
def findByPath (p : Path) : Act (Studio S) (Option DocId) := fun s =>
  some (s.desk.find s.host.files p, s)

/-- Refuses a file that a registered document holds. -/
def refuseOpen (found : Option DocId) : Act (Studio S) Unit := do
  match found with
  | some d => throw ((← get).desk.alreadyOpen d)
  | none => pure ()

/-- Reads the chosen file into a new document. -/
def openDocument (selector : Selector) : Act (Studio S) DocId := do
  let chosen ← selector.choose c
  let target ← askFiles (·.locate chosen)
  refuseOpen (← findByPath target)
  let fresh := (← get).newBuffer
  permit c (.reading target)
  let buffer ← askFiles fun fs => fresh.read fs target
  c.afterRead
  refuseOpen ((← get).desk.findAt target)
  let d := (← get).desk.nextId
  onDesk fun k => k.addOpened target buffer.markSaved
  announce c ⟨.documentOpened, some d⟩
  return d

/-- The document kept in a file, which is opened if no document is. -/
def documentForFile (p : Path) : Act (Studio S) DocId := do
  match ← findByPath p with
  | some d => return d
  | none =>
    tryCatch (openDocument c (.ok p)) fun f => match f with
      | .alreadyOpen d _ => return d
      | f => throw f

/-- Whether unsaved changes of a document may be given up. -/
def canAbandon (d : DocId) : Act (Studio S) Bool := do
  if ((← get).desk.document d).buffer.modified then ask c ⟨.abandonQuery, some d⟩ else return true

/-- Closes a document if its changes may be given up, and says whether it was removed. -/
def closeDocument (d : DocId) : Act (Studio S) Bool := do
  if ← canAbandon c d then
    if (← get).desk.holds d then do
      onDesk fun k => k.remove d
      announce c ⟨.documentClosed, some d⟩
      return true
    else return false
  else return false

/-- Closes the first document until none is left or one is refused. -/
def closeFrom : Nat → Act (Studio S) Bool
  | 0 => Act.forever
  | patience + 1 => do
    match (← get).desk.registered with
    | [] => return true
    | d :: _ =>
      if ← closeDocument c d then closeFrom patience
      else if (← get).desk.holds d then return false
      else closeFrom patience

/-- Closes all documents and says whether none is left. -/
def closeAll : Act (Studio S) Bool := closeFrom c c.patience

/-- Asks the listeners to save a document that is modified. -/
def requestSave (d : DocId) : Act (Studio S) Unit := do
  if ((← get).desk.document d).buffer.modified then announce c ⟨.saveRequested, some d⟩

/-- Refuses a file that a document other than this one holds. -/
def refuseOther (d : DocId) (found : Option DocId) : Act (Studio S) Unit :=
  if found = some d then pure () else refuseOpen found

/-- Writes a document to a file and keeps it there from now on. -/
def saveTo (d : DocId) (target : Path) : Act (Studio S) Unit := do
  refuseOther d (← findByPath target)
  let s ← get
  onFiles ((s.desk.document d).buffer.writeUnder (c.refuses s.stage) target)
  onDesk fun k => k.saved d target
  announce c ⟨.documentSaved, some d⟩

/-- The path that a selector chooses, if the choice is not given up. -/
def chosenPath (selector : Selector) : Act (Studio S) (Option Path) := do
  let located : Act (Studio S) Path := do
    let p ← selector.choose c
    askFiles (·.locate p)
  match ← located.attempt with
  | .ok p => return some p
  | .error (.cancelled _) => return none
  | .error f => throw f

/-- Saves a document to the chosen file; false when the choice is given up. -/
def saveAs (d : DocId) (selector : Selector) : Act (Studio S) Bool := do
  match ← chosenPath c selector with
  | none => return false
  | some target => do
    saveTo c d target
    return true

/-- Saves a document to its file, or to the chosen one if it has none. -/
def save (d : DocId) (selector : Selector) : Act (Studio S) Bool := do
  match ((← get).desk.document d).path with
  | some p => saveAs c d (.ok p)
  | none => saveAs c d selector

/-- The source root of a document. -/
def sourceRoot (d : DocId) : Act (Studio S) Path := fun s =>
  some (s.desk.sourceRoot s.host.files d, s)

/-- Changes the text of a document. -/
def onBuffer (d : DocId) (f : Buffer → Buffer) : Act (Studio S) Unit :=
  onDesk fun k => k.changeBuffer d f

/-- Keeps an indent as the setting, where the studio does so. -/
def keepIndent (width : Json) : Act (Studio S) Unit := modify fun s =>
  if s.wiring.keepsIndent then { s with settings := { s.settings with indentWidth := width } } else s

/-- Sets the indent of the registered documents, and the setting where the studio keeps it. -/
def setIndent (width : Json) : Act (Studio S) Unit := do
  keepIndent width
  let ds := (← get).desk.registered
  if ds.isEmpty then pure ()
  else do
    let indent ← Act.ofExcept (Buffer.indentFor width)
    onDesk fun k => ds.foldl (fun k d => k.changeBuffer d (·.setIndent indent)) k

end JavaStudio.Studio
