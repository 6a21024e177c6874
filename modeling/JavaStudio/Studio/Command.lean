import JavaStudio.Files.Written
import JavaStudio.Studio.Lifetime

/-!
# Commands

Everything that can be asked of a studio, as data. A run of the studio is a run of commands, made by
its user or by collaborators from inside their calls. Documents and compilers are referred to by values
of any types, so that a command can be written before its document exists: `Command.resolve` finds what
is referred to, and `Command.run` does what the command says. A compile in the background is waited for
(`compileAside`), or left to its pool (`entrust`) until the pool has run it (`settle`).
-/

namespace JavaStudio

/-- What can be asked about a document. -/
inductive DocumentCommand
  | close
  | canAbandon
  | requestSave
  | save (selector : Studio.Selector)
  | saveAs (selector : Studio.Selector)
  | setText (text : Text)
  | insert (offset : Json) (text : Text)
  | setCursor (offset : Json)
  | gotoLine (line : Json)
  | balance
  | setIndent (width : Json)
  | package
  | path
  | sourceRoot
  | compile
  | startCompile
  | compileAside (pool : Pool)
  | entrust (pool : Pool)

/-- What can be asked of a studio as a whole. -/
inductive StudioCommand
  | new
  | openDocument (selector : Studio.Selector)
  | documentForFile (path : Path)
  | find (path : Path)
  | closeAll
  | quit (departure : Studio.Departure)
  | setIndent (width : Json)
  | sourceRoots
  | sourceRootSet
  | attachCompiler
  | settle (future : Nat)
  | drain (timeout : Option Number)
  | offer
  | active
  | firstIsUp
  | activateFirst
  | select (name : String)
  | compileWithActive (root : Path) (files : List Path)
  | appendConsole (text : Text)
  | resetConsole
  | submit (line : Option Text)
  | setPending (text : Text)
  | resetInteractions
  | resetSession (entries : List Studio.ClasspathEntry)
  | recallEntry (way : Studio.Way) (view : Nat)
  | subscribe (listener : Listener)
  | unsubscribe (listener : Listener)
  | clearBus
  | loadFile (path : Path)
  | storeFile (path : Path) (content : Bytes)
  | makeDirectory (name : String)
  | deleteFile (name : String)

/-- What can be asked; `δ` refers to documents and `κ` to compilers. -/
inductive Command (δ κ : Type)
  | studio (command : StudioCommand)
  | document (d : δ) (command : DocumentCommand)
  | announce (kind : EventKind) (d : Option δ)
  | ask (kind : EventKind) (d : Option δ)
  | activate (compiler : κ)
  | register (compiler : κ)

/-- What a command answers. -/
inductive Reply
  | done
  | flag (b : Bool)
  | number (n : Int)
  | text (t : Text)
  | path (p : Path)
  | document (d : DocId)
  | found (d : Option DocId)
  | roots (roots : List Path)
  | rootsAndFaults (roots : List Path) (faults : List PackageFault)
  | diagnostics (ds : Option Diagnostics)
  | future (n : Nat)
  | choice (c : Choice)
  | choices (cs : List Choice)
  | bytes (bs : Bytes)

namespace Studio

variable {S : Type} (c : Collaborators S)

/-- A step without an answer. -/
def quietly (x : Act (Studio S) Unit) : Act (Studio S) Reply := do
  x
  return .done

/-- The buffer of a document. -/
def bufferOf (d : DocId) : Act (Studio S) Buffer := do return ((← get).desk.document d).buffer

/-- Changes the buffer of a document, unless the change fails. -/
def changeBuffer (d : DocId) (change : Buffer → Except Failure Buffer) : Act (Studio S) Unit := do
  let b ← Act.ofExcept (change (← bufferOf d))
  onBuffer d fun _ => b

/-- Compiles a document in the background and waits for its pool. -/
def compileAndSettle (d : DocId) (pool : Pool) : Act (Studio S) Nat := do
  let n ← compileAside c d pool
  settleFuture c n
  return n

end Studio

open Studio

variable {S : Type}

/-- Does what a command says about a document. -/
def DocumentCommand.run (c : Collaborators S) (d : DocId) :
    DocumentCommand → Act (Studio S) Reply
  | close => return .flag (← closeDocument c d)
  | canAbandon => return .flag (← Studio.canAbandon c d)
  | requestSave => quietly (Studio.requestSave c d)
  | save selector => return .flag (← Studio.save c d selector)
  | saveAs selector => return .flag (← Studio.saveAs c d selector)
  | setText text => quietly (onBuffer d (·.setText text))
  | insert offset text => quietly (changeBuffer d (·.insertAt offset text))
  | setCursor offset => quietly (changeBuffer d (·.setCursorTo offset))
  | gotoLine line => do
    changeBuffer d (·.gotoLineOf line)
    return .number (← bufferOf d).cursor
  | balance => return .number (← Act.ofExcept (← bufferOf d).balance)
  | setIndent width => quietly do
    let indent ← Act.ofExcept (Buffer.indentFor width)
    onBuffer d (·.setIndent indent)
  | package => return .text (← Act.ofExcept (← bufferOf d).package)
  | path => return .path (← Act.ofExcept ((← get).desk.document d).backing)
  | sourceRoot => return .path (← Studio.sourceRoot d)
  | compile => return .diagnostics (← Studio.compile c d)
  | startCompile => return .diagnostics (← Studio.startCompile c d)
  | compileAside pool => return .future (← compileAndSettle c d pool)
  | entrust pool => return .future (← Studio.compileAside c d pool)

/-- Does what a command says about the studio as a whole. -/
def StudioCommand.run (c : Collaborators S) : StudioCommand → Act (Studio S) Reply
  | new => return .document (← newDocument c)
  | openDocument selector => return .document (← Studio.openDocument c selector)
  | documentForFile path => return .document (← Studio.documentForFile c path)
  | find path => return .found (← findByPath path)
  | closeAll => return .flag (← Studio.closeAll c)
  | quit departure => return .flag (← Studio.quit c departure)
  | setIndent width => quietly (Studio.setIndent width)
  | sourceRoots => do
    let (roots, faults) ← fun s => some (s.desk.sourceRoots s.host.files, s)
    return .rootsAndFaults roots faults
  | sourceRootSet => return .roots (← fun s => some (s.desk.sourceRootSet s.host.files, s))
  | attachCompiler => quietly Studio.attachCompiler
  | settle future => quietly (settleFuture c future)
  | drain timeout => return .number (← Studio.drain c timeout)
  | offer => return .choices (← Studio.offer c)
  | active => return .choice (← readActive c)
  | firstIsUp => return .flag (← Studio.firstIsUp c)
  | activateFirst => quietly (Studio.activateFirst c)
  | select name => return .choice (← Studio.select c name)
  | compileWithActive root files =>
    return .diagnostics (some (← Studio.compileWithActive c root files))
  | appendConsole text => quietly (Studio.appendConsole text)
  | resetConsole => quietly (Studio.resetConsole c)
  | submit line => quietly (Studio.submit c line)
  | setPending text => quietly (Studio.setPending text)
  | resetInteractions => quietly (Studio.resetInteractions c)
  | resetSession entries => quietly (Studio.resetSession c entries)
  | recallEntry way view => return .flag (← Studio.recallEntry c way view)
  | subscribe listener => quietly (Studio.subscribe listener)
  | unsubscribe listener => quietly (Studio.unsubscribe listener)
  | clearBus => quietly Studio.clearBus
  | loadFile path => return .bytes (← askFiles (·.readBytes path))
  | storeFile path content => quietly (onFiles (Files.writeBytes path content))
  | makeDirectory name => quietly (onFiles (Files.makeDirectories name))
  | deleteFile name => quietly (onFiles (Files.removeNamed name))

namespace Command

/-- Does what a command says. -/
def run (c : Collaborators S) : Command DocId CompilerId → Act (Studio S) Reply
  | studio command => command.run c
  | document d command => command.run c d
  | announce kind d => quietly (Studio.announce c (kind.about d))
  | ask kind d => return .flag (← Studio.ask c (kind.about d))
  | activate k => quietly (Studio.activate c (.compiler k))
  | register k => quietly (Studio.register k)

variable {δ δ' κ κ' : Type}

/-- A command with the documents and compilers that its references stand for. -/
def resolve (document? : δ → Except Failure δ') (compiler? : κ → Except Failure κ') :
    Command δ κ → Except Failure (Command δ' κ')
  | studio command => return .studio command
  | document d command => return .document (← document? d) command
  | announce kind d => return .announce kind (← d.mapM document?)
  | ask kind d => return .ask kind (← d.mapM document?)
  | activate k => return .activate (← compiler? k)
  | register k => return .register (← compiler? k)

end Command

end JavaStudio
