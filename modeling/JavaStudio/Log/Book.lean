import JavaStudio.Log.File
import JavaStudio.Log.Logger
import JavaStudio.Settings.Basic

/-!
# The log book

Where records go once logging was set up: to a file that is rolled over before it grows past a size,
and to the console. Setting up again does nothing unless it is forced, and one whose file cannot be had
leaves the book as it was. A record that cannot be written to the file is lost for the file only. One
logger may be watched: its records and those of all below it are kept in the book, and count as handled.
`setUp` and `write` are the two operations; `onFiles` is for what others do to the files meanwhile.
-/

namespace JavaStudio

/-- A handler of records. -/
inductive LogHandler
  | rotating (file : LogFile)
  | console
  deriving Repr

/-- What has been set up so far, the records of the watched logger, the loggers that were asked for and
which of them let which levels through, as it was found since the levels were set. -/
structure LogBook where
  path : Option Path := none
  level : Level := .warning
  handlers : List (LogHandler × Level) := []
  quietLevel : Level := .notSet
  console : Text := []
  watched : Option String := none
  records : List LogRecord := []
  loggers : List String := []
  decided : List ((String × Int) × Bool) := []
  deriving Repr, Inhabited

/-- The files and the log book. -/
structure Logging where
  files : Files
  book : LogBook := {}
  deriving Inhabited

namespace LogBook

/-- The loggers that are kept quiet, with all below them. -/
def quietLoggers : List String := ["concurrent.futures", "asyncio"]

/-- The logger of the studio, which all of its parts hang on. -/
def studioLogger : String := "workbench"

/-- A logger is the named one or hangs on it. -/
def isBelow (b : LogBook) (name logger : String) : Bool :=
  Logger.isBelow (studioLogger :: (quietLoggers ++ b.loggers)) name logger

/-- A record is one that the watched logger hears. -/
def hears (b : LogBook) (r : LogRecord) : Bool := b.watched.any (b.isBelow · r.logger)

/-- A record goes to nobody: there is no handler, and it is not heard. -/
def isUnhandled (b : LogBook) (r : LogRecord) : Bool := b.handlers.isEmpty && !b.hears r

/-- The least level that a logger lets through. -/
def threshold (b : LogBook) (logger : String) : Level :=
  if b.quietLevel.value ≠ 0 && quietLoggers.any (b.isBelow · logger) then b.quietLevel else b.level

/-- A record that its logger lets through. -/
def passes (b : LogBook) (r : LogRecord) : Bool :=
  0 < r.level.value && r.level.reaches (b.threshold r.logger)

/-- A logger lets a level through. What was found before is kept to. -/
def admits (b : LogBook) (r : LogRecord) : Bool :=
  (b.decided.lookup (r.logger, r.level.value)).getD (b.passes r)

/-- A text with blanks up to a width. -/
def padded (width : Nat) (s : String) : Text :=
  s.toList ++ List.replicate (width - s.length) ' '

/-- The line of a record at a time. -/
def line (stamp : String) (r : LogRecord) : Text :=
  stamp.toList ++ Text.ofString " | " ++ padded 8 r.level.name ++ Text.ofString " | " ++
    r.logger.toList ++ Text.ofString " | " ++ r.message.toList

/-- A step on the files in which the book has no part. -/
def besideBook {α : Type} (x : Task Files α) : Task Logging α :=
  x.within Logging.files fun fs s => { s with files := fs }

/-- Writes a line to a handler and gives the handler as it is then. -/
def writeLine (stamped : Text) : LogHandler → Task Logging LogHandler
  | .console => fun s =>
    (.ok .console,
      { s with book := { s.book with console := s.book.console ++ stamped ++ ['\n'] } })
  | .rotating f => fun s =>
    let pen := (LogFile.writeLine stamped ⟨s.files, f⟩).2
    (.ok (.rotating pen.file), { s with files := pen.files })

/-- Writes a record to the handlers that take its level. -/
def writeAll (stamp : String) (r : LogRecord) :
    List (LogHandler × Level) → Task Logging (List (LogHandler × Level))
  | [] => return []
  | (h, least) :: hs => do
    let h ← if r.level.reaches least then writeLine (line stamp r) h else pure h
    let hs ← writeAll stamp r hs
    return (h, least) :: hs

/-- Sets the handlers. -/
def setHandlers (hs : List (LogHandler × Level)) : Task Logging Unit :=
  modify fun s => { s with book := { s.book with handlers := hs } }

/-- Keeps the name of a logger that is asked for. -/
def meet (logger : String) : Task Logging Unit :=
  modify fun s => { s with book := { s.book with loggers := s.book.loggers.insert logger } }

/-- Keeps a record that is heard. -/
def keep (r : LogRecord) (b : LogBook) : LogBook :=
  if b.hears r then { b with records := b.records ++ [r] } else b

/-- Logs a record. A warning that nobody handles goes to the console as it is. -/
def write (stamp : String) (r : LogRecord) : Task Logging Unit := do
  meet r.logger
  let s ← get
  let admitted := s.book.admits r
  modify fun s => { s with book := { s.book with
    decided := ((r.logger, r.level.value), admitted) :: s.book.decided } }
  if admitted then do
    modify fun s => { s with book := s.book.keep r }
    if s.book.isUnhandled r then do
      if r.level.reaches .warning then
        modify fun s =>
          { s with book := { s.book with console := s.book.console ++ r.message.toList ++ ['\n'] } }
    else setHandlers (← writeAll stamp r s.book.handlers)

/-- A handler after the files changed from `old` to `new`. -/
def afterChange (old new : Files) : LogHandler → LogHandler
  | .console => .console
  | .rotating f => .rotating { f with stream := f.stream.afterChange old new }

/-- What others do to the files. -/
def onFiles {α : Type} (x : Task Files α) : Task Logging α := do
  let old := (← get).files
  let r ← (besideBook x).attempt
  let s ← get
  setHandlers (s.book.handlers.map fun h => (afterChange old s.files h.1, h.2))
  Task.ofExcept r

/-- What a set-up asks for. A value is kept as it was given, so that one of the wrong kind fails where
it is used and not before. -/
structure Setup where
  level : Json := Level.info.toJson
  directory : Json := .null
  console : Bool := true
  maxBytes : Json := .int 1000000
  backups : Json := .int 3
  force : Bool := false
  deriving Repr

/-- The directory of log files by default. -/
def defaultDirectory (fs : Files) : Path := ((Path.ofString fs.home).child ".workbench").child "logs"

/-- The directory of log files: the one asked for, the environment's or the default. -/
def directoryFor (fs : Files) (env : Option String) (setup : Setup) : Except Failure Path := do
  if setup.directory.isTrue then fs.expandHome (← Settings.path setup.directory)
  else match env with
    | none | some "" => return defaultDirectory fs
    | some d => fs.expandHome (Path.ofString d)

/-- The name of the log file. -/
def fileName : String := "workbench.log"

/-- The logger of the log book. -/
def logger : String := "workbench.utils.logging"

/-- Makes the directory and the file of the log and gives its path and the open file. -/
def openFile (env : Option String) (setup : Setup) : Task Files (Path × LogFile) := do
  let directory ← Task.ofExcept (directoryFor (← get) env setup)
  let p := directory.child fileName
  Files.ensureDirectories directory
  let maxBytes ← Task.ofExcept (Settings.number ">" setup.maxBytes)
  let whole := ((← get).absolute p).normalized
  let place ← Files.openAtEnd whole
  return (p, {
    path := whole
    maxBytes := maxBytes
    backups := setup.backups
    stream := .placed place })

/-- The handlers that take records to a file, and to the console if that is wanted, from a level on. -/
def handlersFor (file : LogFile) (level : Level) (console : Bool) : List (LogHandler × Level) :=
  (.rotating file, level) :: (if console then [(.console, level)] else [])

/-- The level of the quiet loggers, which is never below that of a warning. The name of a level cannot be
compared with one. -/
def quietFor (level : Json) : Except Failure Level := do
  match level with
  | .str _ => throw (.wrongKind (.incomparable ">" "int" "str"))
  | v => return (← Level.ofJson v).higher .warning

/-- Sets logging up and gives the path of the log file. A level that is asked for by its name is taken
for the handlers and fails after that, where the quiet loggers' is found. -/
def setUp (stamp : String) (env : Option String) (setup : Setup) : Task Logging Path := do
  let s ← get
  match s.book.path, setup.force with
  | some p, false => return p
  | _, _ => do
    let (p, file) ← besideBook (openFile env setup)
    let level ← Task.ofExcept (Level.ofJson setup.level)
    modify fun s => { s with book := { s.book with
      decided := []
      level := level
      handlers := handlersFor file level setup.console } }
    let quiet ← Task.ofExcept (quietFor setup.level)
    modify fun s => { s with book := { s.book with path := some p, quietLevel := quiet } }
    write stamp { level := .debug, logger := logger, message := "Logging to " ++ p.toString }
    return p

/-- The set-up that settings ask for: it is forced, and follows the program step by step when the
settings say so. -/
def fromSettings (s : Settings) (console : Bool) : Setup where
  level := Level.toJson (if s.debugLogging.isTrue then .debug else .info)
  directory := s.logDir
  console := console
  force := true

end LogBook

end JavaStudio
