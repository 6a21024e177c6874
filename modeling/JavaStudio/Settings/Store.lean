import JavaStudio.Json.Reader
import JavaStudio.Number.Numeral
import JavaStudio.Settings.Basic
import JavaStudio.Source.File
import JavaStudio.Text.Lower

/-!
# The settings file

Settings are kept as a JSON document with a version. `load` lays the values of the file over the
standard ones, the values given at start-up over those and the variables of the environment over all.
A file without a version, or of another version, is written again in the current one as soon as it
is read.
-/

namespace JavaStudio.Store

/-- The current version of the settings file. -/
def version : Int := 1

/-- The logger of the settings. -/
def logger : String := "workbench.services.settings"

/-- A record of the settings. -/
def record (level : Level) (message : String) (detail : Option String) : LogRecord :=
  { level := level, logger := logger, message := message, detail := detail }

/-- How the text of a variable is read. -/
inductive Reading
  | verbatim
  | flag
  | integer
  deriving DecidableEq, Repr

/-- The variables of the environment, the option of each and how its text is read. -/
def variableTable : List (String × Setting × Reading) := [
  ("WORKBENCH_LAUNCHER", .launcherKeyword, .verbatim),
  ("WORKBENCH_COMPILER", .activeCompiler, .verbatim),
  ("WORKBENCH_JAVAC", .javacPath, .verbatim),
  ("WORKBENCH_OUTPUT_DIR", .compileOutputDir, .verbatim),
  ("WORKBENCH_LOG_DIR", .logDir, .verbatim),
  ("WORKBENCH_DEBUG_LOGGING", .debugLogging, .flag),
  ("WORKBENCH_INDENT_WIDTH", .indentWidth, .integer),
  ("WORKBENCH_HISTORY_LIMIT", .historyLimit, .integer)]

/-- The words that switch a flag on. -/
def onWords : List Text := ["1", "true", "yes", "on", "debug"].map Text.ofString

/-- The value that a variable's text stands for. A torn text is neither a word nor a number. -/
def convert : Reading → Wide → Option Json
  | .verbatim, w => some (.ofWide w)
  | .flag, .text t => some (.bool (onWords.contains (Text.lower (Text.trim t))))
  | .flag, .torn .. => some (.bool false)
  | .integer, .text t => (Numeral.read? t).map .int
  | .integer, .torn .. => none

/-- The text of a variable. -/
def valueOf? (env : Environment) (name : String) : Option Wide :=
  (env.bindings.find? fun v => v.1 == name).map (·.2)

/-- The variable of an option. -/
def variableOf? (o : Setting) : Option (String × Reading) :=
  (variableTable.find? fun v => v.2.1 = o).map fun v => (v.1, v.2.2)

/-- What the environment says of an option. -/
def fromEnvironment (env : Environment) (o : Setting) : Option Json := do
  let (name, reading) ← variableOf? o
  let w ← valueOf? env name
  convert reading w

/-- The variables whose text is refused, with their text. -/
def refused (env : Environment) : List (String × Wide) :=
  variableTable.filterMap fun (name, _, reading) =>
    match valueOf? env name with
    | none => none
    | some w => if (convert reading w).isSome then none else some (name, w)

/-- What is logged of a variable whose text is refused. -/
def refusal (name : String) (w : Wide) : LogRecord :=
  record .warning ("Ignoring " ++ name ++ "=" ++ String.ofList w.quoted ++ ": expected int") none

/-- Logs the variables whose text is refused. -/
def reportRefused : List (String × Wide) → Task Host Unit
  | [] => pure ()
  | (name, w) :: rest => do
    Host.report (refusal name w)
    reportRefused rest

/-- The document of some settings. -/
def document (s : Settings) : Json := .obj (s.fields ++ [("version", .int version)])

/-- The text of a settings file. -/
def render (s : Settings) : Text := (document s).indented

/-- The content of a settings file, unless an integer in it is too long to be written. -/
def contentOf (s : Settings) : Except Failure Bytes :=
  if (document s).isWritable then .ok (Utf8.encode (render s)) else .error .longInteger

/-- Writes settings to a scratch file beside their file and moves it over. -/
def save (p : Path) (s : Settings) : Task Host Unit := Host.onFiles do
  let _ ← Task.ofExcept (s.copied (← get).machine.saveRoom)
  Files.ensureDirectories p.parent
  match p.withSuffix? ".tmp" with
  | none => throw (.emptyName p)
  | some scratch => do
    let content ← Task.ofExcept (contentOf s)
    Files.writeBytes scratch content
    Files.replace scratch p

/-- Gives a scratch file its content. A system that refuses to fill it leaves the bytes that were
written before. -/
def fill (refused : Refusals) (written : Nat) (p scratch : Path) (content : Bytes) :
    Task Files Unit := do
  Task.ofExcept (refused.check (.making p))
  match refused (.filling p) with
  | some fault => do
    Files.writeBytes scratch (content.take written)
    throw (.file fault p.toString)
  | none => Files.writeBytes scratch content

/-- Writes settings as `save` does, on a system that may refuse. -/
def saveUnder (refused : Refusals) (written : Nat) (p : Path) (s : Settings) : Task Host Unit :=
  Host.onFiles do
    let _ ← Task.ofExcept (s.copied (← get).machine.saveRoom)
    Files.ensureDirectories p.parent
    match p.withSuffix? ".tmp" with
    | none => throw (.emptyName p)
    | some scratch => do
      let content ← Task.ofExcept (contentOf s)
      fill refused written p scratch content
      Task.ofExcept (refused.check (.moving p))
      Files.replace scratch p

/-- Logs the faults of a file. -/
def reportFaults (p : Path) : List Schema.Violation → Task Host Unit
  | [] => pure ()
  | v :: vs => do
    Host.report (record .warning ("Ignoring settings file " ++ p.toString ++ ": " ++ v.place)
      (some v.detail))
    reportFaults p vs

/-- The fields of a settings file whose text is this; none when it is not a valid document. -/
def fieldsOf (p : Path) (t : Text) : Task Host (List (String × Json)) := do
  match Json.readWithin (← get).files.machine.nesting t with
  | .error .malformed =>
    Host.report (record .warning ("Settings file " ++ p.toString ++ " is not valid JSON")
      (some "malformed"))
    return []
  | .error (.longInteger digits) => throw (.tooManyDigits digits)
  | .error .deepArray => throw (.tooDeep .array)
  | .error .deepObject => throw (.tooDeep .object)
  | .ok v =>
    let faults ← Task.ofExcept ((← get).validate v)
    reportFaults p (faults.mergeSort Schema.Violation.notAfter)
    match faults, v with
    | [], .obj fields => return fields
    | _, _ => return []

/-- The text of a settings file. -/
def textOf (bs : Bytes) : Except Failure Text := (Encoding.utf8.decode bs).map Text.unixNewlines

/-- The fields of a settings file; none when there is no file. -/
def readFields (p : Path) : Task Host (List (String × Json)) := do
  if ← Host.askFiles (·.holds p) then
    let bs ← Host.askFiles (·.readBytes p)
    let t ← Task.ofExcept (textOf bs)
    fieldsOf p t
  else return []

/-- The fields say that they are of the current version. -/
def isCurrent (fields : List (String × Json)) : Bool :=
  match Json.lookup "version" fields with
  | some (.num n) => n.toInt? == some version
  | _ => false

/-- The settings of the file, which is written again if it is not of the current version. -/
def loadFile (p : Path) : Task Host Settings := do
  let fields ← readFields p
  let s := Settings.standard.merge (Settings.given fields)
  if !fields.isEmpty && !isCurrent fields then do
    Host.report (record .info
      ("Upgrading settings file " ++ p.toString ++ " to version " ++ toString version) none)
    save p s
  return s

/-- The settings of the file with overrides and the environment laid over. -/
def load (p : Path) (overrides : List (String × Json)) : Task Host Settings := do
  let s ← loadFile p
  let env := (← get).environment
  reportRefused (refused env)
  return (s.merge (Settings.givenValue overrides)).merge (fromEnvironment env)

/-- Where settings are kept by default. -/
def defaultPath (fs : Files) : Path :=
  ((Path.ofString fs.home).child ".workbench").child "settings.json"

end JavaStudio.Store
