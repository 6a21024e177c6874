import JavaStudio.Encoding.Utf8
import JavaStudio.Files.Basic
import JavaStudio.Json.Basic

/-!
# Log files

A file that lines are added to and that is rolled over before it grows past a size: it becomes the first
of its backups, each backup the next one, and a new file is begun. A line that cannot be written is
lost, and nothing else is.
-/

namespace JavaStudio

/-- What the writer of a log file has open: nothing until it writes again, the file at a location, or a
file of some size that was taken from its place. -/
inductive LogStream
  | closed
  | placed (place : Location)
  | displaced (size : Nat)
  deriving DecidableEq, Repr

/-- A file that records are written to, at an absolute path. -/
structure LogFile where
  path : Path
  maxBytes : Number
  backups : Json
  stream : LogStream
  deriving Repr

/-- A log file and the files around it. -/
structure LogPen where
  files : Files
  file : LogFile

/-- The size of what is open. -/
def LogPen.size (pen : LogPen) : Nat :=
  match pen.file.stream with
  | .closed => 0
  | .placed place => (pen.files.sizeAt? place).getD 0
  | .displaced size => size

/-- A line would make the file reach its size. -/
def LogPen.isFull (pen : LogPen) (line : Text) : Bool :=
  pen.file.maxBytes.gtInt 0 && !pen.file.maxBytes.gtInt (pen.size + (line.length + 1))

/-- What is open after the files changed from `old` to `new`: a file may have been taken away. -/
def LogStream.afterChange (old new : Files) : LogStream → LogStream
  | .placed place =>
    if (new.sizeAt? place).isSome then .placed place else .displaced ((old.sizeAt? place).getD 0)
  | stream => stream

namespace LogFile

/-- The name of the `k`-th file that was rolled over. -/
def backup (p : Path) (k : Nat) : Path := p.parent.child s!"{p.name}.{k}"

/-- A file stands at a path. -/
def standsAsFile (fs : Files) (p : Path) : Bool :=
  match fs.stat p with
  | .ok (.file _) => true
  | _ => false

/-- Takes a file away, if it is there. -/
def discard (p : Path) : Task Files Unit := do
  if (← get).stands p then Files.remove p

/-- Moves every backup one further, the last first; the last one kept is lost. -/
def shiftBackups (p : Path) : Nat → Task Files Unit
  | 0 => pure ()
  | k + 1 => do
    if (← get).stands (backup p (k + 1)) then do
      discard (backup p (k + 2))
      Files.replace (backup p (k + 1)) (backup p (k + 2))
    shiftBackups p k

/-- The number of backups that a value stands for. What is no integer counts nothing; it is refused
unless it is a number that is not positive. -/
def backupsOf : Json → Except Failure Nat
  | .num (.int k) => .ok k.toNat
  | .bool b => .ok (if b then 1 else 0)
  | .num (.float x) => if x.gtInt 0 then .error (.wrongKind (.notCount "float")) else .ok 0
  | v => .error (.wrongKind (.incomparable ">" v.kind "int"))

/-- Moves a file to its first backup and makes room for that. -/
def moveToBackups (p : Path) (backups : Json) : Task Files Unit := do
  let backups ← Task.ofExcept (backupsOf backups)
  if 0 < backups then do
    shiftBackups p (backups - 1)
    discard (backup p 1)
    if (← get).stands p then Files.replace p (backup p 1)

/-- A step on the files around a log file. -/
def onPenFiles {α : Type} (x : Task Files α) : Task LogPen α :=
  x.within LogPen.files fun fs pen => { pen with files := fs }

/-- Sets what is open. -/
def setStream (stream : LogStream) : Task LogPen Unit :=
  modify fun pen => { pen with file := { pen.file with stream := stream } }

/-- Opens the file of a log at its end. -/
def openStream : Task LogPen Unit := do
  setStream (.placed (← onPenFiles (Files.openAtEnd (← get).file.path)))

/-- Opens the file of a log at its end, unless one is open. -/
def ensureStream : Task LogPen Unit := do
  if (← get).file.stream = .closed then openStream

/-- Rolls a file over and starts it anew. Without backups it goes on as it is. -/
def rollOver : Task LogPen Unit := do
  setStream .closed
  let f := (← get).file
  onPenFiles (moveToBackups f.path f.backups)
  openStream

/-- Makes room for a line. What is no file is never rolled over. -/
def makeRoom (line : Text) : Task LogPen Unit := do
  let pen ← get
  if standsAsFile pen.files pen.file.path || !pen.files.stands pen.file.path then do
    ensureStream
    if (← get).isFull line then rollOver

/-- Writes bytes to what is open. -/
def put (bytes : Bytes) : Task LogPen Unit := do
  match (← get).file.stream with
  | .closed => pure ()
  | .placed place => onPenFiles (Files.extend place bytes)
  | .displaced size => setStream (.displaced (size + bytes.length))

/-- Adds a line to a log file. -/
def writeLine (stamped : Text) : Task LogPen Unit := do
  makeRoom stamped
  ensureStream
  put (Utf8.encode (stamped ++ ['\n']))

end LogFile

end JavaStudio
