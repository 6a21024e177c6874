import JavaStudio.Json.Printer
import JavaStudio.Encoding.Utf8
import JavaStudio.Studio.Basic

/-!
# Reports

How the values of the studio are reported as JSON: failures, diagnostics, the contents of files, the
records of the log and what passed between the studio and its collaborators.
-/

namespace JavaStudio.Report

/-- The fields of an object. -/
abbrev Fields := List (String × Json)

/-- A text. -/
def text (t : Text) : Json := .str (String.ofList t)

/-- A value that may be missing. -/
def optional {α : Type} (f : α → Json) : Option α → Json
  | some a => f a
  | none => .null

/-- A path. -/
def path (p : Path) : Json := .str p.toString

/-- Paths. -/
def paths (ps : List Path) : Json := .arr (ps.map path)

/-- The fields of a package fault. -/
def packageFault (fault : PackageFault) : Fields :=
  [("message", .str fault.message), ("line", .int (-1)), ("path", optional path fault.path),
    ("directory", optional .str fault.directory), ("component", optional .str fault.component)]

/-- The message of a failure is reported where its wording is the studio's own. -/
def details : Failure → Fields
  | .file fault _ => [("message", .str fault.text)]
  | .invalidPackage fault => packageFault fault
  | .undecodable _ | .unencodable | .exit _ | .wrongKind _ | .absentDocument | .notJoined => []
  | .noSuchName _ => []
  | .outside .badSyntax _ => []
  | f => [("message", .str f.message)]

/-- The fields of a failure. -/
def failure (f : Failure) : Fields := ("error", .str f.name) :: details f

/-- The fields of an answer or a failure. -/
def outcome : Except Failure Json → Fields
  | .ok v => [("ok", v)]
  | .error f => failure f

/-- A diagnostic. -/
def diagnostic (d : Diagnostic) : Json :=
  .obj [("file", text d.file), ("line", .int d.line), ("column", .int d.column),
    ("message", text d.message), ("warning", .bool d.warning)]

/-- Diagnostics. -/
def diagnostics (ds : Diagnostics) : Json := .arr (ds.map diagnostic)

/-- The two hexadecimal digits of every byte. -/
def hex (bs : Bytes) : Text := bs.flatMap fun b => Text.hex 2 b.toNat

/-- The content of a file: its text, or its bytes if it is no text or has carriage returns. -/
def content (bs : Bytes) : Json :=
  match (Utf8.decode? bs).filter fun t => !t.contains '\r' with
  | some t => text t
  | none => .obj [("hex", text (hex bs))]

/-- The state of a future whose result is reported by `f`. -/
def future {α : Type} (f : α → Json) : Option (Except Failure α) → Json
  | none => .obj [("done", .bool false)]
  | some (.ok a) => .obj [("done", .bool true), ("result", f a)]
  | some (.error e) => .obj (("done", .bool true) :: failure e)

/-- The message of a log record with its detail. -/
def message (r : LogRecord) : String :=
  match r.detail with
  | some detail => r.message ++ ": " ++ detail
  | none => r.message

/-- A log record. -/
def logRecord (r : LogRecord) : Json :=
  .arr ([.str r.level.name, .str r.logger, .str (message r)] ++
    match r.cause with
    | some f => [.str f.name]
    | none => [])

/-- A field with the items of a list, left out when there are none. -/
def items (name : String) : List Json → Fields
  | [] => []
  | vs => [(name, .arr vs)]

/-- What an interpreter was asked to do. -/
def request (interpreter : Nat) (words : List Json) : Json :=
  .arr (.str "interpreter" :: .int interpreter :: words)

/-- A moment of the journal, if it is reported. -/
def moment? : Moment → Option Json
  | .created n => some (request n [.str "create"])
  | .classpath n p => some (request n [.str "add_classpath", .str p])
  | .interpreted n source => some (request n [.str "interpret", text source])
  | .printed t => some (.arr [.str "output", text t])
  | .noted row => some row
  | .announced _ _ | .asked _ _ | .returned _ | .compiled _ _ _ | .promised _ _ _
  | .entrusted _ _ _ _ | .diagnosed _ _ | .resolved _ _ | .exited _ | .rearranged _ => none

end JavaStudio.Report
