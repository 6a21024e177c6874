import JavaStudio.Compiler.Diagnostic
import JavaStudio.Encoding.Flaw
import JavaStudio.Host
import JavaStudio.Json.Printer

/-!
# The javac compiler

The command line of a compile and what its process says about the sources. A run that could not be
started, or that failed without naming an error, gives one error of its own, so a failed run is never
taken for a success. A run whose streams hold bytes that are no text gives nothing: the compile fails.
-/

namespace JavaStudio

/-- How javac is called. The executable is kept as it was given, so that one that is no text is called
nevertheless. -/
structure Javac where
  executable : Json := .str "javac"
  outputDirectory : Option Path := none
  extraClasspath : List String := []
  deriving Repr, Inhabited

/-- How the call of a process came out. -/
inductive ProcessOutcome
  /-- It ended with a status and wrote a text to its error stream. -/
  | exited (status : Int) (errors : Text)
  /-- It ended with a status, and one of its streams holds bytes that are no text. -/
  | garbled (status : Int) (bytes : BadBytes)
  /-- It was not run, or not to its end. -/
  | notRun (cause : Failure)
  deriving DecidableEq, Repr

/-- The outcome of a process that ended with a status and wrote some bytes to its two streams. Both are
decoded before anything is read of them, the output first. -/
def ProcessOutcome.ofStreams (decode : Bytes → Except BadBytes Text) (status : Int)
    (output errors : Bytes) : ProcessOutcome :=
  match decode output with
  | .error bad => .garbled status bad
  | .ok _ =>
    match decode errors with
    | .error bad => .garbled status bad
    | .ok text => .exited status (Text.unixNewlines text)

namespace Javac

/-- The text of the executable. -/
def program (j : Javac) : String := String.ofList j.executable.display

/-- The name under which the compiler is listed. -/
def name (j : Javac) : String := "javac (" ++ j.program ++ ")"

/-- The executable is one of some programs. -/
def isAmong (j : Javac) (programs : List String) : Bool :=
  match j.executable with
  | .str program => programs.contains program
  | _ => false

/-- The executable is found among some programs, which is asked only of a path. -/
def isFound (j : Javac) (programs : List String) : Except Failure Bool :=
  match j.executable with
  | .str program => .ok (programs.contains program)
  | .torn .. => .ok false
  | v => .error (.wrongKind (.notPath v.kind))

/-- The arguments of a call that compiles files below a source root. -/
def arguments (j : Javac) (root : Path) (files : List Path) : List String :=
  ["-sourcepath", root.toString, "-classpath",
    ":".intercalate (root.toString :: j.extraClasspath), "-d",
    (j.outputDirectory.getD root).toString] ++ files.map (·.toString)

/-- The command that compiles files below a source root. -/
def command (j : Javac) (root : Path) (files : List Path) : List Json :=
  j.executable :: (j.arguments root files).map .str

/-- A process that was not run for this reason counts as a failed compile. -/
def refusesProcess : Failure → Bool
  | .file _ _ | .outside .system _ | .outside .process _ => true
  | _ => false

/-- The file that an error without a place is about. -/
def target (root : Path) (files : List Path) : Text := (files.headD root).toString.toList

/-- What is said of a failed run that names no error. -/
def failedRun (status : Int) (errors : Text) : Text :=
  Text.ofString "Compilation failed: " ++
    match Text.trim errors with
    | [] => Text.ofString s!"exit status {status}"
    | detail => detail

/-- The diagnostics of a process that ran. -/
def ofRun (target : Text) (status : Int) (errors : Text) : Except Failure Diagnostics :=
  match Diagnostic.parse errors with
  | .error e => .error e
  | .ok ds =>
    if status ≠ 0 && ds.all (·.warning) then
      .ok (ds ++ [Diagnostic.unlocated target (failedRun status errors)])
    else .ok ds

/-- The diagnostics of a compile whose process ended so. -/
def diagnose (j : Javac) (root : Path) (files : List Path) : ProcessOutcome → Task Host Diagnostics
  | .exited status errors => Task.ofExcept (ofRun (target root files) status errors)
  | .garbled _ bytes => throw (.undecodable bytes)
  | .notRun cause => do
    if refusesProcess cause then
      Host.report {
        level := .warning
        logger := "workbench.compiler.javac"
        message := "Could not run " ++ j.program ++ ": " ++ cause.message }
      return [Diagnostic.unlocated (target root files)
        (Text.ofString ("Could not run compiler: " ++ cause.message))]
    else throw cause

end Javac

end JavaStudio
