import JavaStudio.Compiler.Javac
import JavaStudio.Compiler.Registry
import JavaStudio.Settings.Basic

/-!
# The compilers that the settings ask for

Without other compilers the studio has javac, called as the settings say. If they name an active
compiler that is not there or cannot run, that is logged and the choice left open.
-/

namespace JavaStudio.Settings

/-- The texts of some values. -/
def displays (vs : List Json) : List String := vs.map fun v => String.ofList v.display

/-- The directory for compiled classes, if one is set. -/
def outputDirectory (s : Settings) : Except Failure (Option Path) :=
  if s.compileOutputDir.isTrue then (path s.compileOutputDir).map some else .ok none

/-- javac as the settings call it. -/
def javac (s : Settings) : Except Failure Javac := do
  let output ← s.outputDirectory
  let extra ← items s.extraClasspath
  return {
    executable := s.javacPath
    outputDirectory := output
    extraClasspath := displays extra }

/-- What is logged about a configured compiler that is not taken. -/
def ignoredCompiler (cause : Failure) : LogRecord :=
  { level := .warning, logger := "workbench.model"
    message := "Ignoring configured compiler: " ++ cause.message }

/-- Makes the compiler of a configured name the active one. What is not a text is no name. -/
def selectNamed (r : Registry) (isUp : CompilerId → Bool) (nameOf : CompilerId → String) :
    Json → Except Failure Registry
  | .str name => (r.select isUp nameOf name).map (·.2)
  | v => .error (.unknownCompiler (String.ofList v.shown))

/-- The registry of one compiler, which is active if the settings name it. -/
def registry (s : Settings) (isUp : CompilerId → Bool) (nameOf : CompilerId → String)
    (c : CompilerId) : Task Host Registry := do
  let r : Registry := { compilers := [c] }
  if s.activeCompiler.isTrue then
    match selectNamed r isUp nameOf s.activeCompiler with
    | .ok r => return r
    | .error cause => do
      Host.report (ignoredCompiler cause)
      return r
  else return r

/-- javac as the settings call it and the registry of it alone, on a machine with some programs. Whether
it is among them is asked only when the settings name it. -/
def javacAmong (s : Settings) (programs : List String) : Task Host (Javac × Registry) := do
  let j ← Task.ofExcept s.javac
  let isUp ← if s.activeCompiler == .str j.name then Task.ofExcept (j.isFound programs) else pure false
  return (j, ← s.registry (fun _ => isUp) (fun _ => j.name) 0)

end JavaStudio.Settings
