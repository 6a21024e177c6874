import JavaStudio.Host

/-!
# The registry of compilers

The compilers in the order in which they were registered and the one that is active. Whether a
compiler can run may change from one call to the next, so the active one is checked again whenever it
is read, and a placeholder stands in while none can run.
-/

namespace JavaStudio

/-- A compiler is known by the number under which it was made. -/
abbrev CompilerId := Nat

/-- A compiler, or what stands in for one. -/
inductive Choice
  | placeholder
  | compiler (id : CompilerId)
  deriving DecidableEq, Repr

/-- The registered compilers and the active one. -/
structure Registry where
  compilers : List CompilerId := []
  active : Option Choice := none
  deriving DecidableEq, Repr, Inhabited

namespace Registry

/-- The name of what stands in for a compiler. -/
def placeholderName : String := "(no compiler available)"

/-- What a compile without a compiler reports. -/
def noCompilerMessage : String := "No compiler is available"

/-- What is logged when none can run. -/
def noneAvailable : LogRecord :=
  { level := .warning, logger := "workbench.compiler.registry"
    message := "No registered compiler is available" }

/-- The registry with one more compiler. -/
def register (r : Registry) (c : CompilerId) : Registry :=
  { r with compilers := r.compilers ++ [c] }

/-- The registered compilers that can run. -/
def running (r : Registry) (isUp : CompilerId → Bool) : List CompilerId := r.compilers.filter isUp

/-- The compilers on offer: those that can run, or the placeholder. -/
def available (r : Registry) (isUp : CompilerId → Bool) : List Choice :=
  match r.running isUp with
  | [] => [.placeholder]
  | cs => cs.map .compiler

/-- The active choice still holds: it is a compiler that can run. -/
def holds (r : Registry) (isUp : CompilerId → Bool) : Option Choice :=
  match r.active with
  | some (.compiler c) => if isUp c then some (.compiler c) else none
  | _ => none

/-- The first choice on offer. -/
def first (r : Registry) (isUp : CompilerId → Bool) : Choice :=
  match r.running isUp with
  | [] => .placeholder
  | c :: _ => .compiler c

/-- The active choice: the last one while it holds, else the first on offer. -/
def current (r : Registry) (isUp : CompilerId → Bool) : Choice :=
  (r.holds isUp).getD (r.first isUp)

/-- The registry after its active choice was read. -/
def refreshed (r : Registry) (isUp : CompilerId → Bool) : Registry :=
  { r with active := some (r.current isUp) }

/-- The offer had to be made up, which is logged. -/
def lacks (r : Registry) (isUp : CompilerId → Bool) : Bool := (r.running isUp).isEmpty

/-- Makes a choice the active one. -/
def activate (r : Registry) (isUp : CompilerId → Bool) (nameOf : CompilerId → String) :
    Choice → Except Failure Registry
  | .placeholder => .ok { r with active := some .placeholder }
  | .compiler c =>
    if c ∉ r.compilers then .error (.unregisteredCompiler (nameOf c))
    else if isUp c then .ok { r with active := some (.compiler c) }
    else .error (.unavailableCompiler (nameOf c))

/-- Makes the first compiler of a name the active one. -/
def select (r : Registry) (isUp : CompilerId → Bool) (nameOf : CompilerId → String)
    (name : String) : Except Failure (CompilerId × Registry) :=
  match r.compilers.find? fun c => nameOf c == name with
  | none => .error (.unknownCompiler (quoted name))
  | some c => (r.activate isUp nameOf (.compiler c)).map fun r => (c, r)

end Registry

end JavaStudio
