import JavaStudio.Files.Resolve
import JavaStudio.Log.Level
import JavaStudio.Settings.Schema

/-!
# The host

What the studio finds around it: files, the variables of its environment, a validator of settings and a
log. A record of the log has a level, the name of the part that wrote it and a message; a record about a
failure carries the failure.
-/

namespace JavaStudio

/-- A record of the log. The detail is what another library says at the end of the message. -/
structure LogRecord where
  level : Level
  logger : String
  message : String
  detail : Option String := none
  cause : Option Failure := none
  deriving DecidableEq, Repr

/-- The variables of an environment with their values. Where the system holds bytes, one that is no text
is half of a surrogate pair and can begin none; where it holds units of sixteen bits, two that make a
pair are its character. -/
structure Environment where
  bindings : List (String × Wide)
  apart : ∀ v ∈ bindings, v.2.Apart

namespace Environment

/-- An environment of which every value is a text. -/
def ofTexts (vs : List (String × String)) : Environment where
  bindings := vs.map fun v => (v.1, .text v.2.toList)
  apart v hv := by
    obtain ⟨_, -, rfl⟩ := List.mem_map.1 hv
    trivial

instance : Coe (List (String × String)) Environment := ⟨ofTexts⟩

instance : Inhabited Environment := ⟨ofTexts []⟩

end Environment

/-- Files, environment, validator and log. -/
structure Host where
  files : Files
  environment : Environment := .ofTexts []
  validate : Schema.Validator := Schema.check
  log : List LogRecord := []
  deriving Inhabited

namespace Host

/-- Adds a record to the log. -/
def report (r : LogRecord) : Task Host Unit := fun h => (.ok (), { h with log := h.log ++ [r] })

/-- A step on the files. -/
def onFiles {α : Type} (x : Task Files α) : Task Host α :=
  x.within Host.files fun fs h => { h with files := fs }

/-- A question about the files. -/
def askFiles {α : Type} (f : Files → Except Failure α) : Task Host α := fun h => (f h.files, h)

end Host

end JavaStudio
