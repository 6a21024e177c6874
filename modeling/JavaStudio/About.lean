import JavaStudio.Report
import JavaStudio.Studio.Session

/-!
# About the studio

What the studio says about itself: its version, the texts that never change and the settings that
nobody set.
-/

namespace JavaStudio

/-- The version of the studio. -/
def version : String := "0.1.0"

/-- The sign for an evaluation with nothing to show. -/
def nothingShown : String := "NO_RESULT"

/-- The names of the handlers that a complete listener has. -/
def handlerNames : List String :=
  (EventKind.proper.map EventKind.handler).mergeSort fun a b => decide (a ≤ b)

/-- What never changes in the studio. -/
def about : Json := .obj [
  ("banner", Report.text Studio.banner), ("prompt", Report.text Studio.prompt),
  ("no_compiler", .str Registry.noCompilerMessage),
  ("signature", Report.text Studio.standardSignature), ("version", .str version),
  ("no_result", .str nothingShown), ("no_result_is_singleton", .bool true),
  ("handlers", Json.strings handlerNames), ("reasons", Json.strings [SaveReason.compile.word]),
  ("settings", .obj Settings.standard.fields)]

end JavaStudio
