import JavaStudio.Failure
import JavaStudio.Files.Tree
import JavaStudio.Text.Wide

/-!
# The machine

What a program finds on its machine and in no file: how far calls can be nested, the encoding of the
locale and the encodings that are known beside those of the studio's own table.
-/

namespace JavaStudio

/-- An encoding of texts. It may refuse a text that it has no bytes for, and bytes that are no text. -/
structure Codec where
  encode : Wide → Except Failure Bytes
  decode : Bytes → Except Failure Text

/-- How many calls can usually be nested in each other below those of a program itself. -/
def usualCalls : Nat := 989

theorem roomy_usual : 16 ≤ usualCalls := by decide

/-- A machine. The calls of the studio itself find room on it. -/
structure Machine where
  /-- How many more calls can be nested in each other. -/
  calls : Nat := usualCalls
  roomy : 16 ≤ calls := by exact roomy_usual
  /-- The name of the encoding of the locale, which is empty if there is none. -/
  preferred : String := "utf-8"
  /-- The encodings of the other names. -/
  codec? : String → Option Codec := fun _ => none

namespace Machine

instance : Inhabited Machine := ⟨{}⟩

/-- How deep things may be nested in each other. -/
def nesting (m : Machine) : Nat := m.calls - 5

/-- How many directories may be missing of those that are made from the top. -/
def missing (m : Machine) : Nat := m.calls - 1

/-- How deep a directory may lie below another one that is listed. -/
def listing (m : Machine) : Nat := m.calls - 7

/-- The room for copies of values of settings that are reported. -/
def reportRoom (m : Machine) : Nat := m.calls - 1

/-- The room for copies of values of settings that are saved. -/
def saveRoom (m : Machine) : Nat := m.calls - 2

/-- How deep a list may be nested that is reported by itself. -/
def listedNesting (m : Machine) : Nat := (m.calls - 3) / 2

end Machine

/-- The room for copies of reported values on a machine with as many calls as are usual. -/
def reportRoom : Nat := Machine.reportRoom {}

end JavaStudio
