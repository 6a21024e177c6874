import JavaStudio.Host
import JavaStudio.Json.Printer

/-!
# Settings

The ten options of the studio. A value is kept as it was given, so that an option of the wrong kind
fails where it is used and not before. `Settings.ofFn` and `Settings.get` turn settings into a
function on their options and back.
-/

namespace JavaStudio

/-- The options of the studio. -/
inductive Setting
  | launcherKeyword
  | activeCompiler
  | javacPath
  | compileOutputDir
  | extraClasspath
  | indentWidth
  | historyLimit
  | debugLogging
  | logDir
  | recentFiles
  deriving DecidableEq, Repr

namespace Setting

/-- All options. -/
def all : List Setting :=
  [launcherKeyword, activeCompiler, javacPath, compileOutputDir, extraClasspath, indentWidth,
    historyLimit, debugLogging, logDir, recentFiles]

/-- The key of an option in a settings file. -/
def key : Setting → String
  | launcherKeyword => "launcher_keyword"
  | activeCompiler => "active_compiler"
  | javacPath => "javac_path"
  | compileOutputDir => "compile_output_dir"
  | extraClasspath => "extra_classpath"
  | indentWidth => "indent_width"
  | historyLimit => "history_limit"
  | debugLogging => "debug_logging"
  | logDir => "log_dir"
  | recentFiles => "recent_files"

/-- The value of an option that nobody set. -/
def standard : Setting → Json
  | launcherKeyword => .str "java"
  | activeCompiler => .null
  | javacPath => .str "javac"
  | compileOutputDir => .null
  | extraClasspath => .arr []
  | indentWidth => .int 2
  | historyLimit => .int 500
  | debugLogging => .bool false
  | logDir => .null
  | recentFiles => .arr []

theorem mem_all (s : Setting) : s ∈ all := by cases s <;> decide

end Setting

/-- A value for every option. -/
structure Settings where
  launcherKeyword : Json
  activeCompiler : Json
  javacPath : Json
  compileOutputDir : Json
  extraClasspath : Json
  indentWidth : Json
  historyLimit : Json
  debugLogging : Json
  logDir : Json
  recentFiles : Json
  deriving Repr, Inhabited

namespace Settings

/-- The settings with the values of a function. -/
def ofFn (f : Setting → Json) : Settings where
  launcherKeyword := f .launcherKeyword
  activeCompiler := f .activeCompiler
  javacPath := f .javacPath
  compileOutputDir := f .compileOutputDir
  extraClasspath := f .extraClasspath
  indentWidth := f .indentWidth
  historyLimit := f .historyLimit
  debugLogging := f .debugLogging
  logDir := f .logDir
  recentFiles := f .recentFiles

/-- The value of an option. -/
def get (s : Settings) : Setting → Json
  | .launcherKeyword => s.launcherKeyword
  | .activeCompiler => s.activeCompiler
  | .javacPath => s.javacPath
  | .compileOutputDir => s.compileOutputDir
  | .extraClasspath => s.extraClasspath
  | .indentWidth => s.indentWidth
  | .historyLimit => s.historyLimit
  | .debugLogging => s.debugLogging
  | .logDir => s.logDir
  | .recentFiles => s.recentFiles

@[simp] theorem get_ofFn (f : Setting → Json) (o : Setting) : (ofFn f).get o = f o := by
  cases o <;> rfl

@[simp] theorem ofFn_get (s : Settings) : ofFn s.get = s := rfl

/-- Settings are equal when they agree on every option. -/
theorem ext_get {s t : Settings} (h : ∀ o, s.get o = t.get o) : s = t := by
  rw [← ofFn_get s, ← ofFn_get t, funext h]

/-- The settings that nobody set. -/
def standard : Settings := ofFn Setting.standard

/-- The settings with the changes that are given. -/
def merge (changes : Setting → Option Json) (s : Settings) : Settings :=
  ofFn fun o => (changes o).getD (s.get o)

@[simp] theorem get_merge (changes : Setting → Option Json) (s : Settings) (o : Setting) :
    (s.merge changes).get o = (changes o).getD (s.get o) := get_ofFn _ o

/-- What some fields say of the options. -/
def given (fields : List (String × Json)) (o : Setting) : Option Json :=
  Json.lookup o.key fields

/-- What some fields say of the options, null counting as nothing. -/
def givenValue (fields : List (String × Json)) (o : Setting) : Option Json :=
  (given fields o).filter fun v => !v.isNull

/-- There is an option of this key. -/
def hasKey (key : String) : Bool := Setting.all.any (·.key == key)

/-- The settings made from fields, each of which must be an option. -/
def made (fields : List (String × Json)) : Except Failure Settings :=
  match fields.find? fun f => !hasKey f.1 with
  | none => .ok (standard.merge (given fields))
  | some f => .error (.wrongKind (.unknownOption f.1))

/-- The settings as fields. -/
def fields (s : Settings) : List (String × Json) := Setting.all.map fun o => (o.key, s.get o)

/-- The settings as fields, if there is room to copy each value. -/
def copied (s : Settings) (room : Nat) : Except Failure (List (String × Json)) :=
  if s.fields.all (·.2.room ≤ room) then .ok s.fields else .error (.tooDeep .setting)

/-- A letter as a value. -/
def ofLetter (l : Letter) : Json := .ofWide (.ofLetters [l])

/-- The items of a value that can be gone through: those of an array, the letters of a string,
the names of an object. -/
def items? : Json → Option (List Json)
  | .arr vs => some vs
  | .str s => some (s.toList.map fun c => .str (String.ofList [c]))
  | .torn t half rest => some ((Wide.torn t half rest).letters.map ofLetter)
  | .obj fs => some (fs.map fun f => .str f.1)
  | _ => none

/-- The items of a value that is gone through. -/
def items (v : Json) : Except Failure (List Json) :=
  match items? v with
  | some vs => .ok vs
  | none => .error (.wrongKind (.notIterable v.kind))

/-- The items of a value that are listed after others. -/
def listed (v : Json) : Except Failure (List Json) :=
  match items? v with
  | some vs => .ok vs
  | none => .error (.wrongKind (.notListed v.kind))

/-- A value as a path. The system has no name for a text that is torn. -/
def path : Json → Except Failure Path
  | .str s => .ok (Path.ofString s)
  | .torn .. => .error .unencodable
  | v => .error (.wrongKind (.notPath v.kind))

/-- A value as a number that is compared with an integer by some sign. A truth value counts as one or
zero. -/
def number (sign : String) : Json → Except Failure Number
  | .num n => .ok n
  | .bool b => .ok (.int (if b then 1 else 0))
  | v => .error (.wrongKind (.incomparable sign v.kind "int"))

/-- A value as a text. -/
def text (v : Json) : Except Failure Wide :=
  match v.wide? with
  | some w => .ok w
  | none => .error (.wrongKind (.notText v.kind))

theorem text_ofWide (w : Wide) : text (.ofWide w) = .ok w := by
  rw [text, Json.wide?_eq_some.2 rfl]

/-- How many recent files are kept. -/
def recentLimit : Nat := 10

/-- The item is not the given path. -/
def differs (entry : String) : Json → Bool
  | .str s => s != entry
  | _ => true

/-- Recent files with a path moved to their front. -/
def pushRecent (entry : String) (recent : List Json) : List Json :=
  (.str entry :: recent.filter (differs entry)).take recentLimit

/-- The recent files, unless one is nested too deep to be reported. -/
def reportedRecent (s : Settings) (machine : Machine := {}) : Except Failure Json :=
  if s.recentFiles.depth ≤ machine.listedNesting then .ok s.recentFiles else .error (.tooDeep .listed)

/-- The settings with a path at the front of the recent files. -/
def remember (fs : Files) (s : Settings) (p : Path) : Except Failure Settings :=
  match fs.locate p with
  | .error e => .error e
  | .ok p => match items s.recentFiles with
    | .error e => .error e
    | .ok recent => .ok { s with recentFiles := .arr (pushRecent p.toString recent) }

end Settings

end JavaStudio
