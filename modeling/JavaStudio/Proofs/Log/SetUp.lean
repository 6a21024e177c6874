import JavaStudio.Log.Book
import JavaStudio.Proofs.Act
import JavaStudio.Proofs.Files.Backtrack

/-!
# Setting logging up

What is set up is an `Arrangement`: the path of the log, the levels, and where the handlers take their
records. Records that are written and changes of the files leave it as it is, and so does a call to set
logging up that fails or that has nothing to do (`Called`).

* `logging_arranged`: after any calls, records and changes of the files the arrangement is what the latest
  call that set logging up (`latest`) leaves, and this is what the next call finds.
* `setUp_astray`: a call whose level is given by its name fails after it has replaced the handlers, and
  where a `..` takes a link back there may be no file at the path that a call gives.
-/

namespace JavaStudio

/-! ## Log files -/

namespace LogFile

variable {α : Type}

/-- A writer keeps to its path. -/
abbrev Stays (x : Task LogPen α) : Prop := Task.Keeps (fun pen : LogPen => pen.file.path) x

theorem stays_onPenFiles (x : Task Files α) : Stays (onPenFiles x) := fun _ => rfl

theorem stays_setStream (stream : LogStream) : Stays (setStream stream) := fun _ => rfl

theorem stays_openStream : Stays openStream :=
  .bind .get fun _ => (stays_onPenFiles _).bind fun _ => stays_setStream _

theorem stays_ensureStream : Stays ensureStream := .bind .get fun _ => .ite stays_openStream (.pure _)

theorem stays_rollOver : Stays rollOver :=
  (stays_setStream _).bind fun _ => .bind .get fun _ => (stays_onPenFiles _).bind fun _ =>
    stays_openStream

theorem stays_makeRoom (line : Text) : Stays (makeRoom line) := by
  refine .bind .get fun pen => .ite ?_ (.pure _)
  exact stays_ensureStream.bind fun _ => .bind .get fun _ => .ite stays_rollOver (.pure _)

theorem stays_put (bytes : Bytes) : Stays (put bytes) := by
  refine .bind .get fun pen => ?_
  split
  · exact .pure _
  · exact stays_onPenFiles _
  · exact stays_setStream _

theorem stays_writeLine (stamped : Text) : Stays (writeLine stamped) :=
  (stays_makeRoom stamped).bind fun _ => stays_ensureStream.bind fun _ => stays_put _

end LogFile

/-- Where a handler takes records: to the file at a path, or to the console. -/
def LogHandler.target : LogHandler → Option Path
  | .rotating file => some file.path
  | .console => none

namespace LogBook

variable {env : Option String} {s s' : Logging} {p : Path}

/-! ## Arrangements -/

/-- What is set up: the path of the log, the level of the loggers and that of the quiet ones, and where
the handlers take records from which level on. -/
structure Arrangement where
  path : Option Path
  level : Level
  quietLevel : Level
  targets : List (Option Path × Level)
  deriving DecidableEq, Repr

/-- Where handlers take records. -/
def targets (handlers : List (LogHandler × Level)) : List (Option Path × Level) :=
  handlers.map fun h => (h.1.target, h.2)

/-- What a book has set up. -/
def arrangement (b : LogBook) : Arrangement := ⟨b.path, b.level, b.quietLevel, targets b.handlers⟩

/-- One log file, and the console if it is wanted, from one level on. The quiet loggers have this level
too, unless it is below that of a warning. -/
def arranged (p file : Path) (level : Level) (console : Bool) : Arrangement where
  path := some p
  level := level
  quietLevel := level.higher .warning
  targets := (some file, level) :: if console then [(none, level)] else []

/-! ## Writing records -/

theorem writeLine_kept (stamped : Text) (h : LogHandler) (s : Logging) :
    ∃ h' s', writeLine stamped h s = (.ok h', s') ∧ h'.target = h.target ∧
      s'.book.arrangement = s.book.arrangement := by
  cases h with
  | rotating file =>
    have path := LogFile.stays_writeLine stamped ⟨s.files, file⟩
    exact ⟨_, _, rfl, congrArg some path, rfl⟩
  | console => exact ⟨_, _, rfl, rfl, rfl⟩

theorem writeAll_cons (stamp : String) (r : LogRecord) (h : LogHandler) (least : Level)
    (handlers : List (LogHandler × Level)) : writeAll stamp r ((h, least) :: handlers) =
      (if r.level.reaches least then writeLine (line stamp r) h else pure h) >>= fun h =>
        writeAll stamp r handlers >>= fun handlers => pure ((h, least) :: handlers) := by
  rw [writeAll]
  split <;> rfl

theorem writeAll_kept (stamp : String) (r : LogRecord) (handlers : List (LogHandler × Level))
    (s : Logging) : ∃ handlers' s', writeAll stamp r handlers s = (.ok handlers', s') ∧
      targets handlers' = targets handlers ∧ s'.book.arrangement = s.book.arrangement := by
  induction handlers generalizing s with
  | nil => exact ⟨_, _, rfl, rfl, rfl⟩
  | cons handler handlers ih =>
    obtain ⟨h, least⟩ := handler
    obtain ⟨h', s₁, written, target, kept⟩ : ∃ h' s₁,
        (if r.level.reaches least then writeLine (line stamp r) h else pure h) s = (.ok h', s₁) ∧
          h'.target = h.target ∧ s₁.book.arrangement = s.book.arrangement := by
      split
      · exact writeLine_kept _ h s
      · exact ⟨h, s, rfl, rfl, rfl⟩
    obtain ⟨handlers', s', rest, same, kept'⟩ := ih s₁
    refine ⟨(h', least) :: handlers', s', ?_, ?_, kept'.trans kept⟩
    · rw [writeAll_cons, Task.bind_of_ok written, Task.bind_of_ok rest]
      rfl
    · rw [targets, List.map_cons, target, ← targets, same]
      rfl

/-- The handlers that a record is written to are the handlers of the book after it. -/
theorem writeAll_setHandlers_kept {handlers : List (LogHandler × Level)}
    (held : targets handlers = targets s.book.handlers) (stamp : String) (r : LogRecord) : ∃ s',
    (writeAll stamp r handlers >>= setHandlers) s = (.ok (), s') ∧
      s'.book.arrangement = s.book.arrangement := by
  obtain ⟨handlers', s₁, written, same, kept⟩ := writeAll_kept stamp r handlers s
  have unmoved : targets s₁.book.handlers = targets s.book.handlers :=
    congrArg Arrangement.targets kept
  rw [Task.bind_of_ok written]
  refine ⟨_, rfl, ?_⟩
  rw [← kept]
  simp only [arrangement, same, held, unmoved]

theorem arrangement_keep (r : LogRecord) (b : LogBook) : (b.keep r).arrangement = b.arrangement := by
  unfold keep
  split <;> rfl

/-- Writing a record does not fail and leaves the arrangement as it is. -/
theorem write_kept (stamp : String) (r : LogRecord) (s : Logging) : ∃ s',
    write stamp r s = (.ok (), s') ∧ s'.book.arrangement = s.book.arrangement := by
  rw [write, meet, Task.modify_bind, Task.get_bind, Task.modify_bind]
  split
  · rw [Task.modify_bind]
    split
    · split
      · exact ⟨_, rfl, arrangement_keep r _⟩
      · exact ⟨_, rfl, arrangement_keep r _⟩
    · refine (writeAll_setHandlers_kept ?_ stamp r).imp fun s' h =>
        ⟨h.1, h.2.trans (arrangement_keep r _)⟩
      show targets s.book.handlers = (keep r _).arrangement.targets
      rw [arrangement_keep]
      rfl
  · exact ⟨_, rfl, rfl⟩

/-! ## Calls -/

/-- A call to set logging up: directly, from a level that is not given by its name, or as settings ask for
it. -/
inductive Call
  | setUp (setup : Setup) (numbered : ∀ name, setup.level ≠ .str name)
  | ofSettings (settings : Settings) (console : Bool)

/-- What a call asks for. -/
def Call.setup : Call → Setup
  | setUp setup _ => setup
  | ofSettings settings console => fromSettings settings console

theorem Call.numbered (call : Call) (name : String) : call.setup.level ≠ .str name := by
  cases call with
  | setUp setup numbered => exact numbered name
  | ofSettings settings console =>
    simp only [Call.setup, fromSettings]
    split <;> exact nofun

/-- A call does something if nothing was set up before or if it is forced. -/
def Call.Counts (call : Call) (s : Logging) : Prop := s.book.path = none ∨ call.setup.force = true

/-- What a call that gives a path leaves set up: one log file, from the level that was asked for. The path
is in the directory that was asked for, and the file is at its absolute spelling without `..`. Both lead
to the same place if no `..` of the path takes a link back; else nothing is said of the file. -/
structure Leaves (env : Option String) (call : Call) (s : Logging) (p : Path) (a : Arrangement) :
    Prop where
  directory : ∃ d, directoryFor s.files env call.setup = .ok d ∧ p = d.child fileName
  level : Level.ofJson call.setup.level = .ok a.level
  file : ∃ file, a = arranged p file a.level call.setup.console ∧
    ∀ made, Files.ensureDirectories p.parent s.files = (.ok (), made) → made.Unbent p →
      file = (made.absolute p).normalized ∧
        ∀ place, made.Names .target file place ↔ made.Names .target p place

/-- What a call comes to. One that does not count gives the path that there is and changes nothing, one
that fails changes nothing but files, and one that does neither sets logging up. -/
inductive Called (env : Option String) (call : Call) (s : Logging) :
    Except Failure Path → Logging → Prop
  | kept {p : Path} : s.book.path = some p → call.setup.force = false → Called env call s (.ok p) s
  | failed {f : Failure} {files : Files} : call.Counts s →
      Called env call s (.error f) { s with files := files }
  | arranged {p : Path} {s' : Logging} : call.Counts s →
      Leaves env call s p s'.book.arrangement → Called env call s (.ok p) s'

theorem quietFor_numbered {v : Json} {level : Level} (numbered : ∀ name, v ≠ .str name)
    (given : Level.ofJson v = .ok level) : quietFor v = .ok (level.higher .warning) := by
  unfold quietFor
  split
  · exact absurd rfl (numbered _)
  · rw [given]
    rfl

theorem spelled_ofString (text : String) : (Path.ofString text).Spelled := fun _ hn =>
  component_of_mem_components hn

theorem spelled_expandHome {fs : Files} (spelled : p.Spelled) {q : Path}
    (expanded : fs.expandHome p = .ok q) : q.Spelled := by
  unfold Files.expandHome at expanded
  split at expanded
  · rename_i n ns _ parts
    split at expanded
    · rcases known : fs.homeOf n with f | home <;> rw [known] at expanded <;> cases expanded
      refine (spelled_ofString home).join fun m hm => spelled m ?_
      rw [parts]
      exact List.mem_cons_of_mem n hm
    · cases expanded
      exact spelled
  · cases expanded
    exact spelled

theorem component_fileName : Component fileName := ⟨by decide, by decide, by decide⟩

theorem spelled_defaultDirectory (fs : Files) : (defaultDirectory fs).Spelled := by
  have hidden : Component ".workbench" := ⟨by decide, by decide, by decide⟩
  have logs : Component "logs" := ⟨by decide, by decide, by decide⟩
  exact ((spelled_ofString _).child hidden).child logs

/-- The directory of log files is spelled by names. -/
theorem spelled_directoryFor {fs : Files} {setup : Setup} {d : Path}
    (asked : directoryFor fs env setup = .ok d) : d.Spelled := by
  unfold directoryFor at asked
  split at asked
  · rcases given : Settings.path setup.directory with f | p <;> rw [given] at asked
    · cases asked
    · refine spelled_expandHome ?_ asked
      unfold Settings.path at given
      split at given <;> cases given
      exact spelled_ofString _
  · split at asked
    · cases asked
      exact spelled_defaultDirectory fs
    · cases asked
      exact spelled_defaultDirectory fs
    · exact spelled_expandHome (spelled_ofString _) asked

theorem openFile_ok {setup : Setup} {fs fs' : Files} {file : LogFile}
    (run : openFile env setup fs = (.ok (p, file), fs')) :
    ∃ d made, directoryFor fs env setup = .ok d ∧ p = d.child fileName ∧
      Files.ensureDirectories d fs = (.ok (), made) ∧ file.path = (made.absolute p).normalized := by
  rw [openFile, Task.get_bind] at run
  obtain ⟨d, fs₁, directory, run⟩ := Task.bind_eq_ok.1 run
  rw [Task.ofExcept_apply, Prod.mk.injEq] at directory
  obtain ⟨directory, rfl⟩ := directory
  obtain ⟨_, fs₂, made, run⟩ := Task.bind_eq_ok.1 run
  obtain ⟨_, fs₃, number, run⟩ := Task.bind_eq_ok.1 run
  obtain ⟨-, rfl⟩ := Prod.mk.inj number
  rw [Task.get_bind] at run
  obtain ⟨_, _, -, run⟩ := Task.bind_eq_ok.1 run
  cases run
  exact ⟨d, fs₂, directory, rfl, made, rfl⟩

/-- A file that is opened is where the path leads that is given for it. -/
theorem leaves_of_openFile {call : Call} {fs : Files} {file : LogFile} {level : Level}
    (run : openFile env call.setup s.files = (.ok (p, file), fs))
    (asked : Level.ofJson call.setup.level = .ok level) :
    Leaves env call s p (arranged p file.path level call.setup.console) := by
  obtain ⟨d, made, directory, rfl, ensured, path⟩ := openFile_ok run
  refine ⟨⟨d, directory, rfl⟩, asked, file.path, rfl, fun made' ensured' unbent => ?_⟩
  rw [Path.parent_child, ensured] at ensured'
  cases ensured'
  have spelled := (spelled_directoryFor directory).child component_fileName
  exact ⟨path, fun place => path ▸ Files.names_normalized unbent spelled place⟩

/-- What a call does that counts. -/
def setUpAnew (stamp : String) (env : Option String) (setup : Setup) : Task Logging Path := do
  let (p, file) ← besideBook (openFile env setup)
  let level ← Task.ofExcept (Level.ofJson setup.level)
  modify fun s => { s with book := { s.book with
    decided := []
    level := level
    handlers := handlersFor file level setup.console } }
  let quiet ← Task.ofExcept (quietFor setup.level)
  modify fun s => { s with book := { s.book with path := some p, quietLevel := quiet } }
  write stamp { level := .debug, logger := logger, message := "Logging to " ++ p.toString }
  return p

theorem setUp_cases (stamp : String) (env : Option String) (call : Call) (s : Logging) :
    (∃ p, s.book.path = some p ∧ call.setup.force = false ∧
      setUp stamp env call.setup s = (.ok p, s)) ∨
    call.Counts s ∧ setUp stamp env call.setup s = setUpAnew stamp env call.setup s := by
  rw [setUp, Task.get_bind]
  rcases path : s.book.path with _ | p
  · exact .inr ⟨.inl path, rfl⟩
  · rcases force : call.setup.force with _ | _
    · exact .inl ⟨p, rfl, rfl, rfl⟩
    · exact .inr ⟨.inr force, rfl⟩

theorem targets_handlersFor (file : LogFile) (level : Level) (console : Bool) :
    targets (handlersFor file level console) =
      (some file.path, level) :: if console then [(none, level)] else [] := by
  cases console <;> rfl

theorem besideBook_eq {α : Type} {x : Task Files α} {q : Except Failure α}
    (run : besideBook x s = (q, s')) : ∃ fs, x s.files = (q, fs) ∧ s' = { s with files := fs } := by
  rcases ran : x s.files with ⟨q', fs⟩
  rw [besideBook, Task.within, ran] at run
  cases run
  exact ⟨fs, rfl, rfl⟩

/-- Every call comes to something. -/
theorem setUp_called (stamp : String) (env : Option String) (call : Call) (s : Logging) :
    Called env call s (setUp stamp env call.setup s).1 (setUp stamp env call.setup s).2 := by
  rcases setUp_cases stamp env call s with ⟨p, path, unforced, kept⟩ | ⟨counts, anew⟩
  · rw [kept]
    exact .kept path unforced
  rw [anew]
  rcases run : setUpAnew stamp env call.setup s with ⟨r, s'⟩
  rcases Task.bind_eq.1 run with ⟨⟨p, file⟩, _, opened, run⟩ | ⟨f, opened, rfl⟩
  · obtain ⟨fs, ran, rfl⟩ := besideBook_eq opened
    rcases asked : Level.ofJson call.setup.level with f | level
    · simp only [asked] at run
      cases run
      exact .failed counts
    · have quiet := quietFor_numbered call.numbered asked
      -- From here on nothing fails: the handlers are set, and so are the levels and the path.
      simp only [asked, quiet] at run
      obtain ⟨s₁, written, same⟩ := write_kept stamp _ _
      replace run := (Task.bind_of_ok written fun _ => pure p).symm.trans run
      cases run
      refine .arranged counts ?_
      rw [same]
      simp only [arrangement, targets_handlersFor]
      exact leaves_of_openFile ran asked
  · obtain ⟨fs, -, rfl⟩ := besideBook_eq opened
    exact .failed counts

/-! ## Runs -/

/-- What happens to the log: it is called to be set up, a record is written, or others do something to the
files. -/
inductive Deed
  | called (stamp : String) (env : Option String) (call : Call)
  | written (stamp : String) (r : LogRecord)
  | elsewhere (x : Task Files Unit)

/-- A call that set logging up, with the environment and the log that it found and the path that it gave. -/
structure Onset where
  env : Option String
  call : Call
  found : Logging
  path : Path

namespace Deed

/-- The log after a deed. -/
def after (s : Logging) : Deed → Logging
  | called stamp env call => (setUp stamp env call.setup s).2
  | written stamp r => (write stamp r s).2
  | elsewhere x => (onFiles x s).2

/-- The deed as one that sets logging up, if it does: a call that counts and does not fail. -/
def onset? (s : Logging) : Deed → Option Onset
  | called stamp env call =>
    if s.book.path.isSome && !call.setup.force then none
    else match (setUp stamp env call.setup s).1 with
      | .ok p => some ⟨env, call, s, p⟩
      | .error _ => none
  | _ => none

end Deed

/-- The latest of the deeds that set logging up. -/
def latest : List Deed → Logging → Option Onset
  | [], _ => none
  | d :: ds, s => (latest ds (d.after s)).or (d.onset? s)

/-- The arrangement that deeds leave of a log: that of the call that set logging up last, if one did, or the
one that there was. -/
def LeftBy (s : Logging) (a : Arrangement) : Option Onset → Prop
  | some o => Leaves o.env o.call o.found o.path a
  | none => a = s.book.arrangement

theorem targets_afterChange (old new : Files) (handlers : List (LogHandler × Level)) :
    targets (handlers.map fun h => (afterChange old new h.1, h.2)) = targets handlers := by
  rw [targets, List.map_map, targets]
  refine List.map_congr_left fun h _ => ?_
  rcases h with ⟨_ | _, _⟩ <;> rfl

theorem onFiles_kept (x : Task Files Unit) (s : Logging) :
    (onFiles x s).2.book.arrangement = s.book.arrangement := by
  have same : (onFiles x s).2.book.arrangement = { s.book.arrangement with
      targets := targets (s.book.handlers.map fun h => (afterChange s.files (x s.files).2 h.1, h.2)) } :=
    rfl
  rw [same, targets_afterChange]
  rfl

theorem Call.Counts.not_idle {call : Call} (counts : call.Counts s) :
    (s.book.path.isSome && !call.setup.force) = false := by
  rcases counts with path | forced
  · rw [path]
    rfl
  · rw [forced]
    exact Bool.and_false _

/-- A deed sets logging up or leaves the arrangement as it is. -/
theorem Deed.after_arrangement (s : Logging) (d : Deed) :
    LeftBy s (d.after s).book.arrangement (d.onset? s) := by
  cases d with
  | called stamp env call =>
    have came := setUp_called stamp env call s
    simp only [after, onset?]
    generalize setUp stamp env call.setup s = q at came
    rcases q with ⟨r, s'⟩
    cases came with
    | kept path unforced =>
      rw [path, unforced]
      rfl
    | failed counts =>
      rw [counts.not_idle]
      rfl
    | arranged counts left =>
      rw [counts.not_idle]
      exact left
  | written stamp r =>
    obtain ⟨s', run, same⟩ := write_kept stamp r s
    rw [after, run]
    exact same
  | elsewhere x => exact onFiles_kept x s

theorem arrangement_after (deeds : List Deed) (s : Logging) :
    LeftBy s (deeds.foldl Deed.after s).book.arrangement (latest deeds s) := by
  induction deeds generalizing s with
  | nil => rfl
  | cons d ds ih =>
    -- A later deed that sets logging up hides the first one, and otherwise the first one's is still there.
    have first := d.after_arrangement s
    have later := ih (d.after s)
    rw [List.foldl_cons, latest]
    cases hlatest : latest ds (d.after s) with
    | some o =>
      rw [hlatest] at later
      exact later
    | none =>
      rw [hlatest] at later
      rw [show _ = _ from later, Option.none_or]
      exact first

/-- After any deeds the book has the arrangement that the latest call left that set logging up, and the
next call gives that path and changes nothing, fails and leaves the book as it is, or sets logging up anew.
An absolute path without `..` takes no link back, and is its own absolute spelling. -/
theorem logging_arranged (deeds : List Deed) (s : Logging) :
    LeftBy s (deeds.foldl Deed.after s).book.arrangement (latest deeds s) ∧
    (∀ stamp env call, Called env call (deeds.foldl Deed.after s)
      (setUp stamp env call.setup (deeds.foldl Deed.after s)).1
      (setUp stamp env call.setup (deeds.foldl Deed.after s)).2) ∧
    ∀ (fs : Files) (p : Path), p.isAbsolute = true → (∀ n ∈ p.parts, n ≠ "..") →
      fs.Unbent p ∧ (fs.absolute p).normalized = p :=
  ⟨arrangement_after deeds s, fun stamp env call => setUp_called stamp env call _,
    fun fs _ => Files.unbent_of_names fs⟩

/-- A machine with a directory for logs, and a link to a directory that lies in another one. -/
def linkedAside : Logging :=
  { files := { tree := ⟨[("d", .directory [("e", .directory [])]), ("l", .link "d/e"),
      ("logs", .directory [])]⟩ } }

/-- A call that sets logging up by way of another directory. -/
def aroundCall : Call := .setUp { directory := .str "/d/../logs", console := false } nofun

/-- Logging is set up, a call that is forced finds no home, and a record is written. -/
def logsDeeds : List Deed := [
  .called "" none aroundCall, .called "" (some "~nobody") (.setUp { force := true } nofun),
  .written "" { level := .info, logger := "workbench", message := "ready" }]

theorem unbent_linkedAside :
    linkedAside.files.Unbent ⟨.root, ["d", "..", "logs", "workbench.log"]⟩ where
  here loose := nomatch loose
  back before after split inner := by
    -- the names before the only `..` are those of a directory
    have only : before = ["d"] := by
      have names : ["d", "..", "logs", "workbench.log"] = before ++ ".." :: after := split
      rcases before with _ | ⟨a, _ | ⟨b, _ | ⟨c, _ | ⟨d, before⟩⟩⟩⟩ <;> simp_all
    subst only
    exact ⟨["d"], [("e", .directory [])], Tree.leads_iff.2 rfl⟩

theorem latest_logsDeeds : latest logsDeeds linkedAside =
    some ⟨none, aroundCall, linkedAside, ⟨.root, ["d", "..", "logs", "workbench.log"]⟩⟩ := by
  have later : (latest logsDeeds.tail ((Deed.called "" none aroundCall).after linkedAside)).isNone =
      true := by decide +kernel
  have gives : (setUp "" none aroundCall.setup linkedAside).1.toOption =
      some ⟨.root, ["d", "..", "logs", "workbench.log"]⟩ := by decide +kernel
  have onset : (Deed.called "" none aroundCall).onset? linkedAside =
      some ⟨none, aroundCall, linkedAside, ⟨.root, ["d", "..", "logs", "workbench.log"]⟩⟩ := by
    rw [Deed.onset?, if_neg (by decide)]
    generalize (setUp "" none aroundCall.setup linkedAside).1 = q at gives
    cases q <;> cases gives
    rfl
  show (latest logsDeeds.tail _).or _ = _
  rw [Option.isNone_iff_eq_none.1 later, Option.none_or, onset]

/-- What was set up first is still there, and this is what a call that is not forced comes to. -/
theorem logging_arranged_logs :
    (logsDeeds.foldl Deed.after linkedAside).book.arrangement =
      arranged ⟨.root, ["d", "..", "logs", "workbench.log"]⟩ ⟨.root, ["logs", "workbench.log"]⟩ .info
        false ∧
    setUp "" none {} (logsDeeds.foldl Deed.after linkedAside) =
      (.ok ⟨.root, ["d", "..", "logs", "workbench.log"]⟩, logsDeeds.foldl Deed.after linkedAside) ∧
    (linkedAside.files.absolute ⟨.root, ["logs", "workbench.log"]⟩).normalized =
      ⟨.root, ["logs", "workbench.log"]⟩ := by
  obtain ⟨stands, comes, plain⟩ := logging_arranged logsDeeds linkedAside
  have left : (logsDeeds.foldl Deed.after linkedAside).book.arrangement =
      arranged ⟨.root, ["d", "..", "logs", "workbench.log"]⟩ ⟨.root, ["logs", "workbench.log"]⟩ .info
        false := by
    rw [latest_logsDeeds] at stands
    obtain ⟨-, level, file, arrangement, place⟩ := stands
    obtain ⟨rfl, -⟩ := place linkedAside.files rfl unbent_linkedAside
    rw [← Except.ok.inj level] at arrangement
    exact arrangement
  refine ⟨left, ?_, (plain _ _ rfl (by decide)).2⟩
  have path := congrArg Arrangement.path left
  have came := comes "" none (.setUp {} nofun)
  generalize logsDeeds.foldl Deed.after linkedAside = s at path came ⊢
  have idle : ¬ (Call.setUp {} nofun).Counts s := by
    rintro (unset | forced)
    · cases path.symm.trans unset
    · cases forced
  rcases call : setUp "" none {} s with ⟨r, s'⟩
  simp only [Call.setup, call] at came
  cases came with
  | kept path' => rw [Option.some.inj (path.symm.trans path')]
  | failed counts => exact absurd counts idle
  | arranged counts => exact absurd counts idle

/-- Logging is set up on this machine. -/
def inLogs : Except Failure Path × Logging :=
  setUp "" none { directory := .str "/logs", console := false } linkedAside

/-- Then it is set up elsewhere, from a level that is given by its name. -/
def byName : Except Failure Path × Logging :=
  setUp "" none
    { level := .str "ERROR", directory := .str "/d", console := false, force := true } inLogs.2

/-- Logging is set up next to the directory that the link leads to. -/
def nextToLink : Except Failure Path × Logging :=
  setUp "" none { directory := .str "/l/../logs", console := false } linkedAside

/-- A call whose level is given by its name fails after it has replaced the handlers: they write to
another file than the one whose path is kept. And if a `..` of the path that a call gives takes a link
back, the handler's file need not be the one that the path leads to. -/
theorem setUp_astray :
    (inLogs.1.toOption = some ⟨.root, ["logs", "workbench.log"]⟩ ∧
      inLogs.2.book.arrangement.targets = [(some ⟨.root, ["logs", "workbench.log"]⟩, .info)] ∧
      byName.1.toOption = none ∧ byName.2.book.path = some ⟨.root, ["logs", "workbench.log"]⟩ ∧
      byName.2.book.arrangement.targets = [(some ⟨.root, ["d", "workbench.log"]⟩, .error)]) ∧
    nextToLink.1.toOption = some ⟨.root, ["l", "..", "logs", "workbench.log"]⟩ ∧
      nextToLink.2.book.arrangement.targets = [(some ⟨.root, ["logs", "workbench.log"]⟩, .info)] ∧
      (nextToLink.2.files.readBytes ⟨.root, ["l", "..", "logs", "workbench.log"]⟩).toOption = none ∧
      (nextToLink.2.files.readBytes ⟨.root, ["logs", "workbench.log"]⟩).toOption = some [] := by
  decide +kernel

end LogBook

end JavaStudio
