import JavaStudio.Compiler.Javac
import JavaStudio.Proofs.Compiler.Lines

/-!
# The verdict on a run of the compiler

A compile is clean when it gives no diagnostics at all. What its process wrote is read first, and an
error of its own is added when the process failed and none of the diagnostics is an error.

* `parse_eq_nil_iff`: an output has no diagnostics exactly when none of its lines says anything.
* `verdict_of_run`: a compile is clean only after a run that succeeded and said nothing. A run that
  failed or did not take place gives an error, or it wrote bytes that are no text and the compile fails.
* `failed_run_unread`: a run that failed and gives no error.
-/

namespace JavaStudio

namespace Text

variable {t l : Text} {ls : List Text} {c : Char}

theorem oneLine_onFirst (hc : isLineEnd c = false) (h : ∀ l ∈ ls, OneLine l) :
    ∀ l ∈ onFirst c ls, OneLine l := by
  cases ls with
  | nil => simpa [onFirst, OneLine] using hc
  | cons k ks =>
    simp only [onFirst, List.forall_mem_cons] at h ⊢
    exact ⟨fun d hd => (List.mem_cons.1 hd).elim (· ▸ hc) (h.1 d), h.2⟩

/-- The lines of a text have no line ends. -/
theorem oneLine_of_mem_lines (t : Text) : ∀ l ∈ lines t, OneLine l := by
  fun_induction lines t with
  | case1 => simp
  | case2 t ih => simpa [OneLine] using ih
  | case3 c t _ lineEnd ih => simpa [OneLine] using ih
  | case4 c t _ inside ih => exact oneLine_onFirst (by simpa using inside) ih

end Text

namespace Diagnostic

variable {ls : List Text} {output : Text}

theorem cons_bind_eq_ok {x : Except Failure Diagnostic} {y : Except Failure Diagnostics}
    {r : Diagnostics} :
    (do let d ← x
        let ds ← y
        return d :: ds) = .ok r ↔ ∃ d ds, x = .ok d ∧ y = .ok ds ∧ r = d :: ds := by
  rcases x with e | d
  · constructor
    · rintro ⟨⟩
    · rintro ⟨_, _, ⟨⟩, -⟩
  · rcases y with e | ds
    · constructor
      · rintro ⟨⟩
      · rintro ⟨_, _, -, ⟨⟩, -⟩
    · constructor
      · rintro ⟨⟩
        exact ⟨d, ds, rfl, rfl, rfl⟩
      · rintro ⟨_, _, ⟨⟩, ⟨⟩, rfl⟩
        rfl

/-- The line numbers of all diagnostic lines have no more digits than are read. -/
def LegibleLines (ls : List Text) : Prop :=
  ∀ l ∈ ls, ∀ h, head? l = some h → h.digits.length ≤ Text.maxDigits

theorem LegibleLines.mono {ks : List Text} (h : LegibleLines ls) (sub : ∀ l ∈ ks, l ∈ ls) :
    LegibleLines ks := fun l hl => h l (sub l hl)

theorem exists_ofHead {h : Head} (legible : h.digits.length ≤ Text.maxDigits) (column : Int) :
    ∃ d, ofHead h column = .ok d := ⟨_, if_neg (Nat.not_lt.2 legible)⟩

theorem exists_ofLines (legible : LegibleLines ls) : ∃ ds, ofLines ls = .ok ds := by
  fun_induction ofLines ls with
  | case1 => exact ⟨[], rfl⟩
  | case2 line rest head m global ih =>
    obtain ⟨ds, read⟩ := ih (legible.mono fun _ => List.mem_cons_of_mem _)
    exact ⟨_, by rw [read]; rfl⟩
  | case3 line rest head global ih => exact ih (legible.mono fun _ => List.mem_cons_of_mem _)
  | case4 line h head source caret after column pointed ih =>
    obtain ⟨d, hd⟩ := exists_ofHead (legible line List.mem_cons_self h head) column
    obtain ⟨ds, read⟩ := ih (legible.mono fun _ hl =>
      List.mem_cons_of_mem _ (List.mem_cons_of_mem _ (List.mem_cons_of_mem _ hl)))
    exact ⟨_, cons_bind_eq_ok.2 ⟨d, ds, hd, read, rfl⟩⟩
  | case5 line h head source caret after dark ih =>
    obtain ⟨d, hd⟩ := exists_ofHead (legible line List.mem_cons_self h head) (-1)
    obtain ⟨ds, read⟩ := ih (legible.mono fun _ => List.mem_cons_of_mem _)
    exact ⟨_, cons_bind_eq_ok.2 ⟨d, ds, hd, read, rfl⟩⟩
  | case6 line h head rest short ih =>
    obtain ⟨d, hd⟩ := exists_ofHead (legible line List.mem_cons_self h head) (-1)
    obtain ⟨ds, read⟩ := ih (legible.mono fun _ => List.mem_cons_of_mem _)
    exact ⟨_, cons_bind_eq_ok.2 ⟨d, ds, hd, read, rfl⟩⟩

/-- Nothing is read from the lines. A line behind the head of a diagnostic may be passed over, but
then that diagnostic was read. -/
theorem ofLines_eq_nil_iff :
    ofLines ls = .ok [] ↔ ∀ l ∈ ls, head? l = none ∧ globalWarning? l = none := by
  have said {x : Except Failure Diagnostic} {y : Except Failure Diagnostics} :
      (do let d ← x
          let ds ← y
          return d :: ds) ≠ .ok [] := fun eq => by
    obtain ⟨_, _, -, -, ⟨⟩⟩ := cons_bind_eq_ok.1 eq
  fun_induction ofLines ls with
  | case1 => simp
  | case2 line rest head m global ih =>
    rcases ofLines rest with e | ds <;> simp [Except.map, global]
  | case3 line rest head global ih => simp [head, global, ih]
  | case4 line h head source caret after column pointed ih => exact iff_of_false said (by simp [head])
  | case5 line h head source caret after dark ih => exact iff_of_false said (by simp [head])
  | case6 line h head rest short ih => exact iff_of_false said (by simp [head])

theorem parse_eq_nil_iff :
    parse output = .ok [] ↔ ∀ l ∈ Text.lines output, ¬Located l ∧ ¬Global l := by
  rw [parse, ofLines_eq_nil_iff]
  refine forall₂_congr fun l hl => and_congr ?_ globalWarning?_eq_none_iff
  exact head?_eq_none_iff (Text.oneLine_of_mem_lines output l hl).not_feed

end Diagnostic

/-- The line numbers in what the process wrote have no more digits than are read. -/
def ProcessOutcome.Legible : ProcessOutcome → Prop
  | .exited _ errors => Diagnostic.LegibleLines (Text.lines errors)
  | .garbled _ _ | .notRun _ => True

/-- A process that ended wrote a text to its error stream, or bytes to one of its streams that are
none. -/
theorem ProcessOutcome.ofStreams_cases (decode : Bytes → Except BadBytes Text) (status : Int)
    (output errors : Bytes) :
    (∃ text, decode errors = .ok text ∧
      ofStreams decode status output errors = .exited status (Text.unixNewlines text)) ∨
    ∃ bad, (decode output = .error bad ∨ decode errors = .error bad) ∧
      ofStreams decode status output errors = .garbled status bad := by
  unfold ofStreams
  cases decode output with
  | error bad => exact .inr ⟨bad, .inl rfl, rfl⟩
  | ok _ =>
    cases decode errors with
    | error bad => exact .inr ⟨bad, .inr rfl, rfl⟩
    | ok text => exact .inl ⟨text, rfl, rfl⟩

/-- A failure of the system or of one of its processes. -/
inductive Failure.OfSystem : Failure → Prop
  | file (fault : FileFault) (path : String) : OfSystem (.file fault path)
  | system (argument : Option String) : OfSystem (.outside .system argument)
  | process (argument : Option String) : OfSystem (.outside .process argument)

namespace Javac

open Diagnostic

variable {j : Javac} {root : Path} {files : List Path} {outcome : ProcessOutcome} {host : Host}
  {file errors : Text} {status : Int} {ds : Diagnostics}

theorem refusesProcess_iff {cause : Failure} : refusesProcess cause = true ↔ cause.OfSystem := by
  constructor
  · intro h
    unfold refusesProcess at h
    split at h
    · exact .file _ _
    · exact .system _
    · exact .process _
    · cases h
  · rintro (_ | _ | _) <;> rfl

/-- The error that is added behind what a failed run said, if it named none. -/
theorem ofRun_eq (parsed : parse errors = .ok ds) :
    ofRun file status errors = .ok (ds ++
      if status ≠ 0 ∧ ∀ d ∈ ds, d.warning = true then [unlocated file (failedRun status errors)]
      else []) := by
  have test : (status ≠ 0 && ds.all (·.warning)) = true ↔ status ≠ 0 ∧ ∀ d ∈ ds, d.warning = true := by
    simp
  rw [ofRun, parsed]
  by_cases silent : status ≠ 0 ∧ ∀ d ∈ ds, d.warning = true
  · simp only [if_pos silent, if_pos (test.2 silent)]
  · simp only [if_neg silent, if_neg fun h => silent (test.1 h), List.append_nil]

theorem ofRun_eq_nil_iff :
    ofRun file status errors = .ok [] ↔ status = 0 ∧ parse errors = .ok [] := by
  rcases parsed : parse errors with e | ds
  · simp [ofRun, parsed]
  · rw [ofRun_eq parsed]
    by_cases ok : status = 0
    · simp [ok]
    · simp only [ok, false_and, iff_false, Except.ok.injEq, List.append_eq_nil_iff, not_and]
      rintro rfl
      simp [ok]

theorem error_mem_ofRun (failed : status ≠ 0) (d : Diagnostic) (hd : d.warning = false) :
    ∃ e ∈ ds ++ (if status ≠ 0 ∧ ∀ d ∈ ds, d.warning = true then [d] else []),
      e.warning = false := by
  by_cases silent : ∀ d ∈ ds, d.warning = true
  · rw [if_pos ⟨failed, silent⟩]
    exact ⟨d, List.mem_append_right _ (List.mem_singleton_self d), hd⟩
  · simp only [not_forall, Bool.not_eq_true] at silent
    obtain ⟨e, he, error⟩ := silent
    exact ⟨e, List.mem_append_left _ he, error⟩

theorem diagnose_exited :
    (j.diagnose root files (.exited status errors) host).1 =
      ofRun (target root files) status errors := rfl

theorem diagnose_notRun {cause : Failure} :
    (j.diagnose root files (.notRun cause) host).1 =
      if refusesProcess cause then .ok [unlocated (target root files)
        (Text.ofString ("Could not run compiler: " ++ cause.message))]
      else .error cause := by
  rw [diagnose]
  split <;> rfl

/-- The diagnostics of a process that ended with a text: those that are read from it, and behind them
an error of the compile's own exactly when the process failed and named none. -/
theorem diagnose_legible (legible : LegibleLines (Text.lines errors)) :
    ∃ parsed result, parse errors = .ok parsed ∧
      (j.diagnose root files (.exited status errors) host).1 = .ok result ∧
      result = parsed ++ (if status ≠ 0 ∧ ∀ d ∈ parsed, d.warning = true then
        [unlocated (target root files) (failedRun status errors)] else []) ∧
      (status ≠ 0 → ∃ d ∈ result, d.warning = false) := by
  obtain ⟨parsed, read⟩ := exists_ofLines legible
  rw [diagnose_exited]
  exact ⟨parsed, _, read, ofRun_eq read, rfl, fun failed => error_mem_ofRun failed _ rfl⟩

theorem diagnose_eq_nil_iff : (j.diagnose root files outcome host).1 = .ok [] ↔
    ∃ errors, outcome = .exited 0 errors ∧ ∀ l ∈ Text.lines errors, ¬Located l ∧ ¬Global l := by
  cases outcome with
  | exited status errors =>
    rw [diagnose_exited, ofRun_eq_nil_iff, parse_eq_nil_iff]
    constructor
    · intro ⟨succeeded, silent⟩
      exact ⟨errors, by rw [succeeded], silent⟩
    · intro ⟨_, same, silent⟩
      cases same
      exact ⟨rfl, silent⟩
  | garbled status bad => exact ⟨nofun, nofun⟩
  | notRun cause =>
    rw [diagnose_notRun]
    constructor
    · intro clean
      split at clean <;> cases clean
    · nofun

/-- A compile is clean exactly when its process ran, succeeded and said nothing. A process that the
system refused gives one error, and any other refusal is handed on. Where the process wrote a text to
its error stream, the diagnostics are those that are read from it, and behind them an error of the
compile's own exactly when the process failed and named none. Where one of its streams is no text, the
compile fails. So a process that failed gives an error, unless it wrote bytes that are no text. -/
theorem verdict_of_run (legible : outcome.Legible) :
    ((j.diagnose root files outcome host).1 = .ok [] ↔
      ∃ errors, outcome = .exited 0 errors ∧ ∀ l ∈ Text.lines errors, ¬Located l ∧ ¬Global l) ∧
    (∀ cause, outcome = .notRun cause →
      (cause.OfSystem → (j.diagnose root files outcome host).1 = .ok [unlocated (target root files)
        (Text.ofString ("Could not run compiler: " ++ cause.message))]) ∧
      (¬cause.OfSystem → (j.diagnose root files outcome host).1 = .error cause)) ∧
    (∀ status errors, outcome = .exited status errors →
      ∃ parsed result, parse errors = .ok parsed ∧
        (j.diagnose root files outcome host).1 = .ok result ∧
        result = parsed ++ (if status ≠ 0 ∧ ∀ d ∈ parsed, d.warning = true then
          [unlocated (target root files) (failedRun status errors)] else []) ∧
        (status ≠ 0 → ∃ d ∈ result, d.warning = false)) ∧
    (∀ status bad, outcome = .garbled status bad →
      (j.diagnose root files outcome host).1 = .error (.undecodable bad)) ∧
    ∀ decode status output errors, outcome = .ofStreams decode status output errors → status ≠ 0 →
      (∃ result, (j.diagnose root files outcome host).1 = .ok result ∧
        ∃ d ∈ result, d.warning = false) ∨
      ∃ bad, (decode output = .error bad ∨ decode errors = .error bad) ∧
        (j.diagnose root files outcome host).1 = .error (.undecodable bad) := by
  refine ⟨diagnose_eq_nil_iff, ?_, ?_, ?_, ?_⟩
  · rintro cause rfl
    rw [diagnose_notRun]
    exact ⟨fun ofSystem => if_pos (refusesProcess_iff.2 ofSystem),
      fun other => if_neg fun refused => other (refusesProcess_iff.1 refused)⟩
  · rintro status errors rfl
    exact diagnose_legible legible
  · rintro status bad rfl
    rfl
  · intro decode status output errors eq failed
    obtain ⟨text, -, ended⟩ | ⟨bad, refused, ended⟩ :=
      ProcessOutcome.ofStreams_cases decode status output errors
    · rw [ended] at eq
      subst eq
      obtain ⟨_, result, -, told, -, error⟩ := diagnose_legible legible
      exact .inl ⟨result, told, error failed⟩
    · rw [ended] at eq
      subst eq
      exact .inr ⟨bad, refused, rfl⟩

/-- What a process wrote that had nothing but warnings to tell. -/
def warned : Text := Text.ofString "A.java:3: warning: old\n  stop();\n  ^\nwarning: none\n"

/-- What is read from it. -/
def warnedDiagnostics : Diagnostics :=
  [⟨Text.ofString "A.java", 3, 3, Text.ofString "old", true⟩, ⟨[], -1, -1, Text.ofString "none", true⟩]

theorem verdict_of_run_warned :
    ProcessOutcome.Legible (.exited 1 warned) ∧ parse warned = .ok warnedDiagnostics ∧
      (diagnose {} ⟨.root, ["src"]⟩ [] (.exited 1 warned) default).1 = .ok (warnedDiagnostics ++
        [⟨Text.ofString "/src", -1, -1, Text.ofString
          "Compilation failed: A.java:3: warning: old\n  stop();\n  ^\nwarning: none", false⟩]) := by
  have short : ∀ l ∈ Text.lines warned, ∀ h ∈ head? l, h.digits.length ≤ Text.maxDigits := by decide
  have legible : ProcessOutcome.Legible (.exited 1 warned) := short
  have read : parse warned = .ok warnedDiagnostics := by decide
  obtain ⟨parsed, result, read', told, eq, -⟩ :=
    (@verdict_of_run {} ⟨.root, ["src"]⟩ [] _ default legible).2.2.1 1 warned rfl
  cases read.symm.trans read'
  refine ⟨legible, read, ?_⟩
  rw [told, eq]
  decide

/-- A process failed and wrote a letter of Latin-1 to its error stream, which is taken for UTF-8: there
is no error, for the compile itself fails. -/
theorem failed_run_unread : ∃ bad, Encoding.utf8.check [0xE9] = .error bad ∧
    (diagnose {} ⟨.root, ["src"]⟩ [] (.ofStreams Encoding.utf8.check 1 [] [0xE9]) default).1 =
      .error (.undecodable bad) :=
  ⟨_, rfl, rfl⟩

end Javac

end JavaStudio
