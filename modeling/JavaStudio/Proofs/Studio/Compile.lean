import JavaStudio.Proofs.Studio.Faces
import JavaStudio.Studio.Lifetime

/-!
# The protocol of a compile

A compile with collaborators that at most save (`OnlySaves`) always ends. `Compilation` lists the ways
in which it does, with the deals that were made on the way and what became of console and session:

* nothing but the request to save, after which the document is not ready (`Gate`, `Ready`),
* one begin and one end around at most one call of a compiler (`Diagnosis`),
* the same and a fresh start of console and session, if there are no diagnostics (`Celebration`,
  `Restart`).

Listeners that end the program (`Halts`) break it off where they are told, and an interpreter that does
not take its classpath (`Refuses`) leaves the session as it was. `compile_protocol` is the main result.
-/

namespace JavaStudio

/-- A session that starts over with an interpreter: its transcript is the banner and a prompt. -/
def Session.fresh (n : Nat) (i : Session) : Session :=
  { Studio.restarted n i with transcript := [Studio.banner, Studio.prompt] }

namespace Face

/-- The document is kept in a file and has no unsaved changes. -/
def Ready (a : Face) (d : DocId) : Prop :=
  (a.desk.document d).buffer.modified = false ∧ (a.desk.document d).path.isSome

/-- The face after the console was cleared. -/
def cleared (a : Face) : Face := { a with console := [] }.dealt [.consoleReset]

/-- The face after one more interpreter was made. -/
def next (a : Face) : Face := { a with interpreters := a.interpreters + 1 }

/-- The face with another session. -/
def withSession (a : Face) (i : Session) : Face := { a with session := i }

/-- The entries for the classpath of the next interpreter: the source roots of the documents, or none if
one does not fit its package, and the configured ones. -/
def entries (a : Face) : Except Failure (List Studio.ClasspathEntry) := do
  let (roots, faults) ← a.desk.sourceRoots a.files
  let extra ← Settings.listed a.classpath
  return (if faults.isEmpty then roots else []).map .ok ++ extra.map Settings.path

/-- The face after the session was started over with the next interpreter. -/
def restarted (a : Face) : Face := a.next.withSession (a.session.fresh (a.interpreters + 1))

end Face

namespace Studio

variable {S : Type} {c : Collaborators S} {s s' : Studio S} {d : DocId}

/-! ## How a compile can end -/

/-- What comes of asking for a document to be saved: listeners are asked exactly if it is modified, and
at most save it. -/
structure Gate (d : DocId) (a b : Face) : Prop where
  console : b.console = a.console
  session : b.session = a.session
  interpreters : b.interpreters = a.interpreters
  bus : b.bus = a.bus
  classpath : b.classpath = a.classpath
  wiring : b.wiring = a.wiring
  unasked : (a.desk.document d).buffer.modified = false → b = a
  asked : (a.desk.document d).buffer.modified = true →
    ∃ saves, b.deals = a.deals ++ .saveRequested d :: saves ∧ ∀ x ∈ saves, x = .saved d

/-- How the diagnostics of a document come about, with the calls made for them: the active compiler is
called with the source root and the file of the document; the package does not fit the directory,
which takes the place of a call; or there is no source root for another reason. -/
inductive Diagnosis (c : Collaborators S) (d : DocId) (s : Studio S) :
    Except Failure Diagnostics → List Deal → Prop
  | called {root file : Path} {outcome : Except Failure Diagnostics} {s₁ s₂ : Studio S} :
      s.desk.sourceRoot s.host.files d = .ok root → (s.desk.document d).path = some file →
      compileWith c (s.registry.current (s.isUp c)) root [file] s₁ = some (outcome, s₂) →
      s₁.face = s.face →
      Diagnosis c d s outcome [.called (s.registry.current (s.isUp c)) root [file]]
  | misplaced {file : Path} {fault : PackageFault} :
      s.desk.sourceRoot s.host.files d = .error (.invalidPackage fault) →
      (s.desk.document d).path = some file →
      Diagnosis c d s (.ok [.unlocated file.toString.toList fault.message.toList]) []
  | rootless {f : Failure} : s.desk.sourceRoot s.host.files d = .error f →
      (∀ fault, f ≠ .invalidPackage fault) → Diagnosis c d s (.error f) []

/-- The interpreter of a number does not take some entries for its classpath: one of them is no path, or
the interpreter fails at one. -/
inductive Refuses (c : Collaborators S) (n : Nat) (fs : Files) (entries : List ClasspathEntry) :
    Failure → Prop
  | unreadable {f : Failure} : .error f ∈ entries → Refuses c n fs entries f
  | rejected {p : Path} {f : Failure} {s s' : Studio S} : .ok p ∈ entries →
      c.addClasspath n (fs.absolute p).toString s = some (.error f, s') → Refuses c n fs entries f

/-- How the interactions can be started over: they are not, because there is no classpath or the next
interpreter does not take it; the view of the transcript ends the program; or the listeners are told. -/
inductive Restart (c : Collaborators S) (a : Face) : Except Failure Unit → Face → Prop
  | failed {f : Failure} : a.entries = .error f → Restart c a (.error f) a
  | refused {entries : List ClasspathEntry} {f : Failure} : a.entries = .ok entries →
      Refuses c (a.interpreters + 1) a.files entries f → Restart c a (.error f) a.next
  | unshown {entries : List ClasspathEntry} {shows : Text → Act (Studio S) Unit} {f : Failure}
      {s s' : Studio S} : a.entries = .ok entries → c.output = some shows →
      shows prompt s = some (.error f, s') → f.isOrdinary = false →
      Restart c a (.error f) a.restarted
  | told {entries : List ClasspathEntry} {r : Except Failure Unit} : a.entries = .ok entries →
      (∀ f, r = .error f → Halts c ⟨.interactionsReset, none⟩ a.bus f) →
      Restart c a r (a.restarted.dealt [.interactionsReset])

/-- What follows a compile without diagnostics: the console is cleared, then the interactions are
started over. -/
inductive Celebration (c : Collaborators S) (a : Face) : Except Failure Unit → Face → Prop
  | broken {f : Failure} : Halts c ⟨.consoleReset, none⟩ a.bus f →
      Celebration c a (.error f) a.cleared
  | cleared {r : Except Failure Unit} {b : Face} : Restart c a.cleared r b → Celebration c a r b

/-- How a compile of a document can end, from a face. -/
inductive Compilation (c : Collaborators S) (d : DocId) (a : Face) :
    Except Failure (Option Diagnostics) → Face → Prop
  /-- A listener that is asked to save ends the program. -/
  | brokenAsking {f : Failure} {b : Face} : (a.desk.document d).buffer.modified = true →
      Halts c ⟨.saveRequested, some d⟩ a.bus f → Gate d a b → Compilation c d a (.error f) b
  /-- The document is not saved. -/
  | declined {b : Face} : Gate d a b → ¬ b.Ready d → Compilation c d a (.ok none) b
  /-- A listener that is told of the end ends the program. -/
  | brokenEnd {f : Failure} {b : Face} {s : Studio S} {q : Except Failure Diagnostics}
      {calls : List Deal} : Gate d a b → b.Ready d → s.face = b.dealt [.started] →
      Diagnosis c d s q calls → Halts c ⟨.compileEnded, none⟩ a.bus f →
      Compilation c d a (.error f) (b.dealt (.started :: calls ++ [.ended]))
  /-- The source root cannot be had or the compiler fails. -/
  | failed {f : Failure} {b : Face} {s : Studio S} {calls : List Deal} : Gate d a b → b.Ready d →
      s.face = b.dealt [.started] → Diagnosis c d s (.error f) calls →
      Compilation c d a (.error f) (b.dealt (.started :: calls ++ [.ended]))
  /-- There are diagnostics, or nothing is to follow a compile without any. -/
  | flawed {b : Face} {s : Studio S} {ds : Diagnostics} {calls : List Deal} : Gate d a b →
      b.Ready d → s.face = b.dealt [.started] → Diagnosis c d s (.ok ds) calls →
      (ds ≠ [] ∨ a.wiring.resetsAfterCompile = false) →
      Compilation c d a (.ok (some ds)) (b.dealt (.started :: calls ++ [.ended]))
  /-- There are no diagnostics. -/
  | clean {b b' : Face} {s : Studio S} {q : Except Failure Unit} {calls : List Deal} : Gate d a b →
      b.Ready d → s.face = b.dealt [.started] → Diagnosis c d s (.ok []) calls →
      a.wiring.resetsAfterCompile = true →
      Celebration c (b.dealt (.started :: calls ++ [.ended])) q b' →
      Compilation c d a (q.map fun _ => some []) b'

/-! ## Asking for a save -/

theorem Gate.of_kept {a b : Face} (asked : (a.desk.document d).buffer.modified = true)
    (kept : Kept d (a.dealt [.saveRequested d]) b) : Gate d a b where
  console := kept.console
  session := kept.session
  interpreters := kept.interpreters
  bus := kept.bus
  classpath := kept.classpath
  wiring := kept.wiring
  unasked h := by rw [asked] at h; cases h
  asked _ := by
    obtain ⟨saves, hsaves, only⟩ := kept.deals
    exact ⟨saves, by simp [hsaves, Face.dealt], only⟩

theorem Gate.of_unmodified {a : Face} (h : (a.desk.document d).buffer.modified = false) :
    Gate d a a :=
  ⟨rfl, rfl, rfl, rfl, rfl, rfl, fun _ => rfl, fun asked => by rw [h] at asked; cases asked⟩

section

variable (hc : OnlySaves c)
include hc

/-- What the listeners do when they are asked to save. -/
theorem announce_saves (d : DocId) (s : Studio S) :
    ∃ r s', announce c ⟨.saveRequested, some d⟩ s = some (r, s') ∧
      Kept d (s.face.dealt [.saveRequested d]) s'.face ∧
      ∀ f, r = .error f → Halts c ⟨.saveRequested, some d⟩ s.bus f := by
  have within : Within (SameButSaved d) c ⟨.saveRequested, some d⟩ := {
    report := fun row => (SavesOnly.of_calm (report_calm row)).along
    handler := fun {l h} hh => by
      cases l with
      | recentFiles =>
        cases hh
        exact (SavesOnly.of_calm (keepRecent_calm _)).along
      | outside n => exact (hc.saving hh).along }
  obtain ⟨r, s', told⟩ := announce_ends (e := ⟨.saveRequested, some d⟩)
    (fun hh => (hc.saving hh).ends) s
  have kept := within.deliverAll s.bus
    (s := s.marked (.announced ⟨.saveRequested, some d⟩ s.scene)) told
  rw [Relation.reflTransGen_eq_self, SameButSaved, face_marked] at kept
  refine ⟨r, s', told, kept, ?_⟩
  rintro f rfl
  exact announce_halts told

theorem isReady_gate (d : DocId) (s : Studio S) : ∃ r s', isReady c d s = some (r, s') ∧
    Gate d s.face s'.face ∧ (∀ f, r = .error f →
      (s.desk.document d).buffer.modified = true ∧ Halts c ⟨.saveRequested, some d⟩ s.bus f) ∧
    ∀ b, r = .ok b → (b = true ↔ s'.face.Ready d) := by
  have ready : ∀ k : Desk, (!(k.document d).buffer.modified && (k.document d).path.isSome) = true ↔
      (k.document d).buffer.modified = false ∧ (k.document d).path.isSome := by simp
  cases hm : (s.desk.document d).buffer.modified with
  | false =>
    have asked : requestSave c d s = some (.ok (), s) := by
      rw [requestSave, Act.get_bind, hm]
      rfl
    refine ⟨_, s, Act.bind_of_ok asked _, .of_unmodified hm, nofun, ?_⟩
    rintro b ⟨⟩
    exact ready s.desk
  | true =>
    obtain ⟨r, s', told, kept, breaks⟩ := announce_saves hc d s
    have asked : requestSave c d s = some (r, s') := by
      rw [requestSave, Act.get_bind, hm]
      exact told
    have gate : Gate d s.face s'.face := .of_kept hm kept
    cases r with
    | error f =>
      exact ⟨_, s', Act.bind_of_error asked _, gate, fun f' hf => ⟨rfl, by cases hf; exact breaks f rfl⟩,
        nofun⟩
    | ok u =>
      refine ⟨_, s', Act.bind_of_ok asked _, gate, nofun, ?_⟩
      rintro b ⟨⟩
      exact ready s'.desk

omit hc in
/-- The active compiler is the current one of the registry. -/
theorem readActive_calm (s : Studio S) : ∃ s', readActive c s =
    some (.ok (s.registry.current (s.isUp c)), s') ∧ s'.face = s.face := by
  by_cases h : ((s.registry.holds (s.isUp c)).isNone && s.registry.lacks (s.isUp c)) = true
  · rw [readActive, Act.get_bind, if_pos h]
    exact ⟨_, rfl, rfl⟩
  · rw [readActive, Act.get_bind, if_neg h]
    exact ⟨_, rfl, rfl⟩

theorem compileWith_deal (choice : Choice) (root : Path) (files : List Path) (s : Studio S) :
    ∃ q s', compileWith c choice root files s = some (q, s') ∧
      s'.face = s.face.dealt [.called choice root files] := by
  cases choice with
  | placeholder => exact ⟨_, _, rfl, face_marked s _⟩
  | compiler k =>
    obtain ⟨q, s', run, same⟩ := hc.compile k root files (s.marked (.compiled (.compiler k) root files))
    exact ⟨q, s', run, same.trans (face_marked s _)⟩

theorem diagnose_diagnosis {s : Studio S} (kept : (s.desk.document d).path.isSome) :
    ∃ q s' calls, diagnose c d s = some (q, s') ∧ Diagnosis c d s q calls ∧
      s'.face = s.face.dealt calls := by
  obtain ⟨r, s₀, located, locating⟩ := locateSource_locating d s
  unfold diagnose
  cases locating with
  | @found root file hroot hfile =>
    obtain ⟨s₁, active, same⟩ := readActive_calm (c := c) s
    obtain ⟨q, s₂, run, face⟩ :=
      compileWith_deal hc (s.registry.current (s.isUp c)) root [file] s₁
    have compiled : compileWithActive c root [file] s = some (q, s₂) := by
      rw [compileWithActive, Act.bind_of_ok active]
      exact run
    rw [Act.bind_of_ok located]
    exact ⟨q, s₂, _, compiled, .called hroot hfile run same, by rw [face, same]⟩
  | @misplaced file fault hroot hfile =>
    rw [Act.bind_of_ok located]
    exact ⟨_, s.logged (notCompiled file fault), _, rfl, .misplaced hroot hfile,
      (Face.dealt_nil _).symm⟩
  | rootless hroot other =>
    exact ⟨_, _, _, Act.bind_of_error located _, .rootless hroot other, (Face.dealt_nil _).symm⟩
  | fileless hfile _ =>
    rw [hfile] at kept
    cases kept

/-! ## Starting over -/

theorem appendQuietly_shows (chunk : Text) (s : Studio S) : ∃ r s',
    appendQuietly c chunk s = some (r, s') ∧
      s'.face = s.face.withSession
        { s.session with transcript := s.session.transcript ++ [chunk] } ∧
      ∀ f, r = .error f → f.isOrdinary = false ∧ ∃ shows u u', c.output = some shows ∧
        shows chunk u = some (.error f, u') := by
  let s₁ : Studio S :=
    { s with session := { s.session with transcript := s.session.transcript ++ [chunk] } }
  obtain ⟨q, s₂, run, same, fails⟩ : ∃ q s₂, appendTranscript c chunk s = some (q, s₂) ∧
      s₂.face = s₁.face ∧ ∀ f, q = .error f → ∃ shows u u', c.output = some shows ∧
        shows chunk u = some (.error f, u') := by
    unfold appendTranscript
    cases hout : c.output with
    | none => exact ⟨_, s₁, rfl, rfl, nofun⟩
    | some shows =>
      obtain ⟨q, s₂, run, same⟩ := hc.output hout chunk (s₁.marked (.printed chunk))
      exact ⟨q, s₂, run, same.trans ((face_marked s₁ _).trans (Face.dealt_nil _)),
        fun f hf => ⟨shows, _, s₂, rfl, hf ▸ run⟩⟩
  unfold appendQuietly
  rw [Act.attempt_bind run]
  cases q with
  | ok u => exact ⟨_, s₂, rfl, same, nofun⟩
  | error f =>
    cases hf : f.isOrdinary with
    | true =>
      simp only [hf, if_true]
      exact ⟨_, s₂.logged (outputFailed chunk f), rfl, same, nofun⟩
    | false =>
      simp only [hf, Bool.false_eq_true, if_false]
      refine ⟨_, s₂, rfl, same, ?_⟩
      rintro _ ⟨⟩
      exact ⟨hf, fails f rfl⟩

theorem addEntries_calm (n : Nat) (entries : List ClasspathEntry) : Calm (addEntries c n entries) := by
  induction entries with
  | nil => exact .pure _
  | cons e es ih =>
    exact (Act.Total.ofExcept e).bind fun _ => .bind .get fun _ =>
      (record_calm rfl).bind fun _ => (hc.addClasspath n _).bind fun _ => ih

/-- Entries cannot be added only where one is no path or the interpreter fails at it. -/
theorem addEntries_refuses {n : Nat} {entries : List ClasspathEntry} {s s' : Studio S} {f : Failure}
    (run : addEntries c n entries s = some (.error f, s')) :
    Refuses c n s.host.files entries f := by
  induction entries generalizing s with
  | nil => cases run
  | cons e es ih =>
    cases e with
    | error g =>
      cases run
      exact .unreadable List.mem_cons_self
    | ok p =>
      let name := (s.host.files.absolute p).toString
      replace run : (c.addClasspath n name >>= fun _ => addEntries c n es)
          (s.marked (.classpath n name)) = some (.error f, s') := run
      rcases Act.bind_eq_some.1 run with ⟨_, s₁, added, rest⟩ | ⟨g, refused, hg⟩
      · obtain ⟨_, s₂, added', same⟩ := hc.addClasspath n name (s.marked (.classpath n name))
        cases added.symm.trans added'
        have files : s₁.host.files = s.host.files := congrArg Face.files same
        cases ih rest with
        | unreadable he => exact .unreadable (List.mem_cons_of_mem _ he)
        | rejected he failed =>
          rw [files] at failed
          exact .rejected (List.mem_cons_of_mem _ he) failed
      · cases hg
        exact .rejected List.mem_cons_self refused

omit hc in
/-- The source roots for a restart are those of the documents, or none where there is a fault. -/
theorem rootsForReset_calm (s : Studio S) : ∃ s', s'.face = s.face ∧
    rootsForReset s = some ((s.desk.sourceRoots s.host.files).map fun (roots, faults) =>
      if faults.isEmpty then roots else [], s') := by
  unfold rootsForReset
  rw [Act.get_bind]
  rcases s.desk.sourceRoots s.host.files with f | ⟨roots, _ | ⟨fault, faults⟩⟩
  · exact ⟨s, rfl, rfl⟩
  · exact ⟨s, rfl, rfl⟩
  · exact ⟨s.logged (withoutRoots fault), rfl, rfl⟩

theorem createInterpreter_creates (s : Studio S) : ∃ s',
    createInterpreter c s = some (.ok (s.interpreters + 1), s') ∧
      s'.face = s.face.next := by
  let s₁ : Studio S := { s with interpreters := s.interpreters + 1 }
  obtain ⟨s', run, same⟩ := hc.create (s.interpreters + 1)
    (s₁.marked (.created (s.interpreters + 1)))
  have created : createInterpreter c s = some (.ok (s.interpreters + 1), s') := by
    show (c.create (s.interpreters + 1) >>= fun _ => pure (s.interpreters + 1))
      (s₁.marked (.created (s.interpreters + 1))) = _
    rw [Act.bind_of_ok run]
    rfl
  exact ⟨s', created, same.trans ((face_marked s₁ _).trans (Face.dealt_nil _))⟩

theorem resetSession_restart {entries : List ClasspathEntry} {s : Studio S}
    (given : s.face.entries = .ok entries) : ∃ r s',
    resetSession c entries s = some (r, s') ∧ Restart c s.face r s'.face := by
  obtain ⟨s₁, created, face₁⟩ := createInterpreter_creates hc s
  obtain ⟨q₂, s₂, added, face₂⟩ := addEntries_calm hc (s.interpreters + 1) entries s₁
  rw [SameFace, face₁] at face₂
  unfold resetSession
  rw [Act.bind_of_ok created]
  cases q₂ with
  | error f =>
    have refuses := addEntries_refuses hc added
    have files : s₁.host.files = s.host.files := congrArg Face.files face₁
    rw [files] at refuses
    rw [Act.bind_of_error added]
    exact ⟨_, s₂, rfl, face₂ ▸ .refused given refuses⟩
  | ok u =>
    rw [Act.bind_of_ok added]
    let i := { restarted (s.interpreters + 1) s₂.session with pending := [] }
    obtain ⟨q₄, s₄, shown, face₄, fails⟩ :=
      appendQuietly_shows hc prompt { s₂ with session := i }
    have restarts : s₄.face = s.face.restarted := by
      have hsession : s₂.session = s.session := congrArg Face.session face₂
      have hface : ({ s₂ with session := i } : Studio S).face = s₂.face.withSession i := rfl
      rw [face₄, hface, face₂]
      simp only [i, hsession]
      rfl
    show ∃ r s', (showPrompt c >>= fun _ => announce c ⟨.interactionsReset, none⟩)
      { s₂ with session := restarted (s.interpreters + 1) s₂.session } = some (r, s') ∧ _
    have prompted : showPrompt c { s₂ with session := restarted (s.interpreters + 1) s₂.session } =
        some (q₄, s₄) := shown
    cases q₄ with
    | error f =>
      obtain ⟨final, shows, u, u', view, failed⟩ := fails f rfl
      rw [Act.bind_of_error prompted]
      exact ⟨_, s₄, rfl, restarts ▸ .unshown given view failed final⟩
    | ok u =>
      rw [Act.bind_of_ok prompted]
      obtain ⟨r, s', told, face, halts⟩ :=
        announce_calm (hc.telling (e := ⟨.interactionsReset, none⟩) (by simp)) s₄
      have bus : s₄.bus = s.bus := congrArg Face.bus restarts
      rw [restarts] at face
      rw [bus] at halts
      exact ⟨r, s', told, face ▸ .told given halts⟩

theorem resetInteractions_restart (s : Studio S) : ∃ r s',
    resetInteractions c s = some (r, s') ∧ Restart c s.face r s'.face := by
  obtain ⟨s₁, same, roots⟩ := rootsForReset_calm s
  have given : s.face.entries = (do
      let (roots, faults) ← s.desk.sourceRoots s.host.files
      let extra ← Settings.listed s.settings.extraClasspath
      return (if faults.isEmpty then roots else []).map .ok ++ extra.map Settings.path) := rfl
  have extras : s₁.settings.extraClasspath = s.settings.extraClasspath := congrArg Face.classpath same
  unfold resetInteractions
  rcases hroots : s.desk.sourceRoots s.host.files with f | ⟨found, faults⟩ <;>
    rw [hroots] at roots given
  · rw [Act.bind_of_error roots]
    exact ⟨_, s₁, rfl, same.symm ▸ .failed given⟩
  · rw [Act.bind_of_ok roots, Act.get_bind, extras]
    rcases hextra : Settings.listed s.settings.extraClasspath with f | extra <;> rw [hextra] at given
    · exact ⟨_, s₁, rfl, same.symm ▸ .failed given⟩
    · rw [← same] at given ⊢
      exact resetSession_restart hc given

theorem celebrate_celebration {s : Studio S} (wired : s.wiring.resetsAfterCompile = true) :
    ∃ r s', celebrate c [] s = some (r, s') ∧ Celebration c s.face r s'.face := by
  obtain ⟨q, s₁, told, face, halts⟩ :=
    announce_calm (hc.telling (e := ⟨.consoleReset, none⟩) (by simp)) { s with console := [] }
  have cleared : resetConsole c s = some (q, s₁) := told
  have face : s₁.face = s.face.cleared := face
  rw [celebrate_clean wired]
  cases q with
  | error f =>
    rw [Act.bind_of_error cleared]
    exact ⟨_, s₁, rfl, face ▸ .broken (halts f rfl)⟩
  | ok u =>
    rw [Act.bind_of_ok cleared]
    obtain ⟨r, s', reset, restart⟩ := resetInteractions_restart hc s₁
    exact ⟨r, s', reset, .cleared (face ▸ restart)⟩

/-! ## The protocol -/

/-- The diagnosis and the end that follows it. The outcome is that of the diagnosis, unless a listener
that is told of the end ends the program. -/
theorem diagnose_ended {s : Studio S} (kept : (s.desk.document d).path.isSome) :
    ∃ q r s' calls,
      (diagnose c d).ensuring (announce c ⟨.compileEnded, none⟩) s = some (r, s') ∧
      Diagnosis c d s q calls ∧ s'.face = s.face.dealt (calls ++ [.ended]) ∧
      (r = q ∨ ∃ f, r = .error f ∧ Halts c ⟨.compileEnded, none⟩ s.bus f) := by
  obtain ⟨q, s₁, calls, ran, diagnosis, face₁⟩ := diagnose_diagnosis hc kept
  obtain ⟨p, s', ended, face', halts⟩ :=
    announce_calm (hc.telling (e := ⟨.compileEnded, none⟩) (by simp)) s₁
  have bus : s₁.bus = s.bus := congrArg Face.bus face₁
  rw [face₁, Face.dealt_dealt] at face'
  rw [bus] at halts
  cases p with
  | ok u => exact ⟨q, q, s', calls, Act.ensuring_of_ok ran ended, diagnosis, face', .inl rfl⟩
  | error f =>
    exact ⟨q, _, s', calls, Act.ensuring_of_error ran ended, diagnosis, face',
      .inr ⟨f, rfl, halts f rfl⟩⟩

/-- How a compile ends that has begun. -/
theorem compile_begun {a : Face} {s₁ s₂ : Studio S} (gate : Gate d a s₁.face)
    (ready : s₁.face.Ready d) (begun : s₂.face = s₁.face.dealt [.started]) : ∃ r s',
    ((diagnose c d).ensuring (announce c ⟨.compileEnded, none⟩) >>= fun ds =>
      celebrate c ds >>= fun _ => pure (some ds)) s₂ = some (r, s') ∧
    Compilation c d a r s'.face := by
  have kept : (s₂.desk.document d).path.isSome := by
    have same : s₂.desk = s₁.desk := congrArg Face.desk begun
    rw [same]
    exact ready.2
  obtain ⟨q, r, s₃, calls, ran, diagnosis, face, outcome⟩ := diagnose_ended hc kept
  have face : s₃.face = s₁.face.dealt (.started :: calls ++ [.ended]) := by
    rw [face, begun, Face.dealt_dealt]
    rfl
  have wiring : s₃.wiring = a.wiring := (congrArg Face.wiring face).trans gate.wiring
  -- the outcome is that of the diagnosis, or a listener that was told of the end took its place
  rcases outcome with rfl | ⟨f, rfl, halts⟩
  · cases r with
    | error f =>
      rw [Act.bind_of_error ran]
      exact ⟨_, s₃, rfl, face ▸ .failed gate ready begun diagnosis⟩
    | ok ds =>
      rw [Act.bind_of_ok ran]
      by_cases clean : ds = [] ∧ a.wiring.resetsAfterCompile = true
      · obtain ⟨rfl, wired⟩ := clean
        obtain ⟨p, s', celebrated, celebration⟩ :=
          celebrate_celebration hc (s := s₃) (by rw [wiring]; exact wired)
        rw [face] at celebration
        have compiled := Compilation.clean gate ready begun diagnosis wired celebration
        cases p with
        | error f => exact ⟨_, s', Act.bind_of_error celebrated _, compiled⟩
        | ok u => exact ⟨_, s', by rw [Act.bind_of_ok celebrated]; rfl, compiled⟩
      · have flawed : ds ≠ [] ∨ a.wiring.resetsAfterCompile = false := by
          rw [← Bool.not_eq_true]
          exact Classical.not_and_iff_not_or_not.1 clean
        have celebrated : celebrate c ds s₃ = some (.ok (), s₃) := celebrate_flawed (wiring ▸ flawed)
        rw [Act.bind_of_ok celebrated]
        exact ⟨_, s₃, rfl, face ▸ .flawed gate ready begun diagnosis flawed⟩
  · have bus : s₂.bus = a.bus := (congrArg Face.bus begun).trans gate.bus
    rw [bus] at halts
    rw [Act.bind_of_error ran]
    exact ⟨_, s₃, rfl, face ▸ .brokenEnd gate ready begun diagnosis halts⟩

theorem compile_compilation (begins : Ordinary c ⟨.compileStarted, none⟩) (d : DocId) (s : Studio S) :
    ∃ r s', compile c d s = some (r, s') ∧ Compilation c d s.face r s'.face := by
  obtain ⟨q, s₁, asked, gate, halts, ready⟩ := isReady_gate hc d s
  unfold compile
  cases q with
  | error f =>
    rw [Act.bind_of_error asked]
    exact ⟨_, s₁, rfl, .brokenAsking (halts f rfl).1 (halts f rfl).2 gate⟩
  | ok b =>
    rw [Act.bind_of_ok asked]
    cases b with
    | false => exact ⟨_, s₁, rfl, .declined gate fun h => nomatch (ready false rfl).2 h⟩
    | true =>
      simp only [if_true]
      have ready := (ready true rfl).1 rfl
      obtain ⟨q₂, s₂, started, begun, halts⟩ :=
        announce_calm (hc.telling (e := ⟨.compileStarted, none⟩) (by simp)) s₁
      cases q₂ with
      | error f => exact absurd (halts f rfl) begins.unhalted
      | ok u =>
        rw [Act.bind_of_ok started]
        exact compile_begun hc gate ready begun

end

/-- Whatever the listeners, compilers and views of a cast do, as long as only those that are asked to
save give commands, these only save, and nobody ends the program who is told of the begin, a compile
ends in one of the ways of the protocol. -/
theorem compile_protocol {k : Cast S} (hk : k.OnlySaves)
    (begins : ∀ {n script}, k.handler n ⟨.compileStarted, none⟩ = some script →
      script.Raises fun f => f.isOrdinary = true) (patience depth : Nat) (d : DocId)
    (s : Studio S) : ∃ r s', compile (k.collaborators patience (depth + 2)) d s = some (r, s') ∧
      Compilation (k.collaborators patience (depth + 2)) d s.face r s'.face := by
  refine compile_compilation (hk.collaborators patience depth) ?_ d s
  refine ordinary_of_outside fun n h u f u' hh run => ?_
  obtain ⟨script, given, rfl⟩ := Option.map_eq_some_iff.1 hh
  exact Script.raises_of_run (begins given) run

end Studio

/-! ## A clean compile and a broken one -/

/-- A cast whose listeners save a document when they are asked to, with a compiler that finds nothing
to say. -/
def Cast.saving : Cast Unit :=
  { Cast.idle with
    handler := fun _ e => match e with
      | ⟨.saveRequested, some d⟩ =>
        some (.call (.document d (.saveAs (.ok ⟨.root, ["a"]⟩))) fun _ => .done true)
      | _ => none
    isUp := fun _ _ => true }

/-- A cast with a compiler that finds nothing to say and interpreters that take no classpath. -/
def Cast.refusing : Cast Unit :=
  { Cast.idle with
    addClasspath := fun _ _ => .fail (.outside .value none)
    isUp := fun _ _ => true }

theorem Cast.onlySaves_idle : Cast.idle.OnlySaves where
  saving h := nomatch h
  telling _ h := nomatch h
  choose _ := trivial
  create _ := ⟨trivial, trivial⟩
  addClasspath _ _ := trivial
  output h := nomatch h
  compile _ _ _ := trivial

theorem Cast.onlySaves_saving : Cast.saving.OnlySaves :=
  { Cast.onlySaves_idle with
    saving := fun h => by
      cases h
      exact ⟨rfl, fun _ => trivial⟩
    telling := fun he h => by
      simp only [Cast.saving] at h
      split at h
      · exact absurd rfl he
      · cases h }

namespace Studio

/-- A studio that starts over after clean compiles, with unsaved changes, a compiler and some output. -/
def unsavedWired : Studio Unit :=
  { unsavedAmong [] with
    registry := { compilers := [0] }
    console := [['x']]
    wiring := { (unsavedAmong []).wiring with resetsAfterCompile := true } }

theorem compile_protocol_saving : ∃ s',
    compile (Cast.saving.collaborators 1 2) 0 unsavedWired = some (.ok (some []), s') ∧
      s'.session.transcript = [banner, prompt] ∧
      Compilation (Cast.saving.collaborators 1 2) 0 unsavedWired.face (.ok (some [])) s'.face := by
  have begins : ∀ {n script}, Cast.saving.handler n ⟨.compileStarted, none⟩ = some script →
      script.Raises fun f => f.isOrdinary = true := nofun
  obtain ⟨r, s', run, compiled⟩ := compile_protocol Cast.onlySaves_saving begins 1 0 0 unsavedWired
  have seen : (compile (Cast.saving.collaborators 1 2) 0 unsavedWired).map (fun (r, s') =>
      (r.toOption, s'.session.transcript)) = some (some (some []), [banner, prompt]) := by
    decide +kernel
  rw [run, Option.map_some, Option.some.injEq, Prod.mk.injEq] at seen
  obtain ⟨answer, fresh⟩ := seen
  cases r <;> cases answer
  exact ⟨s', run, fresh, compiled⟩

/-- A studio that starts over after clean compiles, with a compiler and a document that is kept in a
file. -/
def savedWired : Studio Unit :=
  { atRoot with
    bus := [.outside 0]
    registry := { compilers := [0] }
    desk := ({} : Desk).addOpened ⟨.root, ["a"]⟩ {}
    wiring := { atRoot.wiring with resetsAfterCompile := true } }

/-- Two compiles that do not keep to the protocol. A listener ends the program when it is asked to save:
the document is still modified, but the compile does not answer so. The next interpreter takes no
classpath: after a compile without diagnostics the console is reset but the interactions are not. -/
theorem compile_interrupted :
    (Cast.hearing .saveRequested (.fail (.interrupted ""))).OnlySaves ∧
    (compile ((Cast.hearing .saveRequested (.fail (.interrupted ""))).collaborators 1 2) 0
      unsavedWired).map (fun (r, s') => (r, s'.deals, (s'.desk.document 0).buffer.modified)) =
        some (.error (.interrupted ""), [.saveRequested 0], true) ∧
    Cast.refusing.OnlySaves ∧
    (compile (Cast.refusing.collaborators 1 2) 0 savedWired).map (fun (r, s') => (r, s'.deals)) =
      some (.error (.outside .value none), [.started, .called (.compiler 0) ⟨.root, []⟩ [⟨.root, ["a"]⟩],
        .ended, .consoleReset]) := by
  refine ⟨{ Cast.onlySaves_idle with
    saving := fun h => by
      simp only [Cast.hearing, if_true, Option.some.injEq] at h
      rw [← h]
      trivial
    telling := fun {n e script} he h => by
      simp only [Cast.hearing, Option.ite_none_right_eq_some] at h
      exact absurd h.1 he }, rfl, { Cast.onlySaves_idle with addClasspath := fun _ _ => trivial }, rfl⟩

end Studio

end JavaStudio
