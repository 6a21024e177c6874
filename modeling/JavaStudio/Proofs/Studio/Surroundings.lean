import JavaStudio.Proofs.Studio.Documents

/-!
# What the rest of the studio does

The console, the interactions and the compiles change nothing of the desk and the files themselves.
What steps they take are those of the listeners, interpreters and compilers that they call. `Serves`
says what all operations of a studio need of a relation whose steps they are to take.
-/

namespace JavaStudio.Studio

variable {S : Type} {t : Terms S} {aloud : Prop} {r : Studio S → Studio S → Prop}
  {c : Collaborators S}

/-! ## Parts that call nobody -/

section

variable (hr : Moves t aloud r)
include hr

theorem appendConsole_along (x : Text) :
    Act.Along r (appendConsole x : Act (Studio S) Unit) :=
  update_along hr fun _ => rfl

theorem setPending_along (x : Text) : Act.Along r (setPending x : Act (Studio S) Unit) :=
  onSession_along hr _

theorem attachCompiler_along : Act.Along r (attachCompiler : Act (Studio S) Unit) :=
  update_along hr fun _ => rfl

theorem offer_along : Act.Along r (offer c) :=
  .bind .get fun _ => .ite ((report_along hr _).bind fun _ => .pure _) (.pure _)

theorem readActive_along : Act.Along r (readActive c) := by
  refine .bind .get fun s => ?_
  have refresh : Act.Along r (do
      setRegistry (s.registry.refreshed (s.isUp c))
      return s.registry.current (s.isUp c) : Act (Studio S) Choice) :=
    (setRegistry_along hr _).bind fun _ => .pure _
  exact .ite ((report_along hr _).bind fun _ => refresh) refresh

theorem activate_along (choice : Choice) : Act.Along r (activate c choice) :=
  .bind .get fun _ => (Act.Along.ofExcept _).bind fun q => setRegistry_along hr q

theorem activateFirst_along : Act.Along r (activateFirst c) :=
  (offer_along hr).bind fun _ => activate_along hr _

theorem select_along (name : String) : Act.Along r (select c name) :=
  .bind .get fun _ => (Act.Along.ofExcept _).bind fun (_, q) =>
    (setRegistry_along hr q).bind fun _ => .pure _

theorem register_along (k : CompilerId) : Act.Along r (register k : Act (Studio S) Unit) :=
  .bind .get fun _ => setRegistry_along hr _

theorem firstIsUp_along : Act.Along r (firstIsUp c) :=
  (offer_along hr).bind fun _ => .bind .get fun _ => .pure _

theorem locateSource_along (d : DocId) :
    Act.Along r (locateSource d : Act (Studio S) _) := by
  refine .bind .get fun s => ?_
  split
  · exact (Act.Along.ofExcept _).bind fun _ => .pure _
  · exact (Act.Along.ofExcept _).bind fun _ => (report_along hr _).bind fun _ => .pure _
  · exact .throw _

end

/-! ## Looking for the source of a document -/

/-- What comes of looking for the file and the source root of a document. -/
inductive Locating (d : DocId) (s : Studio S) :
    Except Failure (Except Diagnostics (Path × Path)) → Studio S → Prop
  | found {root file : Path} : s.desk.sourceRoot s.host.files d = .ok root →
      (s.desk.document d).path = some file → Locating d s (.ok (.ok (file, root))) s
  | misplaced {file : Path} {fault : PackageFault} :
      s.desk.sourceRoot s.host.files d = .error (.invalidPackage fault) →
      (s.desk.document d).path = some file →
      Locating d s (.ok (.error [.unlocated file.toString.toList fault.message.toList]))
        (s.logged (notCompiled file fault))
  | rootless {f : Failure} : s.desk.sourceRoot s.host.files d = .error f →
      (∀ fault, f ≠ .invalidPackage fault) → Locating d s (.error f) s
  | fileless {f : Failure} : (s.desk.document d).path = none →
      (s.desk.document d).backing = .error f → Locating d s (.error f) s

theorem locateSource_locating (d : DocId) (s : Studio S) :
    ∃ r s', locateSource d s = some (r, s') ∧ Locating d s r s' := by
  cases hpath : (s.desk.document d).path with
  | none =>
    have backing : (s.desk.document d).backing = .error (.noBackingFile (s.desk.document d).title) := by
      rw [Document.backing, hpath]
    cases hroot : s.desk.sourceRoot s.host.files d with
    | ok root =>
      refine ⟨_, s, ?_, .fileless hpath backing⟩
      rw [locateSource, Act.get_bind, hroot, backing]
      rfl
    | error f =>
      by_cases hf : ∃ fault, f = .invalidPackage fault
      · obtain ⟨fault, rfl⟩ := hf
        refine ⟨_, s, ?_, .fileless hpath backing⟩
        rw [locateSource, Act.get_bind, hroot, backing]
        rfl
      · refine ⟨_, s, ?_, .rootless hroot fun fault h => hf ⟨fault, h⟩⟩
        rw [locateSource, Act.get_bind, hroot]
        cases f <;> first | rfl | exact absurd ⟨_, rfl⟩ hf
  | some file =>
    have backing : (s.desk.document d).backing = .ok file := by rw [Document.backing, hpath]
    cases hroot : s.desk.sourceRoot s.host.files d with
    | ok root =>
      refine ⟨_, s, ?_, .found hroot hpath⟩
      rw [locateSource, Act.get_bind, hroot, backing]
      rfl
    | error f =>
      by_cases hf : ∃ fault, f = .invalidPackage fault
      · obtain ⟨fault, rfl⟩ := hf
        refine ⟨_, _, ?_, .misplaced hroot hpath⟩
        rw [locateSource, Act.get_bind, hroot, backing]
        rfl
      · refine ⟨_, s, ?_, .rootless hroot fun fault h => hf ⟨fault, h⟩⟩
        rw [locateSource, Act.get_bind, hroot]
        cases f <;> first | rfl | exact absurd ⟨_, rfl⟩ hf

/-! ## Collaborators -/

/-- The operations of a studio are made of steps of a relation: those of the studio itself, those of
documents, what the listeners do when they are told of something else, and what the other collaborators
do. -/
structure Serves (t : Terms S) (aloud : Prop) (r : Studio S → Studio S → Prop)
    (c : Collaborators S) : Prop where
  moves : Moves t aloud r
  tends : Tends t.picks r c
  announces : ∀ {e}, aloud ∨ e.kind.ofCompile = false → e.kind.ofLife = false →
    Act.Along r (announce c e)
  create : ∀ n, Act.Along r (c.create n)
  addClasspath : ∀ n p, Act.Along r (c.addClasspath n p)
  interpret : ∀ n source, Act.Along r (c.interpret n source)
  output : ∀ {f}, c.output = some f → ∀ chunk, Act.Along r (f chunk)
  recallFailed : ∀ view, Act.Along r (c.recallFailed view)
  exit : ∀ code, Act.Along r (c.exit code)
  compile : ∀ k root files, Act.Along r (c.compile k root files)

/-- Collaborators that keep to the terms serve the relation. -/
theorem Follows.serves (hc : Follows t aloud r c) : Serves t aloud r c :=
  { hc with
    moves := hc.covers.moves
    tends := hc.tends
    announces := hc.announces }

theorem Serves.loud (h : Serves t aloud r c) (loud : aloud) : Serves t True r c :=
  { h with
    moves := ⟨fun _ _ step _ => h.moves.quiet step (.inl loud)⟩
    announces := fun _ => h.announces (.inl loud) }

/-! ## The interactions -/

/-- What a relation needs for a chunk of the transcript: that of the session, of the journal and of the
log, and what its view does. -/
theorem appendQuietly_of {x : Text}
    (grown : Act.Along r (onSession (fun i => { i with transcript := i.transcript ++ [x] }) :
      Act (Studio S) Unit))
    (printed : Act.Along r (record (.printed x) : Act (Studio S) Unit))
    (logs : ∀ row, Act.Along r (report row : Act (Studio S) Unit))
    (output : ∀ {shows}, c.output = some shows → Act.Along r (shows x)) :
    Act.Along r (appendQuietly c x) := by
  have append : Act.Along r (appendTranscript c x) := by
    refine grown.bind fun _ => ?_
    split
    · exact .pure _
    · rename_i shows h
      exact printed.bind fun _ => output h
  refine append.attempt.bind fun q => ?_
  split
  · exact .pure _
  · exact .ite (logs _) (.throw _)

/-- What the operations of a session need of a relation besides the moves of its history: its other
changes, counting and noting what is done, and what interpreters and views do. -/
structure Interacts (r : Studio S → Studio S → Prop) (c : Collaborators S) : Prop where
  session : ∀ {f : Session → Session}, (∀ i, (f i).history = i.history) →
    Act.Along r (onSession f : Act (Studio S) Unit)
  counted : Act.Along r (modify fun s => { s with interpreters := s.interpreters + 1 })
  recorded : ∀ {m : Moment}, m.scene? = none → m.entries = [] → m.isHeard = false →
    Act.Along r (record m : Act (Studio S) Unit)
  report : ∀ row, Act.Along r (report row : Act (Studio S) Unit)
  create : ∀ n, Act.Along r (c.create n)
  addClasspath : ∀ n p, Act.Along r (c.addClasspath n p)
  interpret : ∀ n source, Act.Along r (c.interpret n source)
  output : ∀ {f}, c.output = some f → ∀ chunk, Act.Along r (f chunk)
  recallFailed : ∀ view, Act.Along r (c.recallFailed view)

theorem Serves.interacts (hc : Serves t aloud r c) : Interacts r c :=
  { hc with
    session := fun _ => onSession_along hc.moves _
    counted := update_along hc.moves fun _ => rfl
    recorded := fun h none unheard => record_along hc.moves h (.inr none) unheard
    report := report_along hc.moves }

namespace Interacts

variable (hc : Interacts r c)
include hc

theorem appendQuietly (x : Text) : Act.Along r (appendQuietly c x) :=
  appendQuietly_of (hc.session fun _ => rfl) (hc.recorded rfl rfl rfl) hc.report
    fun h => hc.output h x

theorem showPrompt : Act.Along r (showPrompt c) :=
  .bind (hc.session fun _ => rfl) fun _ => hc.appendQuietly _

theorem createInterpreter : Act.Along r (createInterpreter c) :=
  hc.counted.bind fun _ => .bind .get fun _ => (hc.recorded rfl rfl rfl).bind fun _ =>
    (hc.create _).bind fun _ => .pure _

theorem addEntries (n : Nat) (es : List ClasspathEntry) : Act.Along r (addEntries c n es) := by
  induction es with
  | nil => exact .pure _
  | cons e es ih =>
    exact (Act.Along.ofExcept e).bind fun _ => .bind .get fun _ =>
      (hc.recorded rfl rfl rfl).bind fun _ => (hc.addClasspath n _).bind fun _ => ih

theorem evaluate (n : Nat) (source : Text) : Act.Along r (evaluate c n source) :=
  (hc.recorded rfl rfl rfl).bind fun _ => (hc.interpret n source).bind fun _ => .ofExcept _

theorem showEvaluation (n : Nat) (q : Except Failure (Option Text)) :
    Act.Along r (showEvaluation c n q) := by
  unfold Studio.showEvaluation
  split
  · exact .pure _
  · exact hc.appendQuietly _
  · exact .ite ((Act.Along.ofExcept _).bind fun _ => hc.appendQuietly _) (.throw _)

theorem evaluateLine (n : Nat) (line : Text) : Act.Along r (evaluateLine c n line) :=
  (hc.appendQuietly line).bind fun _ => .bind .get fun _ => (Act.Along.ofExcept _).bind fun _ =>
    (hc.evaluate n _).attempt.bind fun q => hc.showEvaluation n q

theorem submit (adds : ∀ line, Act.Along r (onHistory (History.add line) : Act (Studio S) Unit))
    (given : Option Text) : Act.Along r (submit c given) :=
  .bind .get fun _ => (adds _).bind fun _ => .bind (hc.session fun _ => rfl) fun _ =>
    .bind .get fun _ => .ite hc.showPrompt ((hc.evaluateLine _ _).bind fun _ => hc.showPrompt)

theorem recallEntry {way : Way} (steps : Act.Along r (onHistory way.step : Act (Studio S) Text))
    (view : Nat) : Act.Along r (recallEntry c way view) :=
  .bind .get fun _ => .ite
    (steps.bind fun _ => .bind (hc.session fun _ => rfl) fun _ => .pure _)
    ((hc.recallFailed view).bind fun _ => .pure _)

theorem rootsForReset : Act.Along r (rootsForReset : Act (Studio S) (List Path)) := by
  refine .bind .get fun s => (Act.Along.ofExcept _).bind fun q => ?_
  split
  · exact .pure _
  · exact (hc.report _).bind fun _ => .pure _

section

variable (restarts : ∀ n, Act.Along r (onSession (restarted n) : Act (Studio S) Unit))
  (announces : Act.Along r (announce c ⟨.interactionsReset, none⟩))
include restarts announces

theorem resetSession (entries : List ClasspathEntry) : Act.Along r (resetSession c entries) :=
  hc.createInterpreter.bind fun n => (hc.addEntries n entries).bind fun _ =>
    (restarts n).bind fun _ => hc.showPrompt.bind fun _ => announces

theorem resetInteractions : Act.Along r (resetInteractions c) :=
  hc.rootsForReset.bind fun _ => .bind .get fun _ => (Act.Along.ofExcept _).bind fun _ =>
    hc.resetSession restarts announces _

end

end Interacts

section

variable (hc : Serves t aloud r c)
include hc

theorem submit_along (given : Option Text) : Act.Along r (submit c given) :=
  hc.interacts.submit (fun _ => onHistory_along hc.moves _) given

theorem recallEntry_along (way : Way) (view : Nat) : Act.Along r (recallEntry c way view) :=
  hc.interacts.recallEntry (onHistory_along hc.moves _) view

theorem isReady_along (d : DocId) : Act.Along r (isReady c d) :=
  (requestSave_along hc.tends d).bind fun _ => .bind .get fun _ => .pure _

/-! ## Leaving -/

theorem leave_along (departure : Departure) : Act.Along r (leave c departure) := by
  cases departure with
  | program => exact .throw _
  | surroundings => exact (record_along hc.moves rfl (.inr rfl) rfl).bind fun _ => hc.exit 0

theorem quit_along (departure : Departure) : Act.Along r (quit c departure) :=
  (closeAll_along hc.tends).bind fun _ => .ite ((leave_along hc departure).bind fun _ => .pure _)
    ((report_along hc.moves _).bind fun _ => .pure _)

end

/-! ## Starting over -/

theorem celebrate_clean {s : Studio S} (wired : s.wiring.resetsAfterCompile = true) :
    celebrate c [] s = (resetConsole c >>= fun _ => resetInteractions c) s := by
  rw [celebrate, Act.get_bind, if_pos (by simpa using wired)]

theorem celebrate_flawed {s : Studio S} {ds : Diagnostics}
    (flawed : ds ≠ [] ∨ s.wiring.resetsAfterCompile = false) :
    celebrate c ds s = some (.ok (), s) := by
  rw [celebrate, Act.get_bind, if_neg]
  · rfl
  · rcases flawed with some | unwired
    · simp [some]
    · simp [unwired]

section

variable (hc : Serves t True r c)
include hc

theorem Serves.noted {m : Moment} (h : m.scene? = none) (unheard : m.isHeard = false) :
    Act.Along r (record m : Act (Studio S) Unit) :=
  record_along hc.moves h (.inl trivial) unheard

theorem resetConsole_along : Act.Along r (resetConsole c) :=
  .bind (update_along hc.moves fun _ => rfl) fun _ => hc.announces (.inl trivial) rfl

theorem resetSession_along (entries : List ClasspathEntry) : Act.Along r (resetSession c entries) :=
  hc.interacts.resetSession (fun _ => onSession_along hc.moves _)
    (hc.announces (.inl trivial) rfl) entries

theorem resetInteractions_along : Act.Along r (resetInteractions c) :=
  hc.interacts.resetInteractions (fun _ => onSession_along hc.moves _)
    (hc.announces (.inl trivial) rfl)

/-! ## Compiling -/

theorem compileWith_along (choice : Choice) (root : Path) (files : List Path) :
    Act.Along r (compileWith c choice root files) := by
  refine (hc.noted rfl rfl).bind fun _ => ?_
  split
  · exact .pure _
  · exact hc.compile _ root files

theorem compileWithActive_along (root : Path) (files : List Path) :
    Act.Along r (compileWithActive c root files) :=
  (readActive_along hc.moves).bind fun _ => compileWith_along hc _ root files

theorem diagnose_along (d : DocId) : Act.Along r (diagnose c d) := by
  refine (locateSource_along hc.moves d).bind fun q => ?_
  split
  · exact .pure _
  · exact compileWithActive_along hc _ _

theorem celebrate_along (ds : Diagnostics) : Act.Along r (celebrate c ds) :=
  .bind .get fun _ => .ite
    ((resetConsole_along hc).bind fun _ => resetInteractions_along hc) (.pure _)

theorem compile_along (d : DocId) : Act.Along r (compile c d) :=
  (isReady_along hc d).bind fun _ => .ite
    ((hc.announces (.inl trivial) rfl).bind fun _ =>
      ((diagnose_along hc d).ensuring (hc.announces (.inl trivial) rfl)).bind fun _ =>
        (celebrate_along hc _).bind fun _ => .pure _)
    (.pure _)

theorem startCompile_along (d : DocId) : Act.Along r (startCompile c d) :=
  .bind .get fun _ => .ite (compile_along hc d) (.throw _)

/-! ## In the background -/

theorem Serves.aside {f : Studio S → Studio S} (h : ∀ s, (f s).desk = s.desk ∧
    (f s).host.files = s.host.files ∧ (f s).journal = s.journal)
    (heard : ∀ s, (f s).audience = s.audience) :
    Act.Along r (modify f : Act (Studio S) Unit) :=
  .modify fun s => hc.moves.quiet (.aside (h s).1 (h s).2.1 (h s).2.2) (.inl trivial)
    (by rw [roll, roll, (h s).1, (h s).2.2]) (heard s)

theorem newFuture_along (d : DocId) (ready : Bool) :
    Act.Along r (newFuture d ready : Act (Studio S) Nat) :=
  .bind .get fun _ => .bind (hc.aside (fun _ => ⟨rfl, rfl, rfl⟩) fun _ => rfl) fun _ =>
    (hc.noted rfl rfl).bind fun _ => .pure _

theorem resolve_along (n : Nat) (outcome : Except Failure (Option Diagnostics)) :
    Act.Along r (resolve n outcome : Act (Studio S) Unit) :=
  .bind (hc.aside (fun _ => ⟨rfl, rfl, rfl⟩) fun _ => rfl) fun _ => hc.noted rfl rfl

theorem conclude_along (outcome : Except Failure Diagnostics) :
    Act.Along r (conclude c outcome) := by
  refine (hc.announces (.inl trivial) rfl).bind fun _ => ?_
  split
  · exact celebrate_along hc _
  · exact .pure _

theorem finish_along (k : Completion) : Act.Along r (finish c k) := by
  refine (conclude_along hc _).attempt.bind fun q => ?_
  split
  · exact resolve_along hc _ _
  · exact .ite (resolve_along hc _ _) (.throw _)

theorem finishNow_along (k : Completion) : Act.Along r (finishNow c k) :=
  (hc.noted rfl rfl).bind fun _ => finish_along hc k

theorem enlist_along (d : DocId) (future : Nat) (pool : Pool) :
    Act.Along r (enlist c d future pool) := by
  refine (locateSource_along hc.moves d).bind fun q => ?_
  split
  · exact finishNow_along hc _
  · exact (readActive_along hc.moves).bind fun _ => (Act.Along.ofExcept _).bind fun _ =>
      .bind (hc.aside (fun _ => ⟨rfl, rfl, rfl⟩) fun _ => rfl) fun _ => hc.noted rfl rfl

theorem compileAside_along (d : DocId) (pool : Pool) : Act.Along r (compileAside c d pool) := by
  refine (isReady_along hc d).bind fun _ => (newFuture_along hc d _).bind fun n => .ite ?_ ?_
  · refine (hc.announces (.inl trivial) rfl).bind fun _ =>
      (enlist_along hc d n pool).attempt.bind fun q => ?_
    split
    · exact .pure _
    · exact .ite ((finishNow_along hc _).bind fun _ => .pure _) (.throw _)
  · exact (resolve_along hc _ _).bind fun _ => .pure _

theorem complete_along (pool : Pool) (k : Completion) :
    Act.Along r (pool.complete completions (finish c) k) := by
  unfold Pool.complete
  split
  · refine (finish_along hc k).attempt.bind fun q => ?_
    split
    · exact .pure _
    · exact .ite (.pure _) (.throw _)
  · exact hc.aside (f := completions.put k) (fun _ => ⟨rfl, rfl, rfl⟩) fun _ => rfl

theorem settle_along (job : Job) : Act.Along r (settle c job) :=
  (compileWith_along hc _ _ _).attempt.bind fun _ =>
    (hc.noted rfl rfl).bind fun _ => complete_along hc _ _

theorem settleFuture_along (n : Nat) : Act.Along r (settleFuture c n) := by
  refine .bind .get fun s => ?_
  split
  · exact .pure _
  · exact .bind (hc.aside (fun _ => ⟨rfl, rfl, rfl⟩) fun _ => rfl) fun _ => settle_along hc _

theorem compileAndSettle_along (d : DocId) (pool : Pool) :
    Act.Along r (compileAndSettle c d pool) :=
  (compileAside_along hc d pool).bind fun n => (settleFuture_along hc n).bind fun _ => .pure _

theorem drainFrom_along (patience ran : Nat) :
    Act.Along r (completions.drainFrom (finish c) patience ran) := by
  -- on the patience: a completion that is run may put others in the queue
  induction patience generalizing ran with
  | zero => exact .forever
  | succ patience ih =>
    intro s a s' h
    rw [Queue.drainFrom] at h
    simp only at h
    split at h
    · cases h
      exact .refl
    · rename_i k ks hk
      have first : r s (completions.update ks s) :=
        hc.moves.quiet (.aside rfl rfl rfl) (.inl trivial) rfl rfl
      split at h
      · rename_i hrun
        exact .head first ((finish_along hc k hrun).trans (ih _ h))
      · rename_i hrun
        cases h
        exact .head first (finish_along hc k hrun)
      · cases h

theorem drain_along (timeout : Option Number) : Act.Along r (drain c timeout) := by
  unfold drain Queue.drain
  split
  · exact .bind .get fun _ => (Act.Along.ofExcept _).bind fun _ => drainFrom_along hc _ _
  · exact drainFrom_along hc _ _

end

end JavaStudio.Studio
