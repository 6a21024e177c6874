import JavaStudio.Proofs.Interactions.History
import JavaStudio.Proofs.Labelled
import JavaStudio.Proofs.Studio.Runs

/-!
# Submitting a line

What comes of a submitted line when the interpreters and the view of the transcript leave the session
alone (`Discreet`). `Submission` lists the ways in which a submission can end: a blank line is
followed by the prompt, any other one is shown, given to the interpreter and answered in the
transcript, with the prompt after the answer. Two things can go wrong: the history cannot be trimmed,
or a failed evaluation cannot be put into words.

* `submit_submission`: every submission that ends does so in one of these ways.
* `submit_ends`: it ends when the interpreters and the view do.
-/

namespace JavaStudio

/-- What an interpreter was asked to evaluate at a moment. -/
def Moment.interpretation? : Moment → Option (Nat × Text)
  | interpreted n source => some (n, source)
  | _ => none

namespace Studio

variable {S α : Type} {c : Collaborators S} {s s' s₁ : Studio S}

/-! ## The session alone -/

/-- What interpreters were asked to evaluate so far. -/
def interpretations (s : Studio S) : List (Nat × Text) := s.journal.filterMap Moment.interpretation?

theorem interpretations_marked (s : Studio S) (m : Moment) :
    (s.marked m).interpretations = s.interpretations ++ m.interpretation?.toList := by
  have step : (s.marked m).interpretations =
      s.interpretations ++ [m].filterMap Moment.interpretation? := List.filterMap_append
  rw [step]
  cases hm : m.interpretation? <;> simp [hm]

/-- The session is as it was, and no interpreter was asked anything. -/
structure SameSession (s s' : Studio S) : Prop where
  session : s'.session = s.session
  interpretations : s'.interpretations = s.interpretations

instance : Std.Refl (SameSession (S := S)) := ⟨fun _ => ⟨rfl, rfl⟩⟩

instance : IsTrans (Studio S) SameSession :=
  ⟨fun _ _ _ h h' => ⟨h'.session.trans h.session, h'.interpretations.trans h.interpretations⟩⟩

theorem SameSession.rfl : SameSession s s := refl s

theorem SameSession.trans (h : SameSession s s₁) (h' : SameSession s₁ s') : SameSession s s' :=
  IsTrans.trans _ _ _ h h'

theorem sameSession_logged (s : Studio S) (row : LogRecord) : SameSession s (s.logged row) :=
  ⟨.refl _, .refl _⟩

theorem sameSession_marked (s : Studio S) {m : Moment} (h : m.interpretation? = none) :
    SameSession s (s.marked m) :=
  ⟨.refl _, by rw [interpretations_marked, h]; exact List.append_nil _⟩

/-- What an evaluation comes to: a text to show, if any, or the failure of it or of its value's text. -/
def evaluated (r : Except Failure Evaluation) : Except Failure (Option Text) :=
  r.bind evaluationText

/-- The interpreters and the view of the transcript leave the session alone, and none of them ends the
program. -/
structure Discreet (c : Collaborators S) : Prop where
  create : ∀ n, Act.Along SameSession (c.create n)
  interpret : ∀ n source, Act.Along SameSession (c.interpret n source)
  fails : ∀ {n source s r s' f}, c.interpret n source s = some (r, s') → evaluated r = .error f →
    f.isOrdinary = true
  output : ∀ {shows}, c.output = some shows → ∀ chunk, Act.Along SameSession (shows chunk)
  unshown : ∀ {shows chunk s f s'}, c.output = some shows →
    shows chunk s = some (.error f, s') → f.isOrdinary = true

/-! ## The transcript -/

/-- The studio with a chunk at the end of its transcript. -/
def told (s : Studio S) (chunk : Text) : Studio S :=
  { s with session := { s.session with transcript := s.session.transcript ++ [chunk] } }

/-- The studio after a line was taken: the history is another one and no line is pending. -/
def taken (s : Studio S) (history : History) : Studio S :=
  { s with session := { s.session with history := history, pending := [] } }

theorem SameSession.told (h : SameSession s s') (chunk : Text) :
    SameSession (s.told chunk) (s'.told chunk) :=
  ⟨by simp only [Studio.told, h.session], h.interpretations⟩

section

variable (hc : Discreet c)
include hc

/-- Whatever the view does, a chunk is in the transcript and nothing is raised. -/
theorem appendQuietly_told {chunk : Text} {r : Except Failure Unit}
    (run : appendQuietly c chunk s = some (r, s')) :
    r = .ok () ∧ SameSession (s.told chunk) s' := by
  obtain ⟨q, s₁, hrun, hrest⟩ := Act.attempt_bind_eq_some.1 run
  have shown : SameSession (s.told chunk) s₁ ∧ ∀ f, q = .error f → f.isOrdinary = true := by
    unfold appendTranscript at hrun
    cases hout : c.output with
    | none =>
      rw [hout] at hrun
      cases hrun
      exact ⟨.rfl, nofun⟩
    | some shows =>
      rw [hout] at hrun
      replace hrun : shows chunk ((s.told chunk).marked (.printed chunk)) = some (q, s₁) := hrun
      have marked : SameSession (s.told chunk) ((s.told chunk).marked (.printed chunk)) :=
        sameSession_marked _ rfl
      refine ⟨marked.trans ((hc.output hout chunk).post hrun), ?_⟩
      rintro f rfl
      exact hc.unshown hout hrun
  cases q with
  | ok u =>
    cases hrest
    exact ⟨rfl, shown.1⟩
  | error f =>
    simp only [shown.2 f rfl, if_true] at hrest
    cases hrest
    exact ⟨rfl, shown.1.trans (sameSession_logged s₁ _)⟩

/-- The prompt is shown and no line is pending. -/
theorem showPrompt_told {r : Except Failure Unit} (run : showPrompt c s = some (r, s')) :
    r = .ok () ∧ SameSession ((s.taken s.session.history).told prompt) s' :=
  appendQuietly_told hc (s := s.taken s.session.history) run

theorem createInterpreter_created {q : Except Failure Nat} (run : createInterpreter c s = some (q, s')) :
    SameSession s s' ∧ ∀ n, q = .ok n → n = s.interpreters + 1 := by
  replace run : (c.create (s.interpreters + 1) >>= fun _ => pure (s.interpreters + 1))
      ({ s with interpreters := s.interpreters + 1 }.marked (.created (s.interpreters + 1))) =
    some (q, s') := run
  have same : SameSession s
      ({ s with interpreters := s.interpreters + 1 }.marked (.created (s.interpreters + 1))) := by
    have counted : SameSession s { s with interpreters := s.interpreters + 1 } := ⟨rfl, rfl⟩
    exact counted.trans (sameSession_marked _ rfl)
  rcases Act.bind_eq_some.1 run with ⟨_, _, created, rest⟩ | ⟨f, created, rfl⟩
  · cases rest
    exact ⟨same.trans ((hc.create _).post created), fun n hn => (Except.ok.inj hn).symm⟩
  · exact ⟨same.trans ((hc.create _).post created), nofun⟩

/-- A session begins with the banner and a prompt. -/
theorem beginSession_begun {keyword : Wide} {limit : Number}
    (run : beginSession c (.ofWide keyword) (.num limit) s = some (.ok (), s')) :
    ∃ n, s'.session = { freshSession limit (.ofWide keyword) with
      interpreter := n
      transcript := [banner, prompt] } := by
  replace run : (createInterpreter c >>= fun n => onSession (fun i => { i with interpreter := n }) >>=
      fun _ => showPrompt c) { s with session := freshSession limit (.ofWide keyword) } =
    some (.ok (), s') := run
  obtain ⟨n, s₁, created, run⟩ := Act.bind_eq_ok.1 run
  obtain ⟨same, -⟩ := createInterpreter_created hc created
  replace run : showPrompt c { s₁ with session := { s₁.session with interpreter := n } } =
    some (.ok (), s') := run
  obtain ⟨-, shown⟩ := showPrompt_told hc run
  refine ⟨n, ?_⟩
  rw [shown.session]
  simp only [told, taken, same.session]
  rfl

end

/-- The session is begun by steps of a relation: those of the session and the log, those of moments that
bear on nobody, and what is done to make an interpreter and to show the first prompt. -/
structure Begins (r : Studio S → Studio S → Prop) (c : Collaborators S) (n : Nat) : Prop where
  session : ∀ (f : Session → Session) (s : Studio S), r s { s with session := f s.session }
  counted : ∀ s : Studio S, r s { s with interpreters := s.interpreters + 1 }
  marked : ∀ {m : Moment}, m.isHeard = false → ∀ s : Studio S, r s (s.marked m)
  logged : ∀ (row : LogRecord) (s : Studio S), r s (s.logged row)
  create : Act.Along r (c.create n)
  output : ∀ {shows}, c.output = some shows → Act.Along r (shows prompt)

section

variable {r : Studio S → Studio S → Prop}

theorem Begins.showPrompt {n : Nat} (hc : Begins r c n) : Act.Along r (showPrompt c) := by
  have session : ∀ f, Act.Along r (onSession f : Act (Studio S) Unit) :=
    fun f => .modify (hc.session f)
  have logs : ∀ row, Act.Along r (report row : Act (Studio S) Unit) := by
    intro row s q s' run
    cases run
    exact .single (hc.logged row s)
  exact (session _).bind fun _ =>
    appendQuietly_of (session _) (.modify (hc.marked rfl)) logs hc.output

theorem Begins.along (hc : Begins r c (s.interpreters + 1)) (keyword limit : Json) :
    Act.AlongFrom r s (beginSession c keyword limit) := by
  have session : ∀ f, Act.Along r (onSession f : Act (Studio S) Unit) :=
    fun f => .modify (hc.session f)
  -- the first interpreter is the one after those that were made so far
  refine (Act.Along.ofExcept _).from_bind fun limit s₁ hs₁ => ?_
  obtain ⟨-, rfl⟩ := Prod.mk.inj (Option.some.inj hs₁)
  refine (session _).from_bind fun _ s₁ hs₁ => ?_
  cases hs₁
  have create : Act.AlongFrom r { s with session := freshSession limit keyword }
      (createInterpreter c) := by
    refine (Act.Along.modify hc.counted).from_bind fun _ s₁ hs₁ => ?_
    cases hs₁
    refine Act.Along.get.from_bind fun _ s₁ hs₁ => ?_
    cases hs₁
    exact (((Act.Along.modify (hc.marked rfl)).bind fun _ => hc.create.bind fun _ =>
      .pure _).alongFrom _)
  exact create.bind fun _ s₁ _ => ((session _).bind fun _ => hc.showPrompt).alongFrom s₁

end

/-- A studio is put together by beginning its session and joining its parts. -/
theorem assemble_eq_ok {registry : Task Host Registry}
    (run : assemble c registry s = some (.ok (), s')) : ∃ host q s₂,
      beginSession c s.settings.launcherKeyword s.settings.historyLimit
        { s with host := host, registry := q } = some (.ok (), s₂) ∧
      s' = { s₂ with
        wiring := joinedWiring s.settings.indentWidth
        bus := s₂.bus ++ [.recentFiles]
        journal := s₂.journal ++ [.rearranged (.subscribed .recentFiles)] } := by
  obtain ⟨q, s₁, made, run⟩ := Act.bind_eq_ok.1 run
  obtain ⟨-, rfl⟩ := Prod.mk.inj (Option.some.inj made)
  obtain ⟨_, s₁, registered, run⟩ := Act.bind_eq_ok.1 run
  cases registered
  rw [Act.get_bind] at run
  obtain ⟨_, s₂, begun, run⟩ := Act.bind_eq_ok.1 run
  cases run
  exact ⟨(registry s.host).2, q, s₂, begun, rfl⟩

/-! ## Answers -/

/-- What is said of a failed evaluation: its message, or its full form if that is empty, unless the
interpreter complains of the syntax. -/
def notice (signature : Text) (f : Failure) : Text :=
  let said := (if f.message = "" then f.shown else f.message).toList
  errorMark ++ if signature.isPrefixOf said then invalidSyntax else said

/-- The chunks that answer an evaluation: none, the text of the value or what is said of the
failure. -/
def answerChunks (signature : Text) : Except Failure Evaluation → List Text
  | .ok .nothing => []
  | .ok (.value shown) => ['\n' :: shown]
  | .ok (.unprintable cause) => [notice signature cause]
  | .error f => [notice signature f]

/-- The failure can be put into words. -/
def Worded (f : Failure) : Prop := ∃ words, f.words = .ok words

theorem failureNotice_of_worded {n : Nat} {f : Failure} (h : Worded f) :
    failureNotice c n f = .ok (notice (c.signature n) f) := by
  obtain ⟨words, hwords⟩ := h
  have hmessage : words = if f.message = "" then f.shown else f.message := by
    unfold Failure.words at hwords
    split at hwords
    · cases hwords
    · exact (Except.ok.inj hwords).symm
  rw [failureNotice, hwords, hmessage]
  rfl

theorem answerChunks_of_failure {signature : Text} {r : Except Failure Evaluation} {f : Failure}
    (h : evaluated r = .error f) : answerChunks signature r = [notice signature f] := by
  rcases r with _ | (_ | _ | _) <;> cases h <;> rfl

theorem answerChunks_of_text {signature : Text} {r : Except Failure Evaluation} {t : Option Text}
    (h : evaluated r = .ok t) : answerChunks signature r = t.toList := by
  rcases r with _ | (_ | _ | _) <;> cases h <;> rfl

/-! ## The history -/

theorem history_add_limit (line : Text) (h : History) : (History.add line h).2.limit = h.limit := by
  cases hl : h.limit <;> simp only [History.add, hl] <;> split <;> rfl

/-- A history whose limit is a float keeps every line and refuses those beyond the limit. -/
theorem history_add_float (line : Text) {h : History} {x : Binary64} (hl : h.limit = .float x) :
    (History.add line h).2.entries = h.entries ++ [line] ∧ (History.add line h).1 =
      if x.ltInt ((h.entries.length + 1 : Nat) : Int) then .error (.wrongKind .notPlace)
      else .ok () := by
  simp only [History.add, hl, Number.ltInt, List.length_append, List.length_singleton]
  split <;> exact ⟨rfl, rfl⟩

/-- A history with an integer limit takes every line. -/
theorem history_add_int (line : Text) {h : History} {limit : Int} (hl : h.limit = .int limit) :
    (History.add line h).1 = .ok () := by
  rw [History.add_eq line hl]

theorem possible_iff (way : Way) (h : History) :
    way.possible h = true ↔ ∃ line h', way.step h = (.ok line, h') := by
  cases way with
  | back => simp only [Way.possible, Way.step, History.previous]; split <;> simp_all
  | forth => simp only [Way.possible, Way.step, History.next]; split <;> simp_all

theorem onHistory_eq {x : Task History α} {q : Except Failure α} {h : History}
    (hx : x s.session.history = (q, h)) : (onHistory x : Act (Studio S) α) s =
      some (q, { s with session := { s.session with history := h } }) := by
  have step : (onHistory x : Act (Studio S) α) s = some ((x s.session.history).1,
      { s with session := { s.session with history := (x s.session.history).2 } }) := rfl
  rw [step, hx]

/-! ## Submissions -/

/-- The line that is submitted: the given one, or the pending one if none is given. -/
def submittedLine (s : Studio S) (given : Option Text) : Text := given.getD s.session.pending

/-- The source that the interpreter sees of a line. -/
def sourceOf (keyword : Wide) (line : Text) : Text := Launch.expandBy keyword (Text.trim line)

/-- The studio after some chunks were added to its transcript. -/
def toldAll (s : Studio S) (chunks : List Text) : Studio S := chunks.foldl told s

/-- How the submission of a line ends, with what the interpreter gave for it. -/
inductive Submission (c : Collaborators S) (keyword : Wide) (line : Text) (s : Studio S) :
    Option (Except Failure Evaluation) → Except Failure Unit → Studio S → Prop
  /-- The line is in the history, which cannot be trimmed. -/
  | untrimmed {f : Failure} {h : History} : History.add line s.session.history = (.error f, h) →
      Submission c keyword line s none (.error f) { s with session := { s.session with history := h } }
  /-- The line is blank. -/
  | blank {h : History} {s' : Studio S} : History.add line s.session.history = (.ok (), h) →
      (Text.trim line).isEmpty = true → SameSession ((s.taken h).told prompt) s' →
      Submission c keyword line s none (.ok ()) s'
  /-- The line is shown and answered. -/
  | answered {h : History} {s₁ s₂ s' : Studio S} {answer : Except Failure Evaluation} :
      History.add line s.session.history = (.ok (), h) → (Text.trim line).isEmpty = false →
      SameSession ((s.taken h).told line) s₁ →
      c.interpret s.session.interpreter (sourceOf keyword line)
          (s₁.marked (.interpreted s.session.interpreter (sourceOf keyword line))) =
        some (answer, s₂) →
      (∀ f, evaluated answer = .error f → Worded f) →
      SameSession (s₂.toldAll (answerChunks (c.signature s.session.interpreter) answer ++ [prompt]))
        s' →
      Submission c keyword line s (some answer) (.ok ()) s'
  /-- The line is shown, but the failure of its evaluation cannot be put into words. -/
  | speechless {h : History} {s₁ s₂ : Studio S} {answer : Except Failure Evaluation}
      {f g : Failure} : History.add line s.session.history = (.ok (), h) →
      (Text.trim line).isEmpty = false → SameSession ((s.taken h).told line) s₁ →
      c.interpret s.session.interpreter (sourceOf keyword line)
          (s₁.marked (.interpreted s.session.interpreter (sourceOf keyword line))) =
        some (answer, s₂) →
      evaluated answer = .error f → f.words = .error g →
      Submission c keyword line s (some answer) (.error g) s₂

/-- A line that is in the history is evaluated unless it is blank, and the prompt is shown. -/
theorem submit_of_added {given : Option Text} {h : History}
    (hadd : History.add (s.submittedLine given) s.session.history = (.ok (), h)) :
    submit c given s = (if (Text.trim (s.submittedLine given)).isEmpty then showPrompt c
      else do
        evaluateLine c s.session.interpreter (s.submittedLine given)
        showPrompt c) (s.taken h) := by
  rw [submit, Act.get_bind, ← submittedLine, Act.bind_of_ok (onHistory_eq hadd)]
  rfl

theorem evaluate_eq_some {n : Nat} {source : Text} {q : Except Failure (Option Text)} :
    evaluate c n source s = some (q, s') ↔ ∃ answer,
      c.interpret n source (s.marked (.interpreted n source)) = some (answer, s') ∧
        q = evaluated answer := by
  have step : evaluate c n source s = (c.interpret n source >>= fun v => Act.ofExcept
      (evaluationText v)) (s.marked (.interpreted n source)) := rfl
  rw [step, Act.bind_eq_some]
  constructor
  · rintro (⟨v, s₁, run, hq⟩ | ⟨f, run, rfl⟩)
    · cases hq
      exact ⟨_, run, rfl⟩
    · exact ⟨_, run, rfl⟩
  · rintro ⟨f | v, run, rfl⟩
    · exact .inr ⟨f, run, rfl⟩
    · exact .inl ⟨v, s', run, rfl⟩

theorem taken_self (h : s.session.pending = []) : s.taken s.session.history = s := by
  have same : { s.session with pending := [] } = s.session := by rw [← h]
  show { s with session := { s.session with pending := [] } } = s
  rw [same]

theorem toldAll_append (s : Studio S) (chunks chunks' : List Text) :
    s.toldAll (chunks ++ chunks') = (s.toldAll chunks).toldAll chunks' :=
  List.foldl_append

theorem session_toldAll (s : Studio S) (chunks : List Text) :
    (s.toldAll chunks).session =
      { s.session with transcript := s.session.transcript ++ chunks } := by
  induction chunks generalizing s with
  | nil => simp [toldAll]
  | cons chunk chunks ih =>
    have step : s.toldAll (chunk :: chunks) = (s.told chunk).toldAll chunks := rfl
    rw [step, ih]
    simp [told]

theorem interpretations_toldAll (s : Studio S) (chunks : List Text) :
    (s.toldAll chunks).interpretations = s.interpretations := by
  induction chunks generalizing s with
  | nil => rfl
  | cons chunk chunks ih => exact ih (s.told chunk)

section

variable (hc : Discreet c)
include hc

/-- What came of an evaluation is shown, unless it cannot be put into words. -/
theorem showEvaluation_told {n : Nat} {answer : Except Failure Evaluation} {r : Except Failure Unit}
    (ordinary : ∀ f, evaluated answer = .error f → f.isOrdinary = true)
    (run : showEvaluation c n (evaluated answer) s = some (r, s')) :
    (r = .ok () ∧ (∀ f, evaluated answer = .error f → Worded f) ∧
        SameSession (s.toldAll (answerChunks (c.signature n) answer)) s') ∨
      ∃ f g, evaluated answer = .error f ∧ f.words = .error g ∧ r = .error g ∧ s' = s := by
  cases heval : evaluated answer with
  | ok t =>
    left
    rw [heval] at run
    rw [answerChunks_of_text heval]
    cases t with
    | none =>
      cases run
      exact ⟨rfl, nofun, .rfl⟩
    | some t =>
      obtain ⟨rfl, same⟩ := appendQuietly_told hc run
      exact ⟨rfl, nofun, same⟩
  | error f =>
    rw [heval] at run
    simp only [showEvaluation, ordinary f heval, if_true] at run
    cases hwords : f.words with
    | ok words =>
      left
      rw [failureNotice_of_worded ⟨words, hwords⟩] at run
      obtain ⟨rfl, same⟩ := appendQuietly_told hc run
      rw [answerChunks_of_failure heval]
      refine ⟨rfl, ?_, same⟩
      rintro _ ⟨⟩
      exact ⟨words, hwords⟩
    | error g =>
      right
      have silent : failureNotice c n f = .error g := by rw [failureNotice, hwords]
      rw [silent] at run
      cases run
      exact ⟨f, g, rfl, hwords, rfl, rfl⟩

/-- A line is shown, given to the interpreter and answered. -/
theorem evaluateLine_told {n : Nat} {keyword : Wide} {line : Text} {r : Except Failure Unit}
    (hkeyword : s.session.keyword = .ofWide keyword) (run : evaluateLine c n line s = some (r, s')) :
    ∃ s₁ s₂ answer, SameSession (s.told line) s₁ ∧
      c.interpret n (sourceOf keyword line)
          (s₁.marked (.interpreted n (sourceOf keyword line))) = some (answer, s₂) ∧
      ((r = .ok () ∧ (∀ f, evaluated answer = .error f → Worded f) ∧
          SameSession (s₂.toldAll (answerChunks (c.signature n) answer)) s') ∨
        ∃ f g, evaluated answer = .error f ∧ f.words = .error g ∧ r = .error g ∧ s' = s₂) := by
  rcases Act.bind_eq_some.1 run with ⟨u, s₁, echo, rest⟩ | ⟨f, echo, -⟩
  · obtain ⟨-, shown⟩ := appendQuietly_told hc echo
    have text : Settings.text s₁.session.keyword = .ok keyword := by
      rw [shown.session]
      simp only [told, hkeyword, Settings.text_ofWide]
    rw [Act.get_bind, text] at rest
    replace rest : ((evaluate c n (sourceOf keyword line)).attempt >>= showEvaluation c n) s₁ =
      some (r, s') := rest
    obtain ⟨q, s₂, asked, showing⟩ := Act.attempt_bind_eq_some.1 rest
    obtain ⟨answer, interpreted, rfl⟩ := evaluate_eq_some.1 asked
    exact ⟨s₁, s₂, answer, shown, interpreted,
      showEvaluation_told hc (fun f => hc.fails interpreted) showing⟩
  · cases (appendQuietly_told hc echo).1

/-- A line that is not blank is answered, and the prompt is shown unless the answer was speechless. -/
theorem submission_of_evaluateLine {keyword : Wide} {line : Text} {h : History}
    {r : Except Failure Unit} (hkeyword : s.session.keyword = .ofWide keyword)
    (hadd : History.add line s.session.history = (.ok (), h))
    (hblank : (Text.trim line).isEmpty = false)
    (run : (evaluateLine c s.session.interpreter line >>= fun _ => showPrompt c) (s.taken h) =
      some (r, s')) :
    ∃ answer, Submission c keyword line s answer r s' := by
  rcases Act.bind_eq_some.1 run with ⟨u, s₃, evaluating, prompting⟩ | ⟨g, evaluating, rfl⟩
  · obtain ⟨s₁, s₂, answer, shown, interpreted, ⟨-, worded, answered⟩ | ⟨f, g, -, -, hr, -⟩⟩ :=
      evaluateLine_told hc (s := s.taken h) hkeyword evaluating
    · obtain ⟨rfl, prompted⟩ := showPrompt_told hc prompting
      have quiet : s₂.session = s₁.session := ((hc.interpret _ _).post interpreted).session
      have pending : s₃.session.pending = [] := by
        rw [answered.session, session_toldAll, quiet, shown.session]
        rfl
      rw [taken_self pending] at prompted
      refine ⟨some answer, .answered hadd hblank shown interpreted worded ?_⟩
      rw [toldAll_append]
      exact (answered.told prompt).trans prompted
    · cases hr
  · obtain ⟨s₁, s₂, answer, shown, interpreted, ⟨hr, -, -⟩ | ⟨f, g, failed, silent, hr, rfl⟩⟩ :=
      evaluateLine_told hc (s := s.taken h) hkeyword evaluating
    · cases hr
    · cases hr
      exact ⟨some answer, .speechless hadd hblank shown interpreted failed silent⟩

/-- Every submission of a session whose keyword is a text ends in one of the ways of `Submission`. -/
theorem submit_submission {given : Option Text} {keyword : Wide} {r : Except Failure Unit}
    (hkeyword : s.session.keyword = .ofWide keyword) (run : submit c given s = some (r, s')) :
    ∃ answer, Submission c keyword (s.submittedLine given) s answer r s' := by
  rcases hadd : History.add (s.submittedLine given) s.session.history with ⟨q, h⟩
  cases q with
  | error f =>
    rw [submit, Act.get_bind, ← submittedLine, Act.bind_of_error (onHistory_eq hadd)] at run
    cases run
    exact ⟨none, .untrimmed hadd⟩
  | ok u =>
    rw [submit_of_added hadd] at run
    cases hblank : (Text.trim (s.submittedLine given)).isEmpty with
    | true =>
      rw [hblank, if_pos rfl] at run
      obtain ⟨rfl, same⟩ := showPrompt_told hc run
      exact ⟨none, .blank hadd hblank same⟩
    | false =>
      rw [hblank, if_neg Bool.false_ne_true] at run
      exact submission_of_evaluateLine hc hkeyword hadd hblank run

/-- The line is in the history whatever came of it. -/
theorem Submission.history {keyword : Wide} {line : Text} {answer : Option (Except Failure Evaluation)}
    {r : Except Failure Unit} (h : Submission c keyword line s answer r s') :
    s'.session.history = (History.add line s.session.history).2 ∧
      s'.session.keyword = s.session.keyword := by
  cases h with
  | untrimmed add => rw [add]; exact ⟨rfl, rfl⟩
  | blank add _ same => rw [add, same.session]; exact ⟨rfl, rfl⟩
  | answered add _ shown interpreted _ same =>
    have quiet := ((hc.interpret _ _).post interpreted).session
    rw [add, same.session, session_toldAll, quiet]
    simp only [marked, shown.session]
    exact ⟨rfl, rfl⟩
  | speechless add _ shown interpreted =>
    have quiet := ((hc.interpret _ _).post interpreted).session
    rw [add, quiet]
    simp only [marked, shown.session]
    exact ⟨rfl, rfl⟩

end

/-- A submission that returns leaves the prompt at the end of the transcript. -/
theorem Submission.prompted {keyword : Wide} {line : Text} {answer : Option (Except Failure Evaluation)}
    (h : Submission c keyword line s answer (.ok ()) s') :
    s'.session.transcript.getLast? = some prompt := by
  cases h with
  | blank _ _ same => rw [same.session, told, List.getLast?_concat]
  | answered _ _ _ _ _ same =>
    rw [same.session, session_toldAll, ← List.append_assoc, List.getLast?_concat]

/-! ## Endings -/

section

variable (shows : ∀ {f}, c.output = some f → ∀ chunk, Act.Ends (f chunk))
include shows

theorem appendQuietly_ends (chunk : Text) : Act.Ends (appendQuietly c chunk) := by
  have append : Act.Ends (appendTranscript c chunk) := by
    refine (Act.Ends.modify _).bind fun _ => ?_
    split
    · exact .pure _
    · rename_i f hf
      exact (Act.Ends.modify _).bind fun _ => shows hf chunk
  refine append.attempt.bind fun q => ?_
  split
  · exact .pure _
  · exact .ite (report_ends _) (.throw _)

theorem showPrompt_ends : Act.Ends (showPrompt c) :=
  (Act.Ends.modify _).bind fun _ => appendQuietly_ends shows prompt

theorem showEvaluation_ends (n : Nat) (r : Except Failure (Option Text)) :
    Act.Ends (showEvaluation c n r) := by
  unfold showEvaluation
  split
  · exact .pure _
  · exact appendQuietly_ends shows _
  · exact .ite ((Act.Ends.ofExcept _).bind fun _ => appendQuietly_ends shows _) (.throw _)

/-- A submission ends when the interpreters and the view do. -/
theorem submit_ends (interprets : ∀ n source, Act.Ends (c.interpret n source))
    (given : Option Text) : Act.Ends (submit c given) := by
  have add : ∀ line, Act.Ends (onHistory (History.add line) : Act (Studio S) Unit) :=
    fun line s => ⟨_, _, rfl⟩
  have evaluates : ∀ n source, Act.Ends (evaluate c n source) := fun n source =>
    (Act.Ends.modify _).bind fun _ => (interprets n source).bind fun _ => .ofExcept _
  have line : ∀ n line, Act.Ends (evaluateLine c n line) := fun n line =>
    (appendQuietly_ends shows line).bind fun _ => .bind .get fun _ => (Act.Ends.ofExcept _).bind
      fun _ => (evaluates n _).attempt.bind fun r => showEvaluation_ends shows n r
  refine .bind .get fun s => (add _).bind fun _ => (Act.Ends.modify _).bind fun _ =>
    .bind .get fun s' => .ite (showPrompt_ends shows) ?_
  exact (line _ _).bind fun _ => showPrompt_ends shows

end

end Studio

/-! ## Silent scripts -/

namespace Script

variable {S α : Type} {script : Script S α} {c : Collaborators S} {s s' : Studio S}
  {r : Except Failure α}

/-- Whatever a script comes to has a property. -/
def Yields (p : Except Failure α → Prop) : Script S α → Prop
  | done a => p (.ok a)
  | fail f => p (.error f)
  | look next => ∀ s, (next s).Yields p
  | change _ next => next.Yields p
  | note _ next => next.Yields p
  | report _ next => next.Yields p
  | call _ next => ∀ r, (next r).Yields p

theorem Yields.run {p : Except Failure α → Prop} (h : script.Yields p)
    (run : script.run c s = some (r, s')) : p r := by
  induction script generalizing s with
  | done a => cases run; exact h
  | fail f => cases run; exact h
  | look next ih => exact ih s (h s) run
  | change f next ih => exact ih h (s := { s with stage := f s.stage }) run
  | note row next ih => exact ih h (s := s.marked (.noted row)) run
  | report row next ih => exact ih h (s := s.logged row) run
  | call command next ih =>
    obtain ⟨q, s₁, -, rest⟩ := Act.attempt_bind_eq_some.1 run
    exact ih q (h q) (s := s₁.marked (.returned s₁.scene)) rest

theorem plays_sameSession : Plays (S := S) Studio.SameSession where
  changed _ := .modify fun _ => ⟨rfl, rfl⟩
  noted _ := .modify fun s => Studio.sameSession_marked s rfl
  reported row := .modify fun s => Studio.sameSession_logged s row
  returned := .modify fun s => Studio.sameSession_marked s rfl

/-- A script without commands leaves the session alone. -/
theorem sameSession_of_silent (silent : script.Gives fun _ => False) :
    Act.Along Studio.SameSession (script.run c) :=
  along_of_gives plays_sameSession (fun h => h.elim) silent

end Script

/-- The interpreters and the view of a cast give no commands and do not end the program. -/
structure Cast.Discreet {S : Type} (k : Cast S) : Prop where
  create : ∀ n, (k.create n).Gives fun _ => False
  interpret : ∀ n source, (k.interpret n source).Gives fun _ => False
  fails : ∀ n source, (k.interpret n source).Yields fun r =>
    ∀ f, Studio.evaluated r = .error f → f.isOrdinary = true
  output : ∀ {shows}, k.output = some shows → ∀ chunk, (shows chunk).Gives fun _ => False
  unshown : ∀ {shows}, k.output = some shows → ∀ chunk, (shows chunk).Yields fun r =>
    ∀ f, r = .error f → f.isOrdinary = true

theorem Cast.discreet_idle : Cast.idle.Discreet where
  create _ := trivial
  interpret _ _ := trivial
  fails _ _ := nofun
  output h := nomatch h
  unshown h := nomatch h

theorem Cast.Discreet.collaborators {S : Type} {k : Cast S} (hk : k.Discreet)
    (patience depth : Nat) :
    Studio.Discreet (k.collaborators patience depth) where
  create n := Cast.create_along fun _ => Script.sameSession_of_silent (hk.create n)
  interpret n source := by
    cases depth with
    | zero => exact .forever
    | succ depth => exact Script.sameSession_of_silent (hk.interpret n source)
  fails {n source _ _ _ _} run := by
    cases depth with
    | zero => cases run
    | succ depth => exact (hk.fails n source).run run _
  output h chunk :=
    Cast.output_along (fun h _ => Script.sameSession_of_silent (hk.output h chunk)) h
  unshown {shows chunk _ f _} h run := by
    cases depth with
    | zero =>
      obtain ⟨_, -, rfl⟩ := Option.map_eq_some_iff.1 h
      cases run
    | succ depth =>
      obtain ⟨_, hshows, rfl⟩ := Option.map_eq_some_iff.1 h
      exact (hk.unshown hshows chunk).run run f rfl

end JavaStudio
