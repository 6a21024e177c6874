import JavaStudio.Proofs.Studio.Submit
import Mathlib.Data.List.DropRight

/-!
# The dialogue of a session

What happens to a session is a chain of turns (`Speech`): a line is typed or recalled, a line is
submitted, the session is restarted. `transcript_dialogue` says for every such chain that the transcript
tells the submissions since the last restart, in their order and each with its answer and one prompt,
and that the interpreters were asked once for each submitted line that is not blank. It says as well
that whatever is done to the session goes on with the chain. Listeners and views may speak themselves
while they are told (`Polite`); their turns come where they take effect. A view that shows the
transcript does not (`submission_interjected`).
-/

namespace JavaStudio

open Studio

namespace Studio

variable {S : Type} {c : Collaborators S} {s s' s₁ : Studio S}

/-! ## Turns -/

/-- What happens to a session. A submitted line has the interpreter of its time and the answer, which
a blank line lacks. -/
inductive Turn
  | typed (line : Text)
  | recalled (line : Text)
  | submitted (interpreter : Nat) (line : Text) (answer : Option (Except Failure Evaluation))
  | restarted (interpreter : Nat)

namespace Turn

def restarts : Turn → Bool
  | restarted _ => true
  | _ => false

/-- What the transcript tells of a turn. -/
def chunks (signature : Nat → Text) : Turn → List Text
  | submitted _ _ none => [prompt]
  | submitted n line (some answer) => line :: answerChunks (signature n) answer ++ [prompt]
  | _ => []

/-- What is asked of interpreters in a turn. -/
def asked (keyword : Wide) : Turn → List (Nat × Text)
  | submitted n line (some _) => [(n, sourceOf keyword line)]
  | _ => []

end Turn

/-- The turns after the last restart. -/
def sinceRestart (turns : List Turn) : List Turn := turns.rtakeWhile fun turn => !turn.restarts

/-- What a turn does. Submissions are made with collaborators of the crew. -/
inductive Speech (crew : Collaborators S → Prop) : Turn → Studio S → Studio S → Prop
  | typed {s : Studio S} {line : Text} :
      Speech crew (.typed line) s { s with session := { s.session with pending := line } }
  | recalled {s : Studio S} {way : Way} {line : Text} {h : History} :
      way.step s.session.history = (.ok line, h) →
      Speech crew (.recalled line) s
        { s with session := { s.session with history := h, pending := line } }
  | submitted {s s' : Studio S} {c : Collaborators S} {keyword : Wide} {line : Text}
      {answer : Option (Except Failure Evaluation)} : crew c → s.session.keyword = .ofWide keyword →
      Submission c keyword line s answer (.ok ()) s' →
      Speech crew (.submitted s.session.interpreter line answer) s s'
  | restarted {s s' : Studio S} {n : Nat} :
      SameSession (told { s with session := restarted n s.session } prompt) s' →
      Speech crew (.restarted n) s s'

/-- A chain of turns. -/
abbrev Dialogue (crew : Collaborators S → Prop) : Studio S → List Turn → Studio S → Prop :=
  Labelled SameSession (Speech crew)

/-- The session launches with a keyword and keeps an integer number of lines. -/
structure Ready (s : Studio S) : Prop where
  launcher : ∃ keyword, s.session.keyword = .ofWide keyword
  limit : ∃ limit, s.session.history.limit = .int limit

/-- What is done to a session that is ready is said in turns and leaves it ready. -/
def Talks (crew : Collaborators S → Prop) (s s' : Studio S) : Prop :=
  Ready s → Ready s' ∧ Linked SameSession (Speech crew) s s'

/-- Collaborators whose interpreters do not touch the session and fail in words only. Their listeners
and views take turns. -/
structure Polite (crew : Collaborators S → Prop) (signature : Nat → Text) (c : Collaborators S) : Prop
    extends Discreet c where
  signature : c.signature = signature
  worded : ∀ {n source s r s' f}, c.interpret n source s = some (r, s') → evaluated r = .error f →
    Worded f
  addClasspath : ∀ n p, Act.Along SameSession (c.addClasspath n p)
  recallFailed : ∀ view, Act.Along (Talks crew) (c.recallFailed view)
  handler : ∀ {n e h}, c.handler n e = some h → Act.Along (Talks crew) h

section

variable {crew : Collaborators S → Prop}

instance : Std.Refl (Talks crew) := ⟨fun s ready => ⟨ready, refl s⟩⟩

instance : IsTrans (Studio S) (Talks crew) where
  trans _ _ _ h h' ready :=
    have ⟨ready', linked⟩ := h ready
    have ⟨ready'', linked'⟩ := h' ready'
    ⟨ready'', IsTrans.trans _ _ _ linked linked'⟩

theorem Ready.same (h : Ready s) (same : SameSession s s') : Ready s' where
  launcher := by rw [same.session]; exact h.launcher
  limit := by rw [same.session]; exact h.limit

theorem Talks.of_same (same : SameSession s s') : Talks crew s s' :=
  fun ready => ⟨ready.same same, .of_aside same⟩

end

/-! ## Going through the history -/

theorem way_step_limit {way : Way} {line : Text} {h h' : History}
    (hstep : way.step h = (.ok line, h')) : h'.limit = h.limit := by
  cases way <;> simp only [Way.step, History.previous, History.next] at hstep <;>
    split at hstep <;> cases hstep <;> rfl

/-! ## What a submission leaves -/

section

variable {keyword : Wide} {line : Text} {answer : Option (Except Failure Evaluation)}
  (hc : Discreet c) (h : Submission c keyword line s answer (.ok ()) s')
include hc h

theorem Submission.session : ∃ history, history.limit = s.session.history.limit ∧
    s'.session = { s.session with
      history := history
      pending := []
      transcript := s.session.transcript ++
        Turn.chunks c.signature (.submitted s.session.interpreter line answer) } := by
  have limit := history_add_limit line s.session.history
  cases h with
  | blank add _ same =>
    rw [add] at limit
    exact ⟨_, limit, same.session⟩
  | answered add _ shown interpreted _ same =>
    rw [add] at limit
    refine ⟨_, limit, ?_⟩
    have quiet := ((hc.interpret _ _).post interpreted).session
    rw [same.session, session_toldAll, quiet]
    simp [marked, shown.session, told, taken, Turn.chunks]

end

/-- The interpreter of the session is asked once, unless the line is blank. -/
theorem Submission.interpretations {keyword : Wide} {line : Text} {answer : Option (Except Failure Evaluation)}
    {r : Except Failure Unit} (hc : Discreet c) (h : Submission c keyword line s answer r s') :
    s'.interpretations = s.interpretations ++
      Turn.asked keyword (.submitted s.session.interpreter line answer) := by
  cases h with
  | untrimmed => exact (List.append_nil _).symm
  | blank _ _ same => exact same.interpretations.trans (List.append_nil _).symm
  | answered _ _ shown interpreted _ same =>
    have quiet := ((hc.interpret _ _).post interpreted).interpretations
    rw [same.interpretations, interpretations_toldAll, quiet, interpretations_marked,
      shown.interpretations]
    rfl
  | speechless _ _ shown interpreted =>
    have quiet := ((hc.interpret _ _).post interpreted).interpretations
    rw [quiet, interpretations_marked, shown.interpretations]
    rfl

/-! ## What a dialogue keeps -/

/-- What is known of a session that began with a keyword, an integer limit and some questions asked. -/
structure Fluent (signature : Nat → Text) (keyword : Wide) (before : List (Nat × Text))
    (turns : List Turn) (s : Studio S) : Prop where
  launcher : s.session.keyword = .ofWide keyword
  limit : ∃ limit, s.session.history.limit = .int limit
  transcript : s.session.transcript =
    [banner, prompt] ++ (sinceRestart turns).flatMap (Turn.chunks signature)
  interpretations : s.interpretations = before ++ turns.flatMap (Turn.asked keyword)

theorem sinceRestart_concat {turns : List Turn} {turn : Turn} (h : turn.restarts = false) :
    sinceRestart (turns ++ [turn]) = sinceRestart turns ++ [turn] :=
  List.rtakeWhile_concat_pos _ _ _ (by simp [h])

theorem sinceRestart_concat_restart {turns : List Turn} {turn : Turn} (h : turn.restarts = true) :
    sinceRestart (turns ++ [turn]) = [] :=
  List.rtakeWhile_concat_neg _ _ _ (by simp [h])

namespace Fluent

variable {signature : Nat → Text} {keyword : Wide} {before : List (Nat × Text)}
  {turns : List Turn} {crew : Collaborators S → Prop}

theorem ready (h : Fluent signature keyword before turns s) : Ready s := ⟨⟨_, h.launcher⟩, h.limit⟩

theorem aside (h : Fluent signature keyword before turns s) (same : SameSession s s') :
    Fluent signature keyword before turns s' where
  launcher := by rw [same.session, h.launcher]
  limit := by rw [same.session]; exact h.limit
  transcript := by rw [same.session, h.transcript]
  interpretations := by rw [same.interpretations, h.interpretations]

/-- A turn that leaves the transcript and the interpreters alone. -/
theorem silent {turn : Turn} (h : Fluent signature keyword before turns s)
    (going : turn.restarts = false) (chunks : turn.chunks signature = [])
    (asked : turn.asked keyword = []) (hk : s'.session.keyword = s.session.keyword)
    (hl : s'.session.history.limit = s.session.history.limit)
    (ht : s'.session.transcript = s.session.transcript)
    (hi : s'.interpretations = s.interpretations) :
    Fluent signature keyword before (turns ++ [turn]) s' where
  launcher := by rw [hk, h.launcher]
  limit := by rw [hl]; exact h.limit
  transcript := by
    rw [ht, h.transcript, sinceRestart_concat going, List.flatMap_append, List.flatMap_singleton,
      chunks, List.append_nil]
  interpretations := by
    rw [hi, h.interpretations, List.flatMap_append, List.flatMap_singleton, asked, List.append_nil]

theorem step (polite : ∀ c, crew c → Polite crew signature c) {turn : Turn}
    (h : Fluent signature keyword before turns s) (turned : Speech crew turn s s') :
    Fluent signature keyword before (turns ++ [turn]) s' := by
  cases turned with
  | typed => exact h.silent rfl rfl rfl rfl rfl rfl rfl
  | recalled stepped => exact h.silent rfl rfl rfl rfl (way_step_limit stepped) rfl rfl
  | @submitted _ _ c word line answer member hword came =>
    have hc := polite c member
    obtain rfl := Json.ofWide_injective (hword.symm.trans h.launcher)
    obtain ⟨history, limit, session⟩ := came.session hc.toDiscreet
    refine ⟨by rw [session]; exact h.launcher, ?_, ?_, ?_⟩
    · rw [session]
      exact limit ▸ h.limit
    · have chunks : s'.session.transcript = s.session.transcript ++
          Turn.chunks c.signature (.submitted s.session.interpreter line answer) := by rw [session]
      rw [chunks, h.transcript, hc.signature, sinceRestart_concat rfl, List.flatMap_append,
        List.flatMap_singleton, List.append_assoc]
    · rw [came.interpretations hc.toDiscreet, h.interpretations, List.flatMap_append,
        List.flatMap_singleton, List.append_assoc]
  | restarted same =>
    refine ⟨by rw [same.session]; exact h.launcher, ?_, ?_, ?_⟩
    · rw [same.session]
      exact h.limit
    · rw [same.session, sinceRestart_concat_restart rfl]
      rfl
    · rw [same.interpretations]
      exact h.interpretations.trans (by simp [Turn.asked])

theorem run (polite : ∀ c, crew c → Polite crew signature c)
    (h : Fluent signature keyword before [] s) (said : Dialogue crew s turns s') :
    Fluent signature keyword before turns s' := by
  induction said with
  | start => exact h
  | aside _ same ih => exact ih.aside same
  | step _ turned ih => exact ih.step polite turned

end Fluent

/-! ## What is said to a session -/

section

variable {signature : Nat → Text} {crew : Collaborators S → Prop} (hc : Polite crew signature c)
include hc

theorem Polite.addEntries (n : Nat) (entries : List ClasspathEntry) :
    Act.Along SameSession (addEntries c n entries) := by
  induction entries with
  | nil => exact .pure _
  | cons entry entries ih =>
    have record : ∀ p, Act.Along SameSession (record (.classpath n p) : Act (Studio S) Unit) :=
      fun p => .modify fun s => sameSession_marked s rfl
    exact (Act.Along.ofExcept _).bind fun p => .bind .get fun s => (record _).bind fun _ =>
      (hc.addClasspath n _).bind fun _ => ih

/-- The listeners may take turns while they are told. -/
theorem Polite.announce (e : Event) : Act.Along (Talks crew) (announce c e) := by
  have recent : Act.Along (Talks crew) (keepRecent e : Act (Studio S) Bool) := by
    refine .of_step fun s a s' run => .inr (.of_same ?_)
    obtain ⟨recent, rfl⟩ := keepRecent_eq_some run
    exact ⟨rfl, rfl⟩
  have within : Within (Talks crew) c e :=
    .of_outside (fun row => .modify fun s => .of_same (sameSession_logged s row)) recent hc.handler
  have mark : Act.Along (Talks crew) (mark (.announced e) : Act (Studio S) Unit) :=
    .modify fun s => .of_same (sameSession_marked s rfl)
  exact .bind .get fun s => mark.bind fun _ => within.deliverAll s.bus

/-- A restart that succeeds is a turn; the listeners may take others while they are told of it. -/
theorem Polite.resetSession {entries : List ClasspathEntry} {q : Except Failure Unit}
    (ready : Ready s) (run : resetSession c entries s = some (q, s')) :
    Ready s' ∧ ∃ turns, Dialogue crew s turns s' ∧
      (q = .ok () → ∃ more, turns = .restarted (s.interpreters + 1) :: more) := by
  rcases Act.bind_eq_some.1 run with ⟨n, s₁, created, run⟩ | ⟨f, created, rfl⟩
  · obtain ⟨fresh, number⟩ := createInterpreter_created hc.toDiscreet created
    obtain rfl := number n rfl
    rcases Act.bind_eq_some.1 run with ⟨_, s₂, added, run⟩ | ⟨f, added, rfl⟩
    · have same : SameSession s s₂ := fresh.trans ((hc.addEntries _ entries).post added)
      replace run : (showPrompt c >>= fun _ => Studio.announce c ⟨.interactionsReset, none⟩)
          { s₂ with session := restarted (s.interpreters + 1) s₂.session } = some (q, s') := run
      rcases Act.bind_eq_some.1 run with ⟨_, s₃, prompted, run⟩ | ⟨f, prompted, -⟩
      · obtain ⟨-, shown⟩ := showPrompt_told hc.toDiscreet prompted
        have again : Ready s₃ := by
          refine ⟨?_, ?_⟩ <;> rw [shown.session]
          · exact (ready.same same).launcher
          · exact (ready.same same).limit
        obtain ⟨ready', more, told⟩ := (hc.announce _).post run again
        exact ⟨ready', _, ((Labelled.start.aside same).step (.restarted shown)).trans told,
          fun _ => ⟨more, rfl⟩⟩
      · cases (showPrompt_told hc.toDiscreet prompted).1
    · have same : SameSession s s' := fresh.trans ((hc.addEntries _ entries).post added)
      exact ⟨ready.same same, [], Labelled.start.aside same, nofun⟩
  · have same := (createInterpreter_created hc.toDiscreet created).1
    exact ⟨ready.same same, [], Labelled.start.aside same, nofun⟩

/-- An entry that can be recalled is a turn; without one it is for the view. -/
theorem Polite.recallEntry {way : Way} {view : Nat} {q : Except Failure Bool} (ready : Ready s)
    (run : recallEntry c way view s = some (q, s')) :
    Ready s' ∧ ∃ turns, Dialogue crew s turns s' ∧ (way.possible s.session.history = true →
      q = .ok true ∧ ∃ line, turns = [.recalled line]) := by
  rw [Studio.recallEntry, Act.get_bind] at run
  cases possible : way.possible s.session.history with
  | true =>
    obtain ⟨line, h, stepped⟩ := (possible_iff way _).1 possible
    rw [if_pos possible, Act.bind_of_ok (onHistory_eq stepped)] at run
    cases run
    have limit := way_step_limit stepped
    exact ⟨⟨ready.launcher, limit ▸ ready.limit⟩, _, Labelled.start.step (.recalled stepped),
      fun _ => ⟨rfl, line, rfl⟩⟩
  | false =>
    rw [possible, if_neg Bool.false_ne_true] at run
    have told : Talks crew s s' := by
      rcases Act.bind_eq_some.1 run with ⟨_, s₁, told, rest⟩ | ⟨f, told, -⟩
      · cases rest
        exact (hc.recallFailed view).post told
      · exact (hc.recallFailed view).post told
    obtain ⟨ready', turns, said⟩ := told ready
    exact ⟨ready', turns, said, nofun⟩

/-- A submission to a session that is ready is one turn, after which no line is pending. -/
theorem Polite.submit (member : crew c) {given : Option Text} {q : Except Failure Unit}
    (ready : Ready s) (run : submit c given s = some (q, s')) :
    Ready s' ∧ q = .ok () ∧ s'.session.pending = [] ∧ ∃ answer,
      (answer = none ↔ (Text.trim (s.submittedLine given)).isEmpty = true) ∧
        Speech crew (.submitted s.session.interpreter (s.submittedLine given) answer) s s' := by
  obtain ⟨keyword, hkeyword⟩ := ready.launcher
  obtain ⟨limit, hlimit⟩ := ready.limit
  -- what is the same whether the line is blank or not
  have turn : ∀ {answer}, Submission c keyword (s.submittedLine given) s answer (.ok ()) s' →
      Ready s' ∧ s'.session.pending = [] ∧
        Speech crew (.submitted s.session.interpreter (s.submittedLine given) answer) s s' := by
    intro answer came
    obtain ⟨history, kept, session⟩ := came.session hc.toDiscreet
    refine ⟨⟨?_, ?_⟩, by rw [session], .submitted member hkeyword came⟩ <;> rw [session]
    · exact ready.launcher
    · exact ⟨limit, kept.trans hlimit⟩
  obtain ⟨answer, came⟩ := submit_submission hc.toDiscreet hkeyword run
  cases came with
  | untrimmed add =>
    have trimmed := history_add_int (s.submittedLine given) hlimit
    rw [add] at trimmed
    cases trimmed
  | blank add hblank same =>
    obtain ⟨ready', pending, speech⟩ := turn (.blank add hblank same)
    exact ⟨ready', rfl, pending, none, by simp [hblank], speech⟩
  | answered add hblank shown interpreted worded same =>
    obtain ⟨ready', pending, speech⟩ := turn (.answered add hblank shown interpreted worded same)
    exact ⟨ready', rfl, pending, _, by simp [hblank], speech⟩
  | speechless _ _ _ interpreted failed silent =>
    obtain ⟨words, spoken⟩ := hc.worded interpreted failed
    cases silent.symm.trans spoken

theorem Polite.begun {keyword : Wide} {limit : Int}
    (run : beginSession c (.ofWide keyword) (.num (.int limit)) s = some (.ok (), s')) :
    Fluent signature keyword s'.interpretations [] s' := by
  obtain ⟨n, session⟩ := beginSession_begun hc.toDiscreet run
  refine ⟨by rw [session]; rfl, ⟨max 1 limit, ?_⟩, by rw [session]; rfl, by simp⟩
  rw [session]
  exact Number.atLeast_int 1 limit

theorem Polite.talks (member : crew c) :
    (∀ line, Act.Along (Talks crew) (setPending line)) ∧
      (∀ given, Act.Along (Talks crew) (Studio.submit c given)) ∧
      (∀ entries, Act.Along (Talks crew) (Studio.resetSession c entries)) ∧
      ∀ way view, Act.Along (Talks crew) (Studio.recallEntry c way view) := by
  refine ⟨fun line => ?_, fun given => ?_, fun entries => ?_, fun way view => ?_⟩
  · exact .modify fun s ready => ⟨⟨ready.launcher, ready.limit⟩, .of_step .typed⟩
  · intro s q s' run
    refine .single fun ready => ?_
    obtain ⟨ready', -, -, answer, -, speech⟩ := hc.submit member ready run
    exact ⟨ready', .of_step speech⟩
  · intro s q s' run
    refine .single fun ready => ?_
    obtain ⟨ready', turns, said, -⟩ := hc.resetSession ready run
    exact ⟨ready', turns, said⟩
  · intro s q s' run
    refine .single fun ready => ?_
    obtain ⟨ready', turns, said, -⟩ := hc.recallEntry ready run
    exact ⟨ready', turns, said⟩

end

/-! ## Casts -/

end Studio

/-- A command that is a turn of the session. -/
def Command.speaks {δ κ : Type} : Command δ κ → Bool
  | .studio (.setPending _) | .studio (.submit _) | .studio (.resetSession _)
  | .studio (.recallEntry _ _) => true
  | _ => false

/-- Interpreters give no commands and fail in words only; listeners and views take turns. -/
structure Cast.Polite {S : Type} (k : Cast S) : Prop extends k.Discreet where
  worded : ∀ n source, (k.interpret n source).Yields fun r =>
    ∀ f, evaluated r = .error f → Worded f
  addClasspath : ∀ n p, (k.addClasspath n p).Gives fun _ => False
  recallFailed : ∀ view, (k.recallFailed view).Gives fun command => command.speaks = true
  handler : ∀ {n e script}, k.handler n e = some script →
    script.Gives fun command => command.speaks = true

/-- The collaborators of a cast at all depths. -/
def Cast.crew {S : Type} (k : Cast S) (patience : Nat) (c : Collaborators S) : Prop :=
  ∃ depth, c = k.collaborators patience depth

theorem Script.plays_talks {S : Type} {crew : Collaborators S → Prop} :
    Script.Plays (Talks crew) where
  changed f := (Script.plays_sameSession.changed f).mono .of_same
  noted row := (Script.plays_sameSession.noted row).mono .of_same
  reported row := (Script.plays_sameSession.reported row).mono .of_same
  returned := Script.plays_sameSession.returned.mono .of_same

theorem Cast.Polite.collaborators {S : Type} {k : Cast S} (hk : k.Polite) (patience depth : Nat) :
    Studio.Polite (k.crew patience) k.signature (k.collaborators patience depth) := by
  induction depth with
  | zero =>
    refine { hk.toDiscreet.collaborators patience 0 with
      signature := rfl
      worded := nofun
      addClasspath := fun _ _ => .forever
      recallFailed := fun _ => .forever
      handler := fun {n e h} hh => ?_ }
    obtain ⟨_, -, rfl⟩ := Option.map_eq_some_iff.1 hh
    exact .forever
  | succ depth ih =>
    have calls : ∀ {command : Command DocId CompilerId}, command.speaks = true →
        Act.Along (Talks (k.crew patience)) (command.run (k.collaborators patience depth)) := by
      intro command speaks
      obtain ⟨typing, submission, restart, recalling⟩ := ih.talks ⟨depth, rfl⟩
      unfold Command.speaks at speaks
      split at speaks
      · exact quietly_along (typing _)
      · exact quietly_along (submission _)
      · exact quietly_along (restart _)
      · exact (recalling _ _).bind fun _ => .pure _
      · cases speaks
    refine { hk.toDiscreet.collaborators patience (depth + 1) with
      signature := rfl
      worded := fun {n source _ _ _ f} run => (hk.worded n source).run run f
      addClasspath := fun n p => Script.sameSession_of_silent (hk.addClasspath n p)
      recallFailed := fun view => Script.along_of_gives Script.plays_talks calls (hk.recallFailed view)
      handler := fun {n e h} hh => ?_ }
    obtain ⟨script, hscript, rfl⟩ := Option.map_eq_some_iff.1 hh
    exact Script.along_of_gives Script.plays_talks calls (hk.handler hscript)

namespace Studio

variable {S : Type} {s s' : Studio S}

/-! ## The transcript -/

/-- What may be done to a session goes on with the dialogue. -/
structure Goes (crew : Collaborators S → Prop) (c : Collaborators S) (s : Studio S) : Prop where
  typing : ∀ line, ∃ s', setPending line s = some (.ok (), s') ∧ Speech crew (.typed line) s s'
  submission : ∀ {given q s'}, submit c given s = some (q, s') →
    q = .ok () ∧ s'.session.pending = [] ∧ ∃ answer,
      (answer = none ↔ (Text.trim (s.submittedLine given)).isEmpty = true) ∧
        Speech crew (.submitted s.session.interpreter (s.submittedLine given) answer) s s'
  returns : (∀ n source, Act.Ends (c.interpret n source)) →
    (∀ {f}, c.output = some f → ∀ chunk, Act.Ends (f chunk)) →
    ∀ given, ∃ s', submit c given s = some (.ok (), s')
  recalling : ∀ {way view q s'}, recallEntry c way view s = some (q, s') →
    ∃ turns, Dialogue crew s turns s' ∧ (way.possible s.session.history = true →
      q = .ok true ∧ ∃ line, turns = [.recalled line])
  restart : ∀ {entries s'}, resetSession c entries s = some (.ok (), s') →
    ∃ more, Dialogue crew s (.restarted (s.interpreters + 1) :: more) s'

/-- In a session that began with an integer limit, whatever is said to it by and by, the transcript is
the banner and a prompt with what the turns since the last restart have to tell, and interpreters were
asked in each turn what the turn says. Whatever is done next goes on with the dialogue. -/
theorem transcript_dialogue {crew : Collaborators S → Prop} {signature : Nat → Text}
    (polite : ∀ c, crew c → Polite crew signature c) {c₀ : Collaborators S} (member₀ : crew c₀)
    {keyword : Wide} {limit : Int} {s₀ : Studio S}
    (begun : beginSession c₀ (.ofWide keyword) (.num (.int limit)) s₀ = some (.ok (), s))
    {turns : List Turn} (said : Dialogue crew s turns s') :
    s'.session.transcript =
        [banner, prompt] ++ (sinceRestart turns).flatMap (Turn.chunks signature) ∧
      s'.interpretations = s.interpretations ++ turns.flatMap (Turn.asked keyword) ∧
      ∀ c, crew c → Goes crew c s' := by
  have fluent := ((polite c₀ member₀).begun begun).run polite said
  have ready := fluent.ready
  refine ⟨fluent.transcript, fluent.interpretations, fun c member => ?_⟩
  have hc := polite c member
  exact {
    typing := fun line => ⟨_, rfl, .typed⟩
    submission := fun run => (hc.submit member ready run).2
    returns := fun interprets shows given => by
      obtain ⟨q, s'', run⟩ := submit_ends shows interprets given s'
      obtain ⟨-, rfl, -⟩ := hc.submit member ready run
      exact ⟨s'', run⟩
    recalling := fun run => (hc.recallEntry ready run).2
    restart := fun run => by
      obtain ⟨-, turns, said, restarted⟩ := hc.resetSession ready run
      obtain ⟨more, rfl⟩ := restarted rfl
      exact ⟨more, said⟩ }

end Studio

/-- A cast whose interpreters give back what they are asked, with a view that always fails and listeners
that submit a line when the session was restarted. -/
def Cast.echoing : Cast Unit :=
  { Cast.hearing .interactionsReset (.call (.studio (.submit (some ['5']))) fun _ => .done true) with
    interpret := fun _ source => .done (.value source)
    output := some fun _ => .fail (.runtime "") }

theorem Cast.polite_echoing : Cast.echoing.Polite where
  interpret _ _ := trivial
  fails _ _ := nofun
  output h _ := by cases h; exact trivial
  unshown h _ := by
    cases h
    rintro _ ⟨⟩
    rfl
  worded _ _ := nofun
  create _ := trivial
  addClasspath _ _ := trivial
  recallFailed _ := trivial
  handler {n e script} h := by
    simp only [echoing, hearing, Option.ite_none_right_eq_some, Option.some.injEq] at h
    rw [← h.2]
    exact ⟨rfl, fun _ => trivial⟩

namespace Studio

theorem transcript_dialogue_echoing : ∃ s s₁ s' turns,
    beginSession (Cast.echoing.collaborators 1 2) (.str "java") (.num (.int 1))
        { atRoot with bus := [.outside 0] } = some (.ok (), s) ∧
      submit (Cast.echoing.collaborators 1 2) (some ['4']) s = some (.ok (), s₁) ∧
      resetSession (Cast.echoing.collaborators 1 2) [] s₁ = some (.ok (), s') ∧
      Dialogue (Cast.echoing.crew 1) s turns s' ∧
      s'.session.transcript =
        [banner, prompt] ++ (sinceRestart turns).flatMap (Turn.chunks fun _ => []) ∧
      s'.session.transcript = [banner, prompt, ['5'], ['\n', '5'], prompt] := by
  have polite : ∀ c, Cast.echoing.crew 1 c → Polite (Cast.echoing.crew 1) (fun _ => []) c := by
    rintro _ ⟨depth, rfl⟩
    exact Cast.polite_echoing.collaborators 1 depth
  have member : Cast.echoing.crew 1 (Cast.echoing.collaborators 1 2) := ⟨2, rfl⟩
  have run : ((do
        beginSession (Cast.echoing.collaborators 1 2) (.str "java") (.num (.int 1))
        submit (Cast.echoing.collaborators 1 2) (some ['4'])
        resetSession (Cast.echoing.collaborators 1 2) [] : Act (Studio Unit) Unit)
      { atRoot with bus := [.outside 0] }).map
        (fun ended => (ended.1.toOption, ended.2.session.transcript)) =
      some (some (), [banner, prompt, ['5'], ['\n', '5'], prompt]) := by
    decide +kernel
  obtain ⟨⟨f | u, s'⟩, run, seen⟩ := Option.map_eq_some_iff.1 run <;>
    simp only [Prod.mk.injEq, Except.toOption, reduceCtorEq, false_and, true_and] at seen
  obtain ⟨_, s, begun, run⟩ := Act.bind_eq_ok.1 run
  obtain ⟨_, s₁, submitted, reset⟩ := Act.bind_eq_ok.1 run
  have wide := begun
  rw [Json.str_eq_ofWide] at wide
  obtain ⟨-, -, goes⟩ := transcript_dialogue polite member wide .start
  obtain ⟨-, -, answer, -, speech⟩ := (goes _ member).submission submitted
  have said : Dialogue (Cast.echoing.crew 1) s _ s₁ := Labelled.start.step speech
  obtain ⟨-, -, goes⟩ := transcript_dialogue polite member wide said
  obtain ⟨more, again⟩ := (goes _ member).restart reset
  obtain ⟨transcript, -, -⟩ := transcript_dialogue polite member wide (said.trans again)
  exact ⟨s, s₁, s', _, begun, submitted, reset, said.trans again, transcript, seen⟩

end Studio

/-- A cast whose view of the transcript types a line whenever it shows a prompt. -/
def Cast.interjecting : Cast Unit :=
  { Cast.idle with
    output := some fun chunk =>
      if chunk = prompt then .call (.studio (.setPending ['x'])) fun _ => .done () else .done () }

namespace Studio

/-- Submissions that do not go on with a dialogue. A view of the transcript types a line, so that the
pending line is not empty afterwards; and a session that launches with a number fails after the line is
shown, with no answer and no prompt. -/
theorem submission_interjected :
    ((do
        beginSession (Cast.interjecting.collaborators 1 2) (.str "java") (.num (.int 1))
        submit (Cast.interjecting.collaborators 1 2) (some ['4']) : Act (Studio Unit) Unit)
      atRoot).map (fun (r, s') => (r.toOption, s'.session.pending)) = some (some (), ['x']) ∧
    ((do
        beginSession (Cast.idle.collaborators 1 2) (.int 5) (.num (.int 1))
        submit (Cast.idle.collaborators 1 2) (some ['4']) : Act (Studio Unit) Unit)
      atRoot).map (fun (r, s') => (r, s'.session.transcript)) =
        some (.error (.wrongKind (.notText "int")), [banner, prompt, ['4']]) := by
  refine ⟨?_, ?_⟩ <;> decide +kernel

end Studio

end JavaStudio
