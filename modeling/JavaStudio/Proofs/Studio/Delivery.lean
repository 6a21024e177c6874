import JavaStudio.Proofs.Labelled
import JavaStudio.Proofs.Studio.Faces
import JavaStudio.Proofs.Studio.Scenes

/-!
# Delivery

The listeners may come and go while they are told of an event or asked a question, and tell and ask
others in turn. `Journals` says that the journal accounts for the listeners: every run of a studio, of
whatever depth, adds moments to it that give all changes of the subscriptions in their order. The
commands to subscribe, to unsubscribe and to clear the bus make these changes (`Rearranges`), and there
are none where nobody gives such a command.

* `Calls`: the calls of some listeners, one after another, each with what came of it and with the changes
  of the subscriptions that were made in its course.
* `bus_delivers`: an announcement and a question call the listeners that are subscribed when they begin,
  each once for every subscription. Afterwards those are subscribed that the changes made in the course
  of the calls leave. The announcement does not fail, and the answer is whether all consent.
-/

namespace JavaStudio

open Studio

/-- The changes of the subscriptions among some moments. -/
def rearrangements (ms : List Moment) : List Rearrangement :=
  ms.filterMap fun
    | .rearranged change => some change
    | _ => none

theorem rearrangements_append (ms ms' : List Moment) :
    rearrangements (ms ++ ms') = rearrangements ms ++ rearrangements ms' :=
  List.filterMap_append

theorem rearrangements_unheard {ms : List Moment} (unheard : ms.filter Moment.isHeard = []) :
    rearrangements ms = [] := by
  rw [List.filter_eq_nil_iff] at unheard
  refine List.filterMap_eq_nil_iff.2 fun m hm => ?_
  cases m with
  | rearranged change => exact absurd rfl (unheard _ hm)
  | _ => rfl

/-- The listeners after some changes, one after another. -/
def Rearrangement.applyAll (ls : List Listener) (changes : List Rearrangement) : List Listener :=
  changes.foldl Rearrangement.apply ls

theorem Rearrangement.applyAll_append (ls : List Listener) (changes changes' : List Rearrangement) :
    applyAll ls (changes ++ changes') = applyAll (applyAll ls changes) changes' :=
  List.foldl_append

namespace Studio

variable {S α : Type} {t : Terms S} {c : Collaborators S} {e : Event} {l : Listener}
  {ls : List Listener} {s s' s'' : Studio S}

/-! ## The journal and the listeners -/

/-- Some moments are added to the journal, and the listeners are changed as they say. -/
structure Journaled (ms : List Moment) (s s' : Studio S) : Prop where
  journal : s'.journal = s.journal ++ ms
  bus : s'.bus = Rearrangement.applyAll s.bus (rearrangements ms)

/-- What is added to the journal accounts for the listeners, who are left alone if that is `steady`. -/
def Journals (steady : Prop) (s s' : Studio S) : Prop :=
  ∃ ms, Journaled ms s s' ∧ (steady → rearrangements ms = [])

theorem Journaled.trans {ms ms' : List Moment} (h : Journaled ms s s') (h' : Journaled ms' s' s'') :
    Journaled (ms ++ ms') s s'' where
  journal := by rw [h'.journal, h.journal, List.append_assoc]
  bus := by rw [h'.bus, h.bus, rearrangements_append, Rearrangement.applyAll_append]

variable {steady : Prop}

instance : Std.Refl (Journals (S := S) steady) := ⟨fun _ => ⟨[], ⟨by simp, rfl⟩, fun _ => rfl⟩⟩

instance : IsTrans (Studio S) (Journals steady) where
  trans _ _ _ h h' := by
    obtain ⟨ms, journaled, none⟩ := h
    obtain ⟨ms', journaled', none'⟩ := h'
    exact ⟨_, journaled.trans journaled', fun hs => by
      rw [rearrangements_append, none hs, none' hs, List.append_nil]⟩

theorem Journals.of_same (journal : s'.journal = s.journal) (bus : s'.bus = s.bus) :
    Journals steady s s' :=
  ⟨[], ⟨by rw [journal, List.append_nil], bus⟩, fun _ => rfl⟩

theorem Journals.of_unheard {ms : List Moment} (journal : s'.journal = s.journal ++ ms)
    (bus : s'.bus = s.bus) (unheard : ms.filter Moment.isHeard = []) : Journals steady s s' :=
  ⟨ms, ⟨journal, by rw [bus, rearrangements_unheard unheard]; rfl⟩,
    fun _ => rearrangements_unheard unheard⟩

theorem Journals.moves : Moves t True (Journals (S := S) steady) where
  quiet s s' step _ _ heard := by
    have bus : s'.bus = s.bus := congrArg Prod.fst heard
    have same : s'.journal.filter Moment.isHeard = s.journal.filter Moment.isHeard :=
      congrArg (fun heard => heard.2.2) heard
    rcases step.journal_eq with journal | ⟨m, journal, -⟩
    · exact .of_same journal bus
    · rw [journal, List.filter_append] at same
      exact .of_unheard journal bus (List.append_cancel_left (same.trans (List.append_nil _).symm))

theorem rearrange_journals (restless : ¬ steady) (change : Rearrangement) :
    Act.Along (Journals steady) (rearrange change : Act (Studio S) Unit) := by
  intro s q s' run
  cases run
  exact .single ⟨[.rearranged change], ⟨rfl, rfl⟩, fun hs => absurd hs restless⟩

/-! ## All that a studio does -/

section

variable (acts : Acts (Journals steady) c)
include acts

theorem Acts.within (e : Event) : Within (Journals steady) c e := by
  refine .of_outside (fun row => ?_) (.of_step fun s a s' run => .inr ?_) acts.handler
  · exact .modify fun s => .of_same rfl rfl
  · obtain ⟨recent, rfl⟩ := keepRecent_eq_some run
    exact .of_same rfl rfl

theorem announce_journals (e : Event) : Act.Along (Journals steady) (announce c e) := by
  have marks : Act.Along (Journals steady) (mark (.announced e) : Act (Studio S) Unit) :=
    .modify fun s => ⟨[.announced e s.scene], ⟨rfl, rfl⟩, fun _ => rfl⟩
  exact .bind .get fun s => marks.bind fun _ => (acts.within e).deliverAll s.bus

theorem ask_journals (e : Event) : Act.Along (Journals steady) (ask c e) := by
  have marks : Act.Along (Journals steady) (mark (.asked e) : Act (Studio S) Unit) :=
    .modify fun s => ⟨[.asked e s.scene], ⟨rfl, rfl⟩, fun _ => rfl⟩
  exact .bind .get fun s => marks.bind fun _ => (acts.within e).askAll s.bus

/-- What happens to the desk and the files does not bear on the listeners. -/
theorem announce_journals_from {m : Studio S} {q : Except Failure Unit}
    (told : announce c e m = some (q, s')) (journal : m.journal = s.journal)
    (bus : m.bus = s.bus) : Relation.ReflTransGen (Journals steady) s s' :=
  .head (.of_same journal bus) (announce_journals acts e told)

theorem Acts.tends : Tends (fun _ => True) (Journals steady) c where
  choose := acts.choose
  chooses _ := trivial
  afterRead := acts.afterRead
  asks _ := ask_journals acts _
  requests _ := announce_journals acts _
  created told := announce_journals_from acts told rfl rfl
  opened _ _ _ after _ told := (acts.afterRead after).trans (announce_journals_from acts told rfl rfl)
  saved _ _ _ _ _ told := announce_journals_from acts told rfl rfl
  closed _ _ told := announce_journals_from acts told rfl rfl

theorem Acts.serves (k : Cast S) (patience : Nat) :
    Serves (k.terms patience True True) True (Journals steady) c :=
  { acts with
    moves := Journals.moves
    tends := acts.tends
    announces := fun _ _ => announce_journals acts _ }

end

/-- The journal accounts for the listeners in all that the collaborators of a cast do, and they are left
alone where nobody gives a command to change the subscriptions. -/
theorem Cast.journals {k : Cast S} {p : Command DocId CompilerId → Prop} (gives : k.Gives p)
    (calm : ∀ {command}, p command → steady → command.rearrangement? = none) (patience depth : Nat) :
    Acts (Journals steady) (k.collaborators patience depth) := by
  have moves : Moves (k.terms patience True True) True (Journals (S := S) steady) := Journals.moves
  refine Cast.acts moves.plays gives (fun {_} acts {command} given => ?_) depth
  refine command_along (acts.serves k patience) (k.terms_allows patience True _)
    (fun _ => trivial) (fun _ e _ => announce_journals acts e) (fun _ => ask_journals acts)
    fun {change} rearranges => rearrange_journals (fun hs => ?_) change
  rw [calm given hs] at rearranges
  cases rearranges

/-! ## Calls -/

/-- What comes of calling a listener. -/
inductive Hears (c : Collaborators S) (doing : String) (e : Event) (l : Listener) :
    Studio S → Vote → Studio S → Prop
  | silent {s : Studio S} : handlerOf c l e = none → Hears c doing e l s .silent s
  | answered {s s' : Studio S} {handler : Act (Studio S) Bool} {b : Bool} :
      handlerOf c l e = some handler → handler s = some (.ok b, s') →
      Hears c doing e l s (.answered b) s'
  | failed {s s' : Studio S} {handler : Act (Studio S) Bool} {f : Failure} :
      handlerOf c l e = some handler → handler s = some (.error f, s') → f.isOrdinary = true →
      Hears c doing e l s (.failed f) (s'.logged (handlerFailed c l doing e f))

theorem Votes.hears {v : Vote} (h : Votes c e l s v s') : Hears c "answering" e l s v s' := by
  cases h with
  | silent none => exact .silent none
  | answered handler run => exact .answered handler run
  | failed handler run ordinary => exact .failed handler run ordinary

/-- A call of a listener: which one, what came of it, and how the subscriptions were changed in its
course. -/
structure Call where
  listener : Listener
  vote : Vote
  changes : List Rearrangement
  deriving DecidableEq, Repr

/-- Some listeners are called one after another. The moments of a call tell how it changes the
subscriptions. -/
inductive Calls (c : Collaborators S) (doing : String) (e : Event) :
    List Listener → Studio S → List Call → Studio S → Prop
  | nil {s : Studio S} : Calls c doing e [] s [] s
  | cons {l : Listener} {ls : List Listener} {s s₁ s' : Studio S} {v : Vote} {ms : List Moment}
      {calls : List Call} : Hears c doing e l s v s₁ → Journaled ms s s₁ →
      Calls c doing e ls s₁ calls s' →
      Calls c doing e (l :: ls) s (⟨l, v, rearrangements ms⟩ :: calls) s'

namespace Calls

variable {doing : String} {calls : List Call}

theorem listeners (h : Calls c doing e ls s calls s') : calls.map Call.listener = ls := by
  induction h with
  | nil => rfl
  | cons _ _ _ ih => rw [List.map_cons, ih]

theorem bus (h : Calls c doing e ls s calls s') :
    s'.bus = Rearrangement.applyAll s.bus (calls.flatMap Call.changes) := by
  induction h with
  | nil => rfl
  | cons _ journaled _ ih =>
    rw [ih, journaled.bus, List.flatMap_cons, Rearrangement.applyAll_append]

end Calls

/-! ## Delivery -/

section

variable (acts : Acts (Journals steady) c) (ordinary : Ordinary c e)

section

include acts

theorem Hears.journals {doing : String} {v : Vote} (h : Hears c doing e l s v s') :
    Journals steady s s' := by
  have calls : ∀ {handler a s'}, handlerOf c l e = some handler → handler s = some (a, s') →
      Journals steady s s' := by
    intro handler a s' hh run
    have along : Act.Along (Journals steady) handler := (acts.within e).handler hh
    exact along.post run
  cases h with
  | silent _ => exact refl s
  | answered hh run => exact calls hh run
  | failed hh run _ =>
    obtain ⟨ms, journaled, none⟩ := calls hh run
    exact ⟨ms, ⟨journaled.journal, journaled.bus⟩, none⟩

theorem Calls.of_poll {vs : List Vote} (h : Poll c e ls s vs s') :
    ∃ calls, Calls c "answering" e ls s calls s' ∧ calls.map Call.vote = vs := by
  induction h with
  | nil => exact ⟨[], .nil, rfl⟩
  | cons votes _ ih =>
    obtain ⟨calls, rest, same⟩ := ih
    obtain ⟨ms, journaled, -⟩ := votes.hears.journals acts
    exact ⟨_, .cons votes.hears journaled rest, by rw [List.map_cons, same]⟩

end

section

include ordinary

theorem deliver_hears {q : Except Failure Unit} (h : deliver c e l s = some (q, s')) :
    q = .ok () ∧ ∃ v, Hears c "handling" e l s v s' := by
  unfold deliver at h
  rcases hh : handlerOf c l e with _ | handler <;> rw [hh] at h
  · cases h
    exact ⟨rfl, _, .silent hh⟩
  · have answers : ∀ {r}, guardedCall c l "handling" e handler s = some (r, s') →
        (∃ a, r = .ok a) ∧ ∃ v, Hears c "handling" e l s v s' := by
      intro r hr
      rcases guardedCall_eq_some.1 hr with ⟨b, run, rfl⟩ | ⟨f, s₁, run, ho, rfl, rfl⟩ | ⟨f, run, ho, -⟩
      · exact ⟨⟨_, rfl⟩, _, .answered hh run⟩
      · exact ⟨⟨_, rfl⟩, _, .failed hh run ho⟩
      · rw [ordinary hh run] at ho
        cases ho
    rcases Act.bind_eq_some.1 h with ⟨a, s₁, hr, rest⟩ | ⟨f, hr, rfl⟩
    · cases rest
      exact ⟨rfl, (answers hr).2⟩
    · obtain ⟨⟨a, ha⟩, -⟩ := answers hr
      cases ha

end

include acts ordinary

theorem deliverAll_calls {q : Except Failure Unit} (h : deliverAll c e ls s = some (q, s')) :
    q = .ok () ∧ ∃ calls, Calls c "handling" e ls s calls s' := by
  induction ls generalizing s with
  | nil =>
    cases h
    exact ⟨rfl, [], .nil⟩
  | cons l ls ih =>
    rw [deliverAll] at h
    rcases Act.bind_eq_some.1 h with ⟨_, s₁, first, rest⟩ | ⟨f, first, -⟩
    · obtain ⟨-, v, hears⟩ := deliver_hears ordinary first
      obtain ⟨ms, journaled, -⟩ := hears.journals acts
      obtain ⟨rfl, calls, others⟩ := ih rest
      exact ⟨rfl, _, .cons hears journaled others⟩
    · cases (deliver_hears ordinary first).1

theorem askAll_calls {q : Except Failure Bool} (h : askAll c e ls s = some (q, s')) :
    ∃ calls, Calls c "answering" e ls s calls s' ∧
      q = .ok (calls.all fun call => call.vote.consents) := by
  rcases askAll_eq_some.1 h with ⟨vs, poll, rfl⟩ | ⟨f, breaks, -⟩
  · obtain ⟨calls, chain, rfl⟩ := Calls.of_poll acts poll
    exact ⟨calls, chain, by rw [List.all_map]; rfl⟩
  · exact absurd breaks ordinary.unbroken

end

/-- The subscribed listeners are called, each once for every subscription and in their order, and then
those are subscribed that the changes made in the course of the calls leave. -/
structure Delivered (c : Collaborators S) (doing : String) (e : Event) (s m : Studio S)
    (calls : List Call) (s' : Studio S) : Prop where
  chain : Calls c doing e s.bus m calls s'
  listeners : calls.map Call.listener = s.bus
  bus : s'.bus = Rearrangement.applyAll s.bus (calls.flatMap Call.changes)

/-- How announcements and questions are delivered. -/
structure Delivers (c : Collaborators S) (e : Event) (s : Studio S) : Prop where
  announced : ∀ q s', announce c e s = some (q, s') → q = .ok () ∧
    ∃ calls, Delivered c "handling" e s (s.marked (.announced e s.scene)) calls s'
  asked : ∀ q s', ask c e s = some (q, s') → ∃ calls,
    q = .ok (calls.all fun call => call.vote.consents) ∧
      Delivered c "answering" e s (s.marked (.asked e s.scene)) calls s'
  ends : (∀ n h, c.handler n e = some h → Act.Ends h) →
    (∃ q s', announce c e s = some (q, s')) ∧ ∃ q s', ask c e s = some (q, s')

/-- A command to subscribe, to unsubscribe or to clear the bus makes its change at once and puts it on
record, and does nothing else: a new subscription comes last, of several of a listener the first one is
taken away, or all are. -/
structure Rearranges (c : Collaborators S) : Prop where
  subscribing : ∀ l u, (Command.studio (.subscribe l)).run c u =
    some (.ok .done, { u with bus := u.bus ++ [l] }.marked (.rearranged (.subscribed l)))
  unsubscribing : ∀ l u, (Command.studio (.unsubscribe l)).run c u =
    some (.ok .done, { u with bus := u.bus.erase l }.marked (.rearranged (.unsubscribed l)))
  clearing : ∀ u, (Command.studio .clearBus).run c u =
    some (.ok .done, { u with bus := [] }.marked (.rearranged .cleared))

/-- Whatever the listeners do when they are called, if they do not end the program. The changes of the
subscriptions that are on record are those of the commands that were given. -/
theorem bus_delivers (k : Cast S) (patience depth : Nat) (e : Event) (s : Studio S)
    (ordinary : ∀ n h s f s', (k.collaborators patience depth).handler n e = some h →
      h s = some (.error f, s') → f.isOrdinary = true) :
    Delivers (k.collaborators patience depth) e s ∧
      (∀ depth, Rearranges (k.collaborators patience depth)) ∧
      ((k.Gives fun command => command.rearrangement? = none) →
        (∀ q s', announce (k.collaborators patience depth) e s = some (q, s') → s'.bus = s.bus) ∧
        ∀ q s', ask (k.collaborators patience depth) e s = some (q, s') → s'.bus = s.bus) := by
  have acts : Acts (Journals False) (k.collaborators patience depth) :=
    Cast.journals (Cast.gives_of_forall (fun _ => trivial) k) (fun _ => False.elim) patience depth
  refine ⟨{
    announced := fun q s' run => ?_
    asked := fun q s' run => ?_
    ends := fun handlers =>
      ⟨announce_ends (fun {n h} => handlers n h) s, ask_ends (fun {n h} => handlers n h) s⟩ },
    fun _ => ⟨fun _ _ => rfl, fun _ _ => rfl, fun _ => rfl⟩, fun gives => ?_⟩
  · obtain ⟨rfl, calls, chain⟩ := deliverAll_calls acts (ordinary_of_outside ordinary)
      (s := s.marked (.announced e s.scene)) run
    exact ⟨rfl, calls, chain, chain.listeners, chain.bus⟩
  · obtain ⟨calls, chain, answer⟩ := askAll_calls acts (ordinary_of_outside ordinary)
      (s := s.marked (.asked e s.scene)) run
    exact ⟨calls, answer, chain, chain.listeners, chain.bus⟩
  · have left : ∀ {s s' : Studio S}, Relation.ReflTransGen (Journals True) s s' → s'.bus = s.bus := by
      intro s s' journals
      rw [Relation.reflTransGen_eq_self] at journals
      obtain ⟨ms, journaled, none⟩ := journals
      rw [journaled.bus, none trivial]
      rfl
    have calm : Acts (Journals True) (k.collaborators patience depth) :=
      Cast.journals gives (fun none _ => none) patience depth
    exact ⟨fun _ _ run => left (announce_journals calm e run),
      fun _ _ run => left (ask_journals calm e run)⟩

end Studio

/-! ## A restless cast -/

/-- A cast in which a listener that is told of the begin of a compile has another one leave and a third
one come, and tells them that the compile ended. Another listener fails. -/
def Cast.restless : Cast Unit :=
  { Cast.idle with
    handler := fun n e => match n, e.kind with
      | 0, .compileStarted => some (.call (.studio (.unsubscribe (.outside 1))) fun _ =>
          .call (.studio (.subscribe (.outside 2))) fun _ =>
            .call (.announce .compileEnded none) fun _ => .done true)
      | 1, .compileStarted => some (.fail (.runtime "boom"))
      | 2, .compileEnded => some (.call (.studio (.subscribe (.outside 3))) fun _ => .done true)
      | _, _ => none }

namespace Studio

/-- A studio in which one listener is subscribed twice, with another one in between. -/
def thriceAttended : Studio Unit :=
  { atRoot with bus := [.outside 0, .outside 1, .outside 0] }

/-- The listener in the middle is called although it was taken away before its turn, and those that came
are not. -/
theorem bus_delivers_restless : ∃ s' calls,
    announce (Cast.restless.collaborators 1 2) ⟨.compileStarted, none⟩ thriceAttended =
      some (.ok (), s') ∧
    Delivered (Cast.restless.collaborators 1 2) "handling" ⟨.compileStarted, none⟩ thriceAttended
      (thriceAttended.marked (.announced ⟨.compileStarted, none⟩ thriceAttended.scene)) calls s' ∧
    calls.map Call.listener = [.outside 0, .outside 1, .outside 0] ∧
    s'.bus = [.outside 0, .outside 0, .outside 2, .outside 3, .outside 2, .outside 3, .outside 3] ∧
    Rearranges (Cast.restless.collaborators 1 1) := by
  have ordinary : ∀ n h s f s',
      (Cast.restless.collaborators 1 2).handler n ⟨.compileStarted, none⟩ = some h →
      h s = some (.error f, s') → f.isOrdinary = true := by
    intro n h s f s' hh run
    obtain ⟨script, given, rfl⟩ := Option.map_eq_some_iff.1 hh
    replace run : script.run (Cast.restless.collaborators 1 1) s = some (.error f, s') := run
    match n, given with
    | 0, given =>
      cases given
      have unfailing := fun raises => Script.raises_of_run (p := fun _ => False) raises run
      exact (unfailing fun _ _ _ => trivial).elim
    | 1, given =>
      cases given
      cases run
      rfl
    | 2, given => cases given
    | n + 3, given => cases given
  obtain ⟨delivers, rearranges, -⟩ :=
    bus_delivers Cast.restless 1 2 ⟨.compileStarted, none⟩ thriceAttended ordinary
  obtain ⟨s', run, bus⟩ : ∃ s', announce (Cast.restless.collaborators 1 2) ⟨.compileStarted, none⟩
      thriceAttended = some (.ok (), s') ∧ s'.bus =
        [.outside 0, .outside 0, .outside 2, .outside 3, .outside 2, .outside 3, .outside 3] :=
    ⟨_, rfl, rfl⟩
  obtain ⟨-, calls, delivered⟩ := delivers.announced _ _ run
  exact ⟨s', calls, run, delivered, delivered.listeners, bus, rearranges 1⟩

end Studio

end JavaStudio
