import JavaStudio.Proofs.Studio.Balance

/-!
# Compiles that overlap

Every act that begins a compile in the background, runs it or completes it takes one future in hand,
writes its deals and leaves it with a tale. All other acts keep away from the books, and so does whoever
is called in the course of any act, or he does the same for other futures. A run that begins with empty
books therefore ends with a `Chronicle`: its ledger falls apart into the tales of single compiles.

* `compileAside_orderly`, `settleFuture_orderly`, `drain_orderly`: the acts that carry compiles on.
* `compiles_apart`: the ledger of a whole run.
* `compiles_apart_interrupted`: a listener that ends the program leaves a future without an answer.
-/

namespace JavaStudio

theorem Pool.accepts_ordinary {p : Pool} {f : Failure} (h : p.accepts = .error f) :
    f.isOrdinary = true := by
  unfold accepts at h
  split at h
  · cases h
    rfl
  · split at h <;> cases h
    rfl

namespace Studio

variable {S α β : Type} {crew : Collaborators S → Prop} {resets : Bool}
  {hand : Nat → Option (List Deal)} {s s' : Studio S} {d : DocId} {n : Nat} {ds : List Deal}

/-! ## Orderly acts -/

/-- What leaves the books alone leaves them in order. -/
theorem Orderly.of_books (h : s'.books = s.books) : Orderly crew resets s s' :=
  fun _ inOrder => by rwa [h]

theorem Orderly.covers {t : Terms S} : Covers t False (Orderly crew resets) :=
  .of_steps fun _ _ _ books => .of_books (books.resolve_left id)

theorem Orderly.tells : Tells (Orderly crew resets) := fun e s life => by
  have entries : (Moment.announced e s.scene).entries = [] := by
    obtain ⟨kind, d⟩ := e
    cases kind <;> first | rfl | cases life
  exact .of_books (books_marked_of_nil entries s)

theorem InOrder.along {x : Act (Studio S) α} {q : Except Failure α}
    (h : InOrder crew resets hand s.books) (along : Act.Along (Orderly crew resets) x)
    (run : x s = some (q, s')) : InOrder crew resets hand s'.books := by
  have steps := along run
  clear run
  induction steps with
  | refl => exact h
  | tail _ step ih => exact step hand ih

theorem orderly_of_inOrder {x : Act (Studio S) α}
    (h : ∀ {s q s' hand}, x s = some (q, s') → InOrder crew resets hand s.books →
      InOrder crew resets hand s'.books) : Act.Along (Orderly crew resets) x :=
  fun _ _ _ run => .single fun _ => h run

/-- An orderly act comes first: it fails and that is all, or the rest begins with the books in order. -/
theorem InOrder.bind_elim {x : Act (Studio S) α} {f : α → Act (Studio S) β} {q : Except Failure β}
    {p : Prop} (h : InOrder crew resets hand s.books) (along : Act.Along (Orderly crew resets) x)
    (run : (x >>= f) s = some (q, s'))
    (stops : ∀ e, q = .error e → x s = some (.error e, s') → InOrder crew resets hand s'.books → p)
    (goes : ∀ a s₁, x s = some (.ok a, s₁) → InOrder crew resets hand s₁.books →
      f a s₁ = some (q, s') → p) : p := by
  rcases Act.bind_eq_some.1 run with ⟨a, s₁, first, rest⟩ | ⟨e, first, hq⟩
  · exact goes a s₁ first (h.along along first) rest
  · exact stops e hq first (h.along along first)

/-! ## What is found -/

theorem readActive_current {c : Collaborators S} {choice : Choice}
    (h : readActive c s = some (.ok choice, s')) : choice = s.registry.current (s.isUp c) := by
  rw [readActive, Act.get_bind] at h
  split at h <;> cases h <;> rfl

/-! ## Starting over -/

/-- What is done to start the interactions over, before the listeners are told. -/
def renew (c : Collaborators S) : Act (Studio S) Unit := do
  let roots ← rootsForReset
  let extra ← Act.ofExcept (Settings.listed (← get).settings.extraClasspath)
  let n ← createInterpreter c
  addEntries c n (roots.map .ok ++ extra.map Settings.path)
  onSession (restarted n)
  showPrompt c

theorem resetInteractions_eq (c : Collaborators S) :
    resetInteractions c = renew c >>= fun _ => announce c ⟨.interactionsReset, none⟩ := by
  simp only [renew, resetInteractions, resetSession, Act.bind_assoc]

section

variable {t : Terms S} {c : Collaborators S} (hc : Follows t False (Orderly t.crew resets) c)
include hc

theorem renew_along : Act.Along (Orderly t.crew resets) (renew c) :=
  hc.serves.interacts.rootsForReset.bind fun _ => .bind .get fun _ =>
    (Act.Along.ofExcept _).bind fun _ => hc.serves.interacts.createInterpreter.bind fun _ =>
      (hc.serves.interacts.addEntries _ _).bind fun _ =>
        (onSession_along hc.covers.moves _).bind fun _ => hc.serves.interacts.showPrompt

theorem announce_inOrder {e : Event} {q : Except Failure Unit} (he : e.kind.ofCompile = true)
    (h : InOrder t.crew resets (holding hand n ds) s.books)
    (run : announce c e s = some (q, s')) :
    InOrder t.crew resets (holding hand n (ds ++ [.told e])) s'.books := by
  have entries : (Moment.announced e s.scene).entries = [.told e] := by
    simp [Moment.entries, Moment.deal?, Deal.ofCompile, he]
  have marked := h.note (.announced e s.scene)
  rw [entries] at marked
  exact marked.along ((hc.within e).deliverAll s.bus) run

theorem celebrate_inOrder {q : Except Failure Unit} (wired : resets = true)
    (h : InOrder t.crew resets (holding hand n ds) s.books)
    (run : celebrate c [] s = some (q, s')) :
    ∃ hook, Hook q hook ∧ InOrder t.crew resets (holding hand n (ds ++ hook)) s'.books := by
  have resetting : s.wiring.resetsAfterCompile = true := by
    obtain ⟨es, h⟩ := h
    exact h.wired.trans wired
  rw [celebrate_clean resetting, resetInteractions_eq] at run
  -- the console is not in the books
  have cleared : InOrder t.crew resets (holding hand n ds) { s with console := [] }.books := h
  have told : ∀ {q s₁}, resetConsole c s = some (q, s₁) →
      InOrder t.crew resets (holding hand n (ds ++ [.consoleReset])) s₁.books :=
    fun run => announce_inOrder (s := { s with console := [] }) hc rfl cleared run
  rcases Act.bind_eq_some.1 run with ⟨_, s₁, console, run⟩ | ⟨f, console, rfl⟩
  · refine (told console).bind_elim (renew_along hc) run ?_ ?_
    · rintro f rfl - h
      exact ⟨_, .stopped, h⟩
    · intro _ s₂ _ h run
      refine ⟨_, .told fun f hf => ?_, ?_⟩
      · rw [hf] at run
        exact announce_error run
      · have both := announce_inOrder hc rfl h run
        rwa [List.append_assoc] at both
  · exact ⟨_, .stopped, told console⟩

theorem conclude_inOrder {outcome : Except Failure Diagnostics} {q : Except Failure Unit}
    (h : InOrder t.crew resets (holding hand n ds) s.books)
    (run : conclude c outcome s = some (q, s')) :
    ∃ hook, Aftermath t.crew resets outcome q hook ∧
      InOrder t.crew resets (holding hand n (ds ++ .ended :: hook)) s'.books := by
  rcases Act.bind_eq_some.1 run with ⟨_, s₁, told, run⟩ | ⟨f, told, rfl⟩
  · have ended := announce_inOrder hc rfl h told
    -- nothing follows a failure, diagnostics, or a compile of a studio that is not wired to reset
    have quiet : ∀ {q s'}, (pure () : Act (Studio S) Unit) s₁ = some (q, s') →
        (resets = true → outcome ≠ .ok []) → ∃ hook, Aftermath t.crew resets outcome q hook ∧
          InOrder t.crew resets (holding hand n (ds ++ .ended :: hook)) s'.books := by
      intro q s' run none
      cases run
      exact ⟨[], .plain none, ended⟩
    cases outcome with
    | error f => exact quiet run fun _ h => nomatch h
    | ok ds' =>
      have wired : s₁.wiring.resetsAfterCompile = resets := by
        obtain ⟨es, h⟩ := ended
        exact h.wired
      cases ds' with
      | cons x xs =>
        exact quiet run fun _ h => nomatch h
      | nil =>
        cases hr : resets with
        | false =>
          have flawed : celebrate c [] s₁ = some (.ok (), s₁) := celebrate_flawed (.inr (wired.trans hr))
          replace run : celebrate c [] s₁ = some (q, s') := run
          rw [flawed] at run
          rw [← hr]
          exact quiet run fun h => by rw [hr] at h; cases h
        | true =>
          obtain ⟨hook, hhook, inOrder⟩ := celebrate_inOrder hc hr ended run
          rw [← hr]
          rw [List.append_assoc] at inOrder
          exact ⟨hook, .reset rfl hr hc.member run hhook, inOrder⟩
  · exact ⟨[], .broken (.told hc.member told (announce_error told)),
      announce_inOrder hc rfl h told⟩

/-! ## Completions -/

/-- The completion of the compile in hand leaves it answered, or abandoned by a listener. -/
theorem finish_inOrder {outcome : Except Failure Diagnostics} {q : Except Failure Unit}
    (free : hand n = none) (verdict : Verdict t.crew n d outcome ds)
    (h : InOrder t.crew resets (holding hand n (.promised n d true :: .started :: ds)) s.books)
    (run : finish c ⟨n, outcome⟩ s = some (q, s')) : InOrder t.crew resets hand s'.books := by
  obtain ⟨r, s₁, concluded, -⟩ := Act.attempt_bind_eq_some.1 run
  obtain ⟨hook, aftermath, inOrder⟩ := conclude_inOrder hc h concluded
  rcases finish_of_conclude (n := n) concluded with ⟨ordinary, done⟩ | ⟨f, rfl, hf, broken⟩
  · cases run.symm.trans done
    exact inOrder.answer free (.begun (.answered verdict aftermath ordinary))
  · cases run.symm.trans broken
    exact inOrder.abandon free (.begun (.abandoned verdict aftermath hf))

theorem finishNow_inOrder {outcome : Except Failure Diagnostics} {q : Except Failure Unit}
    (free : hand n = none) (verdict : Verdict t.crew n d outcome [.diagnosed n outcome])
    (h : InOrder t.crew resets (holding hand n [.promised n d true, .started]) s.books)
    (run : finishNow c ⟨n, outcome⟩ s = some (q, s')) : InOrder t.crew resets hand s'.books :=
  finish_inOrder hc free verdict (h.note (.diagnosed n outcome)) run

/-! ## Beginning -/

/-- How giving a compile to a pool ends: the compile is left with the pool or it was completed, or an
ordinary failure is its outcome. -/
theorem enlist_inOrder {pool : Pool} {q : Except Failure Unit} (free : hand n = none)
    (h : InOrder t.crew resets (holding hand n [.promised n d true, .started]) s.books)
    (run : enlist c d n pool s = some (q, s')) :
    (InOrder t.crew resets hand s'.books ∧ ∀ f, q = .error f → f.isOrdinary = false) ∨
      ∃ f, q = .error f ∧ f.isOrdinary = true ∧
        Verdict t.crew n d (.error f) [.diagnosed n (.error f)] ∧
        InOrder t.crew resets (holding hand n [.promised n d true, .started]) s'.books := by
  obtain ⟨located, s₁, looked, locating⟩ := locateSource_locating d s
  have h₁ := h.along (locateSource_along hc.covers.moves d) looked
  rcases located with f | ds | ⟨file, root⟩
  · rw [enlist, Act.bind_of_error looked] at run
    cases run
    exact .inr ⟨f, rfl, locateSource_ordinary looked, .rootless locating, h₁⟩
  · rw [enlist, Act.bind_of_ok looked] at run
    refine .inl ⟨finishNow_inOrder hc free (.misplaced locating) h₁ run, ?_⟩
    rintro f rfl
    exact finish_error run
  · obtain rfl : s₁ = s := by cases locating; rfl
    rw [enlist, Act.bind_of_ok looked] at run
    refine h₁.bind_elim (readActive_along hc.covers.moves) run ?_ fun compiler s₂ active h₂ run => ?_
    · rintro f - active
      obtain ⟨_, hf⟩ := readActive_ok active
      cases hf
    · have commission : Commission t.crew d compiler root file := by
        rw [readActive_current active]
        exact .given hc.member locating
      cases accepts : pool.accepts with
      | error f =>
        rw [accepts] at run
        cases run
        exact .inr ⟨f, rfl, Pool.accepts_ordinary accepts, .refused commission accepts, h₂⟩
      | ok u =>
        rw [accepts] at run
        cases run
        let job : Job := { future := n, compiler, root, file, pool }
        have own : job.future = n := rfl
        exact .inl ⟨h₂.entrust free own (.begun (.waits commission)), fun f hf => by cases hf⟩

/-- A compile that was begun is left with a pool, or it ends at once. -/
theorem entrust_inOrder {pool : Pool} {q : Except Failure Nat} (free : hand n = none)
    (h : InOrder t.crew resets (holding hand n [.promised n d true, .started]) s.books)
    (run : entrust c d n pool s = some (q, s')) : InOrder t.crew resets hand s'.books := by
  obtain ⟨r, s₁, enlisted, run⟩ := Act.attempt_bind_eq_some.1 run
  rcases enlist_inOrder hc free h enlisted with ⟨inOrder, broken⟩ | ⟨f, rfl, hf, verdict, held⟩
  · cases r with
    | ok u =>
      cases run
      exact inOrder
    | error f =>
      simp only [broken f rfl, Bool.false_eq_true, if_false] at run
      cases run
      exact inOrder
  · simp only [hf, if_true] at run
    rcases Act.bind_eq_some.1 run with ⟨_, s₂, finished, run⟩ | ⟨g, finished, -⟩
    · cases run
      exact finishNow_inOrder hc free verdict held finished
    · exact finishNow_inOrder hc free verdict held finished

theorem compileAside_orderly (d : DocId) (pool : Pool) :
    Act.Along (Orderly t.crew resets) (compileAside c d pool) := by
  refine orderly_of_inOrder fun {s q s' hand} run h => ?_
  rw [compileAside_eq] at run
  refine h.bind_elim (isReady_along hc.serves d) run (fun _ _ _ h => h) fun ready s₁ _ h run => ?_
  rw [Act.bind_of_ok (newFuture_apply d ready s₁)] at run
  obtain ⟨free, held⟩ := h.promise d ready
  cases ready with
  | false =>
    cases run
    exact held.answer free .declined
  | true =>
    rw [if_pos rfl] at run
    rcases Act.bind_eq_some.1 run with ⟨_, s₂, told, run⟩ | ⟨f, told, rfl⟩
    · exact entrust_inOrder hc free (announce_inOrder hc rfl held told) run
    · have broken : EndsProgram t.crew ⟨.compileStarted, none⟩ f :=
        .told hc.member told (announce_error told)
      exact (announce_inOrder hc rfl held told).abandon free (.begun (.unheard broken))

/-! ## Running -/

theorem compileWith_inOrder {compiler : Choice} {root : Path} {files : List Path}
    {outcome : Except Failure Diagnostics}
    (h : InOrder t.crew resets (holding hand n ds) s.books)
    (run : compileWith c compiler root files s = some (outcome, s')) :
    InOrder t.crew resets (holding hand n (ds ++ [.called compiler root files])) s'.books := by
  have called := h.note (.compiled compiler root files)
  cases compiler with
  | placeholder =>
    cases run
    exact called
  | compiler k => exact called.along (hc.compile k root files) run

theorem settle_inOrder {job : Job} {q : Except Failure Unit} (free : hand job.future = none)
    (commission : Commission t.crew d job.compiler job.root job.file)
    (h : InOrder t.crew resets (holding hand job.future [.promised job.future d true, .started,
      .entrusted job.future job.compiler job.root job.file]) s.books)
    (run : settle c job s = some (q, s')) : InOrder t.crew resets hand s'.books := by
  obtain ⟨outcome, s₁, compiled, run⟩ := Act.attempt_bind_eq_some.1 run
  have verdict : Verdict t.crew job.future d outcome
      [.entrusted job.future job.compiler job.root job.file,
        .called job.compiler job.root [job.file], .diagnosed job.future outcome] :=
    .called commission hc.member compiled
  have diagnosed := (compileWith_inOrder hc h compiled).note (.diagnosed job.future outcome)
  replace run : job.pool.complete completions (finish c) ⟨job.future, outcome⟩
      (s₁.diagnosed job.future outcome) = some (q, s') := run
  cases hd : job.pool.dispatch with
  | atOnce =>
    rw [Pool.complete, hd] at run
    obtain ⟨r, s₂, finished, run⟩ := Act.attempt_bind_eq_some.1 run
    have same : s' = s₂ := by
      split at run
      · cases run
        rfl
      · split at run <;> cases run <;> rfl
    rw [same]
    exact finish_inOrder hc free verdict diagnosed finished
  | queued =>
    rw [Pool.complete, hd] at run
    cases run
    exact diagnosed.put free (.begun (.completes verdict))

theorem settleFuture_orderly (n : Nat) :
    Act.Along (Orderly t.crew resets) (settleFuture c n) := by
  refine orderly_of_inOrder fun {s q s' hand} run h => ?_
  rw [settleFuture, Act.get_bind] at run
  cases hfind : s.jobs.find? fun job => job.future == n with
  | none =>
    rw [hfind] at run
    cases run
    exact h
  | some job =>
    rw [hfind] at run
    obtain rfl : job.future = n := by simpa using List.find?_some hfind
    obtain ⟨ds, free, tale, held⟩ := h.takeJob (List.mem_of_find?_eq_some hfind)
    cases tale with
    | begun course =>
      cases course with
      | waits commission =>
        exact settle_inOrder (s := { s with jobs := s.jobs.filter fun j => j.future != job.future })
          hc free commission held run

theorem drainFrom_orderly (patience ran : Nat) :
    Act.Along (Orderly t.crew resets) (completions.drainFrom (finish c) patience ran) := by
  induction patience generalizing ran with
  | zero => exact .forever
  | succ patience ih =>
    refine orderly_of_inOrder fun {s q s' hand} run h => ?_
    rw [Queue.drainFrom] at run
    cases hq : s.queue with
    | nil =>
      simp only [completions, hq] at run
      cases run
      exact h
    | cons k ks =>
      -- the completion's future is in hand while it runs, whatever it puts in the queue
      obtain ⟨ds, free, tale, held⟩ := h.takeCompletion hq
      have finished : ∀ {q s₁}, finish c k { s with queue := ks } = some (q, s₁) →
          InOrder t.crew resets hand s₁.books := by
        intro q s₁ run
        cases tale with
        | begun course =>
          cases course with
          | completes verdict => exact finish_inOrder hc free verdict held run
      simp only [completions, hq] at run
      split at run
      · rename_i first
        exact (finished first).along (ih _) run
      · rename_i first
        cases run
        exact finished first
      · cases run

theorem drain_orderly (timeout : Option Number) :
    Act.Along (Orderly t.crew resets) (drain c timeout) := by
  unfold drain Queue.drain
  split
  · exact .bind .get fun _ => (Act.Along.ofExcept _).bind fun _ => drainFrom_orderly hc _ _
  · exact drainFrom_orderly hc _ _

theorem compileAndSettle_orderly (d : DocId) (pool : Pool) :
    Act.Along (Orderly t.crew resets) (compileAndSettle c d pool) :=
  (compileAside_orderly hc d pool).bind fun n => (settleFuture_orderly hc n).bind fun _ => .pure _

end

end Studio

/-! ## Whole runs -/

/-- The command begins, runs or completes compiles in the background. -/
def Command.isBackground {δ κ : Type} : Command δ κ → Bool
  | .document _ (.compileAside _) | .document _ (.entrust _) | .studio (.settle _)
  | .studio (.drain _) => true
  | _ => false

/-- Where a command has to do with compiles, these are in the background. -/
def Command.Apart (command : Command DocId CompilerId) : Prop :=
  command.isAloud = true → command.isBackground = true

namespace Studio

variable {S α : Type} {resets : Bool} {s s' : Studio S}

theorem command_orderly {t : Terms S} {c : Collaborators S}
    (hc : Follows t False (Orderly t.crew resets) c) (others : t.others) (picks : ∀ p, t.picks p)
    {command : Command DocId CompilerId} (apart : command.Apart) :
    Act.Along (Orderly t.crew resets) (command.run c) := by
  cases aloud : command.isAloud with
  | false =>
    exact hc.command_along ⟨fun _ => others, fun p _ => picks p⟩ (fun h => by rw [aloud] at h; cases h)
      fun _ => Orderly.tells
  | true =>
    have background := apart aloud
    unfold Command.isBackground at background
    split at background
    · exact (compileAndSettle_orderly hc _ _).bind fun _ => .pure _
    · exact (compileAside_orderly hc _ _).bind fun _ => .pure _
    · exact quietly_along (settleFuture_orderly hc _)
    · exact (drain_orderly hc _).bind fun _ => .pure _
    · cases background

theorem run_inOrder {k : Cast S} {patience depth : Nat} {script : Script S α}
    {hand : Nat → Option (List Deal)} {q : Except Failure α} (hk : k.Gives Command.Apart)
    (hs : script.Gives Command.Apart)
    (h : InOrder (k.terms patience True True).crew resets hand s.books)
    (run : script.run (k.collaborators patience depth) s = some (q, s')) :
    InOrder (k.terms patience True True).crew resets hand s'.books := by
  have calls : ∀ {depth}, Follows (k.terms patience True True) False
      (Orderly (k.terms patience True True).crew resets) (k.collaborators patience depth) →
      ∀ {command : Command DocId CompilerId}, command.Apart →
        Act.Along (Orderly _ resets) (command.run (k.collaborators patience depth)) :=
    fun {_} follows {_} => command_orderly follows trivial fun _ => trivial
  have member : ∀ depth, (k.terms patience True True).crew (k.collaborators patience depth) :=
    fun depth => ⟨depth, rfl⟩
  have follows :=
    Cast.follows Orderly.covers member hk k.views_any (fun h => absurd trivial h) calls depth
  exact h.along (Script.run_along follows.covers.moves (calls follows) hs) run

/-- The ledger of a studio, told compile by compile. -/
structure Chronicle (crew : Collaborators S → Prop) (s : Studio S) (es : List Note) : Prop where
  /-- Every deal of the ledger is told of one future, in the order of the ledger. -/
  ledger : s.books.ledger = es.map (·.deal)
  founded : ∀ e ∈ es, e.future < s.futures.length
  /-- The compile of every future stands somewhere and has a tale. -/
  tale : ∀ n < s.futures.length, ∃ p, s.books.slot n = p.slot n ∧
    Tale crew s.wiring.resetsAfterCompile n p (story n es)
  /-- The futures that are not answered are those whose compile began and has no answer. -/
  pending : ∀ n, s.futures[n]? = some none ↔ n ∈ unanswered s.futures.length Deal.begins es
  /-- At every moment begins and ends are in balance with the futures that are not answered. -/
  balance : ∀ fs, fs <+: es →
    (fs.map (·.deal)).countP Deal.begins + (unanswered s.futures.length Deal.ends fs).card =
      (fs.map (·.deal)).countP Deal.ends + (unanswered s.futures.length Deal.begins fs).card

/-- Books that are in order with nothing in hand are told compile by compile. -/
theorem InOrder.chronicle {crew : Collaborators S → Prop}
    (h : InOrder crew resets (fun _ => none) s.books) : ∃ es, Chronicle crew s es := by
  obtain ⟨es, wired, ledger, accounted⟩ := h
  have wired : s.wiring.resetsAfterCompile = resets := wired
  have founded : ∀ e ∈ es, e.future < s.futures.length := by
    intro e he
    by_contra unmade
    have none : (s.books.slot e.future).future = none :=
      List.getElem?_eq_none (Nat.le_of_not_lt unmade)
    obtain ⟨-, -, empty⟩ := (accounted e.future).of_unmade none
    have mem : e.deal ∈ story e.future es := List.mem_map.2 ⟨e, List.mem_filter.2 ⟨he, by simp⟩, rfl⟩
    rw [empty] at mem
    cases mem
  have tale : ∀ n < s.futures.length, ∃ p, s.books.slot n = p.slot n ∧
      Tale crew resets n p (story n es) := by
    intro n hn
    have made : (s.books.slot n).future ≠ none := by
      show s.futures[n]? ≠ none
      simpa using hn
    have acc := accounted n
    generalize hslot : s.books.slot n = slot at acc made
    generalize hstory : story n es = ds at acc
    cases acc with
    | unmade => exact absurd rfl made
    | stands tale => exact ⟨_, rfl, tale⟩
  refine ⟨es, ledger, founded, by rwa [wired], fun n => ?_, fun fs => balanced founded fun n hn => ?_⟩
  · rw [unanswered, Finset.mem_filter, Finset.mem_range]
    constructor
    · intro open_
      have hn : n < s.futures.length := (List.getElem?_eq_some_iff.1 open_).1
      obtain ⟨p, slot, tale⟩ := tale n hn
      exact ⟨hn, tale.pending.1 ((congrArg Slot.future slot).symm.trans open_)⟩
    · rintro ⟨hn, open_⟩
      obtain ⟨p, slot, tale⟩ := tale n hn
      exact (congrArg Slot.future slot).trans (tale.pending.2 open_)
  · obtain ⟨p, -, tale⟩ := tale n hn
    obtain ⟨q, hq, -⟩ := tale.paced
    exact ⟨q, hq⟩

/-- Whatever compiles overlap in a run, and whoever is called in the course of them, the ledger is made
of the tales of single compiles. -/
theorem compiles_apart {k : Cast S} (hk : k.Gives Command.Apart) {script : Script S α}
    (hs : script.Gives Command.Apart) {patience depth : Nat} {q : Except Failure α}
    (unused : s.books = ⟨[], [], [], s.wiring.resetsAfterCompile, []⟩)
    (run : script.run (k.collaborators patience depth) s = some (q, s')) :
    ∃ es, Chronicle (k.terms patience True True).crew s' es := by
  have start : InOrder (k.terms patience True True).crew s.wiring.resetsAfterCompile
      (fun _ => none) s.books := by
    rw [unused]
    exact ⟨[], rfl, rfl, fun n => .unmade⟩
  exact (run_inOrder hk hs start run).chronicle

end Studio

open Studio

/-- Begins two compiles of a document and runs the second one before the first. -/
def Script.overtaking : Script Unit Unit :=
  .call (.document 0 (.entrust { dispatch := .queued })) fun _ =>
    .call (.document 0 (.entrust {})) fun _ =>
      .call (.studio (.settle 1)) fun _ =>
        .call (.studio (.settle 0)) fun _ =>
          .call (.studio (.drain none)) fun _ => .done ()

theorem Cast.apart_saving : Cast.saving.Gives Command.Apart :=
  { Cast.gives_idle _ with
    handler := fun h => by
      simp only [Cast.saving] at h
      split at h
      · cases h
        exact ⟨fun aloud => Bool.noConfusion aloud, fun _ => trivial⟩
      · cases h }

namespace Studio

theorem compiles_apart_overtaking : ∃ s' es,
    Script.overtaking.run (Cast.saving.collaborators 2 2) unsavedWired = some (.ok (), s') ∧
      s'.books.ledger.countP Deal.answers = 2 ∧
      Chronicle (Cast.saving.terms 2 True True).crew s' es := by
  have script : Script.overtaking.Gives Command.Apart :=
    ⟨fun _ => rfl, fun _ => ⟨fun _ => rfl, fun _ => ⟨fun _ => rfl, fun _ => ⟨fun _ => rfl, fun _ =>
      ⟨fun _ => rfl, fun _ => trivial⟩⟩⟩⟩⟩
  have seen : (Script.overtaking.run (Cast.saving.collaborators 2 2) unsavedWired).map
      (fun (q, s') => (q.toOption, s'.books.ledger.countP Deal.answers)) = some (some (), 2) := by
    decide +kernel
  cases run : Script.overtaking.run (Cast.saving.collaborators 2 2) unsavedWired with
  | none =>
    rw [run] at seen
    cases seen
  | some end_ =>
    obtain ⟨q, s'⟩ := end_
    rw [run, Option.map_some, Option.some.injEq, Prod.mk.injEq] at seen
    obtain ⟨answer, answers⟩ := seen
    cases q <;> cases answer
    obtain ⟨es, chronicle⟩ := compiles_apart Cast.apart_saving script rfl run
    exact ⟨s', es, rfl, answers, chronicle⟩

/-- A listener that ends the program when it is told of the end of a compile: the compile has begun and
ended, no completion is in progress, and the future is never answered. -/
theorem compiles_apart_interrupted :
    (Cast.hearing .compileEnded (.fail (.interrupted ""))).Gives Command.Apart ∧
    (Script.overtaking.run ((Cast.hearing .compileEnded (.fail (.interrupted ""))).collaborators 2 2)
      savedWired).map (fun (q, s') => (q.toOption, s'.books.ledger.countP Deal.begins,
        s'.books.ledger.countP Deal.ends, s'.futures.map (·.isNone))) =
      some (some (), 2, 2, [true, true]) := by
  refine ⟨Cast.gives_hearing trivial, ?_⟩
  decide +kernel

end Studio

end JavaStudio
