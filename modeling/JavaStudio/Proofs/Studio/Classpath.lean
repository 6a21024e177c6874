import JavaStudio.Proofs.Labelled
import JavaStudio.Proofs.Studio.Compile
import JavaStudio.Proofs.Studio.Roots
import JavaStudio.Proofs.Studio.Submit

/-!
# The classpath after a reset

A reset of the interactions makes the next interpreter and gives it the entries of its classpath one by
one (`Outfitting`): the source roots of the documents, if all have one (`classpathRoots`), and what the
settings list. An interpreter that refuses an entry breaks the reset off, and the session goes on with
the one it had (`StartsOver`).

* `StartsOver.outcome`: what such a reset leaves, if the interpreters keep to themselves (`Unobtrusive`).
* `classpath_after_reset`: every reset gives exactly these entries to exactly one new interpreter, also
  where it follows a clean compile. If none is refused, the session starts over with that interpreter
  and the listeners are told at the end; if one is, nothing else happens.
-/

namespace JavaStudio

/-- A moment in which a collaborator noted something or had a command behind it. -/
def Moment.ofScript : Moment → Bool
  | noted _ | returned _ => true
  | _ => false

theorem Files.absolute_isAbsolute (fs : Files) (p : Path) : (fs.absolute p).isAbsolute = true := by
  unfold absolute Path.join
  split
  · rfl
  · rename_i rooted
    simpa [Path.isAbsolute] using rooted

/-- A document has a source root exactly if it has no fault of its package. -/
theorem Desk.root?_isSome_iff (k : Desk) (fs : Files) (d : DocId) :
    (k.root? fs d).isSome = true ↔ k.fault? fs d = none := by
  have rooting := k.sourceRoot_rooting fs d
  unfold root? fault?
  generalize k.sourceRoot fs d = r at rooting
  cases rooting with
  | root => exact ⟨fun _ => rfl, fun _ => rfl⟩
  | fault => exact ⟨nofun, nofun⟩

/-- A document that is kept in no file has no source root. -/
theorem Desk.root?_untitled {k : Desk} {fs : Files} {d : DocId} (untitled : (k.document d).path = none) :
    k.root? fs d = none := by
  have rooting := k.sourceRoot_rooting fs d
  unfold root?
  generalize k.sourceRoot fs d = r at rooting
  cases rooting with
  | root _ hfile _ =>
    rw [untitled] at hfile
    cases hfile
  | fault => rfl

namespace Studio

variable {S α : Type} {c : Collaborators S} {s s' s₁ : Studio S} {n : Nat} {d : DocId}
  {p : Path} {ps : List Path} {r : Except Failure Unit}

/-! ## The source roots -/

/-- The source roots that go on the classpath at a reset: those of all documents, each once and in the
order in which they are first seen, or none if a document has none. -/
def classpathRoots (s : Studio S) : List Path :=
  if s.desk.registered.all fun d => (s.desk.root? s.host.files d).isSome then
    (s.desk.registered.filterMap (s.desk.root? s.host.files)).eraseDups
  else []

theorem classpathRoots_nodup (s : Studio S) : s.classpathRoots.Nodup := by
  unfold classpathRoots
  split
  · exact Desk.nodup_eraseDups _
  · exact List.nodup_nil

theorem classpathRoots_untitled (held : d ∈ s.desk.registered)
    (untitled : (s.desk.document d).path = none) : s.classpathRoots = [] := by
  rw [classpathRoots, if_neg]
  intro all
  have rooted := List.all_eq_true.1 all d held
  rw [Desk.root?_untitled untitled] at rooted
  cases rooted

theorem rootsForReset_roots (s : Studio S) :
    ∃ s₀, rootsForReset s = some (.ok s.classpathRoots, s₀) ∧
      (s₀ = s ∨ ∃ fault, s₀ = s.logged (withoutRoots fault)) := by
  have resolved : s.desk.sourceRoots s.host.files =
      .ok ((s.desk.registered.filterMap (s.desk.root? s.host.files)).eraseDups,
        s.desk.registered.filterMap (s.desk.fault? s.host.files)) :=
    s.desk.sourceRootsOf_eq s.host.files [] s.desk.registered
  have all : (s.desk.registered.all fun d => (s.desk.root? s.host.files d).isSome) = true ↔
      s.desk.registered.filterMap (s.desk.fault? s.host.files) = [] := by
    simp only [List.all_eq_true, Desk.root?_isSome_iff, List.filterMap_eq_nil_iff]
  rw [rootsForReset, Act.get_bind, resolved, classpathRoots]
  cases hfaults : s.desk.registered.filterMap (s.desk.fault? s.host.files) with
  | nil =>
    rw [if_pos (all.2 hfaults)]
    exact ⟨s, rfl, .inl rfl⟩
  | cons fault faults =>
    rw [if_neg fun h => by rw [all.1 h] at hfaults; cases hfaults]
    exact ⟨_, rfl, .inr ⟨fault, rfl⟩⟩

/-! ## An interpreter and its entries -/

/-- The studio when the next interpreter is to be made. -/
def enlisting (s : Studio S) : Studio S :=
  { s with interpreters := s.interpreters + 1 }.marked (.created (s.interpreters + 1))

/-- A path as an entry for the classpath. -/
def entry (s : Studio S) (p : Path) : String := (s.host.files.absolute p).toString

theorem createInterpreter_eq (s : Studio S) : createInterpreter c s =
    (c.create (s.interpreters + 1) >>= fun _ => pure (s.interpreters + 1)) s.enlisting := rfl

theorem addEntries_cons (n : Nat) (p : Path) (entries : List ClasspathEntry) (s : Studio S) :
    addEntries c n (.ok p :: entries) s =
      (c.addClasspath n (s.entry p) >>= fun _ => addEntries c n entries)
        (s.marked (.classpath n (s.entry p))) := rfl

/-- An interpreter is given entries one after another, up to the first that it refuses. -/
inductive Outfitting (c : Collaborators S) (n : Nat) :
    List Path → Studio S → Except Failure Unit → Studio S → Prop
  | done {s : Studio S} : Outfitting c n [] s (.ok ()) s
  | taken {p : Path} {ps : List Path} {s s₁ s' : Studio S} {r : Except Failure Unit} :
      c.addClasspath n (s.entry p) (s.marked (.classpath n (s.entry p))) = some (.ok (), s₁) →
      Outfitting c n ps s₁ r s' → Outfitting c n (p :: ps) s r s'
  | refused {p : Path} {ps : List Path} {s s' : Studio S} {f : Failure} :
      c.addClasspath n (s.entry p) (s.marked (.classpath n (s.entry p))) = some (.error f, s') →
      Outfitting c n (p :: ps) s (.error f) s'

/-- How the session starts over with some entries on the classpath. The next interpreter is made and
takes the entries, the session is fresh and the listeners are told; or an entry is refused. -/
inductive StartsOver (c : Collaborators S) (ps : List Path) (s : Studio S) :
    Option (Except Failure Unit × Studio S) → Prop
  | told {s₁ s₂ s₃ : Studio S} :
      c.create (s.interpreters + 1) s.enlisting = some (.ok (), s₁) →
      Outfitting c (s.interpreters + 1) ps s₁ (.ok ()) s₂ →
      showPrompt c { s₂ with session := restarted (s.interpreters + 1) s₂.session } =
        some (.ok (), s₃) →
      StartsOver c ps s (announce c ⟨.interactionsReset, none⟩ s₃)
  | refused {s₁ s₂ : Studio S} {f : Failure} :
      c.create (s.interpreters + 1) s.enlisting = some (.ok (), s₁) →
      Outfitting c (s.interpreters + 1) ps s₁ (.error f) s₂ →
      StartsOver c ps s (some (.error f, s₂))

/-- Interpreters can always be made and always answer, and so does the view of the transcript, which does
not end the program. -/
structure Obliging (c : Collaborators S) : Prop where
  create : ∀ n s, ∃ s', c.create n s = some (.ok (), s')
  addClasspath : ∀ n path, Act.Ends (c.addClasspath n path)
  output : ∀ {shows}, c.output = some shows → ∀ chunk, Act.Ends (shows chunk)
  unshown : ∀ {shows chunk s f s'}, c.output = some shows →
    shows chunk s = some (.error f, s') → f.isOrdinary = true

section

variable (hc : Obliging c)
include hc

theorem addEntries_outfitting (n : Nat) (ps : List Path) (s : Studio S) : ∃ r s',
    addEntries c n (ps.map .ok) s = some (r, s') ∧ Outfitting c n ps s r s' := by
  induction ps generalizing s with
  | nil => exact ⟨_, s, rfl, .done⟩
  | cons p ps ih =>
    rw [List.map_cons, addEntries_cons]
    obtain ⟨_ | _, s₁, given⟩ :=
      hc.addClasspath n (s.entry p) (s.marked (.classpath n (s.entry p)))
    · exact ⟨_, s₁, Act.bind_of_error given _, .refused given⟩
    · obtain ⟨r, s', run, outfitting⟩ := ih s₁
      rw [Act.bind_of_ok given]
      exact ⟨r, s', run, .taken given outfitting⟩

/-- The prompt is shown whatever its view does. -/
theorem showPrompt_ok (s : Studio S) : ∃ s', showPrompt c s = some (.ok (), s') := by
  obtain ⟨r, s', run⟩ := showPrompt_ends (fun h => hc.output h) s
  obtain ⟨q, s₁, append, rest⟩ := Act.attempt_bind_eq_some.1
    (show appendQuietly c prompt (s.taken s.session.history) = some (r, s') from run)
  cases q with
  | ok _ =>
    cases rest
    exact ⟨_, run⟩
  | error f =>
    have ordinary : f.isOrdinary = true := by
      unfold appendTranscript at append
      cases hout : c.output with
      | none =>
        rw [hout] at append
        cases append
      | some shows =>
        rw [hout] at append
        exact hc.unshown hout append
    simp only [ordinary, if_true] at rest
    cases rest
    exact ⟨_, run⟩

theorem resetSession_startsOver (ps : List Path) (s : Studio S) :
    StartsOver c ps s (resetSession c (ps.map .ok) s) := by
  obtain ⟨s₁, made⟩ := hc.create (s.interpreters + 1) s.enlisting
  have created : createInterpreter c s = some (.ok (s.interpreters + 1), s₁) := by
    rw [createInterpreter_eq, Act.bind_of_ok made]
    rfl
  obtain ⟨_ | _, s₂, added, outfitting⟩ := addEntries_outfitting hc (s.interpreters + 1) ps s₁
  · rw [resetSession, Act.bind_of_ok created, Act.bind_of_error added]
    exact .refused made outfitting
  · rw [resetSession, Act.bind_of_ok created, Act.bind_of_ok added]
    obtain ⟨s₃, shown⟩ :=
      showPrompt_ok hc { s₂ with session := restarted (s.interpreters + 1) s₂.session }
    show StartsOver c ps s ((showPrompt c >>= fun _ => announce c ⟨.interactionsReset, none⟩)
      { s₂ with session := restarted (s.interpreters + 1) s₂.session })
    rw [Act.bind_of_ok shown]
    exact .told made outfitting shown

/-- What the settings list goes on the classpath behind the source roots. -/
theorem resetInteractions_startsOver {extra : List String}
    (listed : s.settings.extraClasspath = .arr (extra.map .str)) :
    ∃ s₀, (s₀ = s ∨ ∃ fault, s₀ = s.logged (withoutRoots fault)) ∧
      StartsOver c (s.classpathRoots ++ extra.map Path.ofString) s₀ (resetInteractions c s) := by
  obtain ⟨s₀, roots, same⟩ := rootsForReset_roots s
  refine ⟨s₀, same, ?_⟩
  have settings : s₀.settings = s.settings := by
    rcases same with rfl | ⟨fault, rfl⟩ <;> rfl
  have items : Settings.listed s₀.settings.extraClasspath = .ok (extra.map .str) := by
    rw [settings, listed]
    rfl
  have entries : s.classpathRoots.map .ok ++ (extra.map .str).map Settings.path =
      (s.classpathRoots ++ extra.map Path.ofString).map (.ok : Path → ClasspathEntry) := by
    simp [Settings.path]
  rw [resetInteractions, Act.bind_of_ok roots, Act.get_bind, items]
  show StartsOver c _ s₀ (resetSession c (s.classpathRoots.map .ok ++
    (extra.map .str).map Settings.path) s₀)
  rw [entries]
  exact resetSession_startsOver hc _ s₀

end

/-! ## Interpreters that keep to themselves -/

/-- What of a studio does not belong to its collaborators: all but their part of the state, their notes
and the log. -/
def shared (s : Studio S) : Studio Unit :=
  { s with
    host := { s.host with log := [] }
    journal := s.journal.filter fun m => !m.ofScript
    stage := () }

theorem shared_marked {m : Moment} (h : m.ofScript = false) (s : Studio S) :
    (s.marked m).shared = s.shared.marked m := by
  have kept : (s.journal ++ [m]).filter (fun m => !m.ofScript) =
      s.journal.filter (fun m => !m.ofScript) ++ [m] := by
    rw [List.filter_append, List.filter_cons_of_pos (by simp [h]), List.filter_nil]
  simp only [shared, marked, kept]

theorem shared_noted {m : Moment} (h : m.ofScript = true) (s : Studio S) :
    (s.marked m).shared = s.shared := by
  have kept : (s.journal ++ [m]).filter (fun m => !m.ofScript) =
      s.journal.filter (fun m => !m.ofScript) := by
    rw [List.filter_append, List.filter_cons_of_neg (by simp [h]), List.filter_nil, List.append_nil]
  simp only [shared, marked, kept]

/-- Nothing changes but what belongs to the collaborators. -/
def Private (s s' : Studio S) : Prop := s'.shared = s.shared

instance : Std.Refl (Private (S := S)) := ⟨fun _ => rfl⟩

instance : IsTrans (Studio S) Private := ⟨fun _ _ _ h h' => h'.trans h⟩

/-- The interpreters and the view of the transcript change nothing but what is their own. -/
structure Unobtrusive (c : Collaborators S) : Prop where
  create : ∀ n, Act.Along Private (c.create n)
  addClasspath : ∀ n path, Act.Along Private (c.addClasspath n path)
  output : ∀ {shows}, c.output = some shows → ∀ chunk, Act.Along Private (shows chunk)

/-- A script without commands changes nothing but what is its own. -/
theorem private_of_silent {script : Script S α} (silent : script.Gives fun _ => False) :
    Act.Along Private (script.run c) := by
  refine Script.along_of_gives ?_ (fun h => h.elim) silent
  exact {
    changed := fun _ => .modify fun _ => rfl
    noted := fun _ => .modify fun s => shared_noted rfl s
    reported := fun _ => .of_step fun s a s' h => by
      cases h
      exact .inr rfl
    returned := .modify fun s => shared_noted rfl s }

/-- The studio after the next interpreter was made and given some entries. -/
def outfitted (a : Studio S) (ps : List Path) : Studio S :=
  { a with
    interpreters := a.interpreters + 1
    journal := a.journal ++ .created (a.interpreters + 1) ::
      ps.map fun p => .classpath (a.interpreters + 1) (a.entry p) }

/-- The studio after its session was started over with the newest interpreter, and the prompt shown. -/
def startedOver (c : Collaborators S) (a : Studio Unit) : Studio Unit :=
  { a with
    session := a.session.fresh a.interpreters
    journal := a.journal ++ if c.output.isSome then [.printed prompt] else [] }

/-- What a reset with some entries leaves of a studio: all of them are given to the next interpreter,
with which the session starts over before the listeners are told; or the last one that is given is
refused, and the session stays as it is. -/
inductive Outcome (c : Collaborators S) (ps : List Path) (a : Studio Unit) :
    Option (Except Failure Unit × Studio S) → Prop
  | told {s : Studio S} : s.shared = (a.outfitted ps).startedOver c →
      Outcome c ps a (announce c ⟨.interactionsReset, none⟩ s)
  | refused {given rest : List Path} {f : Failure} {s : Studio S} : ps = given ++ rest →
      given ≠ [] → s.shared = a.outfitted given → Outcome c ps a (some (.error f, s))

section

variable (hc : Unobtrusive c)
include hc

theorem Outfitting.shared (h : Outfitting c n ps s r s') : ∃ given rest, ps = given ++ rest ∧
    (r = .ok () → rest = []) ∧ ((∃ f, r = .error f) → given ≠ []) ∧
      s'.shared = { s.shared with
        journal := s.shared.journal ++ given.map fun p => .classpath n (s.shared.entry p) } := by
  have step : ∀ {q : Except Failure Unit} {p : Path} {s s' : Studio S},
      c.addClasspath n (s.entry p) (s.marked (.classpath n (s.entry p))) = some (q, s') →
      s'.shared = s.shared.marked (.classpath n (s.shared.entry p)) := by
    intro q p s s' given
    have kept := (hc.addClasspath n (s.entry p)).post given
    exact kept.trans (shared_marked rfl s)
  induction h with
  | done =>
    refine ⟨[], [], rfl, fun _ => rfl, ?_, by simp⟩
    rintro ⟨f, failed⟩
    cases failed
  | @taken p ps s s₁ s' r given _ ih =>
    obtain ⟨taken, rest, hps, hok, -, hs'⟩ := ih
    refine ⟨p :: taken, rest, by rw [hps]; rfl, hok, fun _ => List.cons_ne_nil _ _, ?_⟩
    rw [hs', step given]
    simp only [marked, List.map_cons, List.append_assoc, List.singleton_append]
    rfl
  | @refused p ps s s' f given =>
    refine ⟨[p], ps, rfl, fun taken => ?_, fun _ => List.cons_ne_nil _ _, step given⟩
    cases taken

theorem showPrompt_shared (run : showPrompt c s = some (r, s')) :
    s'.shared = { s.shared with
      session := { s.session with pending := [], transcript := s.session.transcript ++ [prompt] }
      journal := s.shared.journal ++ if c.output.isSome then [.printed prompt] else [] } := by
  let i : Session :=
    { s.session with pending := [], transcript := s.session.transcript ++ [prompt] }
  obtain ⟨q, s₁, append, rest⟩ := Act.attempt_bind_eq_some.1
    (show appendQuietly c prompt (s.taken s.session.history) = some (r, s') from run)
  have shown : s₁.shared = { s.shared with
      session := i
      journal := s.shared.journal ++ if c.output.isSome then [.printed prompt] else [] } := by
    unfold appendTranscript at append
    cases hout : c.output with
    | none =>
      rw [hout] at append
      cases append
      simp [shared, taken, i]
    | some shows =>
      rw [hout] at append
      replace append : shows prompt ({ s with session := i }.marked (.printed prompt)) =
        some (q, s₁) := append
      have kept := (hc.output hout prompt).post append
      exact kept.trans (shared_marked rfl { s with session := i })
  cases q with
  | ok _ =>
    cases rest
    exact shown
  | error f =>
    simp only at rest
    split at rest <;> cases rest
    · exact shown
    · exact shown

theorem StartsOver.outcome {q : Option (Except Failure Unit × Studio S)} (h : StartsOver c ps s q) :
    Outcome c ps s.shared q := by
  have made : ∀ {s₁}, c.create (s.interpreters + 1) s.enlisting = some (.ok (), s₁) →
      s₁.shared = s.shared.enlisting := by
    intro s₁ run
    have kept := (hc.create (s.interpreters + 1)).post run
    exact kept.trans (shared_marked rfl { s with interpreters := s.interpreters + 1 })
  cases h with
  | @told s₁ s₂ s₃ create outfitting shown =>
    obtain ⟨given, rest, rfl, hok, -, hs₂⟩ := outfitting.shared hc
    obtain rfl := hok rfl
    refine .told ?_
    rw [made create] at hs₂
    have session : s₂.session = s.session := congrArg (fun a : Studio Unit => a.session) hs₂
    let i := restarted (s.interpreters + 1) s₂.session
    have begun : ({ s₂ with session := i } : Studio S).shared = { s₂.shared with session := i } := rfl
    rw [showPrompt_shared hc shown, begun, hs₂, session, List.append_nil]
    simp only [startedOver, outfitted, enlisting, marked, List.append_assoc, List.singleton_append]
    rfl
  | @refused s₁ s₂ f create outfitting =>
    obtain ⟨given, rest, hps, -, nonempty, hs₂⟩ := outfitting.shared hc
    refine .refused hps (nonempty ⟨f, rfl⟩) ?_
    rw [hs₂, made create]
    simp only [outfitted, enlisting, marked, List.append_assoc, List.singleton_append]
    rfl

end

/-! ## Resets -/

/-- A compile of a document ends without diagnostics. -/
def EndsClean (c : Collaborators S) (d : DocId) (s s' : Studio S) : Prop :=
  ∃ s₁ s₂, isReady c d s = some (.ok true, s₁) ∧
    announce c ⟨.compileStarted, none⟩ s₁ = some (.ok (), s₂) ∧
    (diagnose c d).ensuring (announce c ⟨.compileEnded, none⟩) s₂ = some (.ok [], s')

/-- A reset of the interactions gives the source roots and some more entries to the next interpreter, and
the session starts over with it. -/
structure SetsClasspath (c : Collaborators S) (extra : List Path) (s : Studio S) : Prop where
  run : ∃ s₀, (s₀ = s ∨ ∃ fault, s₀ = s.logged (withoutRoots fault)) ∧
    StartsOver c (s.classpathRoots ++ extra) s₀ (resetInteractions c s)
  outcome : Unobtrusive c → Outcome c (s.classpathRoots ++ extra) s.shared (resetInteractions c s)
  distinct : s.classpathRoots.Nodup
  untitled : (∃ d ∈ s.desk.registered, (s.desk.document d).path = none) → s.classpathRoots = []
  absolute : ∀ p ∈ s.classpathRoots ++ extra, (s.host.files.absolute p).isAbsolute = true

/-- Every reset of the interactions gives its entries to one new interpreter, up to the first that is
refused; without a refusal the session starts over with that interpreter and the listeners are told. A
clean compile, also one in the background, ends with such a reset. -/
theorem classpath_after_reset (hc : Obliging c) :
    (∀ (s : Studio S) (extra : List String), s.settings.extraClasspath = .arr (extra.map .str) →
      SetsClasspath c (extra.map Path.ofString) s) ∧
    (∀ d s s₁, EndsClean c d s s₁ → s₁.wiring.resetsAfterCompile = true → compile c d s =
      (resetConsole c >>= fun _ => resetInteractions c >>= fun _ => pure (some [])) s₁) ∧
    ∀ s s₁, announce c ⟨.compileEnded, none⟩ s = some (.ok (), s₁) →
      s₁.wiring.resetsAfterCompile = true →
      conclude c (.ok []) s = (resetConsole c >>= fun _ => resetInteractions c) s₁ := by
  refine ⟨fun s extra listed => ?_, fun d s s₁ clean wired => ?_, fun s s₁ ended wired => ?_⟩
  · obtain ⟨s₀, same, startsOver⟩ := resetInteractions_startsOver hc listed
    have shared : s₀.shared = s.shared := by
      rcases same with rfl | ⟨fault, rfl⟩ <;> rfl
    exact {
      run := ⟨s₀, same, startsOver⟩
      outcome := fun unobtrusive => shared ▸ startsOver.outcome unobtrusive
      distinct := s.classpathRoots_nodup
      untitled := fun ⟨_, held, untitled⟩ => classpathRoots_untitled held untitled
      absolute := fun p _ => s.host.files.absolute_isAbsolute p }
  · obtain ⟨s₂, s₃, ready, started, ended⟩ := clean
    rw [compile, Act.bind_of_ok ready, if_pos rfl, Act.bind_of_ok started, Act.bind_of_ok ended]
    rw [Act.bind_apply, celebrate_clean wired, ← Act.bind_apply, Act.bind_assoc]
  · rw [conclude, Act.bind_of_ok ended]
    exact celebrate_clean wired

end Studio

/-- The interpreters and the view of a cast that give no commands keep to themselves. -/
theorem Cast.unobtrusive {S : Type} {k : Cast S} (create : ∀ n, (k.create n).Gives fun _ => False)
    (addClasspath : ∀ n path, (k.addClasspath n path).Gives fun _ => False)
    (output : ∀ {shows}, k.output = some shows → ∀ chunk, (shows chunk).Gives fun _ => False)
    (patience depth : Nat) : Studio.Unobtrusive (k.collaborators patience depth) where
  create n := Cast.create_along fun _ => Studio.private_of_silent (create n)
  addClasspath n path := by
    cases depth with
    | zero => exact .forever
    | succ depth => exact Studio.private_of_silent (addClasspath n path)
  output h chunk := Cast.output_along (fun h _ => Studio.private_of_silent (output h chunk)) h

namespace Studio

/-- A studio with two documents in one directory whose settings list an entry for the classpath. -/
def sideBySide : Studio Unit :=
  { atRoot with
    desk := (({} : Desk).addOpened ⟨.root, ["a"]⟩ {}).addOpened ⟨.root, ["b"]⟩ {}
    settings := { atRoot.settings with extraClasspath := .arr [.str "lib"] } }

/-- Both documents have the same source root, and it goes on the classpath before the listed entry. -/
theorem classpath_after_reset_sideBySide : ∃ s',
    resetInteractions (Cast.idle.collaborators 1 1) sideBySide = some (.ok (), s') ∧
    Outcome (Cast.idle.collaborators 1 1) [⟨.root, []⟩, ⟨.here, ["lib"]⟩] sideBySide.shared
      (some (.ok (), s')) := by
  have obliging : Obliging (Cast.idle.collaborators 1 1) :=
    ⟨fun _ s => ⟨s, rfl⟩, fun _ _ s => ⟨_, s, rfl⟩, nofun, nofun⟩
  have unobtrusive : Unobtrusive (Cast.idle.collaborators 1 1) :=
    Cast.unobtrusive (k := Cast.idle) (fun _ => trivial) (fun _ _ => trivial) (fun h => nomatch h) 1 1
  obtain ⟨resets, -, -⟩ := classpath_after_reset obliging
  have outcome := (resets sideBySide ["lib"] rfl).outcome unobtrusive
  have entries : sideBySide.classpathRoots ++ ["lib"].map Path.ofString =
      [⟨.root, []⟩, ⟨.here, ["lib"]⟩] := by
    decide +kernel
  obtain ⟨s', run⟩ : ∃ s', resetInteractions (Cast.idle.collaborators 1 1) sideBySide =
      some (.ok (), s') := ⟨_, rfl⟩
  rw [entries, run] at outcome
  exact ⟨s', run, outcome⟩

/-- An interpreter can be made whenever one is wanted, but it refuses the first entry: the second one is
not given to it, the session goes on with the interpreter that it had, and nobody is told. -/
theorem reset_refused :
    (∀ n s, ∃ s', (Cast.refusing.collaborators 1 1).create n s = some (.ok (), s')) ∧
    ∃ s', resetInteractions (Cast.refusing.collaborators 1 1) sideBySide =
        some (.error (.outside .value none), s') ∧
      s'.session.interpreter = sideBySide.session.interpreter ∧ s'.interpreters = 1 ∧
      s'.deals = [] ∧ s'.journal.length = 2 :=
  ⟨fun _ s => ⟨s, rfl⟩, _, rfl, rfl, rfl, rfl, rfl⟩

end Studio

end JavaStudio
