import JavaStudio.Proofs.Settings.Load
import JavaStudio.Proofs.Studio.Submit

/-!
# Submissions under loaded settings

A session is built from settings that were loaded from a file, and lines are submitted to it one after
another. `submit_loaded` says what can come of each: it returns with the prompt at the end of the
transcript, unless the limit of the history is written as a float and was passed (`Full`), which raises
every time, or a failed evaluation cannot be put into words, which raises what went wrong with its
words. `submit_overfull` is a run in which the limit `2.0` is passed.
-/

namespace JavaStudio.Studio

variable {S : Type} {c : Collaborators S} {settings : Settings} {s s' : Studio S}

/-- A studio whose session has the keyword and the limit of the settings, joined or loose. -/
inductive Built (c : Collaborators S) (settings : Settings) : Studio S → Prop
  | joined {registry : Task Host Registry} {s₀ s : Studio S} : s₀.settings = settings →
      assemble c registry s₀ = some (.ok (), s) → Built c settings s
  | loose {registry : Registry} {s₀ s : Studio S} :
      assembleLoose c registry settings.launcherKeyword settings.historyLimit s₀ = some (.ok (), s) →
      Built c settings s

/-- A submission with what came of it. -/
def Submits (c : Collaborators S) (row : Option Text × Except Failure Unit) (s s' : Studio S) : Prop :=
  submit c row.1 s = some (row.2, s')

/-- So many lines are more than a history can be trimmed to. -/
def Full (settings : Settings) (lines : Nat) : Prop :=
  ∃ x, settings.historyLimit = .num (.float x) ∧ x.gtInt 1 = true ∧ x.ltInt lines = true

/-- What is known of a session after so many submissions. -/
structure Served (keyword : Wide) (limit : Number) (lines : Nat) (s : Studio S) : Prop where
  launcher : s.session.keyword = .ofWide keyword
  bound : s.session.history.limit = limit
  entries : ∀ x, limit = .float x → s.session.history.entries.length = lines

theorem atLeast_eq_float {limit : Number} {x : Binary64} (h : limit.atLeast 1 = .float x) :
    limit = .float x ∧ x.gtInt 1 = true := by
  unfold Number.atLeast at h
  split at h
  · rename_i above
    rw [h] at above
    exact ⟨h, above⟩
  · cases h

theorem Built.session (h : Built c settings s) : ∃ s₁ s₂,
    beginSession c settings.launcherKeyword settings.historyLimit s₁ = some (.ok (), s₂) ∧
      s.session = s₂.session := by
  cases h with
  | joined same run =>
    obtain ⟨_, _, s₂, begun, rfl⟩ := assemble_eq_ok run
    rw [same] at begun
    exact ⟨_, s₂, begun, rfl⟩
  | loose run =>
    obtain ⟨_, s₁, -, run⟩ := Act.bind_eq_ok.1 run
    obtain ⟨_, s₂, begun, run⟩ := Act.bind_eq_ok.1 run
    cases run
    exact ⟨s₁, s₂, begun, rfl⟩

section

variable (hc : Discreet c)
include hc

theorem served_built {keyword : Wide} {limit : Number}
    (launcher : settings.launcherKeyword = .ofWide keyword) (hlimit : settings.historyLimit = .num limit)
    (built : Built c settings s) : Served keyword (limit.atLeast 1) 0 s := by
  obtain ⟨s₁, s₂, begun, session⟩ := built.session
  rw [launcher, hlimit] at begun
  obtain ⟨n, begun⟩ := beginSession_begun hc begun
  rw [begun] at session
  exact ⟨by rw [session]; rfl, by rw [session]; rfl, fun _ _ => by rw [session]; rfl⟩

namespace Served

variable {keyword : Wide} {limit : Number} {lines : Nat}

theorem step {row : Option Text × Except Failure Unit} (h : Served keyword limit lines s)
    (run : Submits c row s s') : Served keyword limit (lines + 1) s' := by
  obtain ⟨answer, came⟩ := submit_submission hc h.launcher run
  obtain ⟨history, word⟩ := came.history hc
  refine ⟨word.trans h.launcher, ?_, fun x hx => ?_⟩
  · rw [history, history_add_limit, h.bound]
  · rw [history, (history_add_float _ (h.bound.trans hx)).1, List.length_append, h.entries x hx]
    rfl

theorem run {rows : List (Option Text × Except Failure Unit)} (h : Served keyword limit 0 s)
    (submitted : Labelled SameSession (Submits c) s rows s') :
    Served keyword limit rows.length s' := by
  induction submitted with
  | start => exact h
  | aside _ same ih =>
    exact ⟨by rw [same.session]; exact ih.launcher, by rw [same.session]; exact ih.bound,
      by rw [same.session]; exact ih.entries⟩
  | step _ row ih =>
    rw [List.length_append]
    exact ih.step hc row

end Served

end

/-! ## Three lines -/

/-- A host with one file, that of the settings. -/
def settingsIn (content : String) : Host :=
  { files := { tree := ⟨[("s", .file (Utf8.encode content.toList))]⟩ } }

/-- What the third of three submissions fails with under the settings of a file, if the studio is built
and the others return. -/
def thirdFailure (content : String) : Option (Option (Option Failure)) :=
  (Store.load ⟨.root, ["s"]⟩ [] (settingsIn content)).1.toOption.map fun settings =>
    ((do
        assemble (Cast.idle.collaborators 1 1) (pure {})
        submit (Cast.idle.collaborators 1 1) (some ['a'])
        submit (Cast.idle.collaborators 1 1) (some ['b'])
        (submit (Cast.idle.collaborators 1 1) (some ['c'])).attempt : Act (Studio Unit) _)
      { atRoot with settings := settings }).bind fun row => match row.1 with
        | .ok (.error f) => some (some f)
        | .ok (.ok _) => some none
        | .error _ => none

theorem thirdFailure_eq_some {content : String} {r : Option Failure}
    (h : thirdFailure content = some (some r)) : ∃ settings host' s s₁ s₂ s₃ q,
      Store.load ⟨.root, ["s"]⟩ [] (settingsIn content) = (.ok settings, host') ∧
      assemble (Cast.idle.collaborators 1 1) (pure {}) { atRoot with settings := settings } =
        some (.ok (), s) ∧
      submit (Cast.idle.collaborators 1 1) (some ['a']) s = some (.ok (), s₁) ∧
      submit (Cast.idle.collaborators 1 1) (some ['b']) s₁ = some (.ok (), s₂) ∧
      submit (Cast.idle.collaborators 1 1) (some ['c']) s₂ = some (q, s₃) ∧
      q = r.elim (.ok ()) .error := by
  obtain ⟨settings, loads, run⟩ := Option.map_eq_some_iff.1 h
  obtain ⟨⟨q, s₃⟩, run, seen⟩ := Option.bind_eq_some_iff.1 run
  rcases hload : Store.load ⟨.root, ["s"]⟩ [] (settingsIn content) with ⟨_ | _, host'⟩ <;>
    rw [hload] at loads <;> cases loads
  have returned : ∃ q', q = .ok q' ∧ q' = r.elim (.ok ()) .error := by
    rcases q with _ | _ | _ <;> cases seen <;> exact ⟨_, rfl, rfl⟩
  obtain ⟨q', rfl, hq⟩ := returned
  obtain ⟨_, s, built, run⟩ := Act.bind_eq_ok.1 run
  obtain ⟨_, s₁, first, run⟩ := Act.bind_eq_ok.1 run
  obtain ⟨_, s₂, second, run⟩ := Act.bind_eq_ok.1 run
  obtain ⟨_, h, third⟩ := Act.attempt_eq_some.1 run
  cases h
  exact ⟨settings, host', s, s₁, s₂, s₃, q', rfl, built, first, second, third, hq⟩

/-! ## What can come of a submission -/

/-- What can come of a submission to a session whose settings were loaded, after other submissions: it
returns with the prompt at the end of the transcript, or a failed evaluation cannot be put into words.
It fails whenever the lines pass a limit that is written as a float. -/
theorem submit_loaded (hc : Discreet c) (interprets : ∀ n source, Act.Ends (c.interpret n source))
    (shows : ∀ {f}, c.output = some f → ∀ chunk, Act.Ends (f chunk)) {p : Path} {host host' : Host}
    (sound : Schema.Sound host.validate) (unset : Store.Unset host.environment)
    (loaded : Store.load p [] host = (.ok settings, host'))
    (built : Built c settings s) {rows : List (Option Text × Except Failure Unit)}
    (submitted : Labelled SameSession (Submits c) s rows s') (given : Option Text) :
    ∃ q s'', submit c given s' = some (q, s'') ∧
      (Full settings (rows.length + 1) → q = .error (.wrongKind .notPlace)) ∧
      (¬ Full settings (rows.length + 1) →
        q = .ok () ∧ s''.session.transcript.getLast? = some prompt ∨
        ∃ keyword s₁ s₂ answer f g, settings.launcherKeyword = .ofWide keyword ∧
          c.interpret s'.session.interpreter (sourceOf keyword (s'.submittedLine given)) s₁ =
            some (answer, s₂) ∧
          evaluated answer = .error f ∧ f.words = .error g ∧ q = .error g) := by
  have satisfied := Store.load_satisfied sound unset loaded
  obtain ⟨keyword, launcher⟩ : ∃ keyword, settings.launcherKeyword = .ofWide keyword :=
    Schema.isMet_solidString (satisfied .launcherKeyword .solidString (by decide))
  obtain ⟨limit, hlimit, -, -⟩ :=
    Schema.isMet_integerFrom (satisfied .historyLimit (.integerFrom 1) (by decide))
  have served := (served_built hc launcher hlimit built).run hc submitted
  obtain ⟨q, s'', run⟩ := submit_ends shows interprets given s'
  obtain ⟨answer, came⟩ := submit_submission hc served.launcher run
  -- a line is refused exactly if it is one more than can be trimmed
  have refuses : ∀ x, limit.atLeast 1 = .float x →
      (History.add (s'.submittedLine given) s'.session.history).1 =
        if x.ltInt ((rows.length + 1 : Nat) : Int) then .error (.wrongKind .notPlace) else .ok () := by
    intro x hx
    have float := (history_add_float (s'.submittedLine given) (served.bound.trans hx)).2
    rwa [served.entries x hx] at float
  refine ⟨q, s'', run, ?_, fun fits => ?_⟩
  · rintro ⟨x, hx, above, below⟩
    cases hlimit.symm.trans hx
    have refused := refuses x (by rw [Number.atLeast, Number.gtInt, if_pos above])
    rw [if_pos below] at refused
    cases came with
    | untrimmed add =>
      rw [add] at refused
      exact refused
    | blank add | answered add | speechless add =>
      rw [add] at refused
      cases refused
  · have prompted : q = .ok () → s''.session.transcript.getLast? = some prompt := by
      rintro rfl
      exact came.prompted
    cases came with
    | untrimmed add =>
      cases hfloat : limit.atLeast 1 with
      | int n =>
        have taken := history_add_int (s'.submittedLine given) (served.bound.trans hfloat)
        rw [add] at taken
        cases taken
      | float x =>
        obtain ⟨rfl, above⟩ := atLeast_eq_float hfloat
        have refused := refuses x hfloat
        rw [add] at refused
        split at refused
        · rename_i below
          exact absurd ⟨x, hlimit, above, below⟩ fits
        · cases refused
    | blank | answered => exact .inl ⟨rfl, prompted rfl⟩
    | speechless _ _ _ interpreted failed silent =>
      exact .inr ⟨keyword, _, _, _, _, _, launcher, interpreted, failed, silent, rfl⟩

/-- With the limit 2 the third line is taken. -/
theorem submit_loaded_idle : ∃ settings host' s s₂ s₃,
    Store.load ⟨.root, ["s"]⟩ [] (settingsIn "\x7b\"version\": 1, \"history_limit\": 2\x7d") =
        (.ok settings, host') ∧
      Built (Cast.idle.collaborators 1 1) settings s ∧
      Labelled SameSession (Submits (Cast.idle.collaborators 1 1)) s
        [(some ['a'], .ok ()), (some ['b'], .ok ())] s₂ ∧
      submit (Cast.idle.collaborators 1 1) (some ['c']) s₂ = some (.ok (), s₃) ∧
      s₃.session.transcript.getLast? = some prompt := by
  have run : thirdFailure "\x7b\"version\": 1, \"history_limit\": 2\x7d" = some (some none) := by
    decide +kernel
  obtain ⟨settings, host', s, s₁, s₂, s₃, _, loaded, assembled, first, second, third, rfl⟩ :=
    thirdFailure_eq_some run
  have built : Built (Cast.idle.collaborators 1 1) settings s := .joined rfl assembled
  have rows : Labelled SameSession (Submits (Cast.idle.collaborators 1 1)) s
      [(some ['a'], .ok ()), (some ['b'], .ok ())] s₂ := (Labelled.start.step first).step second
  obtain ⟨q, s', run, full, fits⟩ := submit_loaded (Cast.discreet_idle.collaborators 1 1)
    (fun n source => (Script.ends_of_gives (fun h => h.elim) (Cast.discreet_idle.interpret n source)))
    (fun {f} h _ => nomatch h) Schema.sound_check Store.unset_empty loaded built rows (some ['c'])
  cases third.symm.trans run
  have room : ¬ Full settings 3 := fun h => nomatch full h
  obtain ⟨-, prompted⟩ | ⟨_, _, _, _, _, _, -, -, -, -, h⟩ := fits room
  · exact ⟨settings, host', s, s₂, s₃, loaded, built, rows, third, prompted⟩
  · cases h

/-- With the limit 2.0 the third line raises. -/
theorem submit_overfull : ∃ settings host' s s₁ s₂ s₃,
    Store.load ⟨.root, ["s"]⟩ [] (settingsIn "\x7b\"version\": 1, \"history_limit\": 2.0\x7d") =
        (.ok settings, host') ∧
      assemble (Cast.idle.collaborators 1 1) (pure {}) { atRoot with settings := settings } =
        some (.ok (), s) ∧
      submit (Cast.idle.collaborators 1 1) (some ['a']) s = some (.ok (), s₁) ∧
      submit (Cast.idle.collaborators 1 1) (some ['b']) s₁ = some (.ok (), s₂) ∧
      submit (Cast.idle.collaborators 1 1) (some ['c']) s₂ =
        some (.error (.wrongKind .notPlace), s₃) := by
  have run : thirdFailure "\x7b\"version\": 1, \"history_limit\": 2.0\x7d" =
      some (some (some (.wrongKind .notPlace))) := by decide +kernel
  obtain ⟨settings, host', s, s₁, s₂, s₃, _, loaded, assembled, first, second, third, rfl⟩ :=
    thirdFailure_eq_some run
  exact ⟨settings, host', s, s₁, s₂, s₃, loaded, assembled, first, second, third⟩

end JavaStudio.Studio
