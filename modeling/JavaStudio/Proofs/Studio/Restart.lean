import JavaStudio.Proofs.Studio.AllOrNothing
import JavaStudio.Proofs.Studio.Classpath
import JavaStudio.Proofs.Studio.Dialogue
import JavaStudio.Proofs.Studio.Recall

/-!
# A reset that fails

A session starts over in two steps: the next interpreter is made and given its entries, and then the
session takes it and the listeners are told. The first step can fail wherever an interpreter is called,
when it is made or at any of the entries (`Unequipped`), and then the second one is not begun.

* `reset_broken_off`: such a reset fails as the call did. The session is what it was, the listeners are not
  told of a reset, and the next line goes to the interpreter that the session had.
-/

namespace JavaStudio.Studio

variable {S : Type} {c : Collaborators S} {s s' s₁ s₂ : Studio S} {n : Nat} {f : Failure}
  {given ps : List Path} {entries : List ClasspathEntry}

/-! ## Calls that fail -/

/-- The next interpreter cannot be made, or it refuses an entry, whichever it is. The paths are those that
it was given, the one that it refuses included. -/
inductive Unequipped (c : Collaborators S) :
    List ClasspathEntry → Studio S → List Path → Failure → Studio S → Prop
  | unmade {entries : List ClasspathEntry} {s s' : Studio S} {f : Failure} :
      c.create (s.interpreters + 1) s.enlisting = some (.error f, s') →
      Unequipped c entries s [] f s'
  | refused {ps : List Path} {p : Path} {rest : List ClasspathEntry} {s s₁ s₂ s' : Studio S}
      {f : Failure} :
      c.create (s.interpreters + 1) s.enlisting = some (.ok (), s₁) →
      Outfitting c (s.interpreters + 1) ps s₁ (.ok ()) s₂ →
      c.addClasspath (s.interpreters + 1) (s₂.entry p)
        (s₂.marked (.classpath (s.interpreters + 1) (s₂.entry p))) = some (.error f, s') →
      Unequipped c (ps.map .ok ++ .ok p :: rest) s (ps ++ [p]) f s'

theorem Outfitting.refuse {p : Path} (taken : Outfitting c n ps s (.ok ()) s₁)
    (refused : c.addClasspath n (s₁.entry p) (s₁.marked (.classpath n (s₁.entry p))) =
      some (.error f, s')) :
    Outfitting c n (ps ++ [p]) s (.error f) s' := by
  generalize hr : Except.ok () = r at taken
  induction taken with
  | done => exact .refused refused
  | taken given _ ih => exact .taken given (ih refused hr)
  | refused => cases hr

/-- The entries behind one that is refused do not matter. -/
theorem Outfitting.addEntries {r : Except Failure Unit} (h : Outfitting c n ps s r s')
    (broken : r = .error f) (rest : List ClasspathEntry) :
    addEntries c n (ps.map .ok ++ rest) s = some (.error f, s') := by
  induction h with
  | done => cases broken
  | taken given _ ih =>
    rw [List.map_cons, List.cons_append, addEntries_cons, Act.bind_of_ok given]
    exact ih broken
  | refused given =>
    cases broken
    rw [List.map_cons, List.cons_append, addEntries_cons]
    exact Act.bind_of_error given _

/-- The reset fails as the call did, in the studio that the call left. -/
theorem Unequipped.reset (h : Unequipped c entries s given f s') :
    resetSession c entries s = some (.error f, s') := by
  rw [resetSession_eq]
  refine Act.bind_of_error ?_ _
  rw [outfit, Act.bind_apply, createInterpreter_eq]
  cases h with
  | unmade unmade => rw [Act.bind_of_error unmade]
  | @refused ps p rest _ s₁ s₂ _ _ made taken refused =>
    -- The entries are split at the one that is refused, so the rest of them is never looked at.
    have added : addEntries c (s.interpreters + 1) (ps.map .ok ++ .ok p :: rest) s₁ =
        some (.error f, s') := by
      have all := (taken.refuse refused).addEntries rfl rest
      rwa [List.map_append, List.append_assoc] at all
    rw [Act.bind_of_ok made]
    exact Act.bind_of_error added _

/-! ## What such calls leave -/

/-- How often the listeners were told of a reset so far. -/
def resetsTold (s : Studio S) : Nat := s.announcements.count ⟨.interactionsReset, none⟩

/-- The session is as it was, and the listeners were not told of a reset in between. -/
structure Unreset (s s' : Studio S) : Prop where
  session : s'.session = s.session
  told : s'.resetsTold = s.resetsTold

theorem Unreset.trans (h : Unreset s s₁) (h' : Unreset s₁ s') : Unreset s s' :=
  ⟨h'.session.trans h.session, h'.told.trans h.told⟩

theorem unreset_marked (s : Studio S) {m : Moment} (untold : m.announcement? = none) :
    Unreset s (s.marked m) := by
  refine ⟨rfl, ?_⟩
  rw [resetsTold, announcements_append (m := m) rfl, untold]
  exact congrArg (List.count _) (List.append_nil _)

theorem unreset_enlisting (s : Studio S) : Unreset s s.enlisting := by
  have counted : Unreset s { s with interpreters := s.interpreters + 1 } := ⟨rfl, rfl⟩
  exact counted.trans (unreset_marked _ rfl)

/-- What changes nothing but what belongs to the collaborators leaves the session alone. -/
theorem Private.unreset (h : Private s s') : Unreset s s' := by
  have announcements : ∀ s : Studio S, s.announcements = s.shared.announcements := by
    intro s
    unfold Studio.announcements Studio.shared
    rw [List.filterMap_filter]
    refine congrArg (List.filterMap · s.journal) (funext fun m => ?_)
    cases m <;> rfl
  refine ⟨congrArg (fun a : Studio Unit => a.session) h, ?_⟩
  rw [resetsTold, resetsTold, announcements s, announcements s', h]

/-- Making an interpreter and giving it an entry leave the session alone, and no listener is told of a
reset then. -/
structure Reserved (c : Collaborators S) : Prop where
  create : ∀ {n s r s'}, c.create n s = some (r, s') → Unreset s s'
  addClasspath : ∀ {n path s r s'}, c.addClasspath n path s = some (r, s') → Unreset s s'

theorem Unobtrusive.reserved (hc : Unobtrusive c) : Reserved c where
  create run := Private.unreset ((hc.create _).post run)
  addClasspath run := Private.unreset ((hc.addClasspath _ _).post run)

theorem Outfitting.unreset (hc : Reserved c) {r : Except Failure Unit} (h : Outfitting c n ps s r s') :
    Unreset s s' := by
  have step : ∀ {q : Except Failure Unit} {p : Path} {s s' : Studio S},
      c.addClasspath n (s.entry p) (s.marked (.classpath n (s.entry p))) = some (q, s') →
      Unreset s s' := fun given => (unreset_marked _ rfl).trans (hc.addClasspath given)
  induction h with
  | done => exact ⟨rfl, rfl⟩
  | taken given _ ih => exact (step given).trans ih
  | refused given => exact step given

namespace Unequipped

theorem unreset (h : Unequipped c entries s given f s') (hc : Reserved c) : Unreset s s' := by
  cases h with
  | unmade unmade => exact (unreset_enlisting s).trans (hc.create unmade)
  | refused made taken refused =>
    have enlisted : Unreset s _ := (unreset_enlisting s).trans (hc.create made)
    exact enlisted.trans ((taken.refuse refused).unreset hc)

/-- Of what is not the collaborators' own only the number of interpreters and the journal change. -/
theorem shared (h : Unequipped c entries s given f s') (hc : Unobtrusive c) :
    s'.shared = s.shared.outfitted given := by
  have made : ∀ {r : Except Failure Unit} {s₁},
      c.create (s.interpreters + 1) s.enlisting = some (r, s₁) → s₁.shared = s.shared.enlisting := by
    intro r s₁ run
    have kept := (hc.create (s.interpreters + 1)).post run
    exact kept.trans (shared_marked rfl { s with interpreters := s.interpreters + 1 })
  cases h with
  | unmade unmade => exact made unmade
  | @refused ps p rest _ s₁ s₂ _ _ create taken refused =>
    obtain ⟨all, more, rfl, whole, -, hs₂⟩ := taken.shared hc
    obtain rfl := whole rfl
    have last : s'.shared = s₂.shared.marked (.classpath (s.interpreters + 1) (s₂.entry p)) :=
      ((hc.addClasspath _ _).post refused).trans (shared_marked rfl s₂)
    have entry : s₂.entry p = s.shared.entry p := by
      show s₂.shared.entry p = _
      rw [hs₂, made create]
      rfl
    rw [last, entry, hs₂, made create]
    simp only [outfitted, enlisting, marked, List.map_append, List.append_nil, List.append_assoc,
      List.cons_append]
    rfl

end Unequipped

/-! ## The next line -/

/-- What is submitted in one studio goes the way it would have gone in another: it is the same line, and
the interpreter of the other session is asked for it. -/
structure GoesOn (c : Collaborators S) (s s' : Studio S) : Prop where
  line : ∀ given, s'.submittedLine given = s.submittedLine given
  evaluates : ∀ {given h}, History.add (s.submittedLine given) s.session.history = (.ok (), h) →
    (Text.trim (s.submittedLine given)).isEmpty = false →
    submit c given s' = (evaluateLine c s.session.interpreter (s.submittedLine given) >>=
      fun _ => showPrompt c) (s'.taken h)
  asked : Discreet c → ∀ {keyword : Wide}, s.session.keyword = .ofWide keyword →
    ∀ {given r s''}, submit c given s' = some (r, s'') → ∃ answer,
      Submission c keyword (s.submittedLine given) s' answer r s'' ∧
      s''.interpretations = s'.interpretations ++ Turn.asked keyword
        (.submitted s.session.interpreter (s.submittedLine given) answer)

theorem goesOn (same : s'.session = s.session) : GoesOn c s s' := by
  have line : ∀ given, s'.submittedLine given = s.submittedLine given := by
    intro given
    rw [submittedLine, submittedLine, same]
  refine ⟨line, fun {given h} added spoken => ?_, fun hc keyword launcher given r s'' run => ?_⟩
  · rw [← line, ← same] at added
    rw [submit_of_added added, line, spoken, same]
    rfl
  · obtain ⟨answer, came⟩ := submit_submission hc (same ▸ launcher) run
    have asked := came.interpretations hc
    rw [same, line] at asked
    exact ⟨answer, line given ▸ came, asked⟩

/-- A reset fails if the next interpreter cannot be made or refuses an entry. It is the failure of that
call, the session is what it was and no listener is told of a reset, unless an interpreter does so itself.
The next line goes to the interpreter that the session had. -/
theorem reset_broken_off (broken : Unequipped c entries s given f s') :
    resetSession c entries s = some (.error f, s') ∧
    (Reserved c → Unreset s s' ∧ GoesOn c s s') ∧
    (Unobtrusive c → s'.shared = s.shared.outfitted given) := by
  refine ⟨broken.reset, fun reserved => ?_, broken.shared⟩
  have unreset := broken.unreset reserved
  exact ⟨unreset, goesOn unreset.session⟩

/-- Interpreters that take one directory only. -/
def picky : Cast Unit :=
  { Cast.idle with
    addClasspath := fun _ path => if path = "/a" then .done () else .fail (.outside .value none) }

theorem picky_unobtrusive : Unobtrusive (picky.collaborators 1 1) := by
  refine Cast.unobtrusive (k := picky) (fun _ => trivial) (fun _ path => ?_) (fun h => nomatch h) 1 1
  by_cases taken : path = "/a"
  · simp only [picky, if_pos taken]
    trivial
  · simp only [picky, if_neg taken]
    trivial

theorem picky_discreet : picky.Discreet := {
  Cast.discreet_idle with }

/-- A studio whose session has its first interpreter. -/
def firstSession : Studio Unit :=
  { atRoot with
    session := { freshSession (.int 500) (.str "java") with interpreter := 1 }
    interpreters := 1 }

/-- The second of three entries is refused, and a line that is submitted then is evaluated by the first
interpreter. -/
theorem reset_broken_off_second : ∃ s' s'',
    resetSession (picky.collaborators 1 1) [.ok ⟨.root, ["a"]⟩, .ok ⟨.root, ["b"]⟩, .ok ⟨.root, ["c"]⟩]
        firstSession = some (.error (.outside .value none), s') ∧
    s'.session = firstSession.session ∧ s'.interpreters = 2 ∧ s'.resetsTold = 0 ∧
    submit (picky.collaborators 1 1) (some ['x']) s' = some (.ok (), s'') ∧
    s''.interpretations = [(1, ['x'])] := by
  obtain ⟨s', broken, unasked, s'', run⟩ : ∃ s', Unequipped (picky.collaborators 1 1)
      [.ok ⟨.root, ["a"]⟩, .ok ⟨.root, ["b"]⟩, .ok ⟨.root, ["c"]⟩] firstSession
      [⟨.root, ["a"]⟩, ⟨.root, ["b"]⟩] (.outside .value none) s' ∧ s'.interpretations = [] ∧
      ∃ s'', submit (picky.collaborators 1 1) (some ['x']) s' = some (.ok (), s'') :=
    ⟨_, @Unequipped.refused _ _ [⟨.root, ["a"]⟩] ⟨.root, ["b"]⟩ [.ok ⟨.root, ["c"]⟩] _ _ _ _ _ rfl
      (.taken rfl .done) rfl, rfl, _, rfl⟩
  obtain ⟨failed, reserved, unobtrusive⟩ := reset_broken_off broken
  obtain ⟨unreset, goesOn⟩ := reserved picky_unobtrusive.reserved
  obtain ⟨answer, came, asked⟩ := goesOn.asked (picky_discreet.collaborators 1 1)
    (Json.str_eq_ofWide "java") run
  have counted : s'.shared.interpreters = 2 :=
    congrArg (fun a : Studio Unit => a.interpreters) (unobtrusive picky_unobtrusive)
  refine ⟨s', s'', failed, unreset.session, counted, unreset.told, run, ?_⟩
  cases came with
  | blank _ blank => cases blank
  | answered =>
    rw [asked, unasked]
    rfl

end JavaStudio.Studio
