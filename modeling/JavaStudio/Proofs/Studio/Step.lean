import JavaStudio.Proofs.Files.Locate
import JavaStudio.Proofs.Studio.Books
import JavaStudio.Proofs.Studio.Close
import JavaStudio.Studio.Command

/-!
# Steps of a studio

All that a studio does to its desk, to the files and to its journal is a chain of small steps.
`Step` lists them with what is known where they are taken: a document is opened at a path that no
registered document has, saved where no other one is found, removed by consent. `Terms` says what
the collaborators may do besides giving commands. A document is put on the desk, or taken from it, in
a `Passage`, which is announced at once. What a studio does is shown for any relation `r` that
`Covers` the passages and all other steps, or those of them that leave the books alone, and a crew of
collaborators whose calls `Follows` it.
-/

namespace JavaStudio

/-- The scene that a moment carries. -/
def Moment.scene? : Moment → Option Scene
  | announced _ scene | asked _ scene | returned scene => some scene
  | _ => none

/-- The listeners are told of these when a document is put on the desk or taken from it. -/
def EventKind.ofLife : EventKind → Bool
  | documentCreated | documentOpened | documentClosed => true
  | _ => false

/-- The keeper of the recent files follows these: a document was opened from a file, or saved to one. -/
def EventKind.ofFile : EventKind → Bool
  | documentOpened | documentSaved => true
  | _ => false

/-- A moment bears on the listeners or the recent files: a file was opened or saved, or the listeners
were rearranged. -/
def Moment.isHeard : Moment → Bool
  | announced e _ => e.kind.ofFile
  | rearranged _ => true
  | _ => false

/-- What a moment announces of the life of a document, if it does. -/
def Moment.life? : Moment → Option Event
  | announced e _ => if e.kind.ofLife then some e else none
  | _ => none

theorem Moment.life?_of_scene? {m : Moment} (h : m.scene? = none) : m.life? = none := by
  cases m <;> first | rfl | cases h

theorem Moment.life?_announced {e : Event} {scene : Scene} (h : e.kind.ofLife = false) :
    (announced e scene).life? = none := by
  simp [life?, h]

namespace Files

/-- A call on the files from outside, whether it succeeds or not. -/
inductive Touched : Files → Files → Prop
  | stored (p : Path) (content : Bytes) (fs : Files) : Touched fs (writeBytes p content fs).2
  | made (name : String) (fs : Files) : Touched fs (makeDirectories name fs).2
  | deleted (name : String) (fs : Files) : Touched fs (removeNamed name fs).2

/-- A change of the files: a buffer was written, completely or not, or others touched them. -/
inductive Change (others : Prop) : Files → Files → Prop
  | written (refused : Refusals) (b : Buffer) (p : Path) (fs : Files) :
      Change others fs (b.writeUnder refused p fs).2
  | touched {fs fs' : Files} : others → Touched fs fs' → Change others fs fs'

theorem Change.of_write {others : Prop} {refused : Refusals} {b : Buffer} {p : Path}
    {fs fs' : Files} {r : Except Failure Unit} (h : b.writeUnder refused p fs = (r, fs')) :
    Change others fs fs' := by
  have change : Change others fs (b.writeUnder refused p fs).2 := .written refused b p fs
  rw [h] at change
  exact change

/-- What files can become. -/
abbrev Evolves (others : Prop) : Files → Files → Prop := Relation.ReflTransGen (Change others)

end Files

namespace Studio

variable {S : Type}

/-- On what terms a studio runs. -/
structure Terms (S : Type) where
  /-- Whose votes count. -/
  crew : Collaborators S → Prop
  /-- Others touch the files. -/
  others : Prop
  /-- Something happens between the reading of a file and the making of its document. -/
  between : Prop
  /-- The paths by which files are chosen. -/
  picks : Path → Prop

/-- A change of a buffer after which it is modified, or its text and its mark are what they were. -/
def Edit (b b' : Buffer) : Prop :=
  b'.modified = true ∨ b'.text = b.text ∧ b'.modified = b.modified

/-- What one step does to the desk, the files and the journal. -/
inductive Step (t : Terms S) : Studio S → Studio S → Prop
  | aside {s s' : Studio S} (desk : s'.desk = s.desk) (files : s'.host.files = s.host.files)
      (journal : s'.journal = s.journal) : Step t s s'
  | noted {s s' : Studio S} {m : Moment} (scene : ∀ scene, m.scene? = some scene → scene = s.scene)
      (desk : s'.desk = s.desk) (files : s'.host.files = s.host.files)
      (journal : s'.journal = s.journal ++ [m]) : Step t s s'
  | touched {s s' : Studio S} (allowed : t.others) (call : s.host.files.Touched s'.host.files)
      (desk : s'.desk = s.desk) (journal : s'.journal = s.journal) : Step t s s'
  | created {s s' : Studio S} {b : Buffer} (desk : s'.desk = s.desk.addUntitled b)
      (files : s'.host.files = s.host.files) (journal : s'.journal = s.journal) : Step t s s'
  | opened {s s' : Studio S} {fs : Files} {chosen target : Path} {fresh b : Buffer}
      (picked : t.picks chosen) (located : fs.locate chosen = .ok target)
      (read : fresh.read fs target = .ok b) (same : ¬ t.between → fs = s.host.files)
      (free : s.desk.findAt target = none) (desk : s'.desk = s.desk.addOpened target b.markSaved)
      (files : s'.host.files = s.host.files) (journal : s'.journal = s.journal) : Step t s s'
  | saved {s s' : Studio S} {d : DocId} {chosen target : Path} {found : Option DocId}
      {refused : Refusals} (picked : t.picks chosen ∨ (s.desk.document d).path = some chosen)
      (located : s.host.files.locate chosen = .ok target)
      (look : s.desk.find s.host.files target = .ok found) (own : found = none ∨ found = some d)
      (written : (s.desk.document d).buffer.writeUnder refused target s.host.files =
        (.ok (), s'.host.files))
      (desk : s'.desk = s.desk.saved d target) (journal : s'.journal = s.journal) : Step t s s'
  | closed {s s' : Studio S} {d : DocId} (consent : ∃ c s₀, t.crew c ∧ Consented c d s₀ s)
      (held : s.desk.holds d = true) (desk : s'.desk = s.desk.remove d)
      (files : s'.host.files = s.host.files) (journal : s'.journal = s.journal) : Step t s s'
  | edited {s s' : Studio S} {d : DocId} {f : Buffer → Buffer}
      (edit : Edit (s.desk.document d).buffer (f (s.desk.document d).buffer))
      (desk : s'.desk = s.desk.changeBuffer d f)
      (files : s'.host.files = s.host.files) (journal : s'.journal = s.journal) : Step t s s'

/-- The registered documents, and what was announced of the lives of documents. -/
def roll (s : Studio S) : List DocId × List Event :=
  (s.desk.registered, s.journal.filterMap Moment.life?)

theorem roll_marked {m : Moment} (h : m.life? = none) (s : Studio S) :
    (s.marked m).roll = s.roll := by
  show (s.desk.registered, (s.journal ++ [m]).filterMap Moment.life?) = _
  rw [List.filterMap_append, List.filterMap_cons_none h, List.filterMap_nil, List.append_nil]
  rfl

/-- A document is put on the desk or taken from it, and the event is what the listeners are told at
once. -/
inductive Passage (t : Terms S) : Event → Studio S → Studio S → Prop
  | created {s : Studio S} {b : Buffer} :
      Passage t ⟨.documentCreated, some s.desk.nextId⟩ s { s with desk := s.desk.addUntitled b }
  | opened {s : Studio S} {fs : Files} {chosen target : Path} {fresh b : Buffer} :
      t.picks chosen → fs.locate chosen = .ok target → fresh.read fs target = .ok b →
      (¬ t.between → fs = s.host.files) → s.desk.findAt target = none →
      Passage t ⟨.documentOpened, some s.desk.nextId⟩ s
        { s with desk := s.desk.addOpened target b.markSaved }
  | closed {s : Studio S} {d : DocId} : (∃ c s₀, t.crew c ∧ Consented c d s₀ s) →
      s.desk.holds d = true → Passage t ⟨.documentClosed, some d⟩ s (s.without d)

theorem Passage.step {t : Terms S} {e : Event} {s s' : Studio S} (h : Passage t e s s') :
    Step t s s' ∧ s'.books = s.books := by
  cases h with
  | created => exact ⟨.created rfl rfl rfl, rfl⟩
  | opened picked located read same free =>
    exact ⟨.opened picked located read same free rfl rfl rfl, rfl⟩
  | closed consent held => exact ⟨.closed consent held rfl rfl rfl, rfl⟩

theorem Passage.entries {t : Terms S} {e : Event} {s s' : Studio S} (h : Passage t e s s')
    (scene : Scene) :
    (Moment.announced e scene).entries = [] := by
  cases h <;> rfl

/-- The relation has the passages, and the steps that leave the roll alone; unless `aloud`, only those
that leave the books alone. -/
structure Covers (t : Terms S) (aloud : Prop) (r : Studio S → Studio S → Prop) : Prop where
  quiet : ∀ ⦃s s'⦄, Step t s s' → aloud ∨ s'.books = s.books → s'.roll = s.roll → r s s'
  passage : ∀ ⦃e s s'⦄, Passage t e s s' →
    Relation.ReflTransGen r s (s'.marked (.announced e s'.scene))

/-- The listeners of a studio, the recent files and the moments that bear on them. -/
def audience (s : Studio S) : List Listener × Json × List Moment :=
  (s.bus, s.settings.recentFiles, s.journal.filter Moment.isHeard)

theorem audience_marked {m : Moment} (h : m.isHeard = false) (s : Studio S) :
    (s.marked m).audience = s.audience := by
  show (s.bus, s.settings.recentFiles, (s.journal ++ [m]).filter Moment.isHeard) = _
  rw [List.filter_append, List.filter_cons_of_neg (by simp [h]), List.filter_nil, List.append_nil]
  rfl

/-- The relation has the steps that leave the roll and the audience alone; unless `aloud`, only those
that leave the books alone. -/
structure Moves (t : Terms S) (aloud : Prop) (r : Studio S → Studio S → Prop) : Prop where
  quiet : ∀ ⦃s s'⦄, Step t s s' → aloud ∨ s'.books = s.books → s'.roll = s.roll →
    s'.audience = s.audience → r s s'

theorem Covers.moves {t : Terms S} {aloud : Prop} {r : Studio S → Studio S → Prop}
    (h : Covers t aloud r) : Moves t aloud r where
  quiet _ _ step books roll _ := h.quiet step books roll

/-- The relation has the announcements of what becomes of documents, whoever makes them. -/
def Tells (r : Studio S → Studio S → Prop) : Prop :=
  ∀ e (s : Studio S), e.kind.ofLife = true → r s (s.marked (.announced e s.scene))

/-- A relation that has all steps covers them, in whatever order they come. -/
theorem Covers.of_steps {t : Terms S} {aloud : Prop} {r : Studio S → Studio S → Prop}
    (h : ∀ ⦃s s'⦄, Step t s s' → aloud ∨ s'.books = s.books → r s s') : Covers t aloud r where
  quiet _ _ step books _ := h step books
  passage e s s' change := by
    obtain ⟨step, books⟩ := change.step
    have told : Step t s' (s'.marked (.announced e s'.scene)) :=
      .noted (fun scene hs => by cases hs; rfl) rfl rfl rfl
    exact .tail (.single (h step (.inr books)))
      (h told (.inr (books_marked_of_nil (change.entries s'.scene) s')))

/-- Collaborators that keep to the terms: their calls take steps of a relation that covers those of
the studio. -/
structure Follows (t : Terms S) (aloud : Prop) (r : Studio S → Studio S → Prop)
    (c : Collaborators S) : Prop where
  covers : Covers t aloud r
  member : t.crew c
  handler : ∀ {n e h}, c.handler n e = some h → Act.Along r h
  choose : ∀ n, Act.Along r (c.choose n)
  picks : ∀ {n s p s'}, c.choose n s = some (.ok p, s') → t.picks p
  afterRead : Act.Along r c.afterRead
  idle : ¬ t.between → ∀ s q s', c.afterRead s = some (q, s') → s' = s
  create : ∀ n, Act.Along r (c.create n)
  addClasspath : ∀ n p, Act.Along r (c.addClasspath n p)
  interpret : ∀ n source, Act.Along r (c.interpret n source)
  output : ∀ {f}, c.output = some f → ∀ chunk, Act.Along r (f chunk)
  recallFailed : ∀ view, Act.Along r (c.recallFailed view)
  exit : ∀ code, Act.Along r (c.exit code)
  compile : ∀ k root files, Act.Along r (c.compile k root files)

theorem Step.covers {t : Terms S} : Covers t True (Step t) := .of_steps fun _ _ h _ => h

theorem Step.tells {t : Terms S} : Tells (Step t) := fun _ _ _ =>
  .noted (fun scene hs => by cases hs; rfl) rfl rfl rfl

theorem Step.of_concerns {t : Terms S} {s s' : Studio S} (h : s'.concerns = s.concerns) :
    Step t s s' ∧ s'.books = s.books ∧ s'.roll = s.roll := by
  simp only [concerns, Prod.mk.injEq] at h
  obtain ⟨desk, files, journal, jobs, queue, futures, resets⟩ := h
  refine ⟨.aside desk files journal, ?_, ?_⟩
  · simp only [books, deals, journal, jobs, queue, futures, resets]
  · simp only [roll, desk, journal]

/-! ## What does not concern the desk, the files or the journal -/

section

variable {t : Terms S} {aloud : Prop} {r : Studio S → Studio S → Prop} {α : Type}

theorem askFiles_along (f : Files → Except Failure α) :
    Act.Along r (askFiles f : Act (Studio S) α) :=
  .asks _

theorem Covers.of_concerns (hr : Covers t aloud r) {s s' : Studio S}
    (h : s'.concerns = s.concerns) : r s s' := by
  obtain ⟨step, books, roll⟩ := Step.of_concerns (t := t) h
  exact hr.quiet step (.inr books) roll

/-- All that the steps and the audience of a studio are about. -/
def outline (s : Studio S) :
    (Desk × Files × List Moment × List Job × List Completion × List FutureState × Bool) ×
      List Listener × Json :=
  (s.concerns, s.bus, s.settings.recentFiles)

variable (hr : Moves t aloud r)
include hr

theorem Moves.of_outline {s s' : Studio S} (h : s'.outline = s.outline) : r s s' := by
  obtain ⟨same, heard⟩ := Prod.mk.inj h
  obtain ⟨bus, recent⟩ := Prod.mk.inj heard
  obtain ⟨step, books, roll⟩ := Step.of_concerns (t := t) same
  have journal : s'.journal = s.journal := congrArg (fun concerns => concerns.2.2.1) same
  refine hr.quiet step (.inr books) roll ?_
  rw [audience, audience, bus, recent, journal]

theorem aside_along {x : Act (Studio S) α}
    (h : ∀ s a s', x s = some (a, s') → s'.outline = s.outline) : Act.Along r x :=
  .of_step fun s a s' hx => .inr (hr.of_outline (h s a s' hx))

theorem update_along {f : Studio S → Studio S} (h : ∀ s, (f s).outline = s.outline) :
    Act.Along r (modify f : Act (Studio S) Unit) :=
  .modify fun s => hr.of_outline (h s)

theorem report_along (row : LogRecord) : Act.Along r (report row : Act (Studio S) Unit) :=
  aside_along hr fun s a s' h => by cases h; rfl

theorem onSession_along (f : Session → Session) :
    Act.Along r (onSession f : Act (Studio S) Unit) :=
  update_along hr fun _ => rfl

theorem onHistory_along (x : Task History α) : Act.Along r (onHistory x : Act (Studio S) α) :=
  aside_along hr fun s a s' h => by cases h; rfl

theorem setRegistry_along (q : Registry) : Act.Along r (setRegistry q : Act (Studio S) Unit) :=
  update_along hr fun _ => rfl

theorem record_along {m : Moment} (h : m.scene? = none) (hm : aloud ∨ m.entries = [])
    (unheard : m.isHeard = false) : Act.Along r (record m : Act (Studio S) Unit) :=
  .modify fun s => hr.quiet (.noted (fun scene hs => by rw [h] at hs; cases hs) rfl rfl rfl)
    (hm.imp_right fun hm => books_marked_of_nil hm s) (roll_marked (Moment.life?_of_scene? h) s)
    (audience_marked unheard s)

theorem mark_along {m : Scene → Moment} (h : ∀ scene, (m scene).scene? = some scene)
    (hm : aloud ∨ ∀ scene, (m scene).entries = []) (hl : ∀ scene, (m scene).life? = none)
    (unheard : ∀ scene, (m scene).isHeard = false) :
    Act.Along r (mark m : Act (Studio S) Unit) :=
  .modify fun s =>
    hr.quiet (.noted (fun scene hs => by rw [h s.scene] at hs; cases hs; rfl) rfl rfl rfl)
      (hm.imp_right fun hm => books_marked_of_nil (hm s.scene) s) (roll_marked (hl s.scene) s)
      (audience_marked (unheard s.scene) s)

end

/-- The studio after a change of the subscriptions. -/
def attendedBy (s : Studio S) (change : Rearrangement) : Studio S :=
  { s with bus := change.apply s.bus }

theorem rearrange_along {t : Terms S} {aloud : Prop} {r : Studio S → Studio S → Prop}
    (hr : Covers t aloud r) (change : Rearrangement) :
    Act.Along r (rearrange change : Act (Studio S) Unit) := by
  intro s q s' h
  cases h
  have changed : Step t s ((s.attendedBy change).marked (.rearranged change)) :=
    .noted (m := .rearranged change) (fun _ hs => nomatch hs) rfl rfl rfl
  exact .single (hr.quiet changed (.inr (books_marked_of_nil rfl (s.attendedBy change)))
    (roll_marked rfl (s.attendedBy change)))

theorem quietly_along {r : Studio S → Studio S → Prop} {x : Act (Studio S) Unit}
    (h : Act.Along r x) : Act.Along r (quietly x) :=
  h.bind fun _ => .pure _

/-! ## Telling and asking -/

theorem remember_eq_ok {fs : Files} {s s' : Settings} {p : Path} (h : s.remember fs p = .ok s') :
    ∃ recent, s' = { s with recentFiles := recent } := by
  unfold Settings.remember at h
  split at h
  · cases h
  · split at h <;> cases h
    exact ⟨_, rfl⟩

theorem rememberFile_eq_some {e : Event} {r : Except Failure Unit} {s s' : Studio S}
    (h : rememberFile e s = some (r, s')) :
    ∃ recent, s' = { s with settings := { s.settings with recentFiles := recent } } := by
  obtain ⟨kind, _ | d⟩ := e
  · cases h
    exact ⟨_, rfl⟩
  · simp only [rememberFile, Act.get_bind] at h
    rcases hp : (s.desk.document d).path with _ | p <;> rw [hp] at h
    · cases h
      exact ⟨_, rfl⟩
    · simp only at h
      split at h
      · rename_i settings hs
        obtain ⟨recent, rfl⟩ := remember_eq_ok hs
        cases h
        exact ⟨recent, rfl⟩
      · cases h
        exact ⟨_, rfl⟩

/-- The keeper of the recent files changes these only. -/
theorem keepRecent_eq_some {e : Event} {r : Except Failure Bool} {s s' : Studio S}
    (h : keepRecent e s = some (r, s')) :
    ∃ recent, s' = { s with settings := { s.settings with recentFiles := recent } } := by
  have kept : ∀ {b : Bool},
      (rememberFile e >>= fun _ => pure b : Act (Studio S) Bool) s = some (r, s') →
      ∃ recent, s' = { s with settings := { s.settings with recentFiles := recent } } := by
    intro b h
    rcases Act.bind_eq_some.1 h with ⟨_, s₁, h₁, h₂⟩ | ⟨f, h₁, -⟩
    · cases h₂
      exact rememberFile_eq_some h₁
    · exact rememberFile_eq_some h₁
  obtain ⟨kind, d⟩ := e
  cases kind with
  | documentOpened => exact kept h
  | documentSaved => exact kept h
  | _ =>
    cases h
    exact ⟨_, rfl⟩

section

variable {r : Studio S → Studio S → Prop} {c : Collaborators S} {e : Event}
  (report : ∀ row, Act.Along r (report row : Act (Studio S) Unit))
include report

theorem guardedCall_along {l : Listener} {doing : String} {h : Act (Studio S) Bool}
    (hh : Act.Along r h) : Act.Along r (guardedCall c l doing e h) := by
  refine hh.attempt.bind fun q => ?_
  split
  · exact .pure _
  · exact .ite ((report _).bind fun _ => .pure _) (.throw _)

/-- Listeners are called by steps if their handlers take steps. -/
theorem deliverAll_along {ls : List Listener}
    (handlers : ∀ l ∈ ls, ∀ h, handlerOf c l e = some h → Act.Along r h) :
    Act.Along r (deliverAll c e ls) := by
  induction ls with
  | nil => exact .pure _
  | cons l ls ih =>
    have first : Act.Along r (deliver c e l) := by
      unfold deliver
      split
      · exact .pure _
      · rename_i h hh
        have handler := handlers l List.mem_cons_self h hh
        exact (guardedCall_along report handler).bind fun _ => .pure _
    exact first.bind fun _ => ih fun l hl => handlers l (List.mem_cons_of_mem _ hl)

end

/-- Steps of `r` are all that the handlers for an event and the log need. -/
structure Within (r : Studio S → Studio S → Prop) (c : Collaborators S) (e : Event) : Prop where
  report : ∀ row, Act.Along r (report row : Act (Studio S) Unit)
  handler : ∀ {l h}, handlerOf c l e = some h → Act.Along r h

namespace Within

theorem of_outside {r : Studio S → Studio S → Prop} {c : Collaborators S} {e : Event}
    (report : ∀ row, Act.Along r (Studio.report row : Act (Studio S) Unit))
    (recent : Act.Along r (keepRecent e : Act (Studio S) Bool))
    (outside : ∀ {n h}, c.handler n e = some h → Act.Along r h) : Within r c e where
  report := report
  handler {l h} hh := by
    cases l with
    | recentFiles =>
      simp only [handlerOf] at hh
      split at hh
      · cases hh
        exact recent
      · cases hh
    | outside n => exact outside hh

variable {r : Studio S → Studio S → Prop} {c : Collaborators S} {e : Event} (hc : Within r c e)
include hc

theorem deliverAll (ls : List Listener) : Act.Along r (deliverAll c e ls) :=
  deliverAll_along hc.report fun _ _ _ hh => hc.handler hh

theorem askOne (l : Listener) : Act.Along r (askOne c e l) := by
  unfold Studio.askOne
  split
  · exact .pure _
  · rename_i h hh
    exact (guardedCall_along hc.report (hc.handler hh)).bind fun _ => .pure _

theorem askAll (ls : List Listener) : Act.Along r (askAll c e ls) := by
  induction ls with
  | nil => exact .pure _
  | cons l ls ih => exact (hc.askOne l).bind fun _ => ih.bind fun _ => .pure _

end Within

/-! ## What telling listeners comes to -/

section

variable {c : Collaborators S} {e : Event} {s s' : Studio S} {f : Failure}

theorem guardedCall_error {l : Listener} {doing : String} {h : Act (Studio S) Bool}
    (hf : guardedCall c l doing e h s = some (.error f, s')) :
    h s = some (.error f, s') ∧ f.isOrdinary = false := by
  rcases guardedCall_eq_some.1 hf with ⟨_, -, hr⟩ | ⟨_, _, -, -, hr, -⟩ | ⟨f', failed, final, hr⟩
  · cases hr
  · cases hr
  · cases hr
    exact ⟨failed, final⟩

/-- One of some listeners ends the program when it is called for an event. -/
def Halts (c : Collaborators S) (e : Event) (ls : List Listener) (f : Failure) : Prop :=
  ∃ l ∈ ls, ∃ s s', Breaks c e l s f s'

theorem Halts.final {ls : List Listener} (h : Halts c e ls f) : f.isOrdinary = false := by
  obtain ⟨l, -, s, s', handler, -, -, final⟩ := h
  exact final

theorem deliverAll_halts {ls : List Listener} (h : deliverAll c e ls s = some (.error f, s')) :
    Halts c e ls f := by
  induction ls generalizing s with
  | nil => cases h
  | cons l ls ih =>
    rcases Act.bind_eq_some.1 h with ⟨_, s₁, -, hrest⟩ | ⟨f', hf, hr⟩
    · obtain ⟨l', hl', breaks⟩ := ih hrest
      exact ⟨l', List.mem_cons_of_mem l hl', breaks⟩
    · cases hr
      unfold deliver at hf
      rcases hh : handlerOf c l e with _ | handler <;> rw [hh] at hf
      · cases hf
      · rcases Act.bind_eq_some.1 hf with ⟨_, _, -, hr⟩ | ⟨g, called, hr⟩
        · cases hr
        · cases hr
          obtain ⟨failed, final⟩ := guardedCall_error called
          exact ⟨l, List.mem_cons_self, s, s', handler, hh, failed, final⟩

/-- Telling the listeners fails only where one of them ends the program. -/
theorem announce_halts (h : announce c e s = some (.error f, s')) : Halts c e s.bus f :=
  deliverAll_halts (s := s.marked (.announced e s.scene)) h

theorem announce_error (h : announce c e s = some (.error f, s')) : f.isOrdinary = false :=
  (announce_halts h).final

/-- The handlers for an event do not end the program. -/
def Ordinary (c : Collaborators S) (e : Event) : Prop :=
  ∀ {l h s f s'}, handlerOf c l e = some h → h s = some (.error f, s') → f.isOrdinary = true

theorem Ordinary.unbroken {ls : List Listener} (h : Ordinary c e) : ¬ PollBreaks c e ls s f s' := by
  intro breaks
  induction breaks with
  | here off =>
    obtain ⟨handler, hh, run, ends⟩ := off
    rw [h hh run] at ends
    cases ends
  | later _ _ ih => exact ih

theorem Ordinary.unhalted {ls : List Listener} (h : Ordinary c e) : ¬ Halts c e ls f := by
  rintro ⟨l, -, s, s', handler, hh, run, final⟩
  rw [h hh run] at final
  cases final

theorem rememberFile_ordinary (h : rememberFile e s = some (.error f, s')) :
    f.isOrdinary = true := by
  obtain ⟨kind, _ | d⟩ := e
  · cases h
    rfl
  · simp only [rememberFile, Act.get_bind] at h
    rcases hp : (s.desk.document d).path with _ | p <;> rw [hp] at h
    · cases h
    · simp only at h
      split at h
      · cases h
      · rename_i remembered
        cases h
        unfold Settings.remember at remembered
        split at remembered
        · rename_i located
          cases remembered
          exact Files.locate_ordinary located
        · split at remembered
          · rename_i listed
            cases remembered
            unfold Settings.items at listed
            split at listed <;> cases listed
            rfl
          · cases remembered

theorem keepRecent_ordinary (h : keepRecent e s = some (.error f, s')) :
    f.isOrdinary = true := by
  have kept : ∀ {b : Bool},
      (rememberFile e >>= fun _ => pure b : Act (Studio S) Bool) s = some (.error f, s') →
      f.isOrdinary = true := by
    intro b h
    rcases Act.bind_eq_some.1 h with ⟨_, s₁, -, h₂⟩ | ⟨g, h₁, hg⟩
    · cases h₂
    · cases hg
      exact rememberFile_ordinary h₁
  obtain ⟨kind, d⟩ := e
  cases kind with
  | documentOpened => exact kept h
  | documentSaved => exact kept h
  | _ => cases h

theorem ordinary_of_outside (outside : ∀ n h s f s', c.handler n e = some h →
    h s = some (.error f, s') → f.isOrdinary = true) : Ordinary c e := by
  intro l h s f s' hh run
  cases l with
  | recentFiles =>
    simp only [handlerOf] at hh
    split at hh
    · cases hh
      exact keepRecent_ordinary run
    · cases hh
  | outside n => exact outside n h s f s' hh run

theorem rememberFile_ends (e : Event) : Act.Ends (rememberFile e : Act (Studio S) Unit) := by
  unfold rememberFile
  split
  · exact .throw _
  · refine .bind .get fun s => ?_
    split
    · exact .pure _
    · intro s
      simp only
      split <;> exact ⟨_, _, rfl⟩

theorem keepRecent_ends (e : Event) : Act.Ends (keepRecent e : Act (Studio S) Bool) := by
  unfold keepRecent
  split
  · exact (rememberFile_ends e).bind fun _ => .pure _
  · exact (rememberFile_ends e).bind fun _ => .pure _
  · exact .pure _
  · exact .pure _

theorem report_ends (row : LogRecord) : Act.Ends (report row : Act (Studio S) Unit) :=
  fun _ => ⟨_, _, rfl⟩

section

variable (ends : ∀ {n h}, c.handler n e = some h → Act.Ends h)
include ends

theorem handlerOf_ends {l : Listener} {h : Act (Studio S) Bool} (hh : handlerOf c l e = some h) :
    Act.Ends h := by
  cases l with
  | recentFiles =>
    simp only [handlerOf] at hh
    split at hh
    · cases hh
      exact keepRecent_ends e
    · cases hh
  | outside n => exact ends hh

theorem guardedCall_ends {l : Listener} {doing : String} {h : Act (Studio S) Bool}
    (hh : handlerOf c l e = some h) : Act.Ends (guardedCall c l doing e h) := by
  refine (handlerOf_ends ends hh).attempt.bind fun q => ?_
  split
  · exact .pure _
  · exact .ite ((report_ends _).bind fun _ => .pure _) (.throw _)

/-- Telling the listeners ends when their handlers do. -/
theorem announce_ends : Act.Ends (announce c e) := by
  have deliver : ∀ l, Act.Ends (deliver c e l) := by
    intro l
    unfold Studio.deliver
    split
    · exact .pure _
    · rename_i h hh
      exact (guardedCall_ends ends hh).bind fun _ => .pure _
  have all : ∀ ls, Act.Ends (deliverAll c e ls) := by
    intro ls
    induction ls with
    | nil => exact .pure _
    | cons l ls ih => exact (deliver l).bind fun _ => ih
  exact .bind .get fun s => (Act.Ends.modify _).bind fun _ => all s.bus

/-- So does asking them. -/
theorem ask_ends : Act.Ends (ask c e) := by
  have askOne : ∀ l, Act.Ends (askOne c e l) := by
    intro l
    unfold Studio.askOne
    split
    · exact .pure _
    · rename_i h hh
      exact (guardedCall_ends ends hh).bind fun _ => .pure _
  have all : ∀ ls, Act.Ends (askAll c e ls) := by
    intro ls
    induction ls with
    | nil => exact .pure _
    | cons l ls ih => exact (askOne l).bind fun _ => ih.bind fun _ => .pure _
  exact .bind .get fun s => (Act.Ends.modify _).bind fun _ => all s.bus

end

end

section

variable {t : Terms S} {aloud : Prop} {r : Studio S → Studio S → Prop} {c : Collaborators S}
  (hc : Follows t aloud r c)
include hc

theorem Follows.keepRecent (e : Event) : Act.Along r (keepRecent e : Act (Studio S) Bool) := by
  refine .of_step fun s a s' h => .inr (hc.covers.of_concerns ?_)
  obtain ⟨settings, rfl⟩ := keepRecent_eq_some h
  rfl

theorem Follows.within (e : Event) : Within r c e :=
  .of_outside (report_along hc.covers.moves) (hc.keepRecent e) hc.handler

/-- After the announcement of an event the listeners are called. -/
theorem announce_told {e : Event} {s s' : Studio S} {q : Except Failure Unit}
    (told : announce c e s = some (q, s')) :
    Relation.ReflTransGen r (s.marked (.announced e s.scene)) s' :=
  (hc.within e).deliverAll s.bus told

theorem Follows.announces {e : Event} (he : aloud ∨ e.kind.ofCompile = false)
    (hl : e.kind.ofLife = false) : Act.Along r (announce c e) := by
  intro s q s' told
  have marked : Step t s (s.marked (.announced e s.scene)) :=
    .noted (fun scene hs => by cases hs; rfl) rfl rfl rfl
  have silent : e.kind.ofCompile = false → (Moment.announced e s.scene).entries = [] := fun he =>
    List.filter_eq_nil_iff.2 (by simp [Moment.deal?, Deal.ofCompile, he])
  have books := he.imp_right fun he => books_marked_of_nil (silent he) s
  exact .head (hc.covers.quiet marked books (roll_marked (Moment.life?_announced hl) s))
    (announce_told hc told)

/-- A passage of a document and what the listeners do when they are told of it. -/
theorem passage_along {e : Event} {s s₁ s' : Studio S} {q : Except Failure Unit}
    (passage : Passage t e s s₁) (told : announce c e s₁ = some (q, s')) :
    Relation.ReflTransGen r s s' :=
  (hc.covers.passage passage).trans (announce_told hc told)

theorem Follows.asks (e : Event) : Act.Along r (ask c e) :=
  .bind .get fun s => (mark_along hc.covers.moves (fun _ => rfl) (.inr fun _ => rfl) (fun _ => rfl)
    fun _ => rfl).bind fun _ => (hc.within e).askAll s.bus

end

end Studio

end JavaStudio
