import JavaStudio.Proofs.Studio.Documents
import JavaStudio.Proofs.Studio.Runs

/-!
# Faces

What of a studio can be seen of a compile: desk, files, console, session, who listens, and the `Deal`s
between the studio and its collaborators so far. A collaborator that gives no commands leaves the face
as it is (`Calm`); one that only saves a document changes neither console nor session (`Kept`).
`Cast.OnlySaves` and `OnlySaves` say that of all collaborators that a compile calls.

* `announce_calm`: telling calm listeners adds one deal to the face.
* `Cast.OnlySaves.collaborators`: the collaborators that play such a cast.
-/

namespace JavaStudio

/-- What can be seen of a studio. -/
structure Face where
  desk : Desk
  files : Files
  console : List Text
  session : Session
  interpreters : Nat
  bus : List Listener
  classpath : Json
  wiring : Wiring
  deals : List Deal

/-- The face after some more deals. -/
def Face.dealt (a : Face) (ds : List Deal) : Face := { a with deals := a.deals ++ ds }

@[simp] theorem Face.dealt_nil (a : Face) : a.dealt [] = a := by
  simp [dealt]

@[simp] theorem Face.dealt_dealt (a : Face) (ds es : List Deal) :
    (a.dealt ds).dealt es = a.dealt (ds ++ es) := by
  simp [dealt]

/-- The command saves the document. -/
def Command.Saves (d : DocId) : Command DocId CompilerId → Prop
  | .document e (.save _) | .document e (.saveAs _) => e = d
  | _ => False

namespace Studio

variable {S α β : Type} {c : Collaborators S} {s s' : Studio S} {d : DocId}

def face (s : Studio S) : Face where
  desk := s.desk
  files := s.host.files
  console := s.console
  session := s.session
  interpreters := s.interpreters
  bus := s.bus
  classpath := s.settings.extraClasspath
  wiring := s.wiring
  deals := s.deals

theorem face_marked (s : Studio S) (m : Moment) :
    (s.marked m).face = s.face.dealt m.deal?.toList := by
  have adds : (s.marked m).deals = s.deals ++ m.deal?.toList := deals_append rfl
  simp only [face, Face.dealt, adds]
  rfl

/-! ## Calm acts -/

def SameFace (s s' : Studio S) : Prop := s'.face = s.face

instance : Std.Refl (SameFace (S := S)) := ⟨fun _ => rfl⟩

instance : IsTrans (Studio S) SameFace := ⟨fun _ _ _ h h' => h'.trans h⟩

/-- The act ends and leaves the face as it is. -/
abbrev Calm (x : Act (Studio S) α) : Prop := Act.Total SameFace x

theorem report_calm (row : LogRecord) : Calm (report row : Act (Studio S) Unit) :=
  fun _ => ⟨_, _, rfl, rfl⟩

theorem record_calm {m : Moment} (h : m.deal? = none) : Calm (record m : Act (Studio S) Unit) :=
  fun s => ⟨_, s.marked m, rfl, by
    rw [SameFace, face_marked, h]
    exact Face.dealt_nil _⟩

theorem calm_of_gives {script : Script S α} (silent : script.Gives fun _ => False) :
    Calm (script.run c) :=
  .of_along (Script.ends_of_gives (fun h => h.elim) silent) <|
    Script.along_of_gives {
      changed := fun _ => .modify fun _ => rfl
      noted := fun _ => (record_calm rfl).along
      reported := fun row => (report_calm row).along
      returned := .modify fun s => (face_marked s _).trans (Face.dealt_nil _) }
      (fun h => h.elim) silent

/-! ## Telling listeners -/

theorem keepRecent_calm (e : Event) : Calm (keepRecent e : Act (Studio S) Bool) := by
  refine .of_along (keepRecent_ends e) (.of_step fun s a s' h => ?_)
  obtain ⟨settings, rfl⟩ := keepRecent_eq_some h
  exact .inr rfl

/-- Telling listeners, when what they do with an event is calm, adds one deal to the face. -/
theorem announce_calm {e : Event} (calm : ∀ {n h}, c.handler n e = some h → Calm h)
    (s : Studio S) : ∃ r s', announce c e s = some (r, s') ∧ s'.face = s.face.dealt [.told e] ∧
      ∀ f, r = .error f → Halts c e s.bus f := by
  have within : Within SameFace c e := {
    report := fun row => (report_calm row).along
    handler := fun {l h} hh => by
      cases l with
      | recentFiles =>
        simp only [handlerOf] at hh
        split at hh
        · cases hh
          exact (keepRecent_calm e).along
        · cases hh
      | outside n => exact (calm hh).along }
  obtain ⟨r, s', told⟩ := announce_ends (e := e) (fun hh => (calm hh).ends) s
  have same := within.deliverAll s.bus (s := s.marked (.announced e s.scene)) told
  rw [Relation.reflTransGen_eq_self] at same
  refine ⟨r, s', told, same.trans (face_marked s _), ?_⟩
  rintro f rfl
  exact announce_halts told

/-! ## Saving -/

/-- What saving a document keeps of a face. It adds nothing but the news that the document was
saved. -/
structure Kept (d : DocId) (a b : Face) : Prop where
  console : b.console = a.console
  session : b.session = a.session
  interpreters : b.interpreters = a.interpreters
  bus : b.bus = a.bus
  classpath : b.classpath = a.classpath
  wiring : b.wiring = a.wiring
  deals : ∃ saves, b.deals = a.deals ++ saves ∧ ∀ x ∈ saves, x = .saved d

theorem Kept.refl (a : Face) : Kept d a a :=
  ⟨rfl, rfl, rfl, rfl, rfl, rfl, [], (List.append_nil _).symm, nofun⟩

theorem Kept.trans {a b b' : Face} (h : Kept d a b) (h' : Kept d b b') : Kept d a b' := by
  obtain ⟨saves, hsaves, only⟩ := h.deals
  obtain ⟨saves', hsaves', only'⟩ := h'.deals
  refine ⟨h'.console.trans h.console, h'.session.trans h.session,
    h'.interpreters.trans h.interpreters, h'.bus.trans h.bus, h'.classpath.trans h.classpath,
    h'.wiring.trans h.wiring, saves ++ saves', ?_, ?_⟩
  · rw [hsaves', hsaves, List.append_assoc]
  · exact fun x hx => (List.mem_append.1 hx).elim (only x) (only' x)

/-- What saving a document may do to a studio. -/
def SameButSaved (d : DocId) (s s' : Studio S) : Prop := Kept d s.face s'.face

instance : Std.Refl (SameButSaved (S := S) d) := ⟨fun s => .refl s.face⟩

instance : IsTrans (Studio S) (SameButSaved d) := ⟨fun _ _ _ => .trans⟩

/-- The act ends and at most saves the document. -/
abbrev SavesOnly (d : DocId) (x : Act (Studio S) α) : Prop := Act.Total (SameButSaved d) x

theorem SameFace.butSaved (h : SameFace s s') : SameButSaved d s s' := by
  unfold SameButSaved
  rw [h]
  exact .refl _

theorem SavesOnly.of_calm {x : Act (Studio S) α} (h : Calm x) : SavesOnly d x :=
  h.mono SameFace.butSaved

theorem choose_calm (choose : ∀ n, Calm (c.choose n)) (selector : Selector) :
    Calm (selector.choose c) := by
  cases selector with
  | ok p => exact .pure p
  | error f => exact .ofExcept (.error f)
  | view n => exact choose n

section

variable (telling : ∀ {n h}, c.handler n ⟨.documentSaved, some d⟩ = some h → Calm h)
  (choose : ∀ n, Calm (c.choose n))

include telling

theorem saveTo_saves (target : Path) : SavesOnly d (saveTo c d target) := by
  refine .of_along ?_ fun s r s' run => ?_
  · have refuse : ∀ found, Act.Ends (refuseOther d found : Act (Studio S) Unit) := by
      intro found
      refine .ite (.pure _) ?_
      cases found with
      | none => exact .pure _
      | some d => exact .bind .get fun _ => .throw _
    exact (Act.Ends.asks _).bind fun found => (refuse found).bind fun _ => .bind .get fun s =>
      .bind (fun _ => ⟨_, _, rfl⟩) fun _ => (Act.Ends.modify _).bind fun _ =>
        announce_ends fun hh => (telling hh).ends
  · cases saveTo_saving run with
    | failed => exact .refl
    | @saved found fs _ _ _ _ _ told =>
      obtain ⟨r', _, told', face, -⟩ := announce_calm telling
        { s with host := { s.host with files := fs }, desk := s.desk.saved d target }
      cases told.symm.trans told'
      refine .single ?_
      unfold SameButSaved
      rw [face]
      exact ⟨rfl, rfl, rfl, rfl, rfl, rfl, [.saved d], rfl, by simp⟩

include choose

theorem saveAs_saves (selector : Selector) : SavesOnly d (saveAs c d selector) := by
  have found : Calm (chosenPath c selector) := by
    refine ((choose_calm choose selector).bind fun p => .asks _).attempt.bind fun r => ?_
    split
    · exact .pure _
    · exact .pure _
    · exact .throw _
  refine (SavesOnly.of_calm found).bind fun r => ?_
  split
  · exact .pure _
  · exact (saveTo_saves telling _).bind fun _ => .pure _

theorem command_saves {command : Command DocId CompilerId} (saves : command.Saves d) :
    SavesOnly d (command.run c) := by
  cases command with
  | document e command =>
    cases command with
    | saveAs selector =>
      obtain rfl : e = d := saves
      exact (saveAs_saves telling choose selector).bind fun _ => .pure _
    | save selector =>
      obtain rfl : e = d := saves
      refine .bind (.bind .get fun s => ?_) fun _ => .pure _
      split
      · exact saveAs_saves telling choose _
      · exact saveAs_saves telling choose _
    | _ => exact saves.elim
  | _ => exact saves.elim

end

/-! ## Collaborators that only save -/

/-- Of the collaborators that a compile calls, those that are asked to save a document save it and do
nothing else, and the others are calm. Interpreters can be made. -/
structure OnlySaves (c : Collaborators S) : Prop where
  saving : ∀ {n d h}, c.handler n ⟨.saveRequested, some d⟩ = some h → SavesOnly d h
  telling : ∀ {n e h}, e.kind ≠ .saveRequested → c.handler n e = some h → Calm h
  create : ∀ n s, ∃ s', c.create n s = some (.ok (), s') ∧ s'.face = s.face
  addClasspath : ∀ n p, Calm (c.addClasspath n p)
  output : ∀ {f}, c.output = some f → ∀ chunk, Calm (f chunk)
  compile : ∀ k root files, Calm (c.compile k root files)

end Studio

/-- All failures with which a script may end have a property. -/
def Script.Raises {S α : Type} (p : Failure → Prop) : Script S α → Prop
  | done _ => True
  | fail f => p f
  | look next => ∀ s, (next s).Raises p
  | change _ next => next.Raises p
  | note _ next => next.Raises p
  | report _ next => next.Raises p
  | call _ next => ∀ r, (next r).Raises p

open Studio

variable {S : Type}

theorem Script.raises_of_run {α : Type} {c : Collaborators S} {p : Failure → Prop}
    {script : Script S α} (raises : script.Raises p) {s s' : Studio S} {f : Failure}
    (run : script.run c s = some (.error f, s')) : p f := by
  induction script generalizing s with
  | done a => cases run
  | fail g =>
    cases run
    exact raises
  | look next ih => exact ih s (raises s) run
  | change f next ih => exact ih raises (s := { s with stage := f s.stage }) run
  | note row next ih => exact ih raises (s := s.marked (.noted row)) run
  | report row next ih => exact ih raises (s := s.logged row) run
  | call command next ih =>
    obtain ⟨q, s₁, -, rest⟩ := Act.attempt_bind_eq_some.1 run
    exact ih q (raises q) (s := s₁.marked (.returned s₁.scene)) rest

/-- Of all that a compile may call, only what is asked to save a document gives commands, and these
save it. Interpreters can be made. -/
structure Cast.OnlySaves (k : Cast S) : Prop where
  saving : ∀ {n d script}, k.handler n ⟨.saveRequested, some d⟩ = some script →
    script.Gives (Command.Saves d)
  telling : ∀ {n e script}, e.kind ≠ .saveRequested → k.handler n e = some script →
    script.Gives fun _ => False
  choose : ∀ n, (k.choose n).Gives fun _ => False
  create : ∀ n, (k.create n).Gives (fun _ => False) ∧ (k.create n).Raises fun _ => False
  addClasspath : ∀ n p, (k.addClasspath n p).Gives fun _ => False
  output : ∀ {f}, k.output = some f → ∀ chunk, (f chunk).Gives fun _ => False
  compile : ∀ id root files, (k.compile id root files).Gives fun _ => False

/-- Two levels of calls are enough: listeners are asked to save, and are told that it is done. -/
theorem Cast.OnlySaves.collaborators {k : Cast S} (hk : k.OnlySaves) (patience depth : Nat) :
    Studio.OnlySaves (k.collaborators patience (depth + 2)) where
  saving {n d h} hh := by
    obtain ⟨script, hscript, rfl⟩ := Option.map_eq_some_iff.1 hh
    have telling : ∀ {n h}, (k.collaborators patience (depth + 1)).handler n
        ⟨.documentSaved, some d⟩ = some h → Calm h := by
      intro n h hh
      obtain ⟨script, hscript, rfl⟩ := Option.map_eq_some_iff.1 hh
      exact calm_of_gives (hk.telling (by simp) hscript)
    have command : ∀ {command : Command DocId CompilerId}, command.Saves d →
        SavesOnly d (command.run (k.collaborators patience (depth + 1))) :=
      command_saves telling fun n => calm_of_gives (hk.choose n)
    have gives := hk.saving hscript
    exact .of_along (Script.ends_of_gives (fun h => (command h).ends) gives) <|
      Script.along_of_gives {
        changed := fun _ => .modify fun _ => SameFace.butSaved rfl
        noted := fun _ => (SavesOnly.of_calm (record_calm rfl)).along
        reported := fun row => (SavesOnly.of_calm (report_calm row)).along
        returned := .modify fun s => SameFace.butSaved <|
          (face_marked s _).trans (Face.dealt_nil _) }
        (fun h => (command h).along) gives
  telling {n e h} he hh := by
    obtain ⟨script, hscript, rfl⟩ := Option.map_eq_some_iff.1 hh
    exact calm_of_gives (hk.telling he hscript)
  create n s := by
    obtain ⟨gives, raises⟩ := hk.create n
    obtain ⟨r, s', run, same⟩ := calm_of_gives (c := k.collaborators patience (depth + 1)) gives s
    cases r with
    | ok u => exact ⟨s', run, same⟩
    | error f => exact (Script.raises_of_run raises run).elim
  addClasspath n p := calm_of_gives (hk.addClasspath n p)
  output {f} hf chunk := by
    obtain ⟨f', hf', rfl⟩ := Option.map_eq_some_iff.1 hf
    exact calm_of_gives (hk.output hf' chunk)
  compile id root files := calm_of_gives (hk.compile id root files)

end JavaStudio
