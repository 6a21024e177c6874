import JavaStudio.Proofs.Files.Distinct
import JavaStudio.Proofs.Studio.Desk
import JavaStudio.Proofs.Studio.Documents
import JavaStudio.Proofs.Studio.Runs

/-!
# All or nothing

With collaborators that act on neither the model nor the files (`Quiet`), a call to open or to save
a document either leaves everything as it was (`Untouched`) or does all of its work (`Saved`) and
tells the listeners once. Only a listener that ends the program when it is told makes a call fail
that has done its work.

* `all_or_nothing`: what opening and saving come to.
* `saving_astray`: a target behind a circle of links is written, but not at its own names. A target
  on whose way no link stands (`Files.Clear`) is.
-/

namespace JavaStudio

/-- The event of a moment at which the listeners were told of one. -/
def Moment.announcement? : Moment → Option Event
  | announced e _ => some e
  | _ => none

namespace Studio

variable {S α : Type} {c : Collaborators S} {s s' : Studio S} {d : DocId} {target : Path}

/-! ## Quiet collaborators -/

/-- What the listeners were told so far. -/
def announcements (s : Studio S) : List Event := s.journal.filterMap Moment.announcement?

theorem announcements_append {m : Moment} (h : s'.journal = s.journal ++ [m]) :
    s'.announcements = s.announcements ++ m.announcement?.toList := by
  unfold announcements
  rw [h, List.filterMap_append]
  cases m <;> rfl

/-- Desk, files and settings are the same, and the listeners were told nothing in between. -/
structure Untouched (s s' : Studio S) : Prop where
  desk : s'.desk = s.desk
  files : s'.host.files = s.host.files
  settings : s'.settings = s.settings
  announcements : s'.announcements = s.announcements

theorem Untouched.refl (s : Studio S) : Untouched s s := ⟨rfl, rfl, rfl, rfl⟩

theorem Untouched.trans {s'' : Studio S} (h : Untouched s s') (h' : Untouched s' s'') :
    Untouched s s'' :=
  ⟨h'.desk.trans h.desk, h'.files.trans h.files, h'.settings.trans h.settings,
    h'.announcements.trans h.announcements⟩

/-- Listeners, views and what comes between act on neither the model nor the files. -/
structure Quiet (c : Collaborators S) : Prop where
  handler : ∀ {n e h s r s'}, c.handler n e = some h → h s = some (r, s') → Untouched s s'
  choose : ∀ {n s r s'}, c.choose n s = some (r, s') → Untouched s s'
  afterRead : ∀ {s r s'}, c.afterRead s = some (r, s') → Untouched s s'

theorem untouched_of_steps (h : Relation.ReflTransGen Untouched s s') : Untouched s s' := by
  induction h with
  | refl => exact .refl _
  | tail _ step ih => exact ih.trans step

/-- A script that gives no commands is quiet. -/
theorem untouched_of_run {script : Script S α} (silent : script.Gives fun _ => False)
    {r : Except Failure α} (run : script.run c s = some (r, s')) : Untouched s s' := by
  have plays : Script.Plays (Untouched (S := S)) := {
    changed := fun _ => .modify fun _ => ⟨rfl, rfl, rfl, rfl⟩
    noted := fun _ => .modify fun s => ⟨rfl, rfl, rfl,
      (announcements_append rfl).trans (List.append_nil _)⟩
    reported := fun _ => .of_step fun s a s' h => by
      cases h
      exact .inr ⟨rfl, rfl, rfl, rfl⟩
    returned := .modify fun s => ⟨rfl, rfl, rfl,
      (announcements_append rfl).trans (List.append_nil _)⟩ }
  exact untouched_of_steps (Script.along_of_gives plays (fun h => h.elim) silent run)

/-- A cast that gives no commands is quiet. -/
theorem quiet_of_gives {k : Cast S} (silent : k.Gives fun _ => False) (patience depth : Nat) :
    Quiet (k.collaborators patience depth) := by
  cases depth with
  | zero =>
    refine ⟨fun {n e h _ _ _} hh hrun => ?_, nofun, nofun⟩
    obtain ⟨_, -, rfl⟩ := Option.map_eq_some_iff.1 hh
    cases hrun
  | succ depth =>
    refine ⟨fun {n e h _ _ _} hh hrun => ?_, fun {n _ _ _} hrun => ?_, fun {_ _ _} hrun => ?_⟩
    · obtain ⟨script, hscript, rfl⟩ := Option.map_eq_some_iff.1 hh
      exact untouched_of_run (silent.handler hscript) hrun
    · exact untouched_of_run (silent.choose n) hrun
    · exact untouched_of_run silent.afterRead hrun

/-! ## Telling quiet listeners -/

/-- Desk and files are the same, and the listeners were told nothing in between. The keeper of the
recent files may have changed the settings. -/
structure Heard (s s' : Studio S) : Prop where
  desk : s'.desk = s.desk
  files : s'.host.files = s.host.files
  announcements : s'.announcements = s.announcements

theorem heard_of_steps (h : Relation.ReflTransGen Heard s s') : Heard s s' := by
  induction h with
  | refl => exact ⟨rfl, rfl, rfl⟩
  | tail _ step ih =>
    exact ⟨step.desk.trans ih.desk, step.files.trans ih.files,
      step.announcements.trans ih.announcements⟩

theorem Quiet.within (quiet : Quiet c) (e : Event) : Within Heard c e where
  report row := .of_step fun s a s' h => by
    cases h
    exact .inr ⟨rfl, rfl, rfl⟩
  handler {l h} hh := by
    refine .of_step fun s a s' hrun => .inr ?_
    cases l with
    | recentFiles =>
      simp only [handlerOf] at hh
      split at hh
      · cases hh
        obtain ⟨_, rfl⟩ := keepRecent_eq_some hrun
        exact ⟨rfl, rfl, rfl⟩
      · cases hh
    | outside n =>
      have same := quiet.handler hh hrun
      exact ⟨same.desk, same.files, same.announcements⟩

/-- Quiet listeners are told once and change neither the desk nor the files. -/
theorem announce_quiet (quiet : Quiet c) {e : Event} {r : Except Failure Unit}
    (h : announce c e s = some (r, s')) :
    s'.desk = s.desk ∧ s'.host.files = s.host.files ∧ s'.announcements = s.announcements ++ [e] ∧
      ∀ f, r = .error f → f.isOrdinary = false := by
  have told : deliverAll c e s.bus (s.marked (.announced e s.scene)) = some (r, s') := h
  have heard := heard_of_steps ((quiet.within e).deliverAll s.bus told)
  have added : (s.marked (.announced e s.scene)).announcements = s.announcements ++ [e] :=
    announcements_append (m := .announced e s.scene) rfl
  refine ⟨heard.desk, heard.files, heard.announcements.trans added, ?_⟩
  rintro f rfl
  exact (deliverAll_halts told).final

theorem choose_untouched (quiet : Quiet c) {selector : Selector} {q : Except Failure Path}
    (h : selector.choose c s = some (q, s')) : Untouched s s' := by
  cases selector with
  | ok p => cases h; exact .refl _
  | error f => cases h; exact .refl _
  | view n => exact quiet.choose h

/-! ## Opening -/

/-- A document was put on the desk at the path of its file, nothing in the files has changed and the
listeners were told once. -/
structure Opened (s s' : Studio S) : Prop where
  desk : ∃ target b, s'.desk = s.desk.addOpened target b ∧ b.modified = false
  files : s'.host.files = s.host.files
  announcements : s'.announcements = s.announcements ++ [⟨.documentOpened, some s.desk.nextId⟩]

/-- A call to open a document that fails leaves everything as it was, unless a listener ended the
program when it was told that the document is open. -/
theorem openDocument_error (quiet : Quiet c) {selector : Selector} {f : Failure}
    (h : openDocument c selector s = some (.error f, s')) :
    Untouched s s' ∨ f.isOrdinary = false ∧ Opened s s' := by
  generalize hr : Except.error f = r at h
  cases openDocument_opening h with
  | failed choice after =>
    left
    rcases after with rfl | ⟨_, after⟩
    · exact choose_untouched quiet choice
    · exact (choose_untouched quiet choice).trans (quiet.afterRead after)
  | @opened chosen target b s₁ s₂ _ q choice _ _ after _ told =>
    right
    have before := (choose_untouched quiet choice).trans (quiet.afterRead after)
    obtain ⟨desk, files, announced, breaks⟩ := announce_quiet quiet told
    rcases q with f' | u
    · cases hr
      refine ⟨breaks f rfl, ⟨target, b.markSaved, ?_, rfl⟩, files.trans before.files, ?_⟩
      · rw [← before.desk]
        exact desk
      · rw [← before.announcements, ← before.desk]
        exact announced
    · cases hr

/-! ## Saving -/

/-- A document was saved to a target: the text stands in place of the target and nothing else in the
files has changed; the document is not modified and is kept there, no other document has changed,
and looking the target up finds it if it is registered; the listeners were told once. -/
structure Saved (d : DocId) (target : Path) (s s' : Studio S) : Prop where
  written : ∃ place, Source.Replaced s.host.files s'.host.files target place
    (Utf8.encode (Text.unixNewlines (s.desk.document d).buffer.text))
  clear : s.host.files.Clear target →
    s'.host.files.readBytes target =
      .ok (Utf8.encode (Text.unixNewlines (s.desk.document d).buffer.text)) ∧
    s'.host.files.locate target = .ok target
  document : d < s.desk.documents.length → s'.desk.document d =
    { s.desk.document d with
      buffer := { (s.desk.document d).buffer with modified := false }, path := some target }
  others : ∀ e, e ≠ d → s'.desk.document e = s.desk.document e
  registered : s'.desk.registered = s.desk.registered
  found : s.desk.holds d = true → ∀ q, s'.host.files.locate q = .ok target →
    s'.desk.find s'.host.files q = .ok (some d)
  announcements : s'.announcements = s.announcements ++ [⟨.documentSaved, some d⟩]

theorem saving_quiet (quiet : Quiet c) {r : Except Failure Unit} (h : Saving c d target s r s') :
    (s' = s ∧ ∃ f, r = .error f) ∨
      Saved d target s s' ∧ ∀ f, r = .error f → f.isOrdinary = false := by
  cases h with
  | failed => exact .inl ⟨rfl, _, rfl⟩
  | @saved found fs _ _ look own written told =>
    right
    obtain ⟨desk, files, announced, breaks⟩ := announce_quiet quiet told
    obtain ⟨place, replaced⟩ := Buffer.writeUnder_ok written
    obtain rfl : s'.host.files = fs := files
    have desk : s'.desk = s.desk.saved d target := desk
    refine ⟨⟨⟨place, replaced⟩, fun clear => clear.replaced replaced, fun made => ?_,
      fun e he => ?_, ?_, fun held q located => ?_, announced⟩, breaks⟩
    · rw [desk, Desk.saved_document, if_pos ⟨rfl, made⟩]
      rfl
    · rw [desk, Desk.saved_document, if_neg fun hd => he hd.1.symm]
    · rw [desk, Desk.saved_registered]
    · rw [desk, Desk.find, located]
      simp only
      rw [Desk.findAt_saved held]

/-- A call to save a document leaves everything as it was, or it saves the document to the resolved
form of what was chosen; then it says so, unless a listener ended the program when it was told. -/
theorem saveAs_quiet (quiet : Quiet c) {selector : Selector} {r : Except Failure Bool}
    (h : saveAs c d selector s = some (r, s')) :
    (Untouched s s' ∧ r ≠ .ok true) ∨
      ∃ chosen target s₁, selector.choose c s = some (.ok chosen, s₁) ∧
        s.host.files.locate chosen = .ok target ∧ Saved d target s s' ∧
        (r = .ok true ∨ ∃ f, r = .error f ∧ f.isOrdinary = false) := by
  obtain ⟨q, s₁, choice, ⟨rfl, hr⟩ | ⟨chosen, target, p, rfl, located, saving, rfl⟩⟩ :=
    saveAs_saving h
  · exact .inl ⟨choose_untouched quiet choice, hr⟩
  · have same := choose_untouched quiet choice
    rcases saving_quiet quiet saving with ⟨rfl, f, rfl⟩ | ⟨saved, breaks⟩
    · exact .inl ⟨same, nofun⟩
    · right
      rw [same.files] at located
      refine ⟨chosen, target, s₁, choice, located, ?_, ?_⟩
      · obtain ⟨written, clear, document, others, registered, found, announced⟩ := saved
        rw [same.desk] at written clear document others registered found
        rw [same.files] at written clear
        rw [same.announcements] at announced
        exact ⟨written, clear, document, others, registered, found, announced⟩
      · rcases p with f | u
        · exact .inr ⟨f, rfl, breaks f rfl⟩
        · exact .inl rfl

/-! ## All or nothing -/

/-- With quiet collaborators a call to open or to save a document does nothing or all of its work.
-/
theorem all_or_nothing (quiet : Quiet c) (s : Studio S) :
    (∀ selector f s', openDocument c selector s = some (.error f, s') →
      Untouched s s' ∨ f.isOrdinary = false ∧ Opened s s') ∧
    (∀ d selector r s', saveAs c d selector s = some (r, s') →
      (Untouched s s' ∧ r ≠ .ok true) ∨
        ∃ chosen target s₁, selector.choose c s = some (.ok chosen, s₁) ∧
          s.host.files.locate chosen = .ok target ∧ Saved d target s s' ∧
          (r = .ok true ∨ ∃ f, r = .error f ∧ f.isOrdinary = false)) ∧
    ∀ d selector, save c d selector s =
      saveAs c d (((s.desk.document d).path.map Selector.ok).getD selector) s :=
  ⟨fun _ _ _ h => openDocument_error quiet h, fun _ _ _ _ h => saveAs_quiet quiet h,
    fun d selector => save_eq_saveAs d selector s⟩

theorem all_or_nothing_idle : ∃ target s',
    saveAs (Cast.idle.collaborators 1 1) 0 (.ok ⟨.root, ["a"]⟩) (unsavedAmong []) =
      some (.ok true, s') ∧
      Saved 0 target (unsavedAmong []) s' := by
  have run : ∃ s', saveAs (Cast.idle.collaborators 1 1) 0 (.ok ⟨.root, ["a"]⟩) (unsavedAmong []) =
      some (.ok true, s') := ⟨_, rfl⟩
  obtain ⟨s', run⟩ := run
  obtain ⟨-, saves, -⟩ := all_or_nothing (quiet_of_gives (Cast.gives_idle _) 1 1) (unsavedAmong [])
  rcases saves 0 _ _ s' run with ⟨-, hr⟩ | ⟨_, target, _, -, -, saved, -⟩
  · exact absurd rfl hr
  · exact ⟨target, s', run, saved⟩

/-- Saving can go astray although all collaborators are quiet. The link `m` leads round in a circle,
so its target is spelled through the link `l`: the text takes the place of that link, and no file
can be read at the target. And a listener that ends the program when it is told makes a call fail
that has done its work. -/
theorem saving_astray :
    (Quiet (Cast.idle.collaborators 1 1) ∧ ∃ s',
      saveAs (Cast.idle.collaborators 1 1) 0 (.ok ⟨.root, ["m"]⟩)
          (unsavedAmong [("l", .link "."), ("m", .link "m/../l/l")]) = some (.ok true, s') ∧
        (s'.desk.document 0).path = some ⟨.root, ["l", "l"]⟩ ∧
        (s'.host.files.readBytes ⟨.root, ["l", "l"]⟩).toOption = none) ∧
    Quiet ((Cast.hearing .documentSaved (.fail (.interrupted ""))).collaborators 1 1) ∧ ∃ s',
      saveAs ((Cast.hearing .documentSaved (.fail (.interrupted ""))).collaborators 1 1) 0
          (.ok ⟨.root, ["a"]⟩) (unsavedAmong []) = some (.error (.interrupted ""), s') ∧
        (s'.desk.document 0).path = some ⟨.root, ["a"]⟩ := by
  have silent : (Script.fail (.interrupted "") : Script Unit Bool).Gives fun _ => False := trivial
  refine ⟨⟨quiet_of_gives (Cast.gives_idle _) 1 1, ?_⟩,
    quiet_of_gives (Cast.gives_hearing silent) 1 1, _, rfl, rfl⟩
  have run : (saveAs (Cast.idle.collaborators 1 1) 0 (.ok ⟨.root, ["m"]⟩)
      (unsavedAmong [("l", .link "."), ("m", .link "m/../l/l")])).map (fun (r, s') =>
        (r.toOption, (s'.desk.document 0).path,
          (s'.host.files.readBytes ⟨.root, ["l", "l"]⟩).toOption)) =
      some (some true, some ⟨.root, ["l", "l"]⟩, none) := by decide +kernel
  obtain ⟨⟨f | b, s'⟩, hrun, seen⟩ := Option.map_eq_some_iff.1 run <;>
    simp only [Prod.mk.injEq, Except.toOption, Option.some.injEq, reduceCtorEq, false_and] at seen
  obtain ⟨rfl, path, content⟩ := seen
  exact ⟨s', hrun, path, content⟩

end Studio

end JavaStudio
