import JavaStudio.Proofs.Source.Write
import JavaStudio.Proofs.Studio.Desk

/-!
# What the operations on documents do

The two operations that matter are `openDocument` and `saveTo`: what they have checked still holds where
they change the desk. `Opening` and `Saving` list the ways in which they can end. `Tends` says of a
relation what all operations on documents need of it; each of them, with whatever its collaborators do
meanwhile, is then a chain of its steps.
-/

namespace JavaStudio.Studio

variable {S : Type} {t : Terms S} {aloud : Prop} {r : Studio S → Studio S → Prop}
  {c : Collaborators S} {α : Type}

/-! ## Looking -/

theorem askFiles_eq_some {f : Files → Except Failure α} {r : Except Failure α} {s s' : Studio S} :
    askFiles f s = some (r, s') ↔ r = f s.host.files ∧ s' = s := by
  simp [askFiles, eq_comm]

theorem findByPath_eq_some {p : Path} {r : Except Failure (Option DocId)} {s s' : Studio S} :
    findByPath p s = some (r, s') ↔ r = s.desk.find s.host.files p ∧ s' = s := by
  simp [findByPath, eq_comm]

theorem looks_askFiles (f : Files → Except Failure α) : Act.Looks (askFiles f : Act (Studio S) α) :=
  .asks _

theorem looks_findByPath (p : Path) : Act.Looks (findByPath p : Act (Studio S) _) := .asks _

theorem looks_permit (use : FileUse) : Act.Looks (permit c use) := .asks _

theorem looks_refuseOpen (found : Option DocId) :
    Act.Looks (refuseOpen found : Act (Studio S) Unit) := by
  cases found with
  | none => exact .pure _
  | some d => exact .bind .get fun _ => .throw _

theorem looks_refuseOther (d : DocId) (found : Option DocId) :
    Act.Looks (refuseOther d found : Act (Studio S) Unit) := by
  unfold refuseOther
  split
  · exact .pure _
  · exact looks_refuseOpen found

theorem refuseOpen_eq_ok {found : Option DocId} {s s' : Studio S} :
    refuseOpen found s = some (.ok (), s') ↔ found = none ∧ s' = s := by
  cases found with
  | none => simp [refuseOpen, eq_comm]
  | some d => simp [refuseOpen]

theorem refuseOther_eq_ok {d : DocId} {found : Option DocId} {s s' : Studio S} :
    refuseOther d found s = some (.ok (), s') ↔ (found = none ∨ found = some d) ∧ s' = s := by
  unfold refuseOther
  split
  · rename_i h
    simp [h, eq_comm]
  · rename_i h
    rw [refuseOpen_eq_ok]
    simp [h]

theorem findByPath_along (p : Path) : Act.Along r (findByPath p : Act (Studio S) _) :=
  .asks _

theorem sourceRoot_along (d : DocId) : Act.Along r (sourceRoot d : Act (Studio S) Path) :=
  .asks _

/-! ## Opening -/

/-- How a call to open a document can end: it comes no further than to the choice of a file and what
happens after the reading, or the document of the file is put on the desk and the listeners are
told. -/
inductive Opening (c : Collaborators S) (selector : Selector) (s : Studio S) :
    Except Failure DocId → Studio S → Prop
  | failed {q : Except Failure Path} {s₁ s' : Studio S} {f : Failure} :
      selector.choose c s = some (q, s₁) → (s' = s₁ ∨ ∃ q', c.afterRead s₁ = some (q', s')) →
      Opening c selector s (.error f) s'
  | opened {chosen target : Path} {b : Buffer} {s₁ s₂ s' : Studio S} {q : Except Failure Unit} :
      selector.choose c s = some (.ok chosen, s₁) → s₁.host.files.locate chosen = .ok target →
      s₁.newBuffer.read s₁.host.files target = .ok b → c.afterRead s₁ = some (.ok (), s₂) →
      s₂.desk.findAt target = none →
      announce c ⟨.documentOpened, some s₂.desk.nextId⟩
        { s₂ with desk := s₂.desk.addOpened target b.markSaved } = some (q, s') →
      Opening c selector s (q.map fun _ => s₂.desk.nextId) s'

theorem openDocument_opening {selector : Selector} {s s' : Studio S} {r : Except Failure DocId}
    (h : openDocument c selector s = some (r, s')) : Opening c selector s r s' := by
  rcases Act.bind_eq_some.1 h with ⟨chosen, s₁, choice, h⟩ | ⟨f, choice, rfl⟩
  · have stops : ∀ f, r = .error f → s' = s₁ → Opening c selector s r s' := by
      rintro f rfl rfl
      exact .failed choice (.inl rfl)
    refine (looks_askFiles _).bind_elim h stops fun target located h => ?_
    refine (looks_findByPath _).bind_elim h stops fun found _ h => ?_
    refine (looks_refuseOpen _).bind_elim h stops fun _ _ h => ?_
    refine Act.Looks.get.bind_elim h stops fun _ seen h => ?_
    cases seen
    refine (looks_permit _).bind_elim h stops fun _ _ h => ?_
    refine (looks_askFiles _).bind_elim h stops fun b read h => ?_
    rcases Act.bind_eq_some.1 h with ⟨_, s₂, after, h⟩ | ⟨f, after, rfl⟩
    · have stops : ∀ f, r = .error f → s' = s₂ → Opening c selector s r s' := by
        rintro f rfl rfl
        exact .failed choice (.inr ⟨_, after⟩)
      refine Act.Looks.get.bind_elim h stops fun _ seen h => ?_
      cases seen
      refine (looks_refuseOpen _).bind_elim h stops fun _ free h => ?_
      refine Act.Looks.get.bind_elim h stops fun _ seen h => ?_
      cases seen
      rcases Act.bind_eq_some.1 h with ⟨_, s₃, put, h⟩ | ⟨f, put, -⟩
      · cases put
        have opens : ∀ {q}, announce c ⟨.documentOpened, some s₂.desk.nextId⟩
            { s₂ with desk := s₂.desk.addOpened target b.markSaved } = some (q, s') →
            Opening c selector s (q.map fun _ => s₂.desk.nextId) s' :=
          .opened choice (askFiles_eq_some.1 located).1.symm (askFiles_eq_some.1 read).1.symm after
            (refuseOpen_eq_ok.1 free).1
        rcases Act.bind_eq_some.1 h with ⟨_, s₄, told, h⟩ | ⟨f, told, rfl⟩
        · cases h
          exact opens told
        · exact opens told
      · cases put
    · exact .failed choice (.inr ⟨_, after⟩)
  · exact .failed choice (.inl rfl)

/-! ## Saving -/

/-- How a call to save a document to a target can end: nothing has changed, or the document was
written and kept there and the listeners are told. -/
inductive Saving (c : Collaborators S) (d : DocId) (target : Path) (s : Studio S) :
    Except Failure Unit → Studio S → Prop
  | failed {f : Failure} : Saving c d target s (.error f) s
  | saved {found : Option DocId} {fs : Files} {r : Except Failure Unit} {s' : Studio S} :
      s.desk.find s.host.files target = .ok found → found = none ∨ found = some d →
      (s.desk.document d).buffer.writeUnder (c.refuses s.stage) target s.host.files = (.ok (), fs) →
      announce c ⟨.documentSaved, some d⟩
          { s with host := { s.host with files := fs }, desk := s.desk.saved d target } =
        some (r, s') →
      Saving c d target s r s'

theorem saveTo_saving {d : DocId} {target : Path} {s s' : Studio S} {r : Except Failure Unit}
    (h : saveTo c d target s = some (r, s')) : Saving c d target s r s' := by
  have stops : ∀ f, r = .error f → s' = s → Saving c d target s r s' := by
    rintro f rfl rfl
    exact .failed
  refine (looks_findByPath _).bind_elim h stops fun found look h => ?_
  refine (looks_refuseOther _ _).bind_elim h stops fun _ own h => ?_
  refine Act.Looks.get.bind_elim h stops fun _ seen h => ?_
  cases seen
  have write : ∀ call : Task Files Unit, (onFiles call : Act (Studio S) Unit) s =
      some ((call s.host.files).1,
        { s with host := { s.host with files := (call s.host.files).2 } }) :=
    fun _ => rfl
  replace write := write ((s.desk.document d).buffer.writeUnder (c.refuses s.stage) target)
  rcases hw : (s.desk.document d).buffer.writeUnder (c.refuses s.stage) target s.host.files with
    ⟨f | u, fs⟩ <;> rw [hw] at write
  · rw [Act.bind_of_error write] at h
    cases h
    obtain rfl := Buffer.writeUnder_error hw
    exact .failed
  · rw [Act.bind_of_ok write] at h
    exact .saved (findByPath_eq_some.1 look).1.symm (refuseOther_eq_ok.1 own).1 hw h

/-- What was chosen, if the choice came to a path, is the resolved form of some path. -/
theorem chosenPath_eq_some {selector : Selector} {s s' : Studio S}
    {r : Except Failure (Option Path)} (h : chosenPath c selector s = some (r, s')) :
    ∃ q, selector.choose c s = some (q, s') ∧ ∀ target, r = .ok (some target) →
      ∃ chosen, q = .ok chosen ∧ s'.host.files.locate chosen = .ok target := by
  obtain ⟨q, s₁, hrun, hrest⟩ := Act.attempt_bind_eq_some.1 h
  have same : s' = s₁ := by
    rcases q with f | p
    · cases f <;> cases hrest <;> rfl
    · cases hrest
      rfl
  subst same
  rcases Act.bind_eq_some.1 hrun with ⟨chosen, s₂, choice, hask⟩ | ⟨f, choice, rfl⟩
  · obtain ⟨located, rfl⟩ := askFiles_eq_some.1 hask
    refine ⟨_, choice, fun target hr => ⟨chosen, rfl, ?_⟩⟩
    rw [hr] at hrest
    rcases q with f | p
    · cases f <;> cases hrest
    · cases hrest
      exact located.symm
  · refine ⟨_, choice, fun target hr => ?_⟩
    rw [hr] at hrest
    cases f <;> cases hrest

/-- A call to save a document comes no further than to the choice of a file, or it saves the
document to the resolved form of what was chosen. -/
theorem saveAs_saving {d : DocId} {selector : Selector} {s s' : Studio S} {r : Except Failure Bool}
    (h : saveAs c d selector s = some (r, s')) :
    ∃ q s₁, selector.choose c s = some (q, s₁) ∧
      ((s' = s₁ ∧ r ≠ .ok true) ∨ ∃ chosen target p, q = .ok chosen ∧
        s₁.host.files.locate chosen = .ok target ∧ Saving c d target s₁ p s' ∧
        r = p.map fun _ => true) := by
  rcases Act.bind_eq_some.1 h with ⟨found, s₁, hfound, h⟩ | ⟨f, hfound, rfl⟩
  · obtain ⟨q, choice, located⟩ := chosenPath_eq_some hfound
    refine ⟨q, s₁, choice, ?_⟩
    rcases found with _ | target
    · cases h
      exact .inl ⟨rfl, nofun⟩
    · obtain ⟨chosen, hq, located⟩ := located target rfl
      right
      rcases Act.bind_eq_some.1 h with ⟨u, s₂, hsave, h⟩ | ⟨f, hsave, rfl⟩
      · cases h
        exact ⟨chosen, target, .ok u, hq, located, saveTo_saving hsave, rfl⟩
      · exact ⟨chosen, target, .error f, hq, located, saveTo_saving hsave, rfl⟩
  · obtain ⟨q, choice, -⟩ := chosenPath_eq_some hfound
    exact ⟨q, s', choice, .inl ⟨rfl, nofun⟩⟩

/-- A document that has a file is saved to it, any other one to the chosen file. -/
theorem save_eq_saveAs (d : DocId) (selector : Selector) (s : Studio S) :
    save c d selector s =
      saveAs c d (((s.desk.document d).path.map Selector.ok).getD selector) s := by
  unfold save
  rw [Act.get_bind]
  cases (s.desk.document d).path <;> rfl

/-! ## The chain of steps -/

/-- The operations on documents are made of steps of a relation: choices and questions are, and so is
every change of the desk with what the listeners do when they are told of it. Files are chosen by some
of the paths only. -/
structure Tends (picks : Path → Prop) (r : Studio S → Studio S → Prop) (c : Collaborators S) :
    Prop where
  choose : ∀ n, Act.Along r (c.choose n)
  chooses : ∀ {n s p s'}, c.choose n s = some (.ok p, s') → picks p
  afterRead : Act.Along r c.afterRead
  asks : ∀ {e}, e.kind.ofFile = false → Act.Along r (ask c e)
  requests : ∀ d, Act.Along r (announce c ⟨.saveRequested, some d⟩)
  created : ∀ {s s' : Studio S} {q : Except Failure Unit},
    announce c ⟨.documentCreated, some s.desk.nextId⟩
      { s with desk := s.desk.addUntitled s.newBuffer } = some (q, s') →
    Relation.ReflTransGen r s s'
  opened : ∀ {chosen target : Path} {b : Buffer} {s₁ s₂ s' : Studio S} {q : Except Failure Unit},
    picks chosen → s₁.host.files.locate chosen = .ok target →
    s₁.newBuffer.read s₁.host.files target = .ok b → c.afterRead s₁ = some (.ok (), s₂) →
    s₂.desk.findAt target = none →
    announce c ⟨.documentOpened, some s₂.desk.nextId⟩
      { s₂ with desk := s₂.desk.addOpened target b.markSaved } = some (q, s') →
    Relation.ReflTransGen r s₁ s'
  saved : ∀ {chosen target : Path} {d : DocId} {found : Option DocId} {fs : Files}
    {s s' : Studio S} {q : Except Failure Unit},
    picks chosen ∨ (s.desk.document d).path = some chosen →
    s.host.files.locate chosen = .ok target → s.desk.find s.host.files target = .ok found →
    found = none ∨ found = some d →
    (s.desk.document d).buffer.writeUnder (c.refuses s.stage) target s.host.files = (.ok (), fs) →
    announce c ⟨.documentSaved, some d⟩
        { s with host := { s.host with files := fs }, desk := s.desk.saved d target } =
      some (q, s') →
    Relation.ReflTransGen r s s'
  closed : ∀ {d : DocId} {s₀ s s' : Studio S} {q : Except Failure Unit}, Consented c d s₀ s →
    s.desk.holds d = true → announce c ⟨.documentClosed, some d⟩ (s.without d) = some (q, s') →
    Relation.ReflTransGen r s s'

/-- Collaborators that keep to the terms tend documents by steps. -/
theorem Follows.tends (hc : Follows t aloud r c) : Tends t.picks r c where
  choose := hc.choose
  chooses := hc.picks
  afterRead := hc.afterRead
  asks _ := hc.asks _
  requests _ := hc.announces (.inr rfl) rfl
  created told := passage_along hc .created told
  opened picked located read after free told := (hc.afterRead after).trans <|
    passage_along hc (.opened picked located read (fun hb => by rw [hc.idle hb _ _ _ after]) free)
      told
  saved {chosen target d found fs s s' q} picked located look own written told := by
    have saves : r s { s with
        host := { s.host with files := fs }, desk := s.desk.saved d target } :=
      hc.covers.quiet (.saved picked located look own written rfl rfl) (.inr rfl)
        (Prod.ext (Desk.saved_registered _ _ _) rfl)
    exact .head saves (hc.announces (.inr rfl) rfl told)
  closed consent held told := passage_along hc (.closed ⟨c, _, hc.member, consent⟩ held) told

section

variable {picks : Path → Prop} (hc : Tends picks r c)
include hc

theorem choose_along (selector : Selector) : Act.Along r (selector.choose c) := by
  cases selector with
  | ok p => exact .pure p
  | error f => exact .throw f
  | view n => exact hc.choose n

theorem chosen_picked {selector : Selector} {chosen : Path} {s s₁ : Studio S}
    (choice : selector.choose c s = some (.ok chosen, s₁)) :
    picks chosen ∨ selector = .ok chosen ∧ s₁ = s := by
  cases selector with
  | ok p =>
    cases choice
    exact .inr ⟨rfl, rfl⟩
  | error f => cases choice
  | view n => exact .inl (hc.chooses choice)

theorem newDocument_along : Act.Along r (newDocument c) := by
  intro s q s' h
  have rest : (announce c ⟨.documentCreated, some s.desk.nextId⟩ >>= fun _ => pure s.desk.nextId)
      { s with desk := s.desk.addUntitled s.newBuffer } = some (q, s') := h
  rcases Act.bind_eq_some.1 rest with ⟨_, s₁, told, last⟩ | ⟨_, told, -⟩
  · cases last
    exact hc.created told
  · exact hc.created told

theorem openDocument_along {selector : Selector} (picked : ∀ p, selector = .ok p → picks p) :
    Act.Along r (openDocument c selector) := by
  intro s q s' h
  cases openDocument_opening h with
  | failed choice after =>
    rcases after with rfl | ⟨_, after⟩
    · exact choose_along hc selector choice
    · exact (choose_along hc selector choice).trans (hc.afterRead after)
  | @opened chosen _ _ _ _ _ _ choice located read after free told =>
    have allowed : picks chosen := (chosen_picked hc choice).elim id fun same => picked _ same.1
    exact (choose_along hc selector choice).trans (hc.opened allowed located read after free told)

theorem documentForFile_along {p : Path} (picked : picks p) :
    Act.Along r (documentForFile c p) := by
  refine (findByPath_along p).bind fun found => ?_
  split
  · exact .pure _
  · refine .tryCatch (openDocument_along hc fun _ same => ?_) fun f => ?_
    · cases same
      exact picked
    split
    · exact .pure _
    · exact .throw _

theorem canAbandon_along (d : DocId) : Act.Along r (canAbandon c d) :=
  .bind .get fun _ => .ite (hc.asks rfl) (.pure _)

theorem closeDocument_along (d : DocId) : Act.Along r (closeDocument c d) := by
  intro s a s' h
  cases closeDocument_eq_some.1 h with
  | removed consent held told =>
    have asked := canAbandon_along hc d (canAbandon_eq_some.2 (.inl ⟨consent, rfl⟩))
    exact asked.trans (hc.closed consent held told)
  | absent consent _ => exact canAbandon_along hc d (canAbandon_eq_some.2 (.inl ⟨consent, rfl⟩))
  | refused refusal =>
    exact canAbandon_along hc d (canAbandon_eq_some.2 (.inr (.inl ⟨refusal, rfl⟩)))
  | broken off => exact canAbandon_along hc d (canAbandon_eq_some.2 (.inr (.inr ⟨_, off, rfl⟩)))

theorem closeAll_along : Act.Along r (closeAll c) := by
  intro s a s' h
  have calls := closeAll_closings h
  -- the calls that were made, not the patience: each of them is a chain of steps
  clear h
  induction calls with
  | empty _ => exact .refl
  | next _ close _ _ ih => exact (closeDocument_along hc _ close).trans ih
  | refused _ close _ => exact closeDocument_along hc _ close
  | failed _ close => exact closeDocument_along hc _ close

theorem requestSave_along (d : DocId) : Act.Along r (requestSave c d) :=
  .bind .get fun _ => .ite (hc.requests d) (.pure _)

theorem saveAs_steps {d : DocId} {selector : Selector} {s s' : Studio S} {q : Except Failure Bool}
    (picked : ∀ p, selector = .ok p → picks p ∨ (s.desk.document d).path = some p)
    (h : saveAs c d selector s = some (q, s')) : Relation.ReflTransGen r s s' := by
  obtain ⟨q, s₁, choice, ⟨rfl, -⟩ | ⟨chosen, target, p, rfl, located, saving, -⟩⟩ := saveAs_saving h
  · exact choose_along hc selector choice
  · refine (choose_along hc selector choice).trans ?_
    have allowed : picks chosen ∨ (s₁.desk.document d).path = some chosen := by
      rcases chosen_picked hc choice with allowed | ⟨same, rfl⟩
      · exact .inl allowed
      · exact picked chosen same
    cases saving with
    | failed => exact .refl
    | saved look own written told => exact hc.saved allowed located look own written told

theorem saveAs_along {d : DocId} {selector : Selector} (picked : ∀ p, selector = .ok p → picks p) :
    Act.Along r (saveAs c d selector) :=
  fun _ _ _ h => saveAs_steps hc (fun p same => .inl (picked p same)) h

theorem save_along {d : DocId} {selector : Selector} (picked : ∀ p, selector = .ok p → picks p) :
    Act.Along r (save c d selector) := by
  intro s q s' h
  rw [save_eq_saveAs] at h
  refine saveAs_steps hc (fun p same => ?_) h
  rcases hp : (s.desk.document d).path with _ | own <;> rw [hp] at same
  · exact .inl (picked p same)
  · cases same
    exact .inr rfl

end

/-! ## Editing -/

theorem setIndent_edit (b : Buffer) (indent : Json) : Edit b (b.setIndent indent) := .inr ⟨rfl, rfl⟩

section

variable (hr : Moves t aloud r)
include hr

theorem onBuffer_along {d : DocId} {f : Buffer → Buffer} (hf : ∀ b, Edit b (f b)) :
    Act.Along r (onBuffer d f : Act (Studio S) Unit) :=
  .modify fun _ => hr.quiet (.edited (hf _) rfl rfl rfl) (.inr rfl) rfl rfl

/-- The indents of several documents are set one after another. -/
theorem setIndents_steps (ds : List DocId) (indent : Json) (s : Studio S) :
    Relation.ReflTransGen r s
      { s with desk := ds.foldl (fun k d => k.changeBuffer d (·.setIndent indent)) s.desk } := by
  induction ds generalizing s with
  | nil => exact .refl
  | cons d ds ih =>
    have first : r s { s with desk := s.desk.changeBuffer d (·.setIndent indent) } :=
      hr.quiet (.edited (d := d) (f := (·.setIndent indent)) (setIndent_edit _ _) rfl rfl rfl)
        (.inr rfl) rfl rfl
    exact .head first (ih _)

theorem setIndent_along (width : Json) : Act.Along r (setIndent width : Act (Studio S) Unit) := by
  unfold setIndent keepIndent
  refine .bind (update_along hr fun s => ?_) fun _ => .bind .get fun s => .ite (.pure _) ?_
  · split <;> rfl
  · refine (Act.Along.ofExcept _).bind fun indent => ?_
    intro s' a s'' h
    cases h
    exact setIndents_steps hr _ indent s'

end

end JavaStudio.Studio
