import JavaStudio.Proofs.Studio.Scenes

/-!
# The lives of documents

The listeners are told when a document is made, when one is opened and when one is closed. A run in
which nobody else tells them of such things is a chain of beats (`Beat`): a document is put on the desk
or taken from it and this is announced at once, or neither is done. `Lives` relates what was announced
to the desk, and every beat keeps it.

* `Beat.lives`, `WellTold.beats`: what one beat keeps, and what a run keeps at all its moments.
* `lives_told`: in every run from an empty desk every document is announced once when it is made or
  opened, whatever is done by those who are told, and at most once when it is closed. That is later,
  and at every moment it was announced exactly of the documents that are no longer registered, so that
  as many are registered as were announced to be made or opened and not to be closed. A call that
  answers that it closed a document made the only announcement of this, and no other call answers so.
-/

namespace JavaStudio

/-! ## What is told of documents -/

/-- What was announced of the lives of documents. -/
def lifeEvents (ms : List Moment) : List Event := ms.filterMap Moment.life?

/-- The kinds of the events about a document, in their order. -/
def kindsAbout (d : DocId) (es : List Event) : List EventKind :=
  (es.filter fun e => e.document = some d).map Event.kind

/-- How many of the events are of a kind. -/
def timesOf (kind : EventKind) (es : List Event) : Nat := es.countP fun e => e.kind = kind

/-- A document was taken from the desk. -/
abbrev closedEvent (d : DocId) : Event := ⟨.documentClosed, some d⟩

theorem lifeEvents_append (ms ms' : List Moment) :
    lifeEvents (ms ++ ms') = lifeEvents ms ++ lifeEvents ms' :=
  List.filterMap_append

theorem lifeEvents_announced {e : Event} (life : e.kind.ofLife = true) (ms : List Moment)
    (scene : Scene) : lifeEvents (ms ++ [.announced e scene]) = lifeEvents ms ++ [e] := by
  rw [lifeEvents_append]
  simp [lifeEvents, Moment.life?, life]

theorem kindsAbout_append (d : DocId) (es es' : List Event) :
    kindsAbout d (es ++ es') = kindsAbout d es ++ kindsAbout d es' := by
  rw [kindsAbout, List.filter_append, List.map_append]
  rfl

theorem kindsAbout_concat (d e : DocId) (kind : EventKind) (es : List Event) :
    kindsAbout d (es ++ [⟨kind, some e⟩]) = kindsAbout d es ++ if e = d then [kind] else [] := by
  rw [kindsAbout_append]
  by_cases h : e = d <;> simp [kindsAbout, h]

theorem timesOf_concat (kind : EventKind) (e : Event) (es : List Event) :
    timesOf kind (es ++ [e]) = timesOf kind es + if e.kind = kind then 1 else 0 := by
  rw [timesOf, List.countP_append, List.countP_singleton]
  simp [timesOf]

/-- How the listeners are told that a document was made. -/
def Document.birth (doc : Document) : EventKind :=
  if doc.untitled.isSome then .documentCreated else .documentOpened

namespace Desk

variable {k : Desk} {d : DocId}

/-- What is to be told of a document: that it was made, and, when it is no longer registered, that it
was closed. -/
def lifeOf (k : Desk) (d : DocId) : List EventKind :=
  match k.documents[d]? with
  | none => []
  | some doc => doc.birth :: if k.holds d then [] else [.documentClosed]

theorem lifeOf_of_made (made : d < k.documents.length) :
    k.lifeOf d = (k.document d).birth :: if k.holds d then [] else [.documentClosed] := by
  rw [lifeOf, document, List.getElem?_eq_getElem made]
  rfl

theorem lifeOf_of_unmade (unmade : k.documents.length ≤ d) : k.lifeOf d = [] := by
  rw [lifeOf, List.getElem?_eq_none unmade]

/-- What is to be told of documents depends on how they were made and on which are registered. -/
theorem lifeOf_congr {k' : Desk} (registered : k'.registered = k.registered)
    (untitled : k'.documents.map Document.untitled = k.documents.map Document.untitled) :
    k'.lifeOf d = k.lifeOf d := by
  have born : ∀ ds : List Document,
      ds[d]?.map Document.birth = (ds.map Document.untitled)[d]?.map fun n =>
        if n.isSome then EventKind.documentCreated else .documentOpened := by
    intro ds
    rw [List.getElem?_map, Option.map_map]
    rfl
  have same : k'.documents[d]?.map Document.birth = k.documents[d]?.map Document.birth := by
    rw [born, born, untitled]
  have life : ∀ k : Desk, k.lifeOf d = match k.documents[d]?.map Document.birth with
      | none => []
      | some birth => birth :: if k.registered.contains d then [] else [.documentClosed] := by
    intro k
    rw [lifeOf]
    cases k.documents[d]? <;> rfl
  rw [life, life, same, registered]

theorem untitled_change {f : Document → Document} (hf : ∀ doc, (f doc).untitled = doc.untitled) :
    (k.change d f).documents.map Document.untitled = k.documents.map Document.untitled := by
  refine List.ext_getElem? fun n => ?_
  rw [change, List.getElem?_map, List.getElem?_map, List.getElem?_modify]
  cases k.documents[n]? with
  | none => rfl
  | some doc => by_cases h : d = n <;> simp [h, hf]

theorem untitled_saved (k : Desk) (d : DocId) (p : Path) :
    (k.saved d p).documents.map Document.untitled = k.documents.map Document.untitled :=
  calc (k.saved d p).documents.map Document.untitled
    _ = ((k.changeBuffer d Buffer.markSaved).rebind d p).documents.map Document.untitled :=
      untitled_change fun _ => rfl
    _ = (k.changeBuffer d Buffer.markSaved).documents.map Document.untitled := by
      rw [rebind_documents]
    _ = k.documents.map Document.untitled := untitled_change fun _ => rfl

end Desk

/-! ## The lives of all documents -/

/-- The events tell the lives of the documents of a desk. Of every document they tell first and once
that it was made or opened, and then once that it was closed if it is no longer registered; and there
are as many registered documents as were told to be made or opened and not closed. -/
structure Lives (es : List Event) (k : Desk) : Prop where
  told : ∀ d, kindsAbout d es = k.lifeOf d
  order : k.registered.Sublist (List.range k.documents.length)
  count : k.registered.length + timesOf .documentClosed es =
    timesOf .documentCreated es + timesOf .documentOpened es

namespace Lives

variable {es : List Event} {k : Desk} {d : DocId}

theorem empty : Lives [] {} where
  told _ := rfl
  order := List.nil_sublist _
  count := rfl

theorem made_of_held (h : Lives es k) (held : k.holds d = true) : d < k.documents.length :=
  List.mem_range.1 (h.order.subset (Desk.holds_iff.1 held))

theorem closed_iff (h : Lives es k) (made : d < k.documents.length) :
    EventKind.documentClosed ∈ kindsAbout d es ↔ k.holds d = false := by
  rw [h.told, Desk.lifeOf_of_made made]
  have born : EventKind.documentClosed ≠ (k.document d).birth := by
    unfold Document.birth
    split <;> decide
  cases k.holds d <;> simp [born]

theorem quiet {k' : Desk} (h : Lives es k) (registered : k'.registered = k.registered)
    (untitled : k'.documents.map Document.untitled = k.documents.map Document.untitled) :
    Lives es k' where
  told d := (h.told d).trans (Desk.lifeOf_congr registered untitled).symm
  order := by
    have length := congrArg List.length untitled
    rw [List.length_map, List.length_map] at length
    rw [registered, length]
    exact h.order
  count := by
    rw [registered]
    exact h.count

/-- A document is put on the desk. -/
theorem birth (h : Lives es k) (doc : Document) (ix : PathIndex) (n : Nat) :
    Lives (es ++ [⟨doc.birth, some k.nextId⟩])
      ⟨k.documents ++ [doc], k.registered ++ [k.nextId], ix, n⟩ where
  told d := by
    have fresh : k.nextId ∉ k.registered := fun hmem =>
      Nat.lt_irrefl _ (List.mem_range.1 (h.order.subset hmem))
    rw [kindsAbout_concat, h.told]
    rcases Nat.lt_trichotomy d k.nextId with lt | rfl | gt
    · have other : ¬ k.nextId = d := fun he => Nat.lt_irrefl _ (he ▸ lt)
      simp [Desk.lifeOf, Desk.holds, List.getElem?_append_left lt, other, Ne.symm other]
    · simp [Desk.lifeOf, Desk.nextId, Desk.holds]
    · have other : ¬ k.nextId = d := fun he => Nat.lt_irrefl _ (he ▸ gt)
      have beyond : (k.documents ++ [doc]).length ≤ d := by
        rw [List.length_append]
        exact gt
      rw [Desk.lifeOf_of_unmade (Nat.le_of_lt gt), Desk.lifeOf_of_unmade beyond,
        if_neg other]
      rfl
  order := by
    show (k.registered ++ [k.nextId]).Sublist (List.range (k.documents ++ [doc]).length)
    rw [List.length_append, List.length_singleton, List.range_succ]
    exact h.order.append_right _
  count := by
    have count := h.count
    rw [timesOf_concat, timesOf_concat, timesOf_concat, List.length_append, List.length_singleton]
    unfold Document.birth
    split <;> simp <;> omega

/-- A document is taken from the desk. -/
theorem death (h : Lives es k) (held : k.holds d = true) :
    Lives (es ++ [closedEvent d]) (k.remove d) where
  told e := by
    have made := h.made_of_held held
    have erased : ∀ e, e ∈ (k.remove d).registered ↔ e ≠ d ∧ e ∈ k.registered := fun e =>
      (h.order.nodup List.nodup_range).mem_erase_iff
    rw [kindsAbout_concat, h.told]
    by_cases he : d = e
    · subst he
      have gone : (k.remove d).holds d = false := by simp [Desk.holds, erased]
      have life := Desk.lifeOf_of_made (k := k.remove d) made
      rw [gone] at life
      rw [if_pos rfl, Desk.lifeOf_of_made made, held, life]
      rfl
    · have same : (k.remove d).holds e = k.holds e := by
        rw [Bool.eq_iff_iff, Desk.holds_iff, Desk.holds_iff, erased]
        exact and_iff_right (Ne.symm he)
      rw [if_neg he, List.append_nil, Desk.lifeOf, Desk.lifeOf, same]
      rfl
  order := (List.erase_sublist ..).trans h.order
  count := by
    have mem := Desk.holds_iff.1 held
    have count := h.count
    have nonempty : 0 < k.registered.length := List.length_pos_of_mem mem
    have fewer : (k.remove d).registered.length = k.registered.length - 1 :=
      List.length_erase_of_mem mem
    rw [timesOf_concat, timesOf_concat, timesOf_concat, fewer]
    simp
    omega

end Lives

namespace Studio

variable {S α : Type} {t : Terms S} {s s' : Studio S}

/-! ## Beats -/

/-- A step that leaves the registered documents and what was told of lives alone, or a passage with
its announcement. -/
inductive Beat (t : Terms S) : Studio S → Studio S → Prop
  | quiet {s s' : Studio S} : Step t s s' → s'.roll = s.roll → Beat t s s'
  | passage {e : Event} {s s' : Studio S} :
      Passage t e s s' → Beat t s (s'.marked (.announced e s'.scene))

/-- What a studio comes to in beats. -/
abbrev Beats (t : Terms S) : Studio S → Studio S → Prop := Relation.ReflTransGen (Beat t)

theorem Beat.covers : Covers t True (Beat t) where
  quiet _ _ step _ roll := .quiet step roll
  passage _ _ _ passage := .single (.passage passage)

theorem Step.untitled (h : Step t s s') (roll : s'.roll = s.roll) :
    s'.desk.documents.map Document.untitled = s.desk.documents.map Document.untitled := by
  have registered : s'.desk.registered.length = s.desk.registered.length :=
    congrArg (fun roll => roll.1.length) roll
  cases h with
  | aside desk _ _ => rw [desk]
  | noted _ desk _ _ => rw [desk]
  | touched _ _ desk _ => rw [desk]
  | created desk _ _ =>
    rw [desk] at registered
    simp [Desk.addUntitled] at registered
  | opened _ _ _ _ _ desk _ _ =>
    rw [desk] at registered
    simp [Desk.addOpened] at registered
  | saved _ _ _ _ _ desk _ => rw [desk]; exact Desk.untitled_saved ..
  | closed _ _ desk _ _ => rw [desk]; rfl
  | edited _ desk _ _ => rw [desk]; exact Desk.untitled_change fun _ => rfl

theorem Passage.ofLife {e : Event} (h : Passage t e s s') : e.kind.ofLife = true := by
  cases h <;> rfl

/-- Every beat keeps the lives told. -/
theorem Beat.lives (h : Beat t s s') (k : Lives (lifeEvents s.journal) s.desk) :
    Lives (lifeEvents s'.journal) s'.desk := by
  cases h with
  | quiet step roll =>
    have told : lifeEvents s'.journal = lifeEvents s.journal := congrArg Prod.snd roll
    rw [told]
    exact k.quiet (congrArg Prod.fst roll) (step.untitled roll)
  | @passage e _ s₁ passage =>
    have told := lifeEvents_announced passage.ofLife s₁.journal s₁.scene
    show Lives (lifeEvents (s₁.journal ++ [.announced e s₁.scene])) s₁.desk
    rw [told]
    cases passage with
    | @created _ b => exact k.birth { buffer := b, untitled := some s.desk.nextUntitled } _ _
    | @opened _ _ _ target _ b => exact k.birth { buffer := b.markSaved, path := some target } _ _
    | closed _ held => exact k.death held

/-- What a beat adds to the journal, if anything, carries the scene that the beat comes to. -/
theorem Beat.journal_eq (h : Beat t s s') :
    s'.journal = s.journal ∨
      ∃ m, s'.journal = s.journal ++ [m] ∧ ∀ scene, m.scene? = some scene → scene = s'.scene := by
  cases h with
  | quiet step _ => exact step.journal_eq
  | @passage e _ s₁ passage =>
    have before : s₁.journal = s.journal := by cases passage <;> rfl
    refine .inr ⟨.announced e s₁.scene, ?_, fun scene hs => by cases hs; rfl⟩
    show s₁.journal ++ _ = _
    rw [before]

theorem Beats.journal (h : Beats t s s') : s.journal <+: s'.journal := by
  induction h with
  | refl => exact List.prefix_refl _
  | tail _ beat ih =>
    rcases beat.journal_eq with hj | ⟨m, hj, -⟩ <;> rw [hj]
    · exact ih
    · exact ih.trans (List.prefix_append _ _)

/-! ## Runs -/

/-- The listeners were told of the lives of all documents, up to now and up to every moment of the
journal that has a scene, that one included. -/
structure WellTold (s : Studio S) : Prop where
  now : Lives (lifeEvents s.journal) s.desk
  past : ∀ ms m scene, ms ++ [m] <+: s.journal → m.scene? = some scene →
    Lives (lifeEvents (ms ++ [m])) scene.desk

theorem WellTold.start (empty : s.desk = {}) (unwritten : s.journal = []) : WellTold s where
  now := by
    rw [empty, unwritten]
    exact .empty
  past ms m scene before := by
    rw [unwritten, List.prefix_nil] at before
    exact absurd before (List.append_ne_nil_of_right_ne_nil _ (List.cons_ne_nil _ _))

theorem WellTold.beats (h : WellTold s) (run : Beats t s s') : WellTold s' := by
  -- the only moment that a beat can add carries the scene in which the beat ends
  induction run with
  | refl => exact h
  | @tail s₁ s₂ _ beat ih =>
    have now := beat.lives ih.now
    refine ⟨now, fun ms m scene before carried => ?_⟩
    rcases beat.journal_eq with hj | ⟨m', hj, hm'⟩
    · rw [hj] at before
      exact ih.past ms m scene before carried
    · rw [hj] at before
      rcases List.prefix_concat_iff.1 before with whole | before
      · obtain ⟨rfl, same⟩ := List.append_inj' whole rfl
        cases same
        rw [← hj, hm' scene carried]
        exact now
      · exact ih.past ms m scene before carried

/-! ## Calls that close a document -/

variable {c : Collaborators S} {d : DocId}

/-- A call takes a document from the desk in the state `m`, in which all have consented, and tells the
listeners until they are all told. -/
structure Takes (c : Collaborators S) (d : DocId) (s m s' : Studio S) : Prop where
  consent : Consented c d s m
  held : m.desk.holds d = true
  told : announce c (closedEvent d) (m.without d) = some (.ok (), s')

/-- The state in which the listeners begin to be told that a document was closed. -/
def telling (m : Studio S) (d : DocId) : Studio S :=
  (m.without d).marked (.announced (closedEvent d) (m.without d).scene)

theorem closeDocument_eq_true :
    closeDocument c d s = some (.ok true, s') ↔ ∃ m, Takes c d s m s' := by
  rw [closeDocument_eq_some]
  constructor
  · intro h
    generalize answer : (Except.ok true : Except Failure Bool) = r at h
    cases h with
    | @removed m _ q consent held told =>
      cases q with
      | ok _ => exact ⟨m, consent, held, told⟩
      | error f => cases answer
    | absent _ _ => cases answer
    | refused _ => cases answer
    | broken _ => cases answer
  · rintro ⟨m, consent, held, told⟩
    exact .removed consent held told

/-- No closing of the document was announced before `m` in the run to `s'`, and once the listeners begin
to be told of this one no call takes the document. Of two calls that did, wherever they are nested, one
would have come to its own `m` after the other began to tell. -/
structure TakenOnce (t : Terms S) (d : DocId) (m s' : Studio S) : Prop where
  first : m.journal = s'.journal.takeWhile fun moment => moment.life? ≠ some (closedEvent d)
  last : ∀ c s₁ m' s₂, Takes c d s₁ m' s₂ → ¬ Beats t (telling m d) m'

theorem mem_kindsAbout {ms : List Moment} {moment : Moment} {kind : EventKind} (hmem : moment ∈ ms)
    (life : moment.life? = some ⟨kind, some d⟩) : kind ∈ kindsAbout d (lifeEvents ms) := by
  have told : (⟨kind, some d⟩ : Event) ∈ lifeEvents ms := List.mem_filterMap.2 ⟨moment, hmem, life⟩
  exact List.mem_map.2 ⟨_, List.mem_filter.2 ⟨told, decide_eq_true rfl⟩, rfl⟩

/-- A document that is registered was not announced to be closed. -/
theorem WellTold.unclosed (h : WellTold s) (held : s.desk.holds d = true) :
    ∀ moment ∈ s.journal, moment.life? ≠ some (closedEvent d) := by
  intro moment hmem life
  have gone := (h.now.closed_iff (h.now.made_of_held held)).1 (mem_kindsAbout hmem life)
  rw [held] at gone
  cases gone

theorem telling_journal (m : Studio S) (d : DocId) : (telling m d).journal =
    m.journal ++ [.announced (closedEvent d) (m.without d).scene] :=
  rfl

theorem Takes.takenOnce {m s₂ : Studio S} (member : t.crew c) (takes : Takes c d s m s₂)
    (before : WellTold m) (run : Beats t (telling m d) s') : TakenOnce t d m s' where
  first := by
    obtain ⟨rest, whole⟩ := Beats.journal run
    rw [telling_journal, List.append_assoc] at whole
    have unclosed : ∀ moment ∈ m.journal, decide (moment.life? ≠ some (closedEvent d)) = true :=
      fun moment hmem => decide_eq_true (before.unclosed takes.held moment hmem)
    rw [← whole, List.takeWhile_append_of_pos unclosed]
    simp [Moment.life?, EventKind.ofLife]
  last c' s₁ m' s₂ again later := by
    have beat : Beat t m (telling m d) :=
      .passage (.closed ⟨c, s, member, takes.consent⟩ takes.held)
    have after : WellTold m' := before.beats (.head beat later)
    have told : Moment.announced (closedEvent d) (m.without d).scene ∈ m'.journal :=
      (Beats.journal later).subset (List.mem_append_right _ (List.mem_singleton.2 rfl))
    exact after.unclosed again.held _ told rfl

/-! ## The lives told in a run -/

/-- A command that does not tell of lives itself is a chain of beats. -/
theorem command_beats {k : Cast S} {patience : Nat} {c : Collaborators S}
    (hc : Follows (k.terms patience True True) True (Beat (k.terms patience True True)) c)
    {command : Command DocId CompilerId} (plain : command.forges = false) :
    Act.Along (Beat (k.terms patience True True)) (command.run c) :=
  hc.command_along (k.terms_allows patience True command) (fun _ => trivial) fun forges =>
    absurd (plain.symm.trans forges) Bool.false_ne_true

theorem follows_beats {k : Cast S} (hk : k.Gives fun command => command.forges = false)
    (patience depth : Nat) :
    Follows (k.terms patience True True) True (Beat (k.terms patience True True))
      (k.collaborators patience depth) := by
  have member : ∀ depth, (k.terms patience True True).crew (k.collaborators patience depth) :=
    fun depth => ⟨depth, rfl⟩
  exact Cast.follows Beat.covers member hk k.views_any (fun h => absurd trivial h) command_beats depth

/-- How a run tells the lives of documents: it is a chain of beats, they are told at all its moments,
and a call in it that answers that it closed a document took it, as no other call did. -/
structure Recounts (t : Terms S) (s s' : Studio S) : Prop where
  beats : Beats t s s'
  told : WellTold s'
  closes : ∀ c d s₁ s₂, t.crew c → Beats t s s₁ → closeDocument c d s₁ = some (.ok true, s₂) →
    Beats t s₂ s' → ∃ m, Takes c d s₁ m s₂ ∧ TakenOnce t d m s'

/-- Every run from an empty desk, in which nobody but the studio tells of documents that are made,
opened or closed, tells the lives of documents, whatever is done by those who are called in it. -/
theorem lives_told (k : Cast S) (patience depth : Nat) (script : Script S α) {r : Except Failure α}
    (hk : k.Gives fun command => command.forges = false)
    (hs : script.Gives fun command => command.forges = false) (empty : s.desk = {})
    (unwritten : s.journal = [])
    (run : script.run (k.collaborators patience depth) s = some (r, s')) :
    Recounts (k.terms patience True True) s s' := by
  have start : WellTold s := .start empty unwritten
  have beats : Beats (k.terms patience True True) s s' :=
    Script.run_along Beat.covers.moves (command_beats (follows_beats hk patience depth)) hs run
  refine ⟨beats, start.beats beats, ?_⟩
  rintro _ d s₁ s₂ ⟨n, rfl⟩ before close after
  obtain ⟨m, takes⟩ := closeDocument_eq_true.1 close
  have asked : Beats (k.terms patience True True) s₁ m :=
    canAbandon_along (follows_beats hk patience n).tends d
      (canAbandon_eq_some.2 (.inl ⟨takes.consent, rfl⟩))
  have told : Beats (k.terms patience True True) (telling m d) s₂ :=
    announce_told (follows_beats hk patience n) takes.told
  exact ⟨m, takes, takes.takenOnce ⟨n, rfl⟩ (start.beats (before.trans asked)) (told.trans after)⟩

end Studio

/-! ## A hasty listener -/

/-- A cast in which a listener that is told that a document was made closes the first one. -/
def Cast.hasty : Cast Unit :=
  .hearing .documentCreated (.call (.document 0 .close) fun _ => .done true)

namespace Studio

/-- A studio at the root of a tree without files, with a listener. -/
def attended : Studio Unit := { atRoot with bus := [.outside 0] }

theorem lives_told_hasty : ∃ s', Script.run (Cast.hasty.collaborators 1 1)
      (.call (.studio .new) fun _ => .done ()) attended = some (.ok (), s') ∧
    s'.desk.registered = [] ∧
    lifeEvents s'.journal = [⟨.documentCreated, some 0⟩, closedEvent 0] ∧
    Recounts (Cast.hasty.terms 1 True True) attended s' :=
  ⟨_, rfl, rfl, rfl, lives_told Cast.hasty 1 1 (.call (.studio .new) fun _ => .done ())
    (Cast.gives_hearing ⟨rfl, fun _ => trivial⟩) ⟨rfl, fun _ => trivial⟩ rfl rfl rfl⟩

end Studio

end JavaStudio
