import JavaStudio.Proofs.Studio.LifeCycle

/-!
# Clearing the desk

`closeAll` closes the document that is the first, and again the one that is the first then, while the
listeners may make, open and close others. What it has done is a chain of rounds (`Round`).

* `Desk.Succeeds`: what steps keep of the order of documents, so that a document which stays
  registered stays before those that are made later.
* `Bystanders`: listeners whose votes depend on the document only and whose handlers leave the desk
  alone. With them the documents are closed in turn (`Turns`) up to the first that is refused.
* `closeAll_clears`: closing all documents answers true only with an empty desk, and false only when
  the document that is still the first was refused; the program is left, once and with 0, exactly when
  it answers true. Among bystanders it ends, and it closes the longest run of documents that may go.
-/

namespace JavaStudio

namespace Desk

variable {k k' k'' : Desk} {d : DocId}

/-! ## The order of documents -/

/-- The documents are registered in the order in which they were made. -/
def InOrder (k : Desk) : Prop := k.registered.Sublist (List.range k.documents.length)

theorem InOrder.increasing (h : k.InOrder) : k.registered.Pairwise (· < ·) :=
  List.pairwise_lt_range.sublist h

theorem InOrder.lt_length (h : k.InOrder) (held : d ∈ k.registered) : d < k.documents.length :=
  List.mem_range.1 (h.subset held)

/-- What a desk can become: documents that are not registered stay so, and new ones come last. -/
structure Succeeds (k k' : Desk) : Prop where
  longer : k.documents.length ≤ k'.documents.length
  inOrder : k.InOrder → k'.InOrder
  known : ∀ d ∈ k'.registered, d ∈ k.registered ∨ k.documents.length ≤ d

namespace Succeeds

protected theorem refl (k : Desk) : Succeeds k k := ⟨Nat.le_refl _, id, fun _ => .inl⟩

protected theorem trans (h : Succeeds k k') (h' : Succeeds k' k'') : Succeeds k k'' where
  longer := Nat.le_trans h.longer h'.longer
  inOrder ordered := h'.inOrder (h.inOrder ordered)
  known d held := by
    rcases h'.known d held with held | made
    · exact h.known d held
    · exact .inr (Nat.le_trans h.longer made)

theorem of_sublist (fewer : k'.registered.Sublist k.registered)
    (length : k'.documents.length = k.documents.length) : Succeeds k k' where
  longer := Nat.le_of_eq length.symm
  inOrder ordered := by
    unfold InOrder
    rw [length]
    exact fewer.trans ordered
  known _ held := .inl (fewer.subset held)

theorem append (doc : Document) (ix : PathIndex) (n : Nat) :
    Succeeds k ⟨k.documents ++ [doc], k.registered ++ [k.nextId], ix, n⟩ where
  longer := by simp
  inOrder ordered := by
    unfold InOrder
    simp only [List.length_append, List.length_singleton, List.range_succ]
    exact ordered.append_right _
  known d held := by
    rcases List.mem_append.1 held with held | new
    · exact .inl held
    · rw [List.mem_singleton.1 new]
      exact .inr (Nat.le_refl _)

/-- The first document stays the first while it is registered. -/
theorem head (h : Succeeds k k') (ordered : k.InOrder) (first : k.registered.head? = some d)
    (held : k'.holds d = true) : k'.registered.head? = some d := by
  have before : ∀ e ∈ k.registered, d ≤ e := by
    obtain ⟨ds, hds⟩ := List.head?_eq_some_iff.1 first
    have increasing := ordered.increasing
    rw [hds, List.pairwise_cons] at increasing
    intro e he
    rw [hds, List.mem_cons] at he
    rcases he with rfl | he
    · exact Nat.le_refl _
    · exact Nat.le_of_lt (increasing.1 e he)
  have made : d < k.documents.length := ordered.lt_length (List.mem_of_head? first)
  have mem := holds_iff.1 held
  rcases hk : k'.registered with _ | ⟨e, es⟩
  · rw [hk] at mem
    cases mem
  · have known := h.known e (hk ▸ List.mem_cons_self)
    have increasing := (h.inOrder ordered).increasing
    rw [hk, List.pairwise_cons] at increasing
    rw [hk, List.mem_cons] at mem
    rcases mem with rfl | mem
    · rfl
    · -- a document before this one would have been before it from the beginning
      have lt : e < d := increasing.1 d mem
      rcases known with old | new
      · exact absurd (before e old) (Nat.not_le.2 lt)
      · exact absurd (Nat.lt_trans lt made) (Nat.not_lt.2 new)

end Succeeds

end Desk

namespace Studio

variable {S α : Type} {t : Terms S} {c : Collaborators S} {d : DocId} {s s' : Studio S}

theorem Step.succeeds (h : Step t s s') : s.desk.Succeeds s'.desk := by
  cases h with
  | aside desk _ _ => rw [desk]; exact .refl _
  | noted _ desk _ _ => rw [desk]; exact .refl _
  | touched _ _ desk _ => rw [desk]; exact .refl _
  | created desk _ _ => rw [desk]; exact .append _ _ _
  | opened _ _ _ _ _ desk _ _ => rw [desk]; exact .append _ _ _
  | saved _ _ _ _ _ desk _ =>
    rw [desk]
    have registered := Desk.saved_registered s.desk
    exact .of_sublist (by simp only [registered, List.Sublist.refl]) (Desk.saved_length _ _ _)
  | closed _ _ desk _ _ => rw [desk]; exact .of_sublist List.erase_sublist rfl
  | edited _ desk _ _ => rw [desk]; exact .of_sublist (List.Sublist.refl _) (Desk.length_change _)

theorem steps_succeed (h : Relation.ReflTransGen (Step t) s s') : s.desk.Succeeds s'.desk := by
  induction h with
  | refl => exact .refl _
  | tail _ step ih => exact ih.trans step.succeeds

/-! ## Rounds -/

/-- The document that is the first is closed, or others have closed it when its turn is over. -/
def Round (c : Collaborators S) (s s' : Studio S) : Prop :=
  ∃ d b, s.desk.registered.head? = some d ∧ closeDocument c d s = some (.ok b, s') ∧
    (b = false → s'.desk.holds d = false)

abbrev Rounds (c : Collaborators S) : Studio S → Studio S → Prop := Relation.ReflTransGen (Round c)

/-- How closing all documents ends after its rounds. -/
inductive LastRound (c : Collaborators S) (s : Studio S) : Except Failure Bool → Studio S → Prop
  | empty : s.desk.registered = [] → LastRound c s (.ok true) s
  | refused {s' : Studio S} {d : DocId} : s.desk.registered.head? = some d → Refused c d s s' →
      s'.desk.holds d = true → LastRound c s (.ok false) s'
  | failed {s' : Studio S} {d : DocId} {f : Failure} : s.desk.registered.head? = some d →
      closeDocument c d s = some (.error f, s') → LastRound c s (.error f) s'

theorem closeDocument_refused (h : closeDocument c d s = some (.ok false, s'))
    (held : s'.desk.holds d = true) : Refused c d s s' := by
  rw [closeDocument_eq_some] at h
  generalize answer : (Except.ok false : Except Failure Bool) = r at h
  cases h with
  | @removed _ _ q _ _ _ => cases q <;> cases answer
  | absent _ gone =>
    rw [gone] at held
    cases held
  | refused refused => exact refused
  | broken _ => cases answer

theorem Closings.last {r : Except Failure Bool} (h : Closings c s r s') :
    ∃ s₀, Rounds c s s₀ ∧ LastRound c s₀ r s' := by
  induction h with
  | empty none => exact ⟨_, .refl, .empty none⟩
  | next first close gone _ ih =>
    obtain ⟨s₀, rounds, last⟩ := ih
    exact ⟨s₀, .head ⟨_, _, first, close, gone⟩ rounds, last⟩
  | refused first close held =>
    exact ⟨_, .refl, .refused first (closeDocument_refused close held) held⟩
  | failed first close => exact ⟨_, .refl, .failed first close⟩

/-! ## Leaving -/

/-- How the program is ended: the failure that ends it is thrown, or those around it are told once to
end it. -/
inductive Leaving (c : Collaborators S) : Departure → Studio S → Except Failure Unit → Studio S → Prop
  | program {s : Studio S} : Leaving c .program s (.error (.exit 0)) s
  | surroundings {s s' : Studio S} {q : Except Failure Unit} :
      c.exit 0 (s.marked (.exited 0)) = some (q, s') → Leaving c .surroundings s q s'

theorem leave_eq_some {departure : Departure} {q : Except Failure Unit} :
    leave c departure s = some (q, s') ↔ Leaving c departure s q s' := by
  cases departure with
  | program =>
    constructor
    · intro h
      cases h
      exact .program
    · intro h
      cases h
      rfl
  | surroundings =>
    constructor
    · exact .surroundings
    · intro h
      cases h with
      | surroundings told => exact told

/-- How a call to quit ends: it leaves with nothing registered, or it stays. -/
inductive Quitting (c : Collaborators S) (departure : Departure) (s : Studio S) :
    Except Failure Bool → Studio S → Prop
  | leaves {s₁ s' : Studio S} {q : Except Failure Unit} : closeAll c s = some (.ok true, s₁) →
      s₁.desk.registered = [] → Leaving c departure s₁ q s' →
      Quitting c departure s (q.map fun _ => true) s'
  | stays {s₁ : Studio S} : closeAll c s = some (.ok false, s₁) →
      Quitting c departure s (.ok false) (s₁.logged quitCancelled)
  | failed {s' : Studio S} {f : Failure} : closeAll c s = some (.error f, s') →
      Quitting c departure s (.error f) s'

theorem closeAll_empties (h : closeAll c s = some (.ok true, s')) :
    Rounds c s s' ∧ s'.desk.registered = [] := by
  obtain ⟨s₀, rounds, last⟩ := (closeAll_closings h).last
  cases last with
  | empty none => exact ⟨rounds, none⟩

theorem quit_eq_some {departure : Departure} {r : Except Failure Bool} :
    quit c departure s = some (r, s') ↔ Quitting c departure s r s' := by
  unfold quit
  constructor
  · intro h
    rcases Act.bind_eq_some.1 h with ⟨b, s₁, hclose, hrest⟩ | ⟨f, hclose, rfl⟩
    · cases b with
      | true =>
        simp only [if_true] at hrest
        have none := (closeAll_empties hclose).2
        rcases Act.bind_eq_some.1 hrest with ⟨_, s₂, hl, hr⟩ | ⟨f, hl, rfl⟩
        · cases hr
          exact .leaves hclose none (leave_eq_some.1 hl)
        · exact .leaves hclose none (leave_eq_some.1 hl)
      | false =>
        simp only [Bool.false_eq_true, if_false] at hrest
        cases hrest
        exact .stays hclose
    · exact .failed hclose
  · intro h
    cases h with
    | @leaves s₁ _ q hclose _ leaving =>
      rw [Act.bind_of_ok hclose]
      have left := leave_eq_some.2 leaving
      cases q with
      | ok _ => exact Act.bind_of_ok left _
      | error f => exact Act.bind_of_error left _
    | stays hclose =>
      rw [Act.bind_of_ok hclose]
      rfl
    | failed hclose => exact Act.bind_of_error hclose _

/-! ## Bystanders -/

/-- The documents that the listeners were asked to give up. -/
def abandonsAsked (ms : List Moment) : List DocId :=
  ms.filterMap fun
    | .asked ⟨.abandonQuery, d⟩ _ => d
    | _ => none

theorem abandonsAsked_append (ms ms' : List Moment) :
    abandonsAsked (ms ++ ms') = abandonsAsked ms ++ abandonsAsked ms' :=
  List.filterMap_append

/-- The vote of a listener on a document, where those from outside vote in a given way. -/
def voteOf (vote : Nat → DocId → Document → Vote) (s : Studio S) (d : DocId) : Listener → Vote
  | .recentFiles => .answered true
  | .outside n => vote n d (s.desk.document d)

/-- A document is unmodified, or all listeners consent that its changes are given up. -/
def mayGo (vote : Nat → DocId → Document → Vote) (s : Studio S) (d : DocId) : Bool :=
  !(s.desk.document d).buffer.modified || s.bus.all fun l => (voteOf vote s d l).consents

/-- The listeners from outside vote on a document as some function of it says. When they are asked, and
when they are told that it was closed, they end, and change the studio only as `keeps` allows, which
excludes its desk. -/
structure Bystanders (c : Collaborators S) (vote : Nat → DocId → Document → Vote)
    (keeps : Studio S → Studio S → Prop) : Prop where
  votes : ∀ n d s, ∃ s', Votes c (abandonQuery d) (.outside n) s
    (vote n d (s.desk.document d)) s' ∧ keeps s s'
  told : ∀ n d s, ∃ s', deliver c (closedEvent d) (.outside n) s = some (.ok (), s') ∧ keeps s s'
  desk : ∀ s s', keeps s s' → s'.desk = s.desk

/-- The studio when the listeners begin to be asked about a document, if they are. -/
def questioned (s : Studio S) (d : DocId) : Studio S :=
  if (s.desk.document d).buffer.modified then s.marked (.asked (abandonQuery d) s.scene) else s

theorem questioned_desk (s : Studio S) (d : DocId) : (s.questioned d).desk = s.desk := by
  unfold questioned
  split <;> rfl

theorem questioned_bus (s : Studio S) (d : DocId) : (s.questioned d).bus = s.bus := by
  unfold questioned
  split <;> rfl

theorem questioned_asked (s : Studio S) (d : DocId) :
    abandonsAsked (s.questioned d).journal =
      abandonsAsked s.journal ++ [d].filter fun d => (s.desk.document d).buffer.modified := by
  unfold questioned
  cases hm : (s.desk.document d).buffer.modified with
  | false => simp [hm]
  | true =>
    simp only [if_true, hm, List.filter_cons, List.filter_nil]
    exact abandonsAsked_append _ _

/-- Documents closed one after another, up to an empty desk or to one that is refused. -/
inductive Turns (c : Collaborators S) : Studio S → List DocId → Bool → Studio S → Prop
  | empty {s : Studio S} : s.desk.registered = [] → Turns c s [] true s
  | refused {s s' : Studio S} {d : DocId} : s.desk.registered.head? = some d → Refused c d s s' →
      s'.desk.registered.head? = some d → Turns c s [] false s'
  | closed {s m s₁ s' : Studio S} {d : DocId} {ds : List DocId} {b : Bool} :
      s.desk.registered.head? = some d → Takes c d s m s₁ → Turns c s₁ ds b s' →
      Turns c s (d :: ds) b s'

/-- What closing all documents does among bystanders. The documents that are closed are the first ones;
the others stay as they are. They are all that may go before the first that may not, if the handlers
leave the listeners as they are; the listeners are asked about the modified ones of them and, if there
is one, about the one that is refused, if the handlers ask nothing of the kind themselves. -/
structure ClosesInTurn (c : Collaborators S) (vote : Nat → DocId → Document → Vote)
    (keeps : Studio S → Studio S → Prop) (s : Studio S) (closed : List DocId) (b : Bool)
    (s' : Studio S) : Prop where
  turns : Turns c s closed b s'
  desk : s'.desk = closed.foldl Desk.remove s.desk
  rest : s.desk.registered = closed ++ s'.desk.registered
  answer : b = true ↔ s'.desk.registered = []
  longest : (∀ s s', keeps s s' → s'.bus = s.bus) →
    closed = s.desk.registered.takeWhile (mayGo vote s)
  asked : (∀ s s', keeps s s' → abandonsAsked s'.journal = abandonsAsked s.journal) →
    abandonsAsked s'.journal = abandonsAsked s.journal ++
      (s.desk.registered.take (closed.length + 1)).filter fun d =>
        (s.desk.document d).buffer.modified

/-- What a turn in which a document is closed leaves, where the handlers leave something alone. -/
structure Turned (keeps : Studio S → Studio S → Prop) (d : DocId) (s s' : Studio S) : Prop where
  desk : s'.desk = s.desk.remove d
  bus : (∀ s s', keeps s s' → s'.bus = s.bus) → s'.bus = s.bus
  asked : (∀ s s', keeps s s' → abandonsAsked s'.journal = abandonsAsked s.journal) →
    abandonsAsked s'.journal = abandonsAsked s.journal ++
      [d].filter fun d => (s.desk.document d).buffer.modified

namespace Turned

variable {vote : Nat → DocId → Document → Vote} {keeps : Studio S → Studio S → Prop}
  {ds : List DocId}

theorem registered (h : Turned keeps d s s') (first : s.desk.registered = d :: ds) :
    s'.desk.registered = ds := by
  rw [h.desk, Desk.remove, first, List.erase_cons_head]

theorem document (h : Turned keeps d s s') (e : DocId) :
    s'.desk.document e = s.desk.document e := by
  rw [h.desk]
  rfl

theorem mayGo (h : Turned keeps d s s') (spares : ∀ s s', keeps s s' → s'.bus = s.bus) :
    mayGo vote s' = mayGo vote s := by
  funext e
  have votes : voteOf vote s' e = voteOf vote s e := by
    funext l
    cases l with
    | recentFiles => rfl
    | outside n => rw [voteOf, voteOf, h.document]
  rw [Studio.mayGo, Studio.mayGo, h.document, h.bus spares, votes]

end Turned

namespace Bystanders

variable {vote : Nat → DocId → Document → Vote} {keeps : Studio S → Studio S → Prop}

/-- What each call of a handler leaves alone is left alone by all of them. -/
theorem spared {γ : Type} {g : Studio S → γ} (spares : ∀ s s', keeps s s' → g s' = g s)
    (h : Relation.ReflTransGen keeps s s') : g s' = g s := by
  induction h with
  | refl => rfl
  | tail _ step ih => exact (spares _ _ step).trans ih

variable (h : Bystanders c vote keeps)
include h

theorem poll (d : DocId) (ls : List Listener) (s : Studio S) :
    ∃ s', Poll c (abandonQuery d) ls s (ls.map (voteOf vote s d)) s' ∧
      Relation.ReflTransGen keeps s s' := by
  induction ls generalizing s with
  | nil => exact ⟨s, .nil, .refl⟩
  | cons l ls ih =>
    have first : ∃ s₁, Votes c (abandonQuery d) l s (voteOf vote s d l) s₁ ∧
        Relation.ReflTransGen keeps s s₁ := by
      cases l with
      | recentFiles => exact ⟨s, .answered rfl rfl, .refl⟩
      | outside n =>
        obtain ⟨s₁, votes, kept⟩ := h.votes n d s
        exact ⟨s₁, votes, .single kept⟩
    obtain ⟨s₁, votes, kept⟩ := first
    obtain ⟨s', others, kept'⟩ := ih s₁
    -- the others vote on the document as it was for the first
    have same : voteOf vote s₁ d = voteOf vote s d := by
      funext l
      cases l with
      | recentFiles => rfl
      | outside n => rw [voteOf, voteOf, spared h.desk kept]
    rw [same] at others
    exact ⟨s', .cons votes others, kept.trans kept'⟩

theorem deliverAll (d : DocId) (ls : List Listener) (s : Studio S) :
    ∃ s', deliverAll c (closedEvent d) ls s = some (.ok (), s') ∧
      Relation.ReflTransGen keeps s s' := by
  induction ls generalizing s with
  | nil => exact ⟨s, rfl, .refl⟩
  | cons l ls ih =>
    have first : ∃ s₁, deliver c (closedEvent d) l s = some (.ok (), s₁) ∧
        Relation.ReflTransGen keeps s s₁ := by
      cases l with
      | recentFiles => exact ⟨s, rfl, .refl⟩
      | outside n =>
        obtain ⟨s₁, told, kept⟩ := h.told n d s
        exact ⟨s₁, told, .single kept⟩
    obtain ⟨s₁, told, kept⟩ := first
    obtain ⟨s', others, kept'⟩ := ih s₁
    refine ⟨s', ?_, kept.trans kept'⟩
    rw [Studio.deliverAll, Act.bind_of_ok told]
    exact others

/-- The document may go, and the listeners consent if they are asked. -/
theorem consents (may : mayGo vote s d = true) :
    ∃ m, Consented c d s m ∧ Relation.ReflTransGen keeps (s.questioned d) m := by
  unfold mayGo at may
  cases hm : (s.desk.document d).buffer.modified with
  | false =>
    rw [questioned, hm, if_neg Bool.false_ne_true]
    exact ⟨s, .clean hm, .refl⟩
  | true =>
    rw [questioned, hm, if_pos rfl]
    rw [hm, Bool.not_true, Bool.false_or, List.all_eq_true] at may
    obtain ⟨m, poll, kept⟩ := h.poll d s.bus (s.marked (.asked (abandonQuery d) s.scene))
    refine ⟨m, .polled hm poll fun v hv => ?_, kept⟩
    obtain ⟨l, hl, rfl⟩ := List.mem_map.1 hv
    exact may l hl

/-- The document may not go, and a listener refuses when it is asked. -/
theorem refuses (may : mayGo vote s d = false) :
    ∃ s', Refused c d s s' ∧ Relation.ReflTransGen keeps (s.questioned d) s' := by
  unfold mayGo at may
  rw [Bool.or_eq_false_iff, Bool.not_eq_false', List.all_eq_false] at may
  obtain ⟨hm, l, hl, hno⟩ := may
  rw [questioned, hm, if_pos rfl]
  obtain ⟨s', poll, kept⟩ := h.poll d s.bus (s.marked (.asked (abandonQuery d) s.scene))
  exact ⟨s', ⟨hm, _, poll, _, List.mem_map_of_mem hl, Bool.not_eq_true _ ▸ hno⟩, kept⟩

/-- A document that may go is closed. -/
theorem takes (first : s.desk.registered.head? = some d) (may : mayGo vote s d = true) :
    ∃ m s₁, Takes c d s m s₁ ∧ Turned keeps d s s₁ := by
  obtain ⟨m, consent, asked⟩ := h.consents may
  obtain ⟨s₁, told, kept⟩ := h.deliverAll d m.bus (telling m d)
  have desk : m.desk = s.desk := (spared h.desk asked).trans (questioned_desk s d)
  have held : m.desk.holds d = true := by
    rw [desk]
    exact Desk.holds_iff.2 (List.mem_of_head? first)
  refine ⟨m, s₁, ⟨consent, held, told⟩, ?_, fun spares => ?_, fun spares => ?_⟩
  · calc s₁.desk
      _ = (telling m d).desk := spared h.desk kept
      _ = m.desk.remove d := rfl
      _ = s.desk.remove d := by rw [desk]
  · calc s₁.bus
      _ = (telling m d).bus := spared spares kept
      _ = m.bus := rfl
      _ = s.bus := by rw [spared spares asked, questioned_bus]
  · calc abandonsAsked s₁.journal
      _ = abandonsAsked (telling m d).journal :=
        spared (g := fun s => abandonsAsked s.journal) spares kept
      _ = abandonsAsked m.journal := by
        rw [telling_journal, abandonsAsked_append]
        exact List.append_nil _
      _ = abandonsAsked (s.questioned d).journal :=
        spared (g := fun s => abandonsAsked s.journal) spares asked
      _ = _ := questioned_asked s d

end Bystanders

namespace ClosesInTurn

variable {vote : Nat → DocId → Document → Vote} {keeps : Studio S → Studio S → Prop}
  {ds closed : List DocId} {b : Bool} {s₁ : Studio S}

theorem empty (none : s.desk.registered = []) : ClosesInTurn c vote keeps s [] true s where
  turns := .empty none
  desk := rfl
  rest := rfl
  answer := by simp [none]
  longest _ := by rw [none]; rfl
  asked _ := by simp [none]

theorem refused (h : Bystanders c vote keeps) (first : s.desk.registered = d :: ds)
    (may : mayGo vote s d = false) (refused : Refused c d s s')
    (kept : Relation.ReflTransGen keeps (s.questioned d) s') :
    ClosesInTurn c vote keeps s [] false s' := by
  have desk : s'.desk = s.desk := (Bystanders.spared h.desk kept).trans (questioned_desk s d)
  exact {
    turns := .refused (by rw [first]; rfl) refused (by rw [desk, first]; rfl)
    desk := desk
    rest := by rw [desk]; rfl
    answer := by simp [desk, first]
    longest := fun _ => by rw [first, List.takeWhile_cons_of_neg (by simp [may])]
    asked := fun spares => by
      have asked : abandonsAsked s'.journal = abandonsAsked (s.questioned d).journal :=
        Bystanders.spared (g := fun s => abandonsAsked s.journal) spares kept
      rw [asked, questioned_asked, first]
      rfl }

theorem next {m : Studio S} (first : s.desk.registered = d :: ds) (may : mayGo vote s d = true)
    (takes : Takes c d s m s₁) (turned : Turned keeps d s s₁)
    (rest : ClosesInTurn c vote keeps s₁ closed b s') :
    ClosesInTurn c vote keeps s (d :: closed) b s' where
  turns := .closed (by rw [first]; rfl) takes rest.turns
  desk := by rw [rest.desk, turned.desk]; rfl
  rest := by rw [first, ← turned.registered first, rest.rest]; rfl
  answer := rest.answer
  longest spares := by
    rw [first, List.takeWhile_cons_of_pos may, rest.longest spares, turned.registered first,
      turned.mayGo spares]
  asked spares := by
    rw [rest.asked spares, turned.asked spares, turned.registered first, first,
      List.append_assoc]
    simp only [turned.document]
    rw [← List.filter_append]
    rfl

end ClosesInTurn

/-- Among bystanders the documents that may go are closed in turn, in as many rounds as there are
documents at most. -/
theorem Bystanders.closesInTurn {vote : Nat → DocId → Document → Vote}
    {keeps : Studio S → Studio S → Prop} (h : Bystanders c vote keeps) (n : Nat) (s : Studio S)
    (enough : s.desk.registered.length < n) :
    ∃ closed b s', closeFrom c n s = some (.ok b, s') ∧
      ClosesInTurn c vote keeps s closed b s' := by
  induction n generalizing s with
  | zero => omega
  | succ n ih =>
    rw [closeFrom, Act.get_bind]
    rcases hr : s.desk.registered with _ | ⟨d, ds⟩
    · exact ⟨[], true, s, rfl, .empty hr⟩
    · have first : s.desk.registered.head? = some d := by rw [hr, List.head?_cons]
      cases may : mayGo vote s d with
      | true =>
        obtain ⟨m, s₁, takes, turned⟩ := h.takes first may
        have close : closeDocument c d s = some (.ok true, s₁) := closeDocument_eq_true.2 ⟨m, takes⟩
        have fewer : s₁.desk.registered.length < n := by
          rw [turned.registered hr]
          rw [hr, List.length_cons] at enough
          omega
        obtain ⟨closed, b, s', run, rest⟩ := ih s₁ fewer
        refine ⟨d :: closed, b, s', ?_, .next hr may takes turned rest⟩
        simp only [Act.bind_of_ok close, if_true]
        exact run
      | false =>
        obtain ⟨s', refused, kept⟩ := h.refuses may
        have close : closeDocument c d s = some (.ok false, s') :=
          closeDocument_eq_some.2 (.refused refused)
        have held : s'.desk.holds d = true := by
          rw [Bystanders.spared h.desk kept, questioned_desk]
          exact Desk.holds_iff.2 (List.mem_of_head? first)
        refine ⟨[], false, s', ?_, .refused h hr may refused kept⟩
        simp only [Act.bind_of_ok close, Bool.false_eq_true, if_false, Act.get_bind, held, if_true]
        rfl

/-! ## All documents -/

/-- What closing all documents and quitting come to. -/
structure Clears (c : Collaborators S) (s : Studio S) : Prop where
  emptied : ∀ s', closeAll c s = some (.ok true, s') → Rounds c s s' ∧ s'.desk.registered = []
  refused : ∀ s', closeAll c s = some (.ok false, s') → ∃ d s₀, Rounds c s s₀ ∧
    s₀.desk.registered.head? = some d ∧ Refused c d s₀ s' ∧ s'.desk.registered.head? = some d
  quits : ∀ departure r s', quit c departure s = some (r, s') ↔ Quitting c departure s r s'
  inTurn : ∀ vote keeps, Bystanders c vote keeps → s.desk.registered.length < c.patience →
    ∃ closed b s', closeAll c s = some (.ok b, s') ∧ ClosesInTurn c vote keeps s closed b s'

theorem Rounds.steps (hc : Follows t True (Step t) c) (h : Rounds c s s') :
    Relation.ReflTransGen (Step t) s s' := by
  induction h with
  | refl => exact .refl
  | tail _ round ih =>
    obtain ⟨d, b, -, close, -⟩ := round
    exact ih.trans (closeDocument_along hc.tends d close)

/-- The document that was refused is still the first. -/
theorem closeAll_refused (hc : Follows t True (Step t) c) (ordered : s.desk.InOrder)
    (h : closeAll c s = some (.ok false, s')) : ∃ d s₀, Rounds c s s₀ ∧
      s₀.desk.registered.head? = some d ∧ Refused c d s₀ s' ∧
      s'.desk.registered.head? = some d := by
  obtain ⟨s₀, rounds, last⟩ := (closeAll_closings h).last
  cases last with
  | @refused _ d first refused held =>
    have before : s₀.desk.InOrder := (steps_succeed (Rounds.steps hc rounds)).inOrder ordered
    have asked : Relation.ReflTransGen (Step t) s₀ s' :=
      closeDocument_along hc.tends d (closeDocument_eq_some.2 (.refused refused))
    exact ⟨d, s₀, rounds, first, refused, (steps_succeed asked).head before first held⟩

/-- Closing all documents answers true only with an empty desk, and false only when the document that is
still the first was refused; quitting leaves the program exactly when it answers true. If those who are
asked and told leave the desk alone, it closes in turn the documents that may go. -/
theorem closeAll_clears (k : Cast S) (patience depth : Nat) {s : Studio S}
    (ordered : s.desk.InOrder) : Clears (k.collaborators patience depth) s where
  emptied _ run := closeAll_empties run
  refused _ run := closeAll_refused (k.follows_steps patience depth) ordered run
  quits _ _ _ := quit_eq_some
  inTurn _ _ bystanders enough := bystanders.closesInTurn _ s enough

end Studio

/-! ## A listener that clings to a document -/

/-- A cast in which the listeners refuse to give up one document. -/
def Cast.clinging (d : DocId) : Cast Unit :=
  { Cast.idle with
    handler := fun _ e =>
      if e.kind = .abandonQuery then some (.done (e.document ≠ some d)) else none }

namespace Studio

theorem clinging_bystanders (d : DocId) (patience depth : Nat) :
    Bystanders ((Cast.clinging d).collaborators patience (depth + 1))
      (fun _ e _ => .answered (some e ≠ some d)) fun s s' => s' = s where
  votes _ _ s := ⟨s, .answered rfl rfl, rfl⟩
  told _ _ s := ⟨s, rfl, rfl⟩
  desk _ _ same := by rw [same]

/-- A studio with four documents, of which the two in the middle are modified, and a listener. -/
def fourAtRoot : Studio Unit :=
  { atRoot with
    bus := [.outside 0]
    desk := ((((({} : Desk).addUntitled {}).addUntitled { modified := true }).addUntitled
      { modified := true }).addUntitled {}) }

theorem closeAll_clears_four :
    Clears ((Cast.clinging 2).collaborators 5 1) fourAtRoot ∧
      ∃ closed b s', closeAll ((Cast.clinging 2).collaborators 5 1) fourAtRoot = some (.ok b, s') ∧
        closed = [0, 1] ∧ b = false ∧ s'.desk.registered = [2, 3] ∧
        abandonsAsked s'.journal = [1, 2] := by
  have clears := closeAll_clears (Cast.clinging 2) 5 1 (s := fourAtRoot) (.refl _)
  obtain ⟨closed, b, s', run, turn⟩ :=
    clears.inTurn _ _ (clinging_bystanders 2 5 0) (by decide)
  refine ⟨clears, closed, b, s', run, ?_⟩
  have whole : closed = [0, 1] := turn.longest fun _ _ same => by rw [same]
  have rest : s'.desk.registered = [2, 3] := by
    rw [turn.desk, whole]
    rfl
  have asked : abandonsAsked s'.journal = [1, 2] := by
    rw [turn.asked fun _ _ same => by rw [same], whole]
    rfl
  refine ⟨whole, ?_, rest, asked⟩
  rw [Bool.eq_false_iff]
  intro all
  rw [turn.answer.1 all] at rest
  cases rest

end Studio

end JavaStudio
