import JavaStudio.Proofs.Labelled
import JavaStudio.Proofs.Studio.Runs

/-!
# The active compiler

Which compilers can run changes between the uses of a registry, so the choice that it keeps may be of a
compiler that cannot run by now, or of the placeholder although a compiler has come back. It is looked at
again only when it is read.

* `Tally.run`: the registry keeps the compilers that were registered and what was last read or set.
* `Due`: the choice that is due is the last one while it can run, else the first compiler that can.
* `active_chosen`: a read gives the choice that is due, and setting and selecting fail just for
  compilers that are not registered or cannot run, without a change.
-/

namespace JavaStudio.Studio

variable {S : Type} {c : Collaborators S} {s s' : Studio S}

/-! ## Uses of the registry -/

/-- A use of the registry with what came of it. -/
inductive Use
  | registered (k : CompilerId)
  | read (choice : Choice)
  | set (choice : Choice) (r : Except Failure Unit)
  | selected (name : String) (r : Except Failure Choice)

/-- The compiler that is registered. -/
def Use.registered? : Use → Option CompilerId
  | registered k => some k
  | read _ | set _ _ | selected _ _ => none

/-- The choice that is read or set. -/
def Use.chosen? : Use → Option Choice
  | read choice | set choice (.ok _) | selected _ (.ok choice) => some choice
  | registered _ | set _ (.error _) | selected _ (.error _) => none

/-- The registry is used. -/
def Uses (c : Collaborators S) : Use → Studio S → Studio S → Prop
  | .registered k, s, s' => register k s = some (.ok (), s')
  | .read choice, s, s' => readActive c s = some (.ok choice, s')
  | .set choice r, s, s' => activate c choice s = some (r, s')
  | .selected name r, s, s' => select c name s = some (r, s')

/-- The registry is the same. Everything else may have changed, and with it which compilers can run. -/
def SameRegistry (s s' : Studio S) : Prop := s'.registry = s.registry

/-- The compilers that are known after some uses. -/
def known (initial : List CompilerId) (uses : List Use) : List CompilerId :=
  initial ++ uses.filterMap Use.registered?

/-- What was last read or set. -/
def lastChoice (uses : List Use) : Option Choice := (uses.filterMap Use.chosen?).getLast?

theorem known_concat (initial : List CompilerId) (uses : List Use) (u : Use) :
    known initial (uses ++ [u]) = known initial uses ++ u.registered?.toList := by
  rw [known, known, List.filterMap_append, ← List.append_assoc]
  cases hu : u.registered? <;> simp [hu]

theorem lastChoice_concat (uses : List Use) (u : Use) :
    lastChoice (uses ++ [u]) = u.chosen?.or (lastChoice uses) := by
  rw [lastChoice, lastChoice, List.filterMap_append, List.getLast?_append]
  cases hu : u.chosen? <;> simp [hu]

/-! ## Setting and selecting -/

/-- The placeholder, or a known compiler that can run. -/
def Eligible (known : List CompilerId) (up : CompilerId → Bool) (choice : Choice) : Prop :=
  ∀ k, choice = .compiler k → k ∈ known ∧ up k = true

/-- An act is refused: it raises a ValueError and changes nothing. -/
def Rejected {α : Type} (x : Act (Studio S) α) (s : Studio S) : Prop :=
  ∃ f, x s = some (.error f, s) ∧ f.name = "ValueError"

/-- The studio after a choice became the active one. -/
def settled (s : Studio S) (choice : Choice) : Studio S :=
  { s with registry := { s.registry with active := some choice } }

/-- How making a choice the active one ends. -/
inductive Activation (q : Registry) (up : CompilerId → Bool) (choice : Choice) :
    Except Failure Registry → Prop
  | made : Eligible q.compilers up choice →
      Activation q up choice (.ok { q with active := some choice })
  | refused {f : Failure} : ¬ Eligible q.compilers up choice → f.name = "ValueError" →
      Activation q up choice (.error f)

theorem activate_activation (q : Registry) (up : CompilerId → Bool) (nameOf : CompilerId → String)
    (choice : Choice) : Activation q up choice (q.activate up nameOf choice) := by
  cases choice with
  | placeholder => exact .made nofun
  | compiler k =>
    simp only [Registry.activate]
    split
    · rename_i unregistered
      exact .refused (fun h => unregistered (h k rfl).1) rfl
    · rename_i registered
      split
      · rename_i running
        refine .made fun l hl => ?_
        cases hl
        exact ⟨Decidable.not_not.1 registered, running⟩
      · rename_i down
        exact .refused (fun h => down (h k rfl).2) rfl

/-- A choice is set just if it is eligible. -/
theorem activate_cases (c : Collaborators S) (choice : Choice) (s : Studio S) :
    Eligible s.registry.compilers (s.isUp c) choice ∧
        activate c choice s = some (.ok (), s.settled choice) ∨
      ¬ Eligible s.registry.compilers (s.isUp c) choice ∧ Rejected (activate c choice) s := by
  have activation := activate_activation s.registry (s.isUp c) (c.nameOf s.stage) choice
  rw [Rejected, activate, Act.get_bind]
  generalize s.registry.activate (s.isUp c) (c.nameOf s.stage) choice = q at activation ⊢
  cases activation with
  | made eligible => exact .inl ⟨eligible, rfl⟩
  | refused ineligible value => exact .inr ⟨ineligible, _, rfl, value⟩

/-- A name is selected just if the first compiler of the name can run. -/
theorem select_cases (c : Collaborators S) (name : String) (s : Studio S) :
    (∃ k ∈ s.registry.compilers, c.nameOf s.stage k = name ∧ s.isUp c k = true ∧
        select c name s = some (.ok (.compiler k), s.settled (.compiler k))) ∨
      ((∀ k ∈ s.registry.compilers, c.nameOf s.stage k ≠ name) ∨
        ∃ k ∈ s.registry.compilers, c.nameOf s.stage k = name ∧ s.isUp c k = false) ∧
        Rejected (select c name) s := by
  rw [Rejected, select, Act.get_bind, Registry.select]
  cases found : s.registry.compilers.find? fun k => c.nameOf s.stage k == name with
  | none =>
    refine .inr ⟨.inl fun k hk => ?_, _, rfl, rfl⟩
    simpa using List.find?_eq_none.1 found k hk
  | some k =>
    have member := List.mem_of_find?_eq_some found
    have named : c.nameOf s.stage k = name := by simpa using List.find?_some found
    have activation := activate_activation s.registry (s.isUp c) (c.nameOf s.stage) (.compiler k)
    simp only
    generalize s.registry.activate (s.isUp c) (c.nameOf s.stage) (.compiler k) = q at activation ⊢
    cases activation with
    | made eligible => exact .inl ⟨k, member, named, (eligible k rfl).2, rfl⟩
    | refused ineligible value =>
      have down : s.isUp c k = false := by
        rw [← Bool.not_eq_true]
        intro running
        refine ineligible fun l hl => ?_
        cases hl
        exact ⟨member, running⟩
      exact .inr ⟨.inr ⟨k, member, named, down⟩, _, rfl, value⟩

/-! ## What the registry keeps -/

/-- A registry with these compilers and this choice, of a compiler among them if of any. -/
structure Tally (known : List CompilerId) (last : Option Choice) (q : Registry) : Prop where
  compilers : q.compilers = known
  active : q.active = last
  member : ∀ {k}, last = some (.compiler k) → k ∈ known

/-- The choice that is due: the last one if it is of a known compiler that can run, else the first known
compiler that can run, and the placeholder if none can. -/
inductive Due (known : List CompilerId) (up : CompilerId → Bool) (last : Option Choice) :
    Choice → Prop
  | again {k : CompilerId} : last = some (.compiler k) → k ∈ known → up k = true →
      Due known up last (.compiler k)
  | first {before after : List CompilerId} {k : CompilerId} :
      (∀ l, last = some (.compiler l) → l ∈ known → up l = false) →
      known = before ++ k :: after → (∀ l ∈ before, up l = false) → up k = true →
      Due known up last (.compiler k)
  | none : (∀ k ∈ known, up k = false) → Due known up last .placeholder

section

variable {known : List CompilerId} {last : Option Choice} {up : CompilerId → Bool} {q : Registry}
  {choice choice' : Choice}

/-- What is due is known and can run, unless nothing can. -/
theorem Due.available (h : Due known up last choice) :
    (∃ k ∈ known, up k = true ∧ choice = .compiler k) ∨
      choice = .placeholder ∧ ∀ k ∈ known, up k = false := by
  cases h with
  | again _ member running => exact .inl ⟨_, member, running, rfl⟩
  | first _ order _ running =>
    subst order
    exact .inl ⟨_, by simp, running, rfl⟩
  | none down => exact .inr ⟨rfl, down⟩

theorem find?_first {before after : List CompilerId} {k : CompilerId}
    (order : known = before ++ k :: after) (down : ∀ l ∈ before, up l = false)
    (running : up k = true) : known.find? up = some k :=
  List.find?_eq_some_iff_append.2 ⟨running, before, after, order, by simpa using down⟩

/-- One choice is due and no other. -/
theorem Due.unique (h : Due known up last choice) (h' : Due known up last choice') :
    choice = choice' := by
  have apart : ∀ {k : CompilerId}, up k = true → up k = false → False := by
    intro k running down
    rw [running] at down
    cases down
  rcases h.available with ⟨k, member, running, rfl⟩ | ⟨rfl, down⟩
  · rcases h'.available with ⟨k', member', running', rfl⟩ | ⟨-, down⟩
    · cases h with
      | again same =>
        cases h' with
        | again same' => exact Option.some.inj (same.symm.trans same')
        | first lost => exact (apart running (lost _ same member)).elim
      | first lost order before =>
        cases h' with
        | again same' => exact (apart running' (lost _ same' member')).elim
        | first _ order' before' =>
          have found := find?_first order before running
          rw [find?_first order' before' running'] at found
          rw [Option.some.inj found]
    · exact (apart running (down k member)).elim
  · rcases h'.available with ⟨k', member', running', rfl⟩ | ⟨rfl, -⟩
    · exact (apart running' (down k' member')).elim
    · rfl

theorem first_eq (q : Registry) (up : CompilerId → Bool) :
    q.first up = ((q.compilers.find? up).map .compiler).getD .placeholder := by
  rw [← List.head?_filter, Registry.first, Registry.running]
  cases q.compilers.filter up <;> rfl

namespace Tally

variable (h : Tally known last q)
include h

theorem due_first (lost : ∀ l, last = some (.compiler l) → l ∈ known → up l = false) :
    Due known up last (q.first up) := by
  rw [first_eq, h.compilers]
  cases hfind : known.find? up with
  | none =>
    refine .none fun k hk => ?_
    simpa using List.find?_eq_none.1 hfind k hk
  | some k =>
    obtain ⟨running, before, after, order, down⟩ := List.find?_eq_some_iff_append.1 hfind
    exact .first lost order (fun l hl => by simpa using down l hl) running

/-- The active choice is the one that is due. -/
theorem due_current (up : CompilerId → Bool) : Due known up last (q.current up) := by
  unfold Registry.current Registry.holds
  rw [h.active]
  split
  · rename_i k
    split
    · rename_i running
      exact .again rfl (h.member rfl) running
    · rename_i down
      refine h.due_first fun l hl _ => ?_
      cases hl
      simpa using down
  · rename_i other
    exact h.due_first fun l hl => absurd hl (other l)

theorem refreshed (up : CompilerId → Bool) :
    Tally known (some (q.current up)) (q.refreshed up) where
  compilers := h.compilers
  active := rfl
  member {k} hk := by
    rcases (h.due_current up).available with ⟨l, member, -, hl⟩ | ⟨placeholder, -⟩
    · rw [hl] at hk
      cases hk
      exact member
    · rw [placeholder] at hk
      cases hk

theorem registered (k : CompilerId) : Tally (known ++ [k]) last (q.register k) where
  compilers := by rw [Registry.register, h.compilers]
  active := h.active
  member hk := List.mem_append_left _ (h.member hk)

theorem settled (member : ∀ k, choice = .compiler k → k ∈ q.compilers) :
    Tally known (some choice) { q with active := some choice } where
  compilers := h.compilers
  active := rfl
  member hk := h.compilers ▸ member _ (Option.some.inj hk)

end Tally

end

/-! ## Runs -/

theorem readActive_eq (c : Collaborators S) (s : Studio S) : ∃ s',
    readActive c s = some (.ok (s.registry.current (s.isUp c)), s') ∧
      s'.registry = s.registry.refreshed (s.isUp c) := by
  rw [readActive, Act.get_bind]
  split
  · exact ⟨_, rfl, rfl⟩
  · exact ⟨_, rfl, rfl⟩

/-- What one use preserves. -/
theorem Tally.use {known : List CompilerId} {last : Option Choice} (h : Tally known last s.registry)
    {u : Use} (run : Uses c u s s') :
    Tally (known ++ u.registered?.toList) (u.chosen?.or last) s'.registry := by
  have same : known ++ Option.toList none = known := List.append_nil known
  cases u with
  | registered k =>
    cases run
    exact h.registered k
  | read choice =>
    obtain ⟨s₁, read, refreshed⟩ := readActive_eq c s
    cases run.symm.trans read
    rw [Use.registered?, same, refreshed]
    exact h.refreshed _
  | set choice r =>
    rw [Use.registered?, same]
    rcases activate_cases c choice s with ⟨eligible, made⟩ | ⟨-, f, refused, -⟩
    · cases run.symm.trans made
      exact h.settled fun k hk => (eligible k hk).1
    · cases run.symm.trans refused
      exact h
  | selected name r =>
    rw [Use.registered?, same]
    rcases select_cases c name s with ⟨k, member, -, -, made⟩ | ⟨-, f, refused, -⟩
    · cases run.symm.trans made
      refine h.settled fun l hl => ?_
      cases hl
      exact member
    · cases run.symm.trans refused
      exact h

/-- What a whole run preserves. -/
theorem Tally.run {initial : List CompilerId} (h : Tally initial none s.registry) {uses : List Use}
    (run : Labelled SameRegistry (Uses c) s uses s') :
    Tally (known initial uses) (lastChoice uses) s'.registry := by
  induction run with
  | start =>
    rw [known, List.filterMap_nil, List.append_nil]
    exact h
  | aside _ same ih =>
    rw [same]
    exact ih
  | step _ used ih =>
    rw [known_concat, lastChoice_concat]
    exact ih.use used

/-! ## The next use -/

/-- What the next use of a registry comes to. -/
structure Chooses (c : Collaborators S) (known : List CompilerId) (last : Option Choice)
    (s : Studio S) : Prop where
  read : ∃ choice s', readActive c s = some (.ok choice, s') ∧ Due known (s.isUp c) last choice ∧
    ((∃ k ∈ known, s.isUp c k = true ∧ choice = .compiler k) ∨
      choice = .placeholder ∧ ∀ k ∈ known, s.isUp c k = false)
  set : ∀ choice, Eligible known (s.isUp c) choice → ∃ s', activate c choice s = some (.ok (), s')
  unset : ∀ choice, ¬ Eligible known (s.isUp c) choice → Rejected (activate c choice) s
  select : (∀ k ∈ known, ∀ l ∈ known, c.nameOf s.stage k = c.nameOf s.stage l → k = l) →
    ∀ k ∈ known, s.isUp c k = true →
      ∃ s', select c (c.nameOf s.stage k) s = some (.ok (.compiler k), s')
  unselect : ∀ name, (∀ k ∈ known, c.nameOf s.stage k = name → s.isUp c k = false) →
    Rejected (Studio.select c name) s

theorem Tally.chooses {known : List CompilerId} {last : Option Choice}
    (h : Tally known last s.registry) (c : Collaborators S) : Chooses c known last s where
  read := by
    obtain ⟨s', read, -⟩ := readActive_eq c s
    have due := h.due_current (s.isUp c)
    exact ⟨_, s', read, due, due.available⟩
  set choice eligible := by
    rw [← h.compilers] at eligible
    rcases activate_cases c choice s with ⟨-, made⟩ | ⟨ineligible, -⟩
    · exact ⟨_, made⟩
    · exact absurd eligible ineligible
  unset choice ineligible := by
    rw [← h.compilers] at ineligible
    rcases activate_cases c choice s with ⟨eligible, -⟩ | ⟨-, refused⟩
    · exact absurd eligible ineligible
    · exact refused
  select distinct k hk running := by
    rw [← h.compilers] at distinct hk
    rcases select_cases c (c.nameOf s.stage k) s with
      ⟨l, member, named, -, made⟩ | ⟨missing | ⟨l, member, named, down⟩, -⟩
    · obtain rfl := distinct l member k hk named
      exact ⟨_, made⟩
    · exact absurd rfl (missing k hk)
    · obtain rfl := distinct l member k hk named
      rw [running] at down
      cases down
  unselect name lost := by
    rw [← h.compilers] at lost
    rcases select_cases c name s with ⟨k, member, named, running, -⟩ | ⟨-, refused⟩
    · rw [lost k member named] at running
      cases running
    · exact refused

/-- After any uses of a registry that was fresh, whatever compilers could run in between, a read gives
the choice that is due: what was last read or set if that is a registered compiler that can run, else
the first that can, and the placeholder only if none can. Setting and selecting are refused just for a
compiler that is not registered or cannot run. -/
theorem active_chosen (fresh : s.registry.active = none) {uses : List Use}
    (run : Labelled SameRegistry (Uses c) s uses s') :
    Chooses c (known s.registry.compilers uses) (lastChoice uses) s' := by
  have start : Tally s.registry.compilers none s.registry := ⟨rfl, fresh, nofun⟩
  exact (start.run run).chooses c

/-- Compilers run while they are on the stage, and nobody else does anything. -/
def switching : Collaborators (List CompilerId) where
  handler _ _ := none
  listenerName _ := ""
  choose _ := throw (.cancelled [])
  refuses _ _ := none
  afterRead := pure ()
  create _ := pure ()
  addClasspath _ _ := pure ()
  interpret _ _ := pure .nothing
  signature _ := []
  output := none
  recallFailed _ := pure ()
  exit _ := pure ()
  compile _ _ _ := pure []
  isUp running k := running.contains k
  nameOf _ k := toString k
  patience := 0

/-- A studio with these compilers, none of which was chosen, and nobody on the stage. -/
def darkStage (compilers : List CompilerId) : Studio (List CompilerId) :=
  { blank { files := { tree := ⟨[]⟩ } } Settings.standard [] [] with registry := ⟨compilers, none⟩ }

/-- The placeholder that was read gives way to the second compiler when that comes back. -/
theorem active_chosen_return : (darkStage [0]).registry.active = none ∧ ∃ s₁ s₂,
    Labelled SameRegistry (Uses switching) (darkStage [0]) [.registered 1, .read .placeholder] s₁ ∧
    readActive switching s₁ = some (.ok (.compiler 1), s₂) := by
  have registers : Uses switching (.registered 1) (darkStage [0]) (darkStage [0, 1]) := rfl
  obtain ⟨s, reads, -⟩ := readActive_eq switching (darkStage [0, 1])
  have stood : (darkStage [0, 1]).registry.current ((darkStage [0, 1]).isUp switching) =
      .placeholder := rfl
  rw [stood] at reads
  replace reads : Uses switching (.read .placeholder) (darkStage [0, 1]) s := reads
  have returns : SameRegistry s { s with stage := [1] } := rfl
  have run := ((Labelled.start.step registers).step reads).aside returns
  obtain ⟨choice, s₂, again, due, -⟩ := (active_chosen rfl run).read
  have second : Due [0, 1] (Studio.isUp switching { s with stage := [1] }) (some .placeholder)
      (.compiler 1) := by
    have order : [0, 1] = [0] ++ 1 :: [] := rfl
    refine .first nofun order (fun l hl => ?_) rfl
    rw [List.mem_singleton.1 hl]
    rfl
  obtain rfl := due.unique second
  exact ⟨rfl, _, s₂, run, again⟩

end JavaStudio.Studio
