import JavaStudio.Proofs.Studio.Background
import Mathlib.Logic.Function.Basic

/-!
# The stories of compiles

Several compiles can be under way in the background at once, and every act of a listener, an
interpreter or a compiler may begin, run and complete others. The ledger then mixes their deals; the
`story` of a future is what it has of one of them. `Tale` lists the stories that a compile can have when
nobody is at work on it, and `InOrder` says that the ledger is made of such stories, but for those of
the futures in hand. An act that is done on behalf of one compile takes its future in hand, and leaves
it with a story of `Tale`. In between it lets others act, which keep the books in order whatever is in
hand (`Orderly`).

* `Recorded.change`: a change of the books that concerns one future.
* `InOrder.promise`, `InOrder.note`, `InOrder.entrust`, `InOrder.takeJob`, `InOrder.put`,
  `InOrder.takeCompletion`, `InOrder.answer`, `InOrder.abandon`: the changes that occur.
-/

namespace JavaStudio

/-- A deal of a compile, with the future that answers for it. -/
structure Note where
  future : Nat
  deal : Deal

/-- The deals of one future, in their order. -/
def story (n : Nat) (es : List Note) : List Deal := (es.filter (·.future == n)).map (·.deal)

theorem story_append (n : Nat) (es fs : List Note) :
    story n (es ++ fs) = story n es ++ story n fs := by
  simp [story]

theorem story_own (n : Nat) (ds : List Deal) : story n (ds.map (Note.mk n)) = ds := by
  simp [story, List.filter_map, Function.comp_def]

theorem story_other {m n : Nat} (h : m ≠ n) (ds : List Deal) :
    story m (ds.map (Note.mk n)) = [] := by
  simp [story, List.filter_map, Function.comp_def, Ne.symm h]

/-- What the books have of one future: its jobs, its completions and its state. -/
structure Slot where
  jobs : List Job
  queue : List Completion
  future : Option FutureState

/-- The books' entries of one future. -/
def Books.slot (b : Books) (n : Nat) : Slot where
  jobs := b.jobs.filter (·.future == n)
  queue := b.queue.filter (·.future == n)
  future := b.futures[n]?

namespace Slot

/-- There is no such future. -/
abbrev unmade : Slot := ⟨[], [], none⟩

/-- The future is not answered, and nothing is under way for it. -/
abbrev bare : Slot := ⟨[], [], some none⟩

end Slot

/-- Where a compile stands when nobody is at work on it: it waits for its pool to run it, its completion
waits to be run, its future is answered, or a listener ended the program in the midst of it. -/
inductive Standing
  | waits (job : Job)
  | completes (outcome : Except Failure Diagnostics)
  | answered (answer : Except Failure (Option Diagnostics))
  | abandoned

/-- What the books have of a future whose compile stands somewhere. -/
def Standing.slot (n : Nat) : Standing → Slot
  | waits job => ⟨[job], [], some none⟩
  | completes outcome => ⟨[], [⟨n, outcome⟩], some none⟩
  | answered answer => ⟨[], [], some (some answer)⟩
  | abandoned => .bare

namespace Studio

variable {S : Type}

/-! ## Tales -/

section

variable (crew : Collaborators S → Prop) (resets : Bool)

/-- The active compiler of some time is to compile what was the file of a document at that time, below
its source root. -/
inductive Commission (d : DocId) : Choice → Path → Path → Prop
  | given {c : Collaborators S} {s : Studio S} {root file : Path} : crew c →
      Locating d s (.ok (.ok (file, root))) s →
      Commission d (s.registry.current (s.isUp c)) root file

/-- How the compile of a document comes to its outcome: a pool takes it and calls the compiler; the
package of the document does not fit, which takes the place of a call; there is no source root; or the
pool refuses the compile. -/
inductive Verdict (n : Nat) (d : DocId) : Except Failure Diagnostics → List Deal → Prop
  | called {compiler : Choice} {root file : Path} {c : Collaborators S} {s s' : Studio S}
      {outcome : Except Failure Diagnostics} : Commission crew d compiler root file → crew c →
      compileWith c compiler root [file] s = some (outcome, s') →
      Verdict n d outcome [.entrusted n compiler root file, .called compiler root [file],
        .diagnosed n outcome]
  | misplaced {s s' : Studio S} {ds : Diagnostics} : Locating d s (.ok (.error ds)) s' →
      Verdict n d (.ok ds) [.diagnosed n (.ok ds)]
  | rootless {s s' : Studio S} {f : Failure} : Locating d s (.error f) s' →
      Verdict n d (.error f) [.diagnosed n (.error f)]
  | refused {compiler : Choice} {root file : Path} {pool : Pool} {f : Failure} :
      Commission crew d compiler root file → pool.accepts = .error f →
      Verdict n d (.error f) [.diagnosed n (.error f)]

/-- A listener that is told of an event ends the program. -/
inductive EndsProgram (e : Event) : Failure → Prop
  | told {c : Collaborators S} {s s' : Studio S} {f : Failure} : crew c →
      announce c e s = some (.error f, s') → f.isOrdinary = false → EndsProgram e f

/-- What the listeners are told while console and interactions are reset. -/
inductive Hook : Except Failure Unit → List Deal → Prop
  | stopped {f : Failure} : Hook (.error f) [.consoleReset]
  | told {r : Except Failure Unit} : (∀ f, r = .error f → f.isOrdinary = false) →
      Hook r [.consoleReset, .interactionsReset]

/-- What follows the diagnosis of a compile: a listener that is told of the end ends the program; the
compile was not clean, or nothing is to follow; or console and interactions are reset. -/
inductive Aftermath (outcome : Except Failure Diagnostics) : Except Failure Unit → List Deal → Prop
  | broken {f : Failure} : EndsProgram crew ⟨.compileEnded, none⟩ f → Aftermath outcome (.error f) []
  | plain : (resets = true → outcome ≠ .ok []) → Aftermath outcome (.ok ()) []
  | reset {c : Collaborators S} {s s' : Studio S} {r : Except Failure Unit} {hook : List Deal} :
      outcome = .ok [] → resets = true → crew c → celebrate c [] s = some (r, s') → Hook r hook →
      Aftermath outcome r hook

/-- What follows the begin of the compile of a document, up to where it stands. -/
inductive Course (n : Nat) (d : DocId) : Standing → List Deal → Prop
  | waits {job : Job} : Commission crew d job.compiler job.root job.file →
      Course n d (.waits job) [.entrusted n job.compiler job.root job.file]
  | completes {outcome : Except Failure Diagnostics} {ds : List Deal} :
      Verdict crew n d outcome ds → Course n d (.completes outcome) ds
  | answered {outcome : Except Failure Diagnostics} {r : Except Failure Unit} {ds hook : List Deal} :
      Verdict crew n d outcome ds → Aftermath crew resets outcome r hook →
      (∀ f, r = .error f → f.isOrdinary = true) →
      Course n d (.answered (closing outcome r))
        (ds ++ .ended :: hook ++ [.resolved n (closing outcome r)])
  | unheard {f : Failure} : EndsProgram crew ⟨.compileStarted, none⟩ f → Course n d .abandoned []
  | abandoned {outcome : Except Failure Diagnostics} {f : Failure} {ds hook : List Deal} :
      Verdict crew n d outcome ds → Aftermath crew resets outcome (.error f) hook →
      f.isOrdinary = false → Course n d .abandoned (ds ++ .ended :: hook)

/-- The stories of a future whose compile stands somewhere. A document that is not ready is not compiled;
any other compile begins. -/
inductive Tale (n : Nat) : Standing → List Deal → Prop
  | declined {d : DocId} :
      Tale n (.answered (.ok none)) [.promised n d false, .resolved n (.ok none)]
  | begun {d : DocId} {p : Standing} {ds : List Deal} : Course crew resets n d p ds →
      Tale n p (.promised n d true :: .started :: ds)

/-- A future is accounted for: it does not exist, it is in hand and has come so far, or its compile
stands somewhere and has a tale. -/
inductive Accounted (n : Nat) : Option (List Deal) → Slot → List Deal → Prop
  | unmade : Accounted n none .unmade []
  | held {ds : List Deal} : Accounted n (some ds) .bare ds
  | stands {p : Standing} {ds : List Deal} : Tale crew resets n p ds →
      Accounted n none (p.slot n) ds

/-- The notes tell the ledger, and every future is accounted for by its story among them, where those
in hand have come so far. -/
structure Recorded (hand : Nat → Option (List Deal)) (es : List Note) (b : Books) : Prop where
  wired : b.resets = resets
  ledger : b.ledger = es.map (·.deal)
  accounted : ∀ n, Accounted crew resets n (hand n) (b.slot n) (story n es)

/-- The books are in order, where the futures in hand have come so far. -/
def InOrder (hand : Nat → Option (List Deal)) (b : Books) : Prop :=
  ∃ es, Recorded crew resets hand es b

/-- The books stay in order, whatever is in hand. -/
def Orderly (s s' : Studio S) : Prop :=
  ∀ hand, InOrder crew resets hand s.books → InOrder crew resets hand s'.books

end

/-- What is in hand with one future more. -/
abbrev holding (hand : Nat → Option (List Deal)) (n : Nat) (ds : List Deal) :
    Nat → Option (List Deal) :=
  Function.update hand n (some ds)

variable {crew : Collaborators S → Prop} {resets : Bool} {hand hand' : Nat → Option (List Deal)}
  {b b' : Books} {s s' : Studio S} {d : DocId} {n : Nat} {ds es' : List Deal} {es : List Note}

/-! ## Accounts -/

namespace Accounted

variable {o : Option (List Deal)} {σ : Slot}

theorem of_held (h : Accounted crew resets n (some ds) σ es') : σ = .bare ∧ es' = ds := by
  cases h
  exact ⟨rfl, rfl⟩

theorem of_unmade (h : Accounted crew resets n o σ ds) (unmade : σ.future = none) :
    o = none ∧ σ = .unmade ∧ ds = [] := by
  cases h with
  | unmade => exact ⟨rfl, rfl, rfl⟩
  | held => cases unmade
  | @stands p _ _ => cases p <;> cases unmade

theorem of_job (h : Accounted crew resets n o σ ds) {job : Job} (waits : job ∈ σ.jobs) :
    o = none ∧ σ = ⟨[job], [], some none⟩ ∧ Tale crew resets n (.waits job) ds := by
  cases h with
  | unmade => cases waits
  | held => cases waits
  | @stands p _ tale =>
    cases p with
    | waits job' =>
      obtain rfl := List.mem_singleton.1 waits
      exact ⟨rfl, rfl, tale⟩
    | _ => cases waits

theorem of_completion (h : Accounted crew resets n o σ ds) {k : Completion} (waits : k ∈ σ.queue) :
    o = none ∧ σ = ⟨[], [k], some none⟩ ∧ Tale crew resets n (.completes k.outcome) ds := by
  cases h with
  | unmade => cases waits
  | held => cases waits
  | @stands p _ tale =>
    cases p with
    | completes outcome =>
      obtain rfl := List.mem_singleton.1 waits
      exact ⟨rfl, rfl, tale⟩
    | _ => cases waits

end Accounted

/-! ## Changes of the books -/

/-- A change that concerns one future: the others keep their entries, and the deals of the change are
added to its story. -/
theorem Recorded.change (h : Recorded crew resets hand es b) (n : Nat) (x : List Deal)
    (wired : b'.resets = b.resets) (ledger : b'.ledger = b.ledger ++ x)
    (others : ∀ m, m ≠ n → hand' m = hand m ∧ b'.slot m = b.slot m)
    (own : Accounted crew resets n (hand' n) (b'.slot n) (story n es ++ x)) :
    InOrder crew resets hand' b' := by
  refine ⟨es ++ x.map (Note.mk n), wired.trans h.wired, ?_, fun m => ?_⟩
  · rw [ledger, h.ledger, List.map_append, List.map_map]
    simp [Function.comp_def]
  · -- the new notes are all of `n`: its story gets longer by them, the others stay
    rw [story_append]
    by_cases hm : m = n
    · subst hm
      rw [story_own]
      exact own
    · obtain ⟨same, slot⟩ := others m hm
      rw [story_other hm, List.append_nil, same, slot]
      exact h.accounted m

theorem filter_concat_of_ne {α : Type} {f : α → Nat} {a : α} {n : Nat} (h : f a ≠ n) (l : List α) :
    (l ++ [a]).filter (f · == n) = l.filter (f · == n) := by
  simp [h]

namespace InOrder

theorem bare (h : InOrder crew resets (holding hand n ds) b) : b.slot n = .bare := by
  obtain ⟨es, h⟩ := h
  have held := h.accounted n
  rw [holding, Function.update_self] at held
  exact held.of_held.1

/-- Nothing is under way for a future in hand, and it is not answered. -/
theorem idle (h : InOrder crew resets (holding hand n ds) s.books) :
    s.jobs.filter (·.future == n) = [] ∧ s.queue.filter (·.future == n) = [] ∧
      s.futures[n]? = some none :=
  ⟨congrArg Slot.jobs h.bare, congrArg Slot.queue h.bare, congrArg Slot.future h.bare⟩

/-- More is told on behalf of the future in hand. -/
theorem note (h : InOrder crew resets (holding hand n ds) s.books) (m : Moment) :
    InOrder crew resets (holding hand n (ds ++ m.entries)) (s.marked m).books := by
  have slot := h.bare
  obtain ⟨es, h⟩ := h
  rw [books_marked]
  refine h.change n m.entries rfl rfl (fun k hk => ⟨?_, rfl⟩) ?_
  · rw [holding, holding, Function.update_of_ne hk, Function.update_of_ne hk]
  · have held := h.accounted n
    rw [holding, Function.update_self] at held ⊢
    rw [held.of_held.2]
    show Accounted crew resets n _ (s.books.slot n) _
    rw [slot]
    exact .held

/-- The future in hand is left where its compile stands. -/
theorem leave {p : Standing} {x : List Deal} (h : InOrder crew resets (holding hand n ds) b)
    (free : hand n = none) (tale : Tale crew resets n p (ds ++ x)) (wired : b'.resets = b.resets)
    (ledger : b'.ledger = b.ledger ++ x) (others : ∀ m, m ≠ n → b'.slot m = b.slot m)
    (own : b'.slot n = p.slot n) : InOrder crew resets hand b' := by
  obtain ⟨es, h⟩ := h
  refine h.change n x wired ledger (fun m hm => ⟨?_, others m hm⟩) ?_
  · rw [holding, Function.update_of_ne hm]
  · have held := h.accounted n
    rw [holding, Function.update_self] at held
    rw [free, own, held.of_held.2]
    exact .stands tale

/-- A future that is not answered is taken in hand, with what is under way for it. -/
theorem take {p : Standing} (h : InOrder crew resets hand b)
    (stands : ∀ {ds}, Accounted crew resets n (hand n) (b.slot n) ds →
      hand n = none ∧ Tale crew resets n p ds)
    (wired : b'.resets = b.resets) (ledger : b'.ledger = b.ledger)
    (others : ∀ m, m ≠ n → b'.slot m = b.slot m) (own : b'.slot n = .bare) :
    ∃ ds, hand n = none ∧ Tale crew resets n p ds ∧
      InOrder crew resets (holding hand n ds) b' := by
  obtain ⟨es, h⟩ := h
  obtain ⟨free, tale⟩ := stands (h.accounted n)
  refine ⟨_, free, tale, h.change n [] wired (by rw [ledger, List.append_nil])
    (fun m hm => ⟨?_, others m hm⟩) ?_⟩
  · rw [holding, Function.update_of_ne hm]
  · rw [holding, Function.update_self, own, List.append_nil]
    exact .held

/-- A new future is taken in hand. -/
theorem promise (h : InOrder crew resets hand s.books) (d : DocId) (ready : Bool) :
    hand s.futures.length = none ∧
      InOrder crew resets (holding hand s.futures.length [.promised s.futures.length d ready])
        (s.promised d ready).books := by
  obtain ⟨es, h⟩ := h
  have unmade : (s.books.slot s.futures.length).future = none :=
    List.getElem?_eq_none (Nat.le_refl s.futures.length)
  obtain ⟨free, slot, empty⟩ := (h.accounted s.futures.length).of_unmade unmade
  have jobs : s.jobs.filter (·.future == s.futures.length) = [] := congrArg Slot.jobs slot
  have queue : s.queue.filter (·.future == s.futures.length) = [] := congrArg Slot.queue slot
  refine ⟨free, ?_⟩
  rw [promised, books_marked]
  refine h.change s.futures.length [.promised s.futures.length d ready] rfl rfl
    (fun m hm => ⟨?_, ?_⟩) ?_
  · rw [holding, Function.update_of_ne hm]
  · have same : (s.futures ++ [none])[m]? = s.futures[m]? := by
      rw [List.getElem?_append]
      split
      · rfl
      · rw [List.getElem?_eq_none (by simp; omega), List.getElem?_eq_none (by omega)]
    simp only [Books.slot, books, same]
  · have own : (s.futures ++ [none])[s.futures.length]? = some none := List.getElem?_concat_length
    rw [holding, Function.update_self, empty]
    simp only [Books.slot, books, jobs, queue, own]
    exact .held

theorem answer {q : Except Failure (Option Diagnostics)}
    (h : InOrder crew resets (holding hand n ds) s.books) (free : hand n = none)
    (tale : Tale crew resets n (.answered q) (ds ++ [.resolved n q])) :
    InOrder crew resets hand (s.answered n q).books := by
  obtain ⟨jobs, queue, pending⟩ := h.idle
  have made : n < s.futures.length := (List.getElem?_eq_some_iff.1 pending).1
  rw [answered, books_marked]
  refine h.leave free tale rfl rfl (fun m hm => ?_) ?_
  · have same : (s.futures.set n (some q))[m]? = s.futures[m]? := List.getElem?_set_ne (Ne.symm hm)
    simp only [Books.slot, books, same]
  · have own : (s.futures.set n (some q))[n]? = some (some q) := List.getElem?_set_self made
    simp only [Books.slot, books, jobs, queue, own]
    rfl

theorem abandon (h : InOrder crew resets (holding hand n ds) b) (free : hand n = none)
    (tale : Tale crew resets n .abandoned ds) : InOrder crew resets hand b :=
  h.leave (p := .abandoned) (x := []) free (by rwa [List.append_nil]) rfl (List.append_nil _).symm
    (fun _ _ => rfl) h.bare

theorem entrust (h : InOrder crew resets (holding hand n ds) s.books) (free : hand n = none)
    {job : Job} (own : job.future = n)
    (tale : Tale crew resets n (.waits job) (ds ++ [.entrusted n job.compiler job.root job.file])) :
    InOrder crew resets hand ({ s with jobs := s.jobs ++ [job] }.marked
      (.entrusted n job.compiler job.root job.file)).books := by
  obtain ⟨jobs, queue, pending⟩ := h.idle
  rw [books_marked]
  refine h.leave free tale rfl rfl (fun m hm => ?_) ?_
  · have same := filter_concat_of_ne (f := Job.future) (own.trans_ne hm.symm) s.jobs
    simp only [Books.slot, books, same]
  · simp only [Books.slot, books, List.filter_append, jobs, queue, pending]
    simp [own, Standing.slot]

theorem put {outcome : Except Failure Diagnostics}
    (h : InOrder crew resets (holding hand n ds) s.books) (free : hand n = none)
    (tale : Tale crew resets n (.completes outcome) ds) :
    InOrder crew resets hand (completions.put ⟨n, outcome⟩ s).books := by
  obtain ⟨jobs, queue, pending⟩ := h.idle
  refine h.leave (x := []) free (by rwa [List.append_nil]) rfl (List.append_nil _).symm
    (fun m hm => ?_) ?_
  · have same := filter_concat_of_ne (f := Completion.future) (a := ⟨n, outcome⟩) hm.symm s.queue
    simp only [Books.slot, books, Queue.put, completions, same]
  · simp only [Books.slot, books, Queue.put, completions, List.filter_append, jobs, queue, pending]
    simp [Standing.slot]

theorem takeJob (h : InOrder crew resets hand s.books) {job : Job} (mem : job ∈ s.jobs) :
    ∃ ds, hand job.future = none ∧ Tale crew resets job.future (.waits job) ds ∧
      InOrder crew resets (holding hand job.future ds)
        { s.books with jobs := s.jobs.filter fun j => j.future != job.future } := by
  have waits : job ∈ (s.books.slot job.future).jobs := List.mem_filter.2 ⟨mem, by simp⟩
  have slot : s.books.slot job.future = ⟨[job], [], some none⟩ := by
    obtain ⟨es, h⟩ := h
    exact ((h.accounted job.future).of_job waits).2.1
  refine h.take (fun acc => ⟨(acc.of_job waits).1, (acc.of_job waits).2.2⟩) rfl rfl (fun m hm => ?_) ?_
  · have same : (s.jobs.filter fun j => j.future != job.future).filter (·.future == m) =
        s.jobs.filter (·.future == m) := by
      rw [List.filter_filter]
      refine List.filter_congr fun j _ => ?_
      by_cases hj : j.future = m <;> simp [hj, hm]
    simp only [Books.slot, books, same]
  · have jobs : (s.jobs.filter fun j => j.future != job.future).filter (·.future == job.future) =
        [] := by
      rw [List.filter_filter, List.filter_eq_nil_iff]
      simp
    have queue : s.queue.filter (·.future == job.future) = [] := congrArg Slot.queue slot
    have pending : s.futures[job.future]? = some none := congrArg Slot.future slot
    simp only [Books.slot, books, jobs, queue, pending]

theorem takeCompletion (h : InOrder crew resets hand s.books) {k : Completion} {ks : List Completion}
    (first : s.queue = k :: ks) :
    ∃ ds, hand k.future = none ∧ Tale crew resets k.future (.completes k.outcome) ds ∧
      InOrder crew resets (holding hand k.future ds) { s.books with queue := ks } := by
  have waits : k ∈ (s.books.slot k.future).queue :=
    List.mem_filter.2 ⟨by rw [books, first]; exact List.mem_cons_self, by simp⟩
  have slot : s.books.slot k.future = ⟨[], [k], some none⟩ := by
    obtain ⟨es, h⟩ := h
    exact ((h.accounted k.future).of_completion waits).2.1
  refine h.take (fun acc => ⟨(acc.of_completion waits).1, (acc.of_completion waits).2.2⟩) rfl rfl
    (fun m hm => ?_) ?_
  · simp [Books.slot, books, first, Ne.symm hm]
  · have queue : s.queue.filter (·.future == k.future) = [k] := congrArg Slot.queue slot
    rw [first, List.filter_cons_of_pos (by simp)] at queue
    have jobs : s.jobs.filter (·.future == k.future) = [] := congrArg Slot.jobs slot
    have pending : s.futures[k.future]? = some none := congrArg Slot.future slot
    simp only [Books.slot, books, jobs, (List.cons.inj queue).2, pending]

end InOrder

end Studio

end JavaStudio
