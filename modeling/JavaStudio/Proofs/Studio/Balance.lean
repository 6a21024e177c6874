import JavaStudio.Proofs.Studio.Stories
import Mathlib.Algebra.BigOperators.Group.Finset.Piecewise

/-!
# The balance of begins and ends

At every moment of the ledger as many ends of compiles are outstanding as futures: those that began and
are not answered, but for those that ended and are not answered yet (`balanced`). It comes from the pace
of a single story, where a begin comes before an end and both before the answer.
-/

namespace JavaStudio

namespace Deal

def begins : Deal → Bool
  | told e => e.kind == .compileStarted
  | _ => false

def ends : Deal → Bool
  | told e => e.kind == .compileEnded
  | _ => false

def answers : Deal → Bool
  | resolved _ _ => true
  | _ => false

end Deal

/-- The futures below a number whose stories have some deal and no answer. -/
def unanswered (N : Nat) (p : Deal → Bool) (es : List Note) : Finset Nat :=
  (Finset.range N).filter fun n => (story n es).any p && !(story n es).any Deal.answers

/-! ## The pace of a story -/

/-- How far a story has come. -/
inductive Pace
  | silent
  | begun
  | ended
  | answered

/-- How far a story has come with one more deal, if it may come next. -/
def Pace.next : Pace → Deal → Option Pace
  | silent, x => if x.begins then some begun else if x.ends then none
      else if x.answers then some answered else some silent
  | begun, x => if x.begins || x.answers then none else if x.ends then some ended else some begun
  | ended, x => if x.begins || x.ends then none else if x.answers then some answered else some ended
  | answered, x => if x.begins || x.ends then none else some answered

/-- How far a story has come, if its begin, its end and its answer are in order. -/
def pace (ds : List Deal) : Option Pace := ds.foldlM Pace.next .silent

/-- What is told of begins, ends and answers in a story that has come so far. -/
inductive Pace.Tells : Pace → List Deal → Prop
  | silent {ds : List Deal} : ds.countP Deal.begins = 0 → ds.countP Deal.ends = 0 →
      ds.any Deal.answers = false → Tells .silent ds
  | begun {ds : List Deal} : ds.countP Deal.begins = 1 → ds.countP Deal.ends = 0 →
      ds.any Deal.answers = false → Tells .begun ds
  | ended {ds : List Deal} : ds.countP Deal.begins = 1 → ds.countP Deal.ends = 1 →
      ds.any Deal.answers = false → Tells .ended ds
  | answered {ds : List Deal} : ds.countP Deal.begins = ds.countP Deal.ends →
      ds.any Deal.answers = true → Tells .answered ds

theorem any_of_countP_zero {f : Deal → Bool} {ds : List Deal} (h : ds.countP f = 0) :
    ds.any f = false := by
  rw [List.any_eq_false]
  exact fun x hx => List.countP_eq_zero.1 h x hx

theorem any_of_countP_one {f : Deal → Bool} {ds : List Deal} (h : ds.countP f = 1) :
    ds.any f = true := by
  obtain ⟨x, hx, hf⟩ := List.countP_pos_iff.1 (by omega : 0 < ds.countP f)
  exact List.any_eq_true.2 ⟨x, hx, hf⟩

theorem pace_concat (ds : List Deal) (x : Deal) : pace (ds ++ [x]) = (pace ds).bind (·.next x) := by
  simp only [pace, List.foldlM_append, List.foldlM_cons, List.foldlM_nil, bind_pure]
  rfl

theorem Deal.begins_only {x : Deal} (h : x.begins = true) : x.ends = false ∧ x.answers = false := by
  cases x with
  | told e =>
    have kind : e.kind = .compileStarted := by simpa [begins] using h
    simp [ends, answers, kind]
  | _ => cases h

theorem pace_tells {ds : List Deal} {p : Pace} (h : pace ds = some p) : p.Tells ds := by
  -- from the end, as the pace of a story is that of its front and then its last deal
  induction ds using List.reverseRecOn generalizing p with
  | nil =>
    cases h
    exact .silent rfl rfl rfl
  | append_singleton ds x ih =>
    rw [pace_concat] at h
    cases hq : pace ds with
    | none => rw [hq] at h; cases h
    | some q =>
      rw [hq, Option.bind_some] at h
      cases ih hq with
      | silent b e a =>
        rw [Pace.next] at h
        split at h
        · rename_i hb
          obtain ⟨he, ha⟩ := Deal.begins_only hb
          cases h
          exact .begun (by simp [b, hb]) (by simp [e, he]) (by simp [a, ha])
        · rename_i hb
          split at h
          · cases h
          · rename_i he
            split at h <;> rename_i ha <;> cases h
            · exact .answered (by simp [b, e, hb, he]) (by simp [ha])
            · exact .silent (by simp [b, hb]) (by simp [e, he]) (by simp [a, ha])
      | begun b e a =>
        rw [Pace.next] at h
        split at h
        · cases h
        · rename_i hx
          obtain ⟨hb, ha⟩ : x.begins = false ∧ x.answers = false := by simpa using hx
          split at h <;> rename_i he <;> cases h
          · exact .ended (by simp [b, hb]) (by simp [e, he]) (by simp [a, ha])
          · exact .begun (by simp [b, hb]) (by simp [e, he]) (by simp [a, ha])
      | ended b e a =>
        rw [Pace.next] at h
        split at h
        · cases h
        · rename_i hx
          obtain ⟨hb, he⟩ : x.begins = false ∧ x.ends = false := by simpa using hx
          split at h <;> rename_i ha <;> cases h
          · exact .answered (by simp [b, e, hb, he]) (by simp [ha])
          · exact .ended (by simp [b, hb]) (by simp [e, he]) (by simp [a, ha])
      | answered same a =>
        rw [Pace.next] at h
        split at h
        · cases h
        · rename_i hx
          obtain ⟨hb, he⟩ : x.begins = false ∧ x.ends = false := by simpa using hx
          cases h
          exact .answered (by simp [same, hb, he]) (by simp [a])

theorem pace_of_append {ds es : List Deal} {p : Pace} (h : pace (ds ++ es) = some p) :
    ∃ q, pace ds = some q := by
  cases hq : pace ds with
  | some q => exact ⟨q, rfl⟩
  | none =>
    rw [pace, List.foldlM_append] at h
    rw [pace] at hq
    rw [hq] at h
    cases h

/-- In a story that is not answered a begin is matched by an end, or the end is outstanding. -/
theorem Pace.Tells.balance {p : Pace} {ds : List Deal} (h : p.Tells ds) :
    ds.countP Deal.begins + (if ds.any Deal.ends && !ds.any Deal.answers then 1 else 0) =
      ds.countP Deal.ends + (if ds.any Deal.begins && !ds.any Deal.answers then 1 else 0) := by
  cases h with
  | silent b e a => simp [b, e, any_of_countP_zero b, any_of_countP_zero e]
  | begun b e a => simp [b, e, a, any_of_countP_one b, any_of_countP_zero e]
  | ended b e a => simp [b, e, a, any_of_countP_one b, any_of_countP_one e]
  | answered same a => simp [same, a]

/-! ## All stories together -/

/-- What is counted in a ledger is counted in the stories of its futures. -/
theorem countP_eq_sum {N : Nat} {es : List Note} (founded : ∀ e ∈ es, e.future < N)
    (f : Deal → Bool) :
    (es.map (·.deal)).countP f = ∑ n ∈ Finset.range N, (story n es).countP f := by
  induction es with
  | nil => simp [story]
  | cons e es ih =>
    have split : ∀ n, (story n (e :: es)).countP f =
        (if e.future = n then (if f e.deal then 1 else 0) else 0) + (story n es).countP f := by
      intro n
      by_cases hn : e.future = n
      · simp [story, hn, List.countP_cons, Nat.add_comm]
      · simp [story, hn]
    have mem : e.future ∈ Finset.range N := Finset.mem_range.2 (founded e List.mem_cons_self)
    simp only [split, Finset.sum_add_distrib, Finset.sum_ite_eq, mem, if_true]
    rw [List.map_cons, List.countP_cons, ih fun x hx => founded x (List.mem_cons_of_mem _ hx),
      Nat.add_comm]

/-- The begins and ends of a ledger whose stories all keep pace. -/
theorem balance_of_paced {N : Nat} {es : List Note} (founded : ∀ e ∈ es, e.future < N)
    (paced : ∀ n < N, ∃ p, pace (story n es) = some p) :
    (es.map (·.deal)).countP Deal.begins + (unanswered N Deal.ends es).card =
      (es.map (·.deal)).countP Deal.ends + (unanswered N Deal.begins es).card := by
  rw [countP_eq_sum founded, countP_eq_sum founded, unanswered, unanswered, Finset.card_filter,
    Finset.card_filter, ← Finset.sum_add_distrib, ← Finset.sum_add_distrib]
  refine Finset.sum_congr rfl fun n hn => ?_
  obtain ⟨p, hp⟩ := paced n (Finset.mem_range.1 hn)
  exact (pace_tells hp).balance

/-- At every moment of a ledger whose stories keep pace, as many ends are outstanding as futures that
began and are not answered, but for those whose end came and whose answer did not. -/
theorem balanced {N : Nat} {es fs : List Note} (founded : ∀ e ∈ es, e.future < N)
    (paced : ∀ n < N, ∃ p, pace (story n es) = some p) (moment : fs <+: es) :
    (fs.map (·.deal)).countP Deal.begins + (unanswered N Deal.ends fs).card =
      (fs.map (·.deal)).countP Deal.ends + (unanswered N Deal.begins fs).card := by
  obtain ⟨gs, rfl⟩ := moment
  -- a story that keeps pace does so at every moment before
  refine balance_of_paced (fun e he => founded e (List.mem_append_left _ he)) fun n hn => ?_
  obtain ⟨q, hq⟩ := paced n hn
  rw [story_append] at hq
  exact pace_of_append hq

namespace Studio

variable {S : Type} {crew : Collaborators S → Prop} {resets : Bool} {n : Nat} {p : Standing}
  {ds : List Deal}

/-- A tale keeps pace, and has begun without an answer while its future is not answered. -/
theorem Tale.paced (h : Tale crew resets n p ds) :
    ∃ q, pace ds = some q ∧ ((p.slot n).future = some none ↔ q = .begun ∨ q = .ended) := by
  cases h with
  | declined => exact ⟨_, rfl, by simp [Standing.slot]⟩
  | begun course =>
    cases course with
    | waits _ => exact ⟨_, rfl, by simp [Standing.slot]⟩
    | completes verdict => cases verdict <;> exact ⟨_, rfl, by simp [Standing.slot]⟩
    | unheard _ => exact ⟨_, rfl, by simp [Standing.slot]⟩
    | answered verdict aftermath _ =>
      cases aftermath with
      | plain _ => cases verdict <;> exact ⟨_, rfl, by simp [Standing.slot]⟩
      | broken _ => cases verdict <;> exact ⟨_, rfl, by simp [Standing.slot]⟩
      | reset _ _ _ _ hook =>
        cases hook <;> cases verdict <;> exact ⟨_, rfl, by simp [Standing.slot]⟩
    | abandoned verdict aftermath _ =>
      cases aftermath with
      | broken _ => cases verdict <;> exact ⟨_, rfl, by simp [Standing.slot]⟩
      | reset _ _ _ _ hook =>
        cases hook <;> cases verdict <;> exact ⟨_, rfl, by simp [Standing.slot]⟩

/-- The future of a tale is not answered exactly when the tale begins and has no answer. -/
theorem Tale.pending (h : Tale crew resets n p ds) : (p.slot n).future = some none ↔
    (ds.any Deal.begins && !ds.any Deal.answers) = true := by
  obtain ⟨q, hq, open_⟩ := h.paced
  rw [open_]
  cases pace_tells hq with
  | silent b _ a => simp [any_of_countP_zero b]
  | begun b _ a => simp [any_of_countP_one b, a]
  | ended b _ a => simp [any_of_countP_one b, a]
  | answered _ a => simp [a]

end Studio

end JavaStudio
