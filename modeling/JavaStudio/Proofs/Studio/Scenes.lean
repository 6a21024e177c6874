import JavaStudio.Proofs.Files.LinkFree
import JavaStudio.Proofs.Studio.Desk
import JavaStudio.Proofs.Studio.Runs

/-!
# Scenes of a run

The scenes of a studio are those in its journal, one for every announcement, question and return of
a command, and the present one. What every step keeps holds in all of them (`scenes_hold`).

* `desk_in_step`: in every scene of every run the index has the registered documents at their paths
  and nothing else, so that no two of them share a path and looking a path up finds the document
  that is kept there. This needs that resolving a resolved path changes nothing.
-/

namespace JavaStudio.Studio

variable {S α : Type} {t : Terms S} {s s' : Studio S}

/-- The scenes of the journal and the present one. -/
def scenes (s : Studio S) : List Scene := s.journal.filterMap Moment.scene? ++ [s.scene]

theorem scene_mem_scenes (s : Studio S) : s.scene ∈ s.scenes :=
  List.mem_append_right _ (List.mem_singleton.2 rfl)

/-- What a step adds to the journal, if anything, carries the scene of the step, in which nothing
changes. -/
theorem Step.journal_eq (h : Step t s s') :
    s'.journal = s.journal ∨
      ∃ m, s'.journal = s.journal ++ [m] ∧ ∀ scene, m.scene? = some scene → scene = s'.scene := by
  cases h with
  | noted carried desk files journal =>
    have still : s'.scene = s.scene := by rw [Studio.scene, desk, files, Studio.scene]
    exact .inr ⟨_, journal, fun scene hs => by rw [carried scene hs, still]⟩
  | aside _ _ journal => exact .inl journal
  | touched _ _ _ journal => exact .inl journal
  | created _ _ journal => exact .inl journal
  | opened _ _ _ _ _ _ _ journal => exact .inl journal
  | saved _ _ _ _ _ _ journal => exact .inl journal
  | closed _ _ _ _ journal => exact .inl journal
  | edited _ _ _ journal => exact .inl journal

theorem Step.scenes_subset (h : Step t s s') :
    ∀ scene ∈ s'.scenes, scene ∈ s.scenes ∨ scene = s'.scene := by
  intro scene hmem
  rcases List.mem_append.1 hmem with hold | hnew
  · rcases h.journal_eq with hj | ⟨m, hj, hm⟩ <;> rw [hj] at hold
    · exact .inl (List.mem_append_left _ hold)
    · rw [List.filterMap_append] at hold
      rcases List.mem_append.1 hold with hold | hm'
      · exact .inl (List.mem_append_left _ hold)
      · obtain ⟨m', hmem', hscene⟩ := List.mem_filterMap.1 hm'
        obtain rfl := List.mem_singleton.1 hmem'
        exact .inr (hm scene hscene)
  · exact .inr (List.mem_singleton.1 hnew)

/-- What holds in all scenes at the start and is kept by every step holds in all scenes. -/
theorem scenes_hold {p : Scene → Prop} (start : ∀ scene ∈ s.scenes, p scene)
    (keeps : ∀ s s' : Studio S, Step t s s' → p s.scene → p s'.scene)
    (run : Relation.ReflTransGen (Step t) s s') : ∀ scene ∈ s'.scenes, p scene := by
  -- the only scene that a step can add is that of the state in which it ends
  induction run with
  | refl => exact start
  | tail _ step ih =>
    intro scene hmem
    rcases step.scenes_subset scene hmem with hold | rfl
    · exact ih scene hold
    · exact keeps _ _ step (ih _ (scene_mem_scenes _))

/-- The scenes of a studio that has no journal yet. -/
theorem scenes_of_fresh {p : Scene → Prop} (hj : s.journal = []) (h : p s.scene) :
    ∀ scene ∈ s.scenes, p scene := by
  intro scene hmem
  rw [scenes, hj] at hmem
  rw [List.mem_singleton.1 hmem]
  exact h

/-- A step changes the files in a way that files can change. -/
theorem Step.evolves (h : Step t s s') : s.host.files.Evolves t.others s'.host.files := by
  cases h with
  | aside _ files _ => rw [files]
  | noted _ _ files _ => rw [files]
  | touched allowed call _ _ => exact .single (.touched allowed call)
  | created _ files _ => rw [files]
  | opened _ _ _ _ _ _ files _ => rw [files]
  | saved _ _ _ _ written _ _ => exact .single (.of_write written)
  | closed _ _ _ files _ => rw [files]
  | edited _ _ files _ => rw [files]

/-! ## The desk -/

theorem Step.inStep (h : Step t s s')
    (settled : ∀ p q, s.host.files.locate p = .ok q → ∀ d ∈ s.desk.registered,
      (s.desk.document d).path = some q → s.host.files.locate q = .ok q)
    (k : s.desk.InStep) : s'.desk.InStep := by
  cases h with
  | aside desk _ _ => rw [desk]; exact k
  | noted _ desk _ _ => rw [desk]; exact k
  | touched _ _ desk _ => rw [desk]; exact k
  | created desk _ _ => rw [desk]; exact k.addUntitled _
  | opened _ _ _ _ free desk _ _ => rw [desk]; exact k.addOpened free _
  | saved _ located look own _ desk _ =>
    rw [desk]
    exact k.saved (k.findAt_of_find (settled _ _ located) look own)
  | closed _ held desk _ _ => rw [desk]; exact k.remove _ held
  | edited _ desk _ _ => rw [desk]; exact k.changeBuffer _ _

/-- What the desk says of paths in a scene: the index has the document `d` at the path `p` exactly
when `d` is registered and has the path `p`; no two registered documents have the same path; looking
a path up finds `d` exactly when `d` is registered and has the resolved path; and the documents are
registered in the order in which they were made. -/
structure Consistent (scene : Scene) : Prop where
  index : ∀ p d, scene.desk.index.find? p = some d ↔
    d ∈ scene.desk.registered ∧ (scene.desk.document d).path = some p
  unique : ∀ d e p, d ∈ scene.desk.registered → e ∈ scene.desk.registered →
    (scene.desk.document d).path = some p → (scene.desk.document e).path = some p → d = e
  find : ∀ q d, scene.desk.find scene.files q = .ok (some d) ↔
    d ∈ scene.desk.registered ∧
      ∃ p, scene.files.locate q = .ok p ∧ (scene.desk.document d).path = some p
  order : scene.desk.registered.Sublist (List.range scene.desk.documents.length)

/-- Every scene of a run that starts with an empty desk is consistent. -/
theorem desk_in_step (k : Cast S) (patience depth : Nat) (script : Script S α)
    {r : Except Failure α} (empty : s.desk = {}) (unwritten : s.journal = [])
    (resolves : ∀ fs, s.host.files.Evolves True fs →
      ∀ p q, fs.locate p = .ok q → fs.locate q = .ok q)
    (run : script.run (k.collaborators patience depth) s = some (r, s')) :
    ∀ scene ∈ s'.scenes, Consistent scene := by
  have steps : Relation.ReflTransGen (Step (k.terms patience True True)) s s' :=
    script.run_free k patience run
  have kept : ∀ scene ∈ s'.scenes,
      s.host.files.Evolves True scene.files ∧ scene.desk.InStep := by
    refine scenes_hold (scenes_of_fresh unwritten ⟨.refl, ?_⟩) (fun s₁ s₂ step h => ?_) steps
    · show s.desk.InStep
      rw [empty]
      exact .empty
    · exact ⟨h.1.trans step.evolves,
        step.inStep (fun p q located _ _ _ => resolves _ h.1 p q located) h.2⟩
  intro scene hmem
  obtain ⟨-, inStep⟩ := kept scene hmem
  exact ⟨inStep.index, fun _ _ _ hd he => inStep.unique hd he, fun _ _ => inStep.find_eq_some,
    inStep.order⟩

theorem linkFree_atRoot : atRoot.host.files.LinkFree where
  tree := Folder.linkFree_iff.2 fun _ _ he => by cases he
  here _ hn := by cases hn

theorem desk_in_step_saveOne : ∃ s', Script.saveOne.run (Cast.idle.collaborators 1 1) atRoot =
    some (.ok (), s') ∧ ∀ scene ∈ s'.scenes, Consistent scene :=
  ⟨_, rfl, desk_in_step Cast.idle 1 1 Script.saveOne rfl rfl
    (fun _ evolves _ _ => (linkFree_atRoot.evolves evolves).resolves) rfl⟩

end JavaStudio.Studio
