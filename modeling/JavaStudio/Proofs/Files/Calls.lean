import JavaStudio.Proofs.Files.Apart

/-!
# What calls on files do

One lemma for each call, in terms of where its paths lead. A call that fails changes nothing; a file
that was made at a free place is found there by every later call, and taking it away again undoes
the making.
-/

namespace JavaStudio.Files

variable {fs fs' : Files} {aim : Aim} {p source target dir : Path} {s : Spot} {place d : Location}
  {n name : String} {content : Bytes} {r : Except Failure Unit}

/-- The names that a path spells from the root. -/
def namesTo (fs : Files) (p : Path) : List String :=
  if p.isAbsolute then p.parts else fs.here ++ p.parts

theorem namesTo_child (fs : Files) (dir : Path) (name : String) :
    fs.namesTo (dir.child name) = fs.namesTo dir ++ [name] := by
  unfold namesTo Path.child
  show (if dir.isAbsolute then _ else _) = _
  split
  · rfl
  · rw [List.append_assoc]

theorem spot_eq_ok :
    fs.spot aim p = .ok s ↔ hasNull p = false ∧ p.toString.utf8ByteSize < pathLimit ∧
      fs.tree.Leads aim maxLinks [] (fs.namesTo p) (.ok s) := by
  unfold spot spotOfNames namesTo
  rw [Tree.leads_iff]
  cases hasNull p with
  | true => simp
  | false =>
    by_cases hlong : pathLimit ≤ p.toString.utf8ByteSize
    · simp [hlong, Nat.not_lt.2 hlong]
    · rw [if_neg Bool.false_ne_true, if_neg hlong]
      rcases fs.tree.walk aim maxLinks []
          (if p.isAbsolute then p.parts else fs.here ++ p.parts) with
        f | s' <;> simp [Nat.lt_of_not_le hlong]

theorem createFile_cases (h : createFile p fs = (r, fs')) :
    (∃ f, r = .error f ∧ fs' = fs) ∨
      ∃ d n, r = .ok () ∧ fs.spot .entry p = .ok (.vacant d n) ∧
        fs' = { fs with tree := fs.tree.put (d ++ [n]) (.file []) } := by
  unfold createFile at h
  rcases hs : fs.spot .entry p with f | ⟨place, e⟩ | ⟨d, n⟩ <;> rw [hs] at h <;> cases h
  · exact .inl ⟨_, rfl, rfl⟩
  · exact .inl ⟨_, rfl, rfl⟩
  · exact .inr ⟨d, n, rfl, rfl, rfl⟩

theorem writeBytes_of_file {old : Bytes} (h : fs.spot .writing p = .ok (.entry place (.file old)))
    (content : Bytes) :
    writeBytes p content fs =
      (.ok (), { fs with tree := fs.tree.put place (.file content) }) := by
  unfold writeBytes writable
  rw [h]

theorem remove_of_file (h : fs.spot .entry p = .ok (.entry place (.file content))) :
    remove p fs = (.ok (), { fs with tree := fs.tree.erase place }) := by
  unfold remove
  rw [h]

/-- What is no directory is moved over none. -/
theorem moveFault?_eq_none {tree : Tree} {goal : Location} {e : Entry}
    (plain : ∀ f, e ≠ .directory f) (h : moveFault? tree place goal e = none) :
    tree.Solid goal := by
  intro f hf
  unfold moveFault? at h
  rw [hf] at h
  split at h
  · cases h
  · split at h
    · cases h
    · cases e with
      | directory g => exact plain g rfl
      | _ => cases h

theorem replace_cases {e : Entry} (h : fs.spot .entry source = .ok (.entry place e))
    (plain : ∀ f, e ≠ .directory f) (hr : replace source target fs = (r, fs')) :
    (∃ f, r = .error f ∧ fs' = fs) ∨
      ∃ s, r = .ok () ∧ fs.spot .entry target = .ok s ∧ endsInDots target = false ∧
        fs.tree.Solid s.location ∧
        fs' = { fs with tree := (fs.tree.erase place).put s.location e } := by
  unfold replace at hr
  rw [h] at hr
  simp only at hr
  unfold goalOf at hr
  rcases hs : fs.spot .entry target with f | s <;> rw [hs] at hr
  · cases hr
    exact .inl ⟨_, rfl, rfl⟩
  cases hdots : endsInDots target with
  | true =>
    simp only [hdots, if_true] at hr
    cases hr
    exact .inl ⟨_, rfl, rfl⟩
  | false =>
    simp only [hdots, Bool.false_eq_true, if_false] at hr
    rcases hfault : moveFault? fs.tree place s.location e with _ | fault <;>
      rw [hfault] at hr <;> cases hr
    · exact .inr ⟨s, rfl, rfl, rfl, moveFault?_eq_none plain hfault, rfl⟩
    · exact .inl ⟨_, rfl, rfl⟩

theorem writeBytes_eq_ok (h : writeBytes p content fs = (.ok (), fs')) :
    ∃ s, fs.spot .writing p = .ok s ∧
      (∀ e, fs.tree.get? s.location = some e → ∃ old, e = .file old) ∧
      fs' = { fs with tree := fs.tree.put s.location (.file content) } := by
  unfold writeBytes writable at h
  rcases hs : fs.spot .writing p with f | ⟨place, old | f | target⟩ | ⟨d, n⟩ <;> rw [hs] at h
  · cases h
  · refine ⟨_, rfl, fun e he => ⟨old, ?_⟩, (Prod.mk.inj h).2.symm⟩
    exact (Option.some.inj ((spot_eq_ok.1 hs).2.2.stands rfl |>.symm.trans he)).symm
  · cases h
  · cases h
  · refine ⟨_, rfl, fun e he => ?_, (Prod.mk.inj h).2.symm⟩
    have free := (spot_eq_ok.1 hs).2.2.vacant_stands fs.tree.isDirectory_nil rfl
    exact nomatch free.2.1.symm.trans he

/-- The place where a path leads to a free name. -/
theorem vacant_stands (h : fs.spot aim p = .ok (.vacant d n)) :
    fs.tree.IsDirectory d ∧ fs.tree.get? (d ++ [n]) = none :=
  have stands := (spot_eq_ok.1 h).2.2.vacant_stands fs.tree.isDirectory_nil rfl
  ⟨stands.1, stands.2.1⟩

/-- What can be replaced stands in a directory. -/
theorem parent_of_spot (h : fs.spot aim p = .ok s) (solid : fs.tree.Solid s.location) :
    ∃ d n, s.location = d ++ [n] ∧ fs.tree.IsDirectory d := by
  cases s with
  | vacant d n => exact ⟨d, n, rfl, (vacant_stands h).1⟩
  | entry place e =>
    have stands := (spot_eq_ok.1 h).2.2.stands rfl
    rcases List.eq_nil_or_concat place with rfl | ⟨d, n, rfl⟩
    · exact absurd rfl (solid _)
    · rw [List.concat_eq_append] at stands
      exact ⟨d, n, List.concat_eq_append, Tree.isDirectory_of_snoc stands⟩

/-- A file that was made at a free place is found there. -/
theorem spot_of_made (free : fs.spot .entry (dir.child name) = .ok (.vacant d n))
    (hname : name ≠ "") (content : Bytes) (aim : Aim) :
    ({ fs with tree := fs.tree.put (d ++ [n]) (.file content) } : Files).spot aim (dir.child name) =
      .ok (.entry (d ++ [n]) (.file content)) := by
  obtain ⟨hnull, hshort, leads⟩ := spot_eq_ok.1 free
  obtain ⟨hd, hn⟩ := vacant_stands free
  have apart : fs.tree.Apart (fs.tree.put (d ++ [n]) (.file content)) (d ++ [n]) :=
    .put hd (fun e he => by rw [hn] at he; cases he) content
  refine spot_eq_ok.2 ⟨hnull, hshort, ?_⟩
  have filled := Tree.get?_put_same (n := n) hd.choose_spec (.file content)
  refine leads.fill apart filled aim (.inl rfl) rfl rfl fun _ m hm => ?_
  rw [namesTo_child, List.getLast?_concat, Option.some.injEq] at hm
  rw [← hm]
  exact hname

end JavaStudio.Files
