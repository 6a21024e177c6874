import JavaStudio.Proofs.Files.Moved
import JavaStudio.Proofs.Files.Parent
import JavaStudio.Proofs.Number.Digits
import JavaStudio.Proofs.Source.Write
import Mathlib.Data.List.Nodup
import Mathlib.Data.List.Perm.Subperm

/-!
# A scratch file can be made

The names of scratch files differ, and one name more is tried than there are entries in the tree. So
one of them is free (`makeScratch_returns`), and the content that is written there can be moved over any
target that is no directory (`fillAndMove_returns`).
-/

namespace JavaStudio

/-! ## Entries are counted -/

namespace Folder

variable {f : Folder} {n : String} {e x : Entry} {l p : Location}

theorem entriesOf_subset (h : f.find? n = some x) : entriesOf (p ++ [n]) x ⊆ entriesIn p f := by
  induction f with
  | nil => cases h
  | cons y f ih =>
    obtain ⟨m, y⟩ := y
    rw [entriesIn]
    rw [find?] at h
    split at h
    · rename_i same
      cases h
      rw [same]
      exact List.subset_append_left _ _
    · exact List.Subset.trans (ih h) (List.subset_append_right _ _)

theorem mem_entriesOf (p : Location) (x : Entry) : (p, x) ∈ entriesOf p x := by
  cases x <;> simp [entriesOf]

/-- What stands somewhere below a folder is among its entries. -/
theorem mem_entriesIn (h : get? (n :: l) f = some e) : (p ++ n :: l, e) ∈ entriesIn p f := by
  induction l generalizing n f p with
  | nil =>
    rw [get?] at h
    split at h
    · rename_i found
      cases h
      exact entriesOf_subset found (mem_entriesOf _ _)
    · rename_i found
      cases h
      exact entriesOf_subset found (mem_entriesOf _ _)
    · cases h
  | cons m l ih =>
    rw [get?] at h
    split at h
    · rename_i g found
      refine entriesOf_subset found ?_
      rw [entriesOf, List.append_cons p n (m :: l)]
      exact List.mem_cons_of_mem _ (ih h)
    · cases h
    · cases h

end Folder

theorem Tree.mem_entries {t : Tree} {d : Location} {n : String} {e : Entry}
    (h : t.get? (d ++ [n]) = some e) : (d ++ [n], e) ∈ t.entries := by
  rcases d with _ | ⟨m, d⟩
  · exact Folder.mem_entriesIn h
  · exact Folder.mem_entriesIn (p := []) h

namespace Source

variable {fs fs' : Files} {dir target : Path} {name encoding newline : String} {refused : Refusals}
  {f : Failure} {tries k : Nat} {d : Location} {n : String} {w : Wide} {content : Bytes} {s : Spot}

/-! ## One of the names is free -/

theorem scratchName_injective (name : String) : Function.Injective (scratchName name) := by
  intro i j same
  have chars := congrArg String.toList same
  simp only [scratchName, String.toList_append, String.toList_ofList] at chars
  have digits := List.append_cancel_left (List.append_cancel_right chars)
  have value := congrArg Json.decimal digits
  rwa [Json.decimal_zeros_append, Json.decimal_zeros_append, ← Text.ofNat, ← Text.ofNat,
    Json.decimal_ofNat, Json.decimal_ofNat] at value

theorem isName_scratchName (name : String) (k : Nat) : IsName (scratchName name k) := by
  have long : 2 < (scratchName name k).length := by
    simp only [scratchName, String.length_append]
    have suffix : ".tmp".length = 4 := rfl
    omega
  refine ⟨?_, ?_, ?_⟩ <;> intro same <;> rw [same] at long <;> exact absurd long (by decide)

/-- Where the names can be looked up, only taken ones keep a scratch file from being made. -/
theorem taken_of_makeScratch (h : makeScratch dir name tries k fs = (.error f, fs'))
    (known : ∀ i < tries, ∃ s, fs.spot .entry (dir.child (scratchName name (k + i))) = .ok s) :
    ∀ i < tries, ∃ place e,
      fs.spot .entry (dir.child (scratchName name (k + i))) = .ok (.entry place e) := by
  induction tries generalizing k with
  | zero => exact fun i hi => absurd hi (Nat.not_lt_zero i)
  | succ tries ih =>
    obtain ⟨s, found⟩ := known 0 (Nat.succ_pos tries)
    rw [Nat.add_zero] at found
    rw [makeScratch] at h
    cases s with
    | vacant d n =>
      have made : (Files.createFile (dir.child (scratchName name k))).attempt fs =
          (.ok (.ok ()), { fs with tree := fs.tree.put (d ++ [n]) (.file []) }) := by
        rw [Task.attempt, Files.createFile, found]
      rw [Task.bind_of_ok made] at h
      cases h
    | entry place e =>
      have refused : (Files.createFile (dir.child (scratchName name k))).attempt fs =
          (.ok (.error (.file .alreadyExists (dir.child (scratchName name k)).toString)), fs) := by
        rw [Task.attempt, Files.createFile, found]
      rw [Task.bind_of_ok refused] at h
      intro i hi
      cases i with
      | zero => exact ⟨place, e, found⟩
      | succ i =>
        rw [Nat.add_succ, ← Nat.succ_add]
        refine ih h (fun j hj => ?_) i (Nat.lt_of_succ_lt_succ hi)
        rw [Nat.succ_add, ← Nat.add_succ]
        exact known (j + 1) (Nat.succ_lt_succ hj)

/-- As many entries as scratch names that are taken. -/
theorem le_entries_of_taken (taken : ∀ i < tries, ∃ place e,
    fs.spot .entry (dir.child (scratchName name i)) = .ok (.entry place e)) :
    tries ≤ fs.tree.entries.length := by
  have distinct : ((List.range tries).map fun i => some (scratchName name i)).Nodup :=
    List.Nodup.map (Option.some_injective _ |>.comp (scratchName_injective name))
      List.nodup_range
  have standing : ((List.range tries).map fun i => some (scratchName name i)) ⊆
      fs.tree.entries.map (·.1.getLast?) := by
    intro x hx
    obtain ⟨i, hi, rfl⟩ := List.mem_map.1 hx
    obtain ⟨place, e, found⟩ := taken i (List.mem_range.1 hi)
    obtain ⟨d, last⟩ := Files.location_child found (isName_scratchName name i)
    have stands : fs.tree.get? place = some e := (Files.spot_eq_ok.1 found).2.2.stands rfl
    obtain rfl : place = d ++ [scratchName name i] := last
    exact List.mem_map.2 ⟨_, Tree.mem_entries stands, List.getLast?_concat⟩
  have count := (List.subperm_of_subset distinct standing).length_le
  rwa [List.length_map, List.length_map, List.length_range] at count

/-- A scratch file can be made wherever its names can be looked up. -/
theorem makeScratch_returns
    (known : ∀ i ≤ fs.tree.entries.length,
      ∃ s, fs.spot .entry (dir.child (scratchName name i)) = .ok s) :
    ∃ scratch fs', makeScratch dir name (fs.tree.entries.length + 1) 0 fs = (.ok scratch, fs') := by
  rcases run : makeScratch dir name (fs.tree.entries.length + 1) 0 fs with ⟨f | scratch, fs'⟩
  · have taken := taken_of_makeScratch run fun i hi => by
      rw [Nat.zero_add]
      exact known i (Nat.le_of_lt_succ hi)
    simp only [Nat.zero_add] at taken
    exact absurd (le_entries_of_taken taken) (Nat.not_succ_le_self _)
  · exact ⟨scratch, fs', rfl⟩

/-! ## It takes the place of the target -/

/-- The system lets a file be written to a path. -/
def Allowed (refused : Refusals) (target : Path) : Prop := ∀ use, use.path = target → refused use = none

theorem Allowed.check (allowed : Allowed refused target) {use : FileUse} (of : use.path = target) :
    refused.check use = .ok () := by
  rw [Refusals.check, allowed use of]

/-- A scratch file is filled and moved over a target that is no directory. -/
theorem fillAndMove_returns (allowed : Allowed refused target)
    (free : fs.spot .entry (dir.child name) = .ok (.vacant d n)) (hname : IsName name)
    (apart : name ≠ target.name) (encoded : contentOf fs.machine encoding newline w = .ok content)
    (leads : fs.spot .entry target = .ok s) (named : Files.endsInDots target = false)
    (solid : fs.tree.Solid s.location) :
    ∃ fs', fillAndMove refused target (dir.child name) w encoding newline
      { fs with tree := fs.tree.put (d ++ [n]) (.file []) } = (.ok (), fs') := by
  obtain ⟨hd, hn⟩ := Files.vacant_stands free
  have there := Files.spot_of_made free hname.nonempty [] .writing
  have filled := Files.spot_of_made free hname.nonempty content .entry
  have differ := Tree.Apart.put hd (fun e he => by rw [hn] at he; cases he) content
  -- the target and the scratch file have different last names
  have elsewhere : s.location ≠ d ++ [n] := by
    obtain ⟨d₁, last⟩ := Files.location_child free hname
    obtain ⟨d₂, -, last', -⟩ := Files.leads_parent leads named solid
    intro same
    have scratch : d ++ [n] = d₁ ++ [name] := last
    rw [last', scratch] at same
    exact apart (List.append_singleton_inj.1 same).2.symm
  obtain ⟨s', leads', same⟩ := Files.spot_elsewhere differ leads elsewhere
  have solid' := differ.solid solid
  rw [← same] at solid'
  have file := (Files.spot_eq_ok.1 filled).2.2.stands rfl
  have movable := Files.moveFault?_of_solid file solid' ⟨d, n, rfl, differ.isDirectory hd⟩
    (Files.parent_of_spot leads' solid')
  have moved : ∃ fs', Files.replace (dir.child name) target
      { fs with tree := fs.tree.put (d ++ [n]) (.file content) } = (.ok (), fs') := by
    unfold Files.replace Files.goalOf
    rw [filled, leads']
    simp only [named, Bool.false_eq_true, if_false]
    rw [movable]
    exact ⟨_, rfl⟩
  obtain ⟨fs', moved⟩ := moved
  refine ⟨fs', ?_⟩
  unfold fillAndMove
  rw [Task.get_bind, encoded, allowed.check rfl, allowed.check rfl]
  show (Files.writeBytes (dir.child name) content >>= fun _ => Files.replace (dir.child name) target)
    _ = _
  rw [Task.bind_of_ok (Files.writeBytes_of_file there content)]
  simp only [Tree.put_put]
  exact moved

/-- A write returns where scratch names can be looked up, its text can be encoded and no directory
stands at its target. -/
theorem writeUnder_returns (allowed : Allowed refused target) (policy : newline ∈ newlines)
    (encoded : contentOf fs.machine encoding newline w = .ok content)
    (leads : fs.spot .entry target = .ok s) (named : Files.endsInDots target = false)
    (solid : fs.tree.Solid s.location)
    (known : ∀ i ≤ fs.tree.entries.length, ∃ s,
      fs.spot .entry ((scratchDirectory fs target).child (scratchName target.name i)) = .ok s) :
    ∃ fs', writeUnder refused target w encoding newline fs = (.ok target, fs') := by
  obtain ⟨scratch, fs₁, made⟩ := makeScratch_returns known
  obtain ⟨_, failed, -⟩ | ⟨j, d, n, same, free, rfl⟩ := makeScratch_cases made
  · cases failed
  cases same
  obtain ⟨fs₂, done⟩ := fillAndMove_returns allowed free (isName_scratchName _ _)
    (scratchName_ne _ _) encoded leads named solid
  refine ⟨fs₂, ?_⟩
  unfold writeUnder
  rw [if_pos (List.contains_iff_mem.2 policy), Task.get_bind, allowed.check rfl]
  show (makeScratch _ _ _ _ >>= _) fs = _
  rw [Task.bind_of_ok made]
  exact Task.bind_eq_ok.2 ⟨(), fs₂, Task.tryCatch_eq.2 (.inl ⟨(), done, rfl⟩), rfl⟩

end Source

end JavaStudio
