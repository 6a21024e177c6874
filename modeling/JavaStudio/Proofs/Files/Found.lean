import JavaStudio.Proofs.Files.Calls

/-!
# A file is found where it was put

A file that is put at the location where a path ends takes the place of what stood there. The same
path leads to the file afterwards, whether or not something stood there before, with one exception:
a path can end at a symbolic link that it has gone through on its way, and without the link there
is no such way any more. `Direct` excludes that.

* `readBytes_put`: a file that was put where a direct path ends is read there.
-/

namespace JavaStudio.Files

variable {fs : Files} {p : Path} {s : Spot} {aim : Aim}

/-- The link that a path names is not needed on the way to it: without the link the path leads to a
free name. -/
def Direct (fs : Files) (p : Path) : Prop :=
  ∀ place target, fs.spot .entry p = .ok (.entry place (.link target)) →
    ∃ d n, d ++ [n] = place ∧
      ({ fs with tree := fs.tree.erase place } : Files).spot .entry p = .ok (.vacant d n)

theorem direct_of_unlinked
    (h : ∀ place target, fs.spot .entry p ≠ .ok (.entry place (.link target))) : fs.Direct p :=
  fun place target hs => absurd hs (h place target)

/-- A path that ends at the location of an entry leads to that entry. -/
theorem spot_eq_entry {e : Entry} (h : fs.spot aim p = .ok s)
    (he : fs.tree.get? s.location = some e) : s = .entry s.location e := by
  cases s with
  | vacant d n =>
    have free : fs.tree.get? (Spot.vacant d n).location = none := (vacant_stands h).2
    rw [free] at he
    cases he
  | entry place e' =>
    have stands := (spot_eq_ok.1 h).2.2.stands rfl
    have found : fs.tree.get? place = some e := he
    rw [stands, Option.some.injEq] at found
    rw [found]
    rfl

/-- A file that was put where a direct path ends is what the path leads to. -/
theorem spot_put (h : fs.spot .entry p = .ok s) (solid : fs.tree.Solid s.location)
    (direct : fs.Direct p) (content : Bytes) (aim : Aim) (unwritten : aim ≠ .writing) :
    ({ fs with tree := fs.tree.put s.location (.file content) } : Files).spot aim p =
      .ok (.entry s.location (.file content)) := by
  obtain ⟨hnull, hshort, leads⟩ := spot_eq_ok.1 h
  obtain ⟨d, n, hplace, hd⟩ := parent_of_spot h solid
  rw [hplace]
  have filled := Tree.get?_put_same (n := n) hd.choose_spec (.file content)
  refine spot_eq_ok.2 ⟨hnull, hshort, ?_⟩
  by_cases linked : ∃ target, fs.tree.get? (d ++ [n]) = some (.link target)
  · -- a walk past the link goes nowhere once the link is gone, so the way is the one without it
    obtain ⟨target, linked⟩ := linked
    have entry := spot_eq_entry h (hplace ▸ linked)
    rw [hplace] at entry
    obtain ⟨d', n', same, free⟩ := direct _ _ (entry ▸ h)
    refine (spot_eq_ok.1 free).2.2.fill (Tree.Apart.erase_put hd content) filled aim
      (.inl rfl) rfl ?_ ?_
    · exact same
    · exact fun writing => absurd writing unwritten
  · have quiet : ∀ e, fs.tree.get? (d ++ [n]) = some e → ∃ content, e = .file content := by
      intro e he
      cases e with
      | file old => exact ⟨old, rfl⟩
      | directory f => exact absurd (hplace ▸ he) (solid f)
      | link target => exact absurd ⟨target, he⟩ linked
    exact leads.fill (Tree.Apart.put hd quiet content) filled aim (.inl rfl) rfl hplace
      fun writing => absurd writing unwritten

/-- A file that was put where a direct path ends is read there. -/
theorem readBytes_put (h : fs.spot .entry p = .ok s) (solid : fs.tree.Solid s.location)
    (direct : fs.Direct p) (content : Bytes) :
    ({ fs with tree := fs.tree.put s.location (.file content) } : Files).readBytes p =
      .ok content := by
  unfold readBytes stat
  rw [spot_put h solid direct content .target nofun]

theorem spot_of_file {content : Bytes} (file : fs.stat p = .ok (.file content)) :
    ∃ place, fs.spot .target p = .ok (.entry place (.file content)) := by
  unfold stat at file
  split at file
  · rename_i place e spot
    cases file
    exact ⟨place, spot⟩
  · cases file
  · cases file

/-- What has the path of a file is the file or a link. -/
theorem entry_of_file {content : Bytes} (file : fs.stat p = .ok (.file content)) :
    ∃ s, fs.spot .entry p = .ok s ∧ fs.tree.Solid s.location := by
  obtain ⟨place, found⟩ := spot_of_file file
  obtain ⟨hnull, hshort, leads⟩ := spot_eq_ok.1 found
  rcases leads.entry rfl with entry | ⟨x, target, entry⟩
  · have stands := entry.stands rfl
    exact ⟨_, spot_eq_ok.2 ⟨hnull, hshort, entry⟩, fun f hf => nomatch stands.symm.trans hf⟩
  · have stands := entry.stands rfl
    exact ⟨_, spot_eq_ok.2 ⟨hnull, hshort, entry⟩, fun f hf => nomatch stands.symm.trans hf⟩

/-- A path that leads to a file does not lead through a link that it names: that would be a directory. -/
theorem direct_of_file {content : Bytes} (file : fs.stat p = .ok (.file content)) : fs.Direct p := by
  intro place target named
  have leads := (spot_eq_ok.1 named).2.2
  have linked : fs.tree.get? place = some (.link target) := leads.stands rfl
  obtain ⟨d, n, rfl, hd⟩ := parent_of_spot named fun f hf => nomatch linked.symm.trans hf
  obtain ⟨q, found⟩ := spot_of_file file
  refine ⟨d, n, rfl, ?_⟩
  rcases leads.cleared hd linked rfl with free | ⟨k', ms, more, through⟩
  · obtain ⟨hnull, hshort, -⟩ := spot_eq_ok.1 named
    exact spot_eq_ok.2 ⟨hnull, hshort, free⟩
  · have walked := (spot_eq_ok.1 found).2.2.walk
    obtain ⟨k₁, w, hw, hl, run⟩ := leads.walk_through rfl (w := []) trivial rfl walked
    have file : fs.tree.Leads .target k₁ _ (namesOf target) _ :=
      Tree.leads_walk_of_stands k₁ hw (namesOf target)
    rw [run] at file
    exact absurd (through.walk_of_stands hw hl) (file.walk_past_file rfl hw rfl more k' _)

end JavaStudio.Files
