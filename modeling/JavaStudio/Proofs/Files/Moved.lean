import JavaStudio.Proofs.Files.Found

/-!
# A file is found where it was moved

A file is written beside its goal and then moved over the goal. Afterwards the goal leads to what was
written, if it does not go through a link that it names and the source was no link.

* `readBytes_of_moved`: what was written and moved is read at the goal.
-/

namespace JavaStudio.Files

variable {fs fs₁ fs₂ : Files} {source goal p : Path} {content : Bytes} {tree : Tree} {aim : Aim}
  {s : Spot} {place : Location}

theorem readBytes_of_spot (h : fs.spot .target p = .ok (.entry place (.file content))) :
    fs.readBytes p = .ok content := by
  unfold readBytes stat
  rw [h]

/-- A path that does not lead to the place where two trees differ leads to the same location. -/
theorem spot_elsewhere (apart : fs.tree.Apart tree place) (h : fs.spot aim p = .ok s)
    (elsewhere : s.location ≠ place) :
    ∃ s', ({ fs with tree := tree } : Files).spot aim p = .ok s' ∧ s'.location = s.location := by
  obtain ⟨hnull, hshort, leads⟩ := spot_eq_ok.1 h
  obtain ⟨s', leads', same⟩ := leads.elsewhere apart rfl elsewhere
  exact ⟨s', spot_eq_ok.2 ⟨hnull, hshort, leads'⟩, same⟩

/-- A link that a path names is named by it in both trees. -/
theorem spot_link {l : Location} {target : String} (apart : fs.tree.Apart tree place)
    (h : fs.spot .entry p = .ok (.entry l (.link target))) :
    ({ fs with tree := tree } : Files).spot .entry p = .ok (.entry l (.link target)) := by
  have linked : fs.tree.get? l = some (.link target) := (spot_eq_ok.1 h).2.2.stands rfl
  obtain ⟨s, hs, hloc⟩ := spot_elsewhere apart h (Tree.ne_of_link apart.quiet linked)
  have hloc : s.location = l := hloc
  rw [hs, spot_eq_entry hs (hloc ▸ apart.link linked), hloc]

/-- Where a file is written there is the entry of the path, unless that is a link. -/
theorem spot_entry_of_writing (h : fs.spot .writing p = .ok s)
    (unlinked : ∀ place target, fs.spot .entry p ≠ .ok (.entry place (.link target))) :
    fs.spot .entry p = .ok s := by
  obtain ⟨hnull, hshort, leads⟩ := spot_eq_ok.1 h
  rcases leads.entry rfl with leads | ⟨place, target, leads⟩
  · exact spot_eq_ok.2 ⟨hnull, hshort, leads⟩
  · exact absurd (spot_eq_ok.2 ⟨hnull, hshort, leads⟩) (unlinked place target)

/-- The link that a path names stays as much in its way when a file comes or goes elsewhere. -/
theorem Direct.apart (direct : fs.Direct p) (apart : fs.tree.Apart tree place) :
    ({ fs with tree := tree } : Files).Direct p := by
  intro x target hx
  -- in the first tree the path names the same link, so without it the path leads to a free name
  have back : ({ fs with tree := tree } : Files).tree.Apart fs.tree place := apart.symm
  have named := spot_link back hx
  have linked : fs.tree.get? x = some (.link target) := (spot_eq_ok.1 named).2.2.stands rfl
  have hne := Tree.ne_of_link apart.quiet linked
  obtain ⟨d, n, rfl, free⟩ := direct x target named
  have hd : fs.tree.IsDirectory d := Tree.isDirectory_of_snoc linked
  obtain ⟨s, hs, hloc⟩ := spot_elsewhere (apart.erased (n := n) hd) free hne
  have cleared : (tree.erase (d ++ [n])).get? (d ++ [n]) = none :=
    Tree.get?_erase_same (apart.isDirectory hd).choose_spec
  cases s with
  | vacant d' n' => exact ⟨d', n', hloc, hs⟩
  | entry l e =>
    have stands : (tree.erase (d ++ [n])).get? l = some e := (spot_eq_ok.1 hs).2.2.stands rfl
    obtain rfl : l = d ++ [n] := hloc
    rw [cleared] at stands
    cases stands

/-- What was written at a source that is no link and moved over a direct goal is read there. -/
theorem readBytes_of_moved
    (unlinked : ∀ place target, fs.spot .entry source ≠ .ok (.entry place (.link target)))
    (direct : fs.Direct goal) (written : writeBytes source content fs = (.ok (), fs₁))
    (moved : replace source goal fs₁ = (.ok (), fs₂)) : fs₂.readBytes goal = .ok content := by
  obtain ⟨s, hs, quiet, rfl⟩ := writeBytes_eq_ok written
  have entry := spot_entry_of_writing hs unlinked
  have solid := Tree.solid_of_quiet quiet
  have made := spot_put entry solid (direct_of_unlinked unlinked) content .entry nofun
  obtain ⟨d, n, hplace, hd⟩ := parent_of_spot entry solid
  rw [hplace] at quiet made moved
  obtain ⟨f, hf, -⟩ | ⟨t, -, ht, -, free, rfl⟩ := replace_cases made nofun moved
  · cases hf
  have filled : fs.tree.Apart (fs.tree.put (d ++ [n]) (.file content)) (d ++ [n]) :=
    .put hd quiet content
  have hd₁ := filled.isDirectory hd
  have cleared := Tree.Apart.erase hd₁ filled.quiet'
  by_cases same : t.location = d ++ [n]
  · -- the file is moved onto itself
    have hd₂ := cleared.isDirectory hd₁
    obtain ⟨hnull, hshort, leads⟩ := spot_eq_ok.1 ht
    have back := cleared.trans (.put hd₂ cleared.quiet' content)
    have again := Tree.get?_put_same (n := n) hd₂.choose_spec (.file content)
    have leads := leads.fill back again .target (.inl rfl) rfl same nofun
    rw [same]
    exact readBytes_of_spot (spot_eq_ok.2 ⟨hnull, hshort, leads⟩)
  · obtain ⟨t', ht', hloc⟩ := spot_elsewhere cleared ht same
    rw [← hloc]
    exact readBytes_put ht' (hloc ▸ cleared.solid free) ((direct.apart filled).apart cleared) content

end JavaStudio.Files
