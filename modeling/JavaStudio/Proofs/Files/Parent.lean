import JavaStudio.Proofs.Files.Calls

/-!
# The directory of an entry

A walk to the entry of a name goes to a directory and looks the name up there (`Leads.front`). Where no
directory stands at its end the last name is one that an entry has (`Leads.isName_of_solid`), so the
parent of the path is a directory (`holdsDirectory_parent`).
-/

namespace JavaStudio

namespace Tree

variable {t : Tree} {aim : Aim} {k : Nat} {l : Location} {n : String} {ns : List String}
  {r : Except FileFault Spot}

theorem names_of_singleton {m : String} {ms : List String} (h : [m] = ms ++ [n]) : ms = [] ∧ m = n := by
  obtain ⟨rfl, last⟩ := List.append_singleton_inj.1 (show [] ++ [m] = ms ++ [n] from h)
  exact ⟨rfl, last⟩

/-- A walk to the entry of a name goes to a directory first and looks the name up there. -/
theorem Leads.front (h : t.Leads .entry k l ns r) (hl : t.IsDirectory l) (hn : IsName n) :
    ∀ {ms s}, ns = ms ++ [n] → r = .ok s →
      ∃ d f, t.Leads .target k l ms (.ok (.entry d (.directory f))) ∧ s.location = d ++ [n] := by
  have tries : ∀ {m ms ms'}, Tries .entry m ms → Tries .target m ms' := fun tries =>
    ⟨tries.isName, fun slashed => (nomatch slashed.1), tries.short⟩
  -- where no name comes before the last one, the walk is in its directory already
  have already : ∀ {k l}, t.IsDirectory l →
      ∃ f, t.Leads .target k l [] (.ok (.entry l (.directory f))) := fun ⟨f, hf⟩ => ⟨f, .here hf⟩
  induction h with
  | here _ =>
    rintro (_ | ⟨m, ms⟩) s eq <;> cases eq
  | stay none rest ih =>
    rintro (_ | ⟨m, ms⟩) s eq hr <;> cases eq
    · exact (none.elim hn.nonempty hn.notHere).elim
    · obtain ⟨d, f, h, last⟩ := ih hl rfl hr
      exact ⟨d, f, .stay none h, last⟩
  | up rest ih =>
    rintro (_ | ⟨m, ms⟩) s eq hr <;> cases eq
    · exact absurd rfl hn.notUp
    · obtain ⟨d, f, h, last⟩ := ih (isDirectory_dropLast hl) rfl hr
      exact ⟨d, f, .up h, last⟩
  | slashed _ _ _ => nofun
  | long _ _ _ => nofun
  | @vacant k l m _ _ =>
    rintro ms s eq ⟨⟩
    obtain ⟨rfl, rfl⟩ := names_of_singleton eq
    obtain ⟨f, h⟩ := already hl
    exact ⟨l, f, h, rfl⟩
  | missing _ _ _ => nofun
  | @down k l m ns g r hm hg rest ih =>
    rintro (_ | ⟨m, ms⟩) s eq hr
    · cases eq
      subst hr
      obtain ⟨f, h⟩ := already hl
      cases rest
      exact ⟨l, f, h, rfl⟩
    · cases eq
      obtain ⟨d, f, h, last⟩ := ih ⟨g, hg⟩ rfl hr
      exact ⟨d, f, .down (tries hm) hg h, last⟩
  | @file k l m _ _ _ =>
    rintro ms s eq ⟨⟩
    obtain ⟨rfl, rfl⟩ := names_of_singleton eq
    obtain ⟨f, h⟩ := already hl
    exact ⟨l, f, h, rfl⟩
  | blocked _ _ _ => nofun
  | @link k l m _ _ _ _ =>
    rintro ms s eq ⟨⟩
    obtain ⟨rfl, rfl⟩ := names_of_singleton eq
    obtain ⟨f, h⟩ := already hl
    exact ⟨l, f, h, rfl⟩
  | tired _ _ _ => nofun
  | follow hm hlink followed _ ih =>
    rintro (_ | ⟨m, ms⟩) s eq hr <;> cases eq
    · exact absurd ⟨rfl, rfl⟩ followed
    · obtain ⟨d, f, h, last⟩ := ih (isDirectory_startOf hl _) (List.append_assoc _ _ _).symm hr
      exact ⟨d, f, .follow (tries hm) hlink (fun last => nomatch last.2) h, last⟩

/-- A walk whose last name is none of an entry's own ends at a directory. -/
theorem Leads.isName_of_solid (h : t.Leads aim k l ns r) :
    ∀ {ms s}, ns = ms ++ [n] → r = .ok s → t.Solid s.location → IsName n := by
  -- where no name comes after one that means a directory, the walk ends in that directory
  have stops : ∀ {k l s}, t.Leads aim k l [] (.ok s) → ¬ t.Solid s.location := by
    rintro _ _ _ (hf | _) solid
    exact solid _ hf
  induction h with
  | here _ =>
    rintro (_ | ⟨m, ms⟩) s eq <;> cases eq
  | stay _ rest ih =>
    rintro (_ | ⟨m, ms⟩) s eq hr solid <;> cases eq
    · exact absurd solid (stops (hr ▸ rest))
    · exact ih rfl hr solid
  | up rest ih =>
    rintro (_ | ⟨m, ms⟩) s eq hr solid <;> cases eq
    · exact absurd solid (stops (hr ▸ rest))
    · exact ih rfl hr solid
  | slashed _ _ _ => nofun
  | long _ _ _ => nofun
  | vacant tries _ =>
    rintro ms s eq - -
    obtain ⟨-, rfl⟩ := names_of_singleton eq
    exact tries.isName
  | missing _ _ _ => nofun
  | down tries _ _ ih =>
    rintro (_ | ⟨m, ms⟩) s eq hr solid <;> cases eq
    · exact tries.isName
    · exact ih rfl hr solid
  | file tries _ =>
    rintro ms s eq - -
    obtain ⟨-, rfl⟩ := names_of_singleton eq
    exact tries.isName
  | blocked _ _ _ => nofun
  | link tries _ _ =>
    rintro ms s eq - -
    obtain ⟨-, rfl⟩ := names_of_singleton eq
    exact tries.isName
  | tired _ _ _ => nofun
  | follow tries _ _ _ ih =>
    rintro (_ | ⟨m, ms⟩) s eq hr solid <;> cases eq
    · exact tries.isName
    · exact ih (List.append_assoc _ _ _).symm hr solid

end Tree

namespace Files

variable {fs : Files} {p : Path} {s : Spot} {n : String}

/-- The entry of a name stands under that name, or is missing there. -/
theorem location_child (hs : fs.spot .entry (p.child n) = .ok s) (hn : IsName n) :
    ∃ d, s.location = d ++ [n] := by
  obtain ⟨-, -, leads⟩ := spot_eq_ok.1 hs
  obtain ⟨d, -, -, last⟩ := leads.front fs.tree.isDirectory_nil hn (namesTo_child fs p n) rfl
  exact ⟨d, last⟩

theorem namesTo_parent (fs : Files) (parts : p.parts ≠ []) :
    fs.namesTo p = fs.namesTo p.parent ++ [p.name] := by
  rw [← namesTo_child, Path.child_parent_name parts]

/-- A path with names that leads to no directory does not end in dots. -/
theorem endsInDots_of_solid (hs : fs.spot .entry p = .ok s) (parts : p.parts ≠ [])
    (solid : fs.tree.Solid s.location) : endsInDots p = false := by
  obtain ⟨-, -, leads⟩ := spot_eq_ok.1 hs
  have name := leads.isName_of_solid (fs.namesTo_parent parts) rfl solid
  rw [endsInDots, Bool.or_eq_false_iff, List.isEmpty_eq_false_iff, decide_eq_false_iff_not]
  exact ⟨parts, name.notUp⟩

/-- What is no directory and has a name stands in the directory of its path, or is missing there. -/
theorem leads_parent (hs : fs.spot .entry p = .ok s) (named : endsInDots p = false)
    (solid : fs.tree.Solid s.location) : ∃ d f, s.location = d ++ [p.name] ∧
      fs.tree.Leads .target maxLinks [] (fs.namesTo p.parent) (.ok (.entry d (.directory f))) := by
  have parts : p.parts ≠ [] := by
    intro none
    rw [endsInDots, none] at named
    cases named
  obtain ⟨-, -, leads⟩ := spot_eq_ok.1 hs
  have last := fs.namesTo_parent parts
  have name := leads.isName_of_solid last rfl solid
  obtain ⟨d, f, front, place⟩ := leads.front fs.tree.isDirectory_nil name last rfl
  exact ⟨d, f, place, front⟩

theorem holdsDirectory_parent (hs : fs.spot .entry p = .ok s) (named : endsInDots p = false)
    (solid : fs.tree.Solid s.location) : fs.holdsDirectory p.parent ≠ .ok false := by
  obtain ⟨d, f, -, front⟩ := leads_parent hs named solid
  have hnull : hasNull p.parent = false := List.any_eq_false.2 fun n hn =>
    List.any_eq_false.1 (spot_eq_ok.1 hs).1 n (List.dropLast_subset _ hn)
  unfold holdsDirectory stat
  by_cases long : pathLimit ≤ p.parent.toString.utf8ByteSize
  · have refused : fs.spot .target p.parent = .error (.file .nameTooLong p.parent.toString) := by
      rw [spot, hnull, spotOfNames, if_pos long]
      rfl
    rw [refused]
    nofun
  · rw [spot_eq_ok.2 ⟨hnull, Nat.lt_of_not_le long, front⟩]
    nofun

/-! ## What can be moved over what -/

/-- Nothing stands below what is no directory. -/
theorem not_isBelow {t : Tree} {l above : Location} (solid : t.Solid above)
    (parent : ∃ d n, l = d ++ [n] ∧ t.IsDirectory d) : isBelow l above = false := by
  obtain ⟨d, n, rfl, f, hf⟩ := parent
  cases below : isBelow (d ++ [n]) above with
  | false => rfl
  | true =>
    obtain ⟨before, other⟩ := Bool.and_eq_true_iff.1 below
    rcases List.prefix_concat_iff.1 (List.isPrefixOf_iff_prefix.1 before) with rfl | above
    · simp at other
    · exact absurd (solid.eq_of_isPrefix above hf ▸ hf) (solid f)

/-- A file can be moved over all but a directory. -/
theorem moveFault?_of_solid {t : Tree} {source goal : Location} {content : Bytes}
    (file : t.get? source = some (.file content)) (solid : t.Solid goal)
    (parent : ∃ d n, source = d ++ [n] ∧ t.IsDirectory d)
    (parent' : ∃ d n, goal = d ++ [n] ∧ t.IsDirectory d) :
    moveFault? t source goal (.file content) = none := by
  have solid' : t.Solid source := fun f hf => nomatch file.symm.trans hf
  unfold moveFault?
  rw [not_isBelow solid' parent', not_isBelow solid parent]
  rcases found : t.get? goal with _ | _ | f | _
  · rfl
  · rfl
  · exact absurd found (solid f)
  · rfl

end Files

end JavaStudio
