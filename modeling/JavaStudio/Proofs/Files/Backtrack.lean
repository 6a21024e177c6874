import JavaStudio.Proofs.Files.Distinct

/-!
# Taking names back

On a walk, `..` leads out of the directory that the walk is in; by spelling alone, it takes the name
before it back. If that is the name of a directory the two come to the same, and if it is the name of a
link they need not.

* `names_normalized`: a path of which no `..` takes a link back leads where its absolute spelling without
  `..` leads.
-/

namespace JavaStudio

namespace Tree

variable {t : Tree} {k : Nat} {l : Location} {n : String} {ms : List String}
  {r : Except FileFault Spot}

/-- Names that end at a directory and those without its name and the `..` behind it lead on alike. -/
theorem Leads.walk_back (h : t.Leads .entry k l ms r) (hn : IsName n) :
    ∀ {ns place f}, ms = ns ++ [n] → r = .ok (.entry place (.directory f)) →
      ∀ {w : Trail}, w.Stands t.root → w.location = l → ∀ rest,
        t.walk .target k w (ns ++ n :: ".." :: rest) = t.walk .target k w (ns ++ rest) := by
  induction h with
  | here _ =>
    intro ns place f hms
    cases ns <;> cases hms
  | stay hstay _ ih =>
    intro ns place f hms hr w hw hl rest
    rcases ns with _ | ⟨m, ns⟩
    · cases hms
      exact (hstay.elim hn.nonempty hn.notHere).elim
    · cases hms
      rw [List.cons_append, List.cons_append, walk_stay hstay, walk_stay hstay]
      exact ih rfl hr hw hl rest
  | up _ ih =>
    intro ns place f hms hr w hw hl rest
    rcases ns with _ | ⟨m, ns⟩
    · cases hms
      exact absurd rfl hn.notUp
    · cases hms
      rw [List.cons_append, List.cons_append, walk_up, walk_up]
      exact ih rfl hr hw.drop (by rw [Trail.location_drop, hl]) rest
  | slashed _ writing _ => cases writing
  | @down k l m ns' g r tries hg _ ih =>
    intro ns place f hms hr w hw hl rest
    subst hl
    rcases ns with _ | ⟨m', ns⟩
    · -- the walk goes down into the directory and comes out of it again
      cases hms
      rw [List.nil_append, List.nil_append, walk_tries (tries.reading .target nofun _) hw, hg]
      exact walk_up
    · cases hms
      rw [List.cons_append, List.cons_append, walk_tries (tries.reading .target nofun _) hw,
        walk_tries (tries.reading .target nofun _) hw, hg]
      exact ih rfl hr (stands_below hw hg) (Trail.location_cons _ _ w) rest
  | @follow k l m ns' target r tries hlink followed _ ih =>
    intro ns place f hms hr w hw hl rest
    subst hl
    rcases ns with _ | ⟨m', ns⟩
    · cases hms
      exact absurd ⟨rfl, rfl⟩ followed
    · cases hms
      have onward := ih (List.append_assoc (namesOf target) ns [n]).symm hr (stands_startOf hw target)
        (location_startOf w target) rest
      rw [List.append_assoc, List.append_assoc] at onward
      rw [List.cons_append, List.cons_append, walk_tries (tries.reading .target nofun _) hw,
        walk_tries (tries.reading .target nofun _) hw, hlink]
      simpa [Tree.onward] using onward
  | long _ _ _ | vacant _ _ | missing _ _ _ | file _ _ | blocked _ _ _ | link _ _ _ | tired _ _ _ =>
    intro _ _ _ _ hr
    cases hr

/-- What is left in front of each `..` among some names, behind those that are done, is nothing or leads
to a directory. -/
def Backed (t : Tree) (k : Nat) (done ns : List String) : Prop :=
  ∀ before after, ns = before ++ ".." :: after → Path.collapse true done before ≠ [] →
    ∃ place f, t.Leads .entry k [] (Path.collapse true done before) (.ok (.entry place (.directory f)))

theorem Backed.tail {done done' ns : List String} (h : t.Backed k done (n :: ns))
    (same : ∀ before, Path.collapse true done (n :: before) = Path.collapse true done' before) :
    t.Backed k done' ns := by
  intro before after split inner
  rw [← same] at inner ⊢
  exact h (n :: before) after (congrArg (n :: ·) split) inner

/-- A walk goes where it goes after each `..` has taken the name before it back, if those are names of
directories. -/
theorem walk_collapse {done ns : List String} (isName : ∀ n ∈ done, IsName n)
    (said : ∀ n ∈ ns, Component n) (back : t.Backed k done ns) :
    t.walk .target k [] (done.reverse ++ ns) =
      t.walk .target k [] (Path.collapse true done ns) := by
  induction ns generalizing done with
  | nil => rw [List.append_nil, Path.collapse]
  | cons n ns ih =>
    have said' : ∀ m ∈ ns, Component m := fun m hm => said m (List.mem_cons_of_mem n hm)
    by_cases hup : n = ".."
    · subst hup
      cases done with
      | nil =>
        rw [List.reverse_nil, List.nil_append, walk_up, collapse_up_nil]
        exact ih (fun m hm => absurd hm List.not_mem_nil) said' (back.tail collapse_up_nil)
      | cons d ds =>
        have hd : IsName d := isName d List.mem_cons_self
        obtain ⟨place, f, leads⟩ := back [] ns rfl (by simp [Path.collapse])
        rw [Path.collapse, List.reverse_cons] at leads
        have skipped : t.walk .target k [] (ds.reverse ++ d :: ".." :: ns) =
            t.walk .target k [] (ds.reverse ++ ns) :=
          leads.walk_back (w := []) hd rfl rfl trivial rfl ns
        rw [collapse_up_cons hd.notUp, List.reverse_cons, List.append_assoc, List.singleton_append,
          skipped]
        apply ih (fun m hm => isName m (List.mem_cons_of_mem d hm)) said'
        exact back.tail (collapse_up_cons hd.notUp)
    · have component := said n List.mem_cons_self
      have hn : IsName n := ⟨component.nonempty, component.notHere, hup⟩
      have moved : done.reverse ++ n :: ns = (n :: done).reverse ++ ns := by simp
      rw [collapse_name hup, moved]
      apply ih _ said' (back.tail (collapse_name hup))
      intro m hm
      exact (List.mem_cons.1 hm).elim (fun hm => hm ▸ hn) (isName m)

end Tree

namespace Files

variable {fs : Files} {p : Path}

/-- No `..` of a path takes a link back: what is left of the names before it, taken together by spelling,
leads to a directory and not to a link. -/
structure Unbent (fs : Files) (p : Path) : Prop where
  here : p.isAbsolute = false → ∀ n ∈ fs.here, Component n
  back : ∀ before after, fs.namesTo p = before ++ ".." :: after →
    Path.collapse true [] before ≠ [] → ∃ place f,
      fs.tree.Leads .entry maxLinks [] (Path.collapse true [] before)
        (.ok (.entry place (.directory f)))

theorem namesTo_normalized (fs : Files) (p : Path) :
    fs.namesTo (fs.absolute p).normalized = Path.collapse true [] (fs.namesTo p) := by
  obtain ⟨anchor, ns⟩ := p
  cases anchor <;> rfl

/-- An absolute path without `..` takes nothing back, and its absolute spelling is the path. -/
theorem unbent_of_names (fs : Files) (rooted : p.isAbsolute = true) (plain : ∀ n ∈ p.parts, n ≠ "..") :
    fs.Unbent p ∧ (fs.absolute p).normalized = p := by
  obtain ⟨anchor, ns⟩ := p
  refine ⟨⟨fun loose => (nomatch rooted.symm.trans loose), fun before after split => ?_⟩, ?_⟩
  · rw [namesTo, if_pos rooted] at split
    refine absurd rfl (plain ".." ?_)
    rw [split]
    exact List.mem_append_right _ List.mem_cons_self
  · have same : fs.absolute ⟨anchor, ns⟩ = ⟨anchor, ns⟩ := by
      cases anchor with
      | here => cases rooted
      | _ => rfl
    rw [same, Path.normalized, rooted, collapse_of_names plain]
    rfl

/-- A path of which no `..` takes a link back leads where its absolute spelling without `..` leads. -/
theorem names_normalized (unbent : fs.Unbent p) (spelled : p.Spelled) (place : Location) :
    fs.Names .target (fs.absolute p).normalized place ↔ fs.Names .target p place := by
  have said : ∀ n ∈ fs.namesTo p, Component n := by
    intro n hn
    unfold namesTo at hn
    split at hn
    · exact spelled n hn
    · rename_i loose
      exact (List.mem_append.1 hn).elim (unbent.here (by simpa using loose) n) (spelled n)
  have start : ∀ n ∈ ([] : List String), IsName n := fun n hn => absurd hn List.not_mem_nil
  have same : fs.tree.walk .target maxLinks [] (fs.namesTo p) =
      fs.tree.walk .target maxLinks [] (Path.collapse true [] (fs.namesTo p)) :=
    Tree.walk_collapse start said unbent.back
  simp only [Names, Tree.leads_iff, namesTo_normalized, same]

end Files

end JavaStudio
