import JavaStudio.Proofs.Act
import JavaStudio.Proofs.Files.Moved
import JavaStudio.Proofs.Files.Parent
import Mathlib.Logic.Function.Iterate

/-!
# What calls on files leave alone

Making directories adds directories where nothing stood and changes nothing else (`Tree.Grown`), whether
it succeeds or not. Putting a file somewhere, or taking one away, changes that one location
(`Tree.SameBut`).

* `ensureDirectories_raised`: all that is made is made above or at the path, one directory after another.
* `ensureDirectories_above`: above what is no directory there is none to be made.
-/

namespace JavaStudio

namespace Tree

variable {t t' t'' : Tree} {d : Location} {n : String} {e : Entry} {ls ks : List Location}

/-! ## New directories -/

/-- Directories stand where nothing stood, and nothing else is different. -/
def Grown (t t' : Tree) : Prop :=
  ∀ x, (t.get? x).map Entry.bare = (t'.get? x).map Entry.bare ∨
    t.get? x = none ∧ t'.IsDirectory x

theorem Grown.refl (t : Tree) : t.Grown t := fun _ => .inl rfl

theorem Grown.trans (h : t.Grown t') (h' : t'.Grown t'') : t.Grown t'' := by
  intro x
  rcases h x with same | ⟨free, made⟩
  · rcases h' x with same' | ⟨free', made'⟩
    · exact .inl (same.trans same')
    · rw [free', Option.map_none, Option.map_eq_none_iff] at same
      exact .inr ⟨same, made'⟩
  · rcases h' x with same' | ⟨-, made'⟩
    · exact .inr ⟨free, isDirectory_of_bare same' made⟩
    · exact .inr ⟨free, made'⟩

/-- A new directory is empty, so nothing comes to stand below it. -/
theorem grown_put (hd : t.IsDirectory d) (free : t.get? (d ++ [n]) = none) :
    t.Grown (t.put (d ++ [n]) (.directory [])) := by
  intro x
  by_cases below : d ++ [n] <+: x
  case neg => exact .inl (get?_put_other below t _).symm
  obtain ⟨k, rfl⟩ := below
  have made := get?_put_same (n := n) hd.choose_spec (.directory [])
  cases k with
  | nil =>
    rw [List.append_nil]
    exact .inr ⟨free, [], made⟩
  | cons m k =>
    have solid : t.Solid (d ++ [n]) := fun f hf => nomatch free.symm.trans hf
    have empty : (t.put (d ++ [n]) (.directory [])).get? (d ++ [n] ++ [m]) = none := by
      rw [get?_snoc, made]
      rfl
    have after : (t.put (d ++ [n]) (.directory [])).get? (d ++ [n] ++ m :: k) = none := by
      rw [List.append_cons (d ++ [n])]
      by_cases last : k = []
      · rw [last, List.append_nil, empty]
      · have solid' : (t.put (d ++ [n]) (.directory [])).Solid (d ++ [n] ++ [m]) :=
          fun f hf => nomatch empty.symm.trans hf
        exact solid'.below last
    rw [solid.below (List.cons_ne_nil m k), after]
    exact .inl rfl

/-! ## One location -/

/-- The trees are alike but for some locations. -/
def SameBut (ls : List Location) (t t' : Tree) : Prop :=
  ∀ x, x ∉ ls → (t.get? x).map Entry.bare = (t'.get? x).map Entry.bare

theorem SameBut.trans (h : SameBut ls t t') (h' : SameBut ks t' t'') :
    SameBut (ls ++ ks) t t'' := by
  intro x hx
  rw [List.mem_append, not_or] at hx
  exact (h x hx.1).trans (h' x hx.2)

theorem sameBut_put (hd : t.IsDirectory d) (solid : t.Solid (d ++ [n]))
    (plain : ∀ f, e ≠ .directory f) : SameBut [d ++ [n]] t (t.put (d ++ [n]) e) := by
  have solid' : (t.put (d ++ [n]) e).Solid (d ++ [n]) := by
    intro f hf
    rw [get?_put_same hd.choose_spec, Option.some.injEq] at hf
    exact plain f hf
  have elsewhere := elsewhere_of_outside (fun x hx => (get?_put_other hx t e).symm) solid solid'
  exact fun x hx => elsewhere x (List.mem_singleton.not.1 hx)

theorem sameBut_erase (hd : t.IsDirectory d) (solid : t.Solid (d ++ [n])) :
    SameBut [d ++ [n]] t (t.erase (d ++ [n])) := by
  have solid' : (t.erase (d ++ [n])).Solid (d ++ [n]) := by
    intro f hf
    rw [get?_erase_same hd.choose_spec] at hf
    cases hf
  have elsewhere := elsewhere_of_outside (fun x hx => (get?_erase_other hx t).symm) solid solid'
  exact fun x hx => elsewhere x (List.mem_singleton.not.1 hx)

/-- What is moved leaves its location and comes to stand at another one. -/
theorem sameBut_move {source goal : Location} (plain : ∀ f, e ≠ .directory f)
    (hs : ∃ d n, source = d ++ [n] ∧ t.IsDirectory d) (hg : ∃ d n, goal = d ++ [n] ∧ t.IsDirectory d)
    (solid : t.Solid source) (solid' : t.Solid goal) :
    SameBut [source, goal] t ((t.erase source).put goal e) := by
  obtain ⟨d, n, rfl, hd⟩ := hs
  obtain ⟨d', n', rfl, hd'⟩ := hg
  have erased := sameBut_erase (n := n) hd solid
  have cleared : (t.erase (d ++ [n])).Solid (d' ++ [n']) := by
    intro f hf
    by_cases same : d' ++ [n'] = d ++ [n]
    · rw [same, get?_erase_same hd.choose_spec] at hf
      cases hf
    · obtain ⟨g, hg⟩ := isDirectory_of_bare (erased _ (List.mem_singleton.not.2 same)).symm ⟨f, hf⟩
      exact solid' g hg
  exact erased.trans (sameBut_put (isDirectory_erase solid hd') cleared plain)

end Tree

namespace Files

variable {fs fs' made filled : Files} {p scratch : Path} {r : Except Failure Unit} {content : Bytes}

/-! ## Making directories -/

theorem makeDirectory_cases (h : makeDirectory p fs = (r, fs')) :
    (∃ e, r = .error e ∧ fs' = fs) ∨
      ∃ d n, r = .ok () ∧ fs.spot .entry p = .ok (.vacant d n) ∧
        fs' = { fs with tree := fs.tree.put (d ++ [n]) (.directory []) } := by
  unfold makeDirectory at h
  rcases hs : fs.spot .entry p with f | ⟨place, e⟩ | ⟨d, n⟩ <;> rw [hs] at h <;> cases h
  · exact .inl ⟨_, rfl, rfl⟩
  · exact .inl ⟨_, rfl, rfl⟩
  · exact .inr ⟨d, n, rfl, rfl, rfl⟩

/-- Directories were made, one after another, each at the path or above it. -/
inductive Raised (p : Path) (fs : Files) : Files → Prop
  | none : Raised p fs fs
  | made {fs₁ fs₂ : Files} (k : Nat) : Raised p fs fs₁ →
      makeDirectory (Path.parent^[k] p) fs₁ = (.ok (), fs₂) → Raised p fs fs₂

namespace Raised

theorem trans {fs₁ fs₂ : Files} (h : Raised p fs fs₁) (h' : Raised p fs₁ fs₂) : Raised p fs fs₂ := by
  induction h' with
  | none => exact h
  | made k _ makes ih => exact .made k ih makes

theorem of_parent (h : Raised p.parent fs fs') : Raised p fs fs' := by
  induction h with
  | none => exact .none
  | made k _ makes ih => exact .made (k + 1) ih makes

theorem grown (h : Raised p fs fs') : fs.tree.Grown fs'.tree := by
  induction h with
  | none => exact .refl _
  | made k _ makes ih =>
    rcases makeDirectory_cases makes with ⟨e, failed, -⟩ | ⟨d, n, -, free, rfl⟩
    · cases failed
    · obtain ⟨hd, hn⟩ := vacant_stands free
      exact ih.trans (Tree.grown_put hd hn)

end Raised

theorem ensureDirectory_raised (h : ensureDirectory p fs = (r, fs')) : Raised p fs fs' := by
  rcases Task.tryCatch_eq.1 h with ⟨_, makes, -⟩ | ⟨e, fs₁, fails, rest⟩
  · exact .made 0 .none makes
  · obtain ⟨_, -, same⟩ | ⟨_, _, ok, -⟩ := makeDirectory_cases fails
    · have looked : fs' = fs₁ := by
        split at rest
        · cases rest
          rfl
        · rw [Task.get_bind] at rest
          rcases Task.bind_eq.1 rest with ⟨b, _, asked, rest⟩ | ⟨_, asked, -⟩
          · obtain ⟨-, rfl⟩ := Prod.mk.inj asked
            split at rest <;> cases rest <;> rfl
          · exact (Prod.mk.inj asked).2.symm
        · cases rest
          rfl
      rw [looked, same]
      exact .none
    · cases ok

theorem ensureDirectoriesUp_raised {height : Nat} (h : ensureDirectoriesUp height p fs = (r, fs')) :
    Raised p fs fs' := by
  induction height generalizing p fs fs' r with
  | zero =>
    cases h
    exact .none
  | succ height ih =>
    rcases Task.tryCatch_eq.1 h with ⟨_, makes, -⟩ | ⟨e, fs₁, fails, rest⟩
    · exact ensureDirectory_raised makes
    · refine (ensureDirectory_raised fails).trans ?_
      split at rest
      · split at rest
        · cases rest
          exact .none
        · rcases Task.bind_eq.1 rest with ⟨_, fs₂, above, rest⟩ | ⟨_, above, -⟩
          · exact (ih above).of_parent.trans (ensureDirectory_raised rest)
          · exact (ih above).of_parent
      · cases rest
        exact .none

/-- Whether the directories of a path can be made or not, all that changes are directories that are made
at the path or above it. -/
theorem ensureDirectories_raised (h : ensureDirectories p fs = (r, fs')) : Raised p fs fs' :=
  ensureDirectoriesUp_raised h

/-- What has a path already, or cannot be looked up, is left alone. -/
theorem ensureDirectory_idle (taken : ∀ d n, fs.spot .entry p ≠ .ok (.vacant d n))
    (seen : ∀ name, fs.spot .entry p ≠ .error (.file .notFound name))
    (h : ensureDirectory p fs = (r, fs')) :
    fs' = fs ∧ ∀ name, r ≠ .error (.file .notFound name) := by
  have fault : ∀ {e}, makeDirectory p fs = (.error e, fs) → ∀ name, e ≠ .file .notFound name := by
    intro e makes name
    unfold makeDirectory at makes
    split at makes
    · cases makes
    · cases makes
      nofun
    · rename_i found
      cases makes
      rintro rfl
      exact seen name found
  rcases Task.tryCatch_eq.1 h with ⟨_, makes, -⟩ | ⟨e, fs₁, fails, rest⟩
  · rcases makeDirectory_cases makes with ⟨_, failed, -⟩ | ⟨d, n, -, free, -⟩
    · cases failed
    · exact absurd free (taken d n)
  obtain ⟨_, _, rfl⟩ | ⟨_, _, ok, -⟩ := makeDirectory_cases fails
  case inr => cases ok
  have other := fault fails
  split at rest
  · exact absurd rfl (other _)
  · rw [Task.get_bind] at rest
    rcases Task.bind_eq.1 rest with ⟨there, _, asked, rest⟩ | ⟨e', asked, rfl⟩
    · obtain ⟨-, rfl⟩ := Prod.mk.inj asked
      split at rest <;> cases rest
      · exact ⟨rfl, nofun⟩
      · exact ⟨rfl, fun name same => other name (Except.error.inj same)⟩
    · obtain ⟨failed, rfl⟩ := Prod.mk.inj asked
      refine ⟨rfl, fun name same => ?_⟩
      cases same
      unfold holdsDirectory at failed
      split at failed
      · cases failed
      · cases failed
      · split at failed
        · cases failed
        · rename_i present
          cases failed
          exact absurd rfl present
  · cases rest
    exact ⟨rfl, fun name same => other name (Except.error.inj same)⟩

/-- Above what is no directory the directories are there. -/
theorem ensureDirectories_above {s : Spot} (hs : fs.spot .entry p = .ok s) (parts : p.parts ≠ [])
    (solid : fs.tree.Solid s.location) (h : ensureDirectories p.parent fs = (r, fs')) : fs' = fs := by
  obtain ⟨d, f, -, front⟩ := leads_parent hs (endsInDots_of_solid hs parts solid) solid
  have hnull : hasNull p.parent = false := List.any_eq_false.2 fun n hn =>
    List.any_eq_false.1 (spot_eq_ok.1 hs).1 n (List.dropLast_subset _ hn)
  -- the parent has an entry, unless its name is too long for any call
  have found : (∃ place e, fs.spot .entry p.parent = .ok (.entry place e)) ∨
      fs.spot .entry p.parent = .error (.file .nameTooLong p.parent.toString) := by
    by_cases long : pathLimit ≤ p.parent.toString.utf8ByteSize
    · rw [spot, hnull, spotOfNames, if_pos long]
      exact .inr rfl
    · rcases front.entry rfl with leads | ⟨place, target, leads⟩
      · exact .inl ⟨_, _, spot_eq_ok.2 ⟨hnull, Nat.lt_of_not_le long, leads⟩⟩
      · exact .inl ⟨_, _, spot_eq_ok.2 ⟨hnull, Nat.lt_of_not_le long, leads⟩⟩
  have taken : ∀ d n, fs.spot .entry p.parent ≠ .ok (.vacant d n) := by
    intro d n vacant
    rcases found with ⟨_, _, found⟩ | found <;> cases found.symm.trans vacant
  have seen : ∀ name, fs.spot .entry p.parent ≠ .error (.file .notFound name) := by
    intro name missing
    rcases found with ⟨_, _, found⟩ | found <;> cases found.symm.trans missing
  unfold ensureDirectories at h
  generalize fs.machine.nesting = height at h
  rcases height with _ | height
  · cases h
    rfl
  rcases Task.tryCatch_eq.1 h with ⟨_, makes, -⟩ | ⟨e, fs₁, fails, rest⟩
  · exact (ensureDirectory_idle taken seen makes).1
  · obtain ⟨rfl, other⟩ := ensureDirectory_idle taken seen fails
    split at rest
    · exact absurd rfl (other _)
    · cases rest
      rfl

/-! ## Writing -/

/-- The content of the file at which a write to a path lands was put there, in place of another content
or at a free name. -/
structure Written (made filled : Files) (p : Path) (place : Location) (content : Bytes) : Prop where
  leads : ∃ s, made.spot .writing p = .ok s ∧ s.location = place
  quiet : ∀ e, made.tree.get? place = some e → ∃ old, e = .file old
  files : filled = { made with tree := made.tree.put place (.file content) }

theorem writeBytes_cases (h : writeBytes p content fs = (r, fs')) :
    (∃ e, r = .error e ∧ fs' = fs) ∨ r = .ok () ∧ ∃ place, Written fs fs' p place content := by
  rcases r with e | _
  · unfold writeBytes at h
    split at h <;> cases h
    exact .inl ⟨e, rfl, rfl⟩
  · obtain ⟨s, leads, quiet, files⟩ := writeBytes_eq_ok h
    exact .inr ⟨rfl, s.location, ⟨s, leads, rfl⟩, quiet, files⟩

namespace Written

variable {place : Location}

theorem parent (h : Written made filled p place content) :
    ∃ d n, place = d ++ [n] ∧ made.tree.IsDirectory d := by
  obtain ⟨s, leads, rfl⟩ := h.leads
  exact parent_of_spot leads (Tree.solid_of_quiet h.quiet)

theorem sameBut (h : Written made filled p place content) :
    made.tree.SameBut [place] filled.tree := by
  obtain ⟨d, n, rfl, hd⟩ := h.parent
  rw [h.files]
  exact Tree.sameBut_put hd (Tree.solid_of_quiet h.quiet) nofun

/-- What has the path itself, after a write to it, is the file that was written or a link. -/
theorem entry (h : Written made filled p place content) :
    ∃ source e, filled.spot .entry p = .ok (.entry source e) ∧ ∀ f, e ≠ .directory f := by
  obtain ⟨s, leads, rfl⟩ := h.leads
  by_cases linked : ∃ place target, made.spot .entry p = .ok (.entry place (.link target))
  · obtain ⟨source, target, named⟩ := linked
    obtain ⟨d, n, same, hd⟩ := h.parent
    have quiet := h.quiet
    rw [same] at quiet
    have apart := Tree.Apart.put hd quiet content
    rw [h.files, same]
    exact ⟨source, _, spot_link apart named, nofun⟩
  · have unlinked : ∀ place target, made.spot .entry p ≠ .ok (.entry place (.link target)) :=
      fun place target named => linked ⟨place, target, named⟩
    have named := spot_entry_of_writing leads unlinked
    have found := spot_put named (Tree.solid_of_quiet h.quiet) (direct_of_unlinked unlinked) content
      .entry nofun
    rw [h.files]
    exact ⟨_, _, found, nofun⟩

/-- A write to a path that names nothing lands at the free name. -/
theorem of_vacant {d : Location} {n : String} (h : Written made filled p place content)
    (free : made.spot .entry p = .ok (.vacant d n)) : place = d ++ [n] := by
  obtain ⟨s, leads, rfl⟩ := h.leads
  have named := spot_entry_of_writing leads fun _ _ linked => by
    rw [free] at linked
    cases linked
  cases free.symm.trans named
  rfl

end Written

end Files

end JavaStudio
