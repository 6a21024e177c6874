import JavaStudio.Files.Tree

/-!
# Exact laws of the tree

Putting an entry where nothing stood and taking it away again gives the same tree back, and of two
entries put at one location the second one counts. `Tree.get?_snoc` looks a location up name by
name.
-/

namespace JavaStudio

/-- The entry of a name below an entry, which only a directory has. -/
def Entry.child? (n : String) : Entry → Option Entry
  | directory f => Folder.find? n f
  | _ => none

theorem Entry.bare_eq_file {e : Entry} {content : Bytes} :
    e.bare = .file content ↔ e = .file content := by
  cases e <;> simp [Entry.bare]

theorem Entry.bare_eq_link {e : Entry} {target : String} :
    e.bare = .link target ↔ e = .link target := by
  cases e <;> simp [Entry.bare]

namespace Folder

variable {n : String} {e e' : Entry} {f : Folder}

/-! ## One folder -/

theorem set_of_find? (h : find? n f = some e) : set n e f = f := by
  induction f with
  | nil => cases h
  | cons x f ih =>
    obtain ⟨k, v⟩ := x
    rw [find?] at h
    rw [set]
    split at h
    · rename_i hk
      cases h
      rw [if_pos hk]
    · rename_i hk
      rw [if_neg hk, ih h]

theorem set_set (n : String) (e e' : Entry) (f : Folder) : set n e' (set n e f) = set n e' f := by
  induction f with
  | nil => simp [set]
  | cons x f ih =>
    obtain ⟨k, v⟩ := x
    by_cases hk : k = n
    · simp [set, hk]
    · simp [set, hk, ih]

theorem without_set (h : find? n f = none) (e : Entry) : without n (set n e f) = f := by
  induction f with
  | nil => simp [set, without]
  | cons x f ih =>
    obtain ⟨k, v⟩ := x
    rw [find?] at h
    split at h
    · cases h
    · rename_i hk
      have rest := ih h
      unfold without at rest ⊢
      rw [set, if_neg hk, List.filter_cons_of_pos (by simpa using hk), rest]

/-! ## A folder below a folder -/

theorem get?_snoc (l : Location) (n : String) (f : Folder) :
    get? (l ++ [n]) f = (get? l f).bind (Entry.child? n) := by
  induction l generalizing f with
  | nil =>
    simp only [List.nil_append, get?, List.isEmpty_nil, if_true, Option.bind_some, Entry.child?]
    split <;> simp_all
  | cons m l ih =>
    rw [List.cons_append, get?, get?]
    split
    · rename_i g hg
      exact ih g
    · rename_i e he hm
      have tail : (l ++ [n]).isEmpty = false := by simp
      rw [tail, if_neg Bool.false_ne_true]
      cases l with
      | nil =>
        rw [List.isEmpty_nil, if_pos rfl, Option.bind_some]
        cases e with
        | directory g => exact absurd rfl (he g)
        | file _ => rfl
        | link _ => rfl
      | cons _ _ => rfl
    · rfl

theorem alter_of_directory {change : String → Folder → Folder} {m : String} {g : Folder}
    {l : Location} (hl : l ≠ []) (h : find? m f = some (.directory g)) :
    alter change (m :: l) f = set m (.directory (alter change l g)) f := by
  cases l with
  | nil => exact absurd rfl hl
  | cons n l =>
    rw [alter, h]
    exact List.cons_ne_nil n l

theorem alter_of_other {change : String → Folder → Folder} {m : String} {l : Location}
    (hl : l ≠ []) (h : ∀ g, find? m f ≠ some (.directory g)) : alter change (m :: l) f = f := by
  cases l with
  | nil => exact absurd rfl hl
  | cons n l =>
    rw [alter]
    · split
      · rename_i g hg
        exact absurd hg (h g)
      · rfl
    · exact List.cons_ne_nil n l

/-- Two changes at one location are one. -/
theorem alter_alter (change change' : String → Folder → Folder) (l : Location) (f : Folder) :
    alter change' l (alter change l f) = alter (fun n g => change' n (change n g)) l f := by
  induction l generalizing f with
  | nil => rfl
  | cons m l ih =>
    by_cases hl : l = []
    · subst hl
      rfl
    by_cases hf : ∃ g, find? m f = some (.directory g)
    · obtain ⟨g, hg⟩ := hf
      rw [alter_of_directory hl hg, alter_of_directory hl hg,
        alter_of_directory hl (find?_set_same _ _ _), set_set, ih]
    · have other : ∀ g, find? m f ≠ some (.directory g) := fun g hg => hf ⟨g, hg⟩
      rw [alter_of_other hl other, alter_of_other hl other, alter_of_other hl other]

/-- An entry that is put where nothing stands and taken away again leaves no trace. -/
theorem alter_without_set {l : Location} (h : get? l f = none) (e : Entry) :
    alter (fun n g => without n (set n e g)) l f = f := by
  induction l generalizing f with
  | nil => cases h
  | cons m l ih =>
    by_cases hl : l = []
    · subst hl
      have absent : find? m f = none := by
        have looked := get?_snoc [] m f
        rw [List.nil_append, h] at looked
        exact looked.symm
      exact without_set absent e
    by_cases hf : ∃ g, find? m f = some (.directory g)
    · obtain ⟨g, hg⟩ := hf
      rw [get?, hg] at h
      rw [alter_of_directory hl hg, ih h, set_of_find? hg]
    · exact alter_of_other hl fun g hg => hf ⟨g, hg⟩

end Folder

namespace Tree

variable {t : Tree} {l : Location}

theorem get?_snoc (t : Tree) (l : Location) (n : String) :
    t.get? (l ++ [n]) = (t.get? l).bind (Entry.child? n) :=
  Folder.get?_snoc l n t.root

theorem put_put (t : Tree) (l : Location) (e e' : Entry) : (t.put l e).put l e' = t.put l e' := by
  unfold put
  rw [Folder.alter_alter]
  congr 2
  funext n f
  exact Folder.set_set n e e' f

theorem erase_put (h : t.get? l = none) (e : Entry) : (t.put l e).erase l = t := by
  unfold put erase
  rw [Folder.alter_alter, Folder.alter_without_set h]

/-- A directory stands at a location. -/
def IsDirectory (t : Tree) (l : Location) : Prop := ∃ f, t.get? l = some (.directory f)

theorem isDirectory_nil (t : Tree) : t.IsDirectory [] := ⟨t.root, rfl⟩

/-- What stands below a location stands in a directory. -/
theorem isDirectory_of_snoc {n : String} {e : Entry} (h : t.get? (l ++ [n]) = some e) :
    t.IsDirectory l := by
  rw [get?_snoc] at h
  rcases hl : t.get? l with _ | ⟨_ | f | _⟩ <;> rw [hl] at h
  · cases h
  · cases h
  · exact ⟨f, hl⟩
  · cases h

/-- Above what stands somewhere there are only directories. -/
theorem isDirectory_of_append {k : Location} {e : Entry} (hk : k ≠ [])
    (h : t.get? (l ++ k) = some e) : t.IsDirectory l := by
  induction k generalizing l with
  | nil => exact absurd rfl hk
  | cons n k ih =>
    rw [List.append_cons] at h
    by_cases hk' : k = []
    · rw [hk', List.append_nil] at h
      exact isDirectory_of_snoc h
    · exact isDirectory_of_snoc (ih hk' h).choose_spec

theorem isDirectory_dropLast (h : t.IsDirectory l) : t.IsDirectory l.dropLast := by
  rcases List.eq_nil_or_concat l with rfl | ⟨k, n, rfl⟩
  · exact h
  · rw [List.concat_eq_append, List.dropLast_concat]
    rw [List.concat_eq_append] at h
    exact isDirectory_of_snoc h.choose_spec

end Tree

end JavaStudio
