import JavaStudio.Failure

/-!
# The tree of files

The files of a machine. A folder holds entries under their names: files, links and directories, which
are folders again. A location is the list of names that lead to an entry from the root; the root itself
is always a directory. `Tree.put` and `Tree.erase` change what stands at one location, and the laws at
the end say that they change nothing else.
-/

namespace JavaStudio

/-- The content of a file. -/
abbrev Bytes := List UInt8

/-- The names that lead from the root to a place in the tree. -/
abbrev Location := List String

/-- What stands under a name. -/
inductive Entry
  | file (content : Bytes)
  | directory (below : List (String × Entry))
  | link (target : String)
  deriving Repr, BEq, Inhabited

/-- Entries under their names. -/
abbrev Folder := List (String × Entry)

namespace Folder

/-- The entry of a name. -/
def find? (n : String) : Folder → Option Entry
  | [] => none
  | (k, e) :: f => if k = n then some e else find? n f

/-- The folder with an entry under a name. -/
def set (n : String) (e : Entry) : Folder → Folder
  | [] => [(n, e)]
  | (k, v) :: f => if k = n then (k, e) :: f else (k, v) :: set n e f

/-- The folder with nothing under a name. -/
def without (n : String) (f : Folder) : Folder := f.filter fun e => e.1 ≠ n

/-- What stands at a location below a folder. -/
def get? : Location → Folder → Option Entry
  | [], f => some (.directory f)
  | n :: l, f => match find? n f with
    | some (.directory g) => get? l g
    | some e => if l.isEmpty then some e else none
    | none => none

/-- Changes the folder that the last name of a location belongs to, if there is one. -/
def alter (change : String → Folder → Folder) : Location → Folder → Folder
  | [], f => f
  | [n], f => change n f
  | n :: l, f => match find? n f with
    | some (.directory g) => set n (.directory (alter change l g)) f
    | _ => f

mutual

/-- An entry at a location and all below it, with their locations. -/
def entriesOf (l : Location) : Entry → List (Location × Entry)
  | .directory f => (l, .directory f) :: entriesIn l f
  | .file content => [(l, .file content)]
  | .link target => [(l, .link target)]

/-- All entries in a folder at a location, with their locations. -/
def entriesIn (l : Location) : List (String × Entry) → List (Location × Entry)
  | [] => []
  | (n, e) :: f => entriesOf (l ++ [n]) e ++ entriesIn l f

end

@[simp] theorem find?_set_same (n : String) (e : Entry) (f : Folder) :
    find? n (set n e f) = some e := by
  induction f with
  | nil => simp [set, find?]
  | cons x f ih =>
    obtain ⟨k, v⟩ := x
    by_cases h : k = n <;> simp [set, find?, h, ih]

theorem find?_set_other {n m : String} (h : m ≠ n) (e : Entry) (f : Folder) :
    find? m (set n e f) = find? m f := by
  induction f with
  | nil => simp [set, find?, Ne.symm h]
  | cons x f ih =>
    obtain ⟨k, v⟩ := x
    by_cases hk : k = n
    · simp [set, find?, hk, Ne.symm h]
    · simp [set, find?, hk, ih]

@[simp] theorem find?_without_same (n : String) (f : Folder) : find? n (without n f) = none := by
  induction f with
  | nil => rfl
  | cons x f ih =>
    obtain ⟨k, v⟩ := x
    by_cases h : k = n
    · simpa [without, h] using ih
    · simpa [without, h, find?] using ih

theorem find?_without_other {n m : String} (h : m ≠ n) (f : Folder) :
    find? m (without n f) = find? m f := by
  induction f with
  | nil => rfl
  | cons x f ih =>
    obtain ⟨k, v⟩ := x
    by_cases hk : k = n
    · have hm : n ≠ m := Ne.symm h
      simpa [without, hk, find?, hm] using ih
    · by_cases hm : k = m
      · simp [without, find?, hm, h]
      · simpa [without, hk, find?, hm] using ih

end Folder

/-- An entry without what stands below it. -/
def Entry.bare : Entry → Entry
  | directory _ => directory []
  | e => e

/-- A change that leaves the entries of other names alone. -/
def IsLocal (change : String → Folder → Folder) : Prop :=
  ∀ n m f, m ≠ n → Folder.find? m (change n f) = Folder.find? m f

/-- The files of a machine: the folder at the root. -/
structure Tree where
  root : Folder
  deriving Repr, BEq, Inhabited

namespace Tree

/-- What stands at a location. -/
def get? (t : Tree) (l : Location) : Option Entry := Folder.get? l t.root

/-- The tree with an entry at a location. -/
def put (t : Tree) (l : Location) (e : Entry) : Tree :=
  ⟨Folder.alter (fun n => Folder.set n e) l t.root⟩

/-- The tree with nothing at a location. -/
def erase (t : Tree) (l : Location) : Tree := ⟨Folder.alter Folder.without l t.root⟩

/-- All entries with their locations. -/
def entries (t : Tree) : List (Location × Entry) := Folder.entriesIn [] t.root

end Tree

/-! ## Laws -/

namespace Folder

/-- What a change makes of the last name is found there, if a directory holds it. -/
theorem get?_alter_same {change : String → Folder → Folder} {l : Location} {g : Folder} (n : String)
    (f : Folder) (h : get? l f = some (.directory g)) :
    get? (l ++ [n]) (alter change (l ++ [n]) f) = get? [n] (change n g) := by
  induction l generalizing f with
  | nil =>
    simp only [get?, Option.some.injEq, Entry.directory.injEq] at h
    simp [alter, h]
  | cons m l ih =>
    have shape : alter change (m :: l ++ [n]) f =
        match find? m f with
        | some (.directory d) => set m (.directory (alter change (l ++ [n]) d)) f
        | _ => f := by
      cases l <;> rfl
    simp only [get?] at h
    split at h
    · rename_i d hd
      rw [shape, hd]
      simp only [List.cons_append, get?, find?_set_same]
      exact ih d h
    · rename_i e he hm
      split at h
      · cases e with
        | directory d => exact absurd rfl (he d)
        | file _ => simp at h
        | link _ => simp at h
      · simp at h
    · simp at h

/-- A local change leaves all locations alone but its own and those below that. -/
theorem get?_alter_other {change : String → Folder → Folder} (hc : IsLocal change) {l k : Location}
    (h : ¬ l <+: k) (f : Folder) :
    (get? k (alter change l f)).map Entry.bare = (get? k f).map Entry.bare := by
  induction l generalizing k f with
  | nil => exact absurd List.nil_prefix h
  | cons n l ih =>
    cases k with
    | nil => simp [get?, Entry.bare]
    | cons m k =>
      cases l with
      | nil =>
        have hm : m ≠ n := fun e => h (by simp [e, List.cons_prefix_cons])
        simp [alter, get?, hc n m f hm]
      | cons n' l =>
        by_cases hm : m = n
        · subst hm
          have hk : ¬ n' :: l <+: k := fun e => h (List.cons_prefix_cons.2 ⟨rfl, e⟩)
          simp only [alter]
          split
          · rename_i d hd
            simp only [get?, find?_set_same, hd]
            exact ih hk d
          · rfl
        · simp only [alter]
          split
          · simp [get?, find?_set_other hm]
          · rfl

end Folder

namespace Tree

/-- An entry that is put below a directory stands there. -/
theorem get?_put_same {t : Tree} {l : Location} {n : String} {g : Folder}
    (h : t.get? l = some (.directory g)) (e : Entry) : (t.put (l ++ [n]) e).get? (l ++ [n]) = some e := by
  rw [get?, put, Folder.get?_alter_same n t.root h]
  cases e <;> simp [Folder.get?]

/-- Putting an entry somewhere leaves all locations alone but those below it. -/
theorem get?_put_other {l k : Location} (h : ¬ l <+: k) (t : Tree) (e : Entry) :
    ((t.put l e).get? k).map Entry.bare = (t.get? k).map Entry.bare :=
  Folder.get?_alter_other (fun _ _ f hm => Folder.find?_set_other hm e f) h t.root

/-- Nothing stands where an entry was taken away. -/
theorem get?_erase_same {t : Tree} {l : Location} {n : String} {g : Folder}
    (h : t.get? l = some (.directory g)) : (t.erase (l ++ [n])).get? (l ++ [n]) = none := by
  rw [get?, erase, Folder.get?_alter_same n t.root h]
  simp [Folder.get?]

/-- Taking an entry away leaves all locations alone but those below it. -/
theorem get?_erase_other {l k : Location} (h : ¬ l <+: k) (t : Tree) :
    ((t.erase l).get? k).map Entry.bare = (t.get? k).map Entry.bare :=
  Folder.get?_alter_other (fun _ _ f hm => Folder.find?_without_other hm f) h t.root

end Tree

end JavaStudio
