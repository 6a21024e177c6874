import JavaStudio.Proofs.Files.Locate
import JavaStudio.Proofs.Source.Write
import JavaStudio.Proofs.Studio.Step

/-!
# Files without links

In files without links a resolved path is its own resolved form (`LinkFree.resolves`): there is
nothing to follow, and taking `..` back once is enough. Neither a write nor any other call that
changes files makes a link (`LinkFree.evolves`).
-/

namespace JavaStudio

/-! ## Folders without links -/

/-- No link stands anywhere below a folder. -/
def Folder.LinkFree (f : Folder) : Prop := ∀ l target, Folder.get? l f ≠ some (.link target)

/-- No link is or stands below an entry. -/
def Entry.LinkFree : Entry → Prop
  | file _ => True
  | directory f => Folder.LinkFree f
  | link _ => False

namespace Folder

variable {f : Folder} {n : String} {e : Entry}

theorem linkFree_iff : LinkFree f ↔ ∀ n e, find? n f = some e → e.LinkFree := by
  constructor
  · intro h n e he
    cases e with
    | file _ => trivial
    | directory g =>
      intro l target hl
      refine h (n :: l) target ?_
      rw [get?, he]
      exact hl
    | link target =>
      refine h [n] target ?_
      rw [get?, he]
      rfl
  · intro h l target hl
    cases l with
    | nil => cases hl
    | cons n l =>
      rw [get?] at hl
      split at hl
      · rename_i g hg
        exact h n _ hg l target hl
      · rename_i e _ he
        split at hl
        · cases hl
          exact h n _ he
        · cases hl
      · cases hl

theorem linkFree_set (h : LinkFree f) (he : e.LinkFree) : LinkFree (set n e f) := by
  refine linkFree_iff.2 fun m e' hm => ?_
  by_cases hmn : m = n
  · subst hmn
    rw [find?_set_same, Option.some.injEq] at hm
    exact hm ▸ he
  · rw [find?_set_other hmn] at hm
    exact linkFree_iff.1 h m e' hm

theorem linkFree_without (h : LinkFree f) : LinkFree (without n f) := by
  refine linkFree_iff.2 fun m e hm => ?_
  by_cases hmn : m = n
  · subst hmn
    rw [find?_without_same] at hm
    cases hm
  · rw [find?_without_other hmn] at hm
    exact linkFree_iff.1 h m e hm

theorem linkFree_alter {change : String → Folder → Folder}
    (hchange : ∀ n f, LinkFree f → LinkFree (change n f)) (l : Location) (h : LinkFree f) :
    LinkFree (alter change l f) := by
  induction l generalizing f with
  | nil => exact h
  | cons n l ih =>
    by_cases hl : l = []
    · subst hl
      exact hchange n f h
    by_cases hf : ∃ g, find? n f = some (.directory g)
    · obtain ⟨g, hg⟩ := hf
      rw [alter_of_directory hl hg]
      exact linkFree_set h (ih (linkFree_iff.1 h n _ hg))
    · rw [alter_of_other hl fun g hg => hf ⟨g, hg⟩]
      exact h

end Folder

namespace Tree

/-- No link stands in the tree. -/
def LinkFree (t : Tree) : Prop := t.root.LinkFree

theorem LinkFree.put {t : Tree} (h : t.LinkFree) (l : Location) {e : Entry} (he : e.LinkFree) :
    (t.put l e).LinkFree :=
  Folder.linkFree_alter (fun _ _ hf => Folder.linkFree_set hf he) l h

theorem LinkFree.erase {t : Tree} (h : t.LinkFree) (l : Location) : (t.erase l).LinkFree :=
  Folder.linkFree_alter (fun _ _ hf => Folder.linkFree_without hf) l h

end Tree

theorem linkFree_emptyDirectory : (Entry.directory []).LinkFree :=
  Folder.linkFree_iff.2 fun _ _ he => by cases he

namespace Files

/-- Files without links, in a directory with proper names. -/
structure LinkFree (fs : Files) : Prop where
  tree : fs.tree.LinkFree
  here : ∀ n ∈ fs.here, Proper n

variable {fs fs' : Files} {p q : Path}

/-! ## Nothing to follow -/

theorem LinkFree.linkAt (h : fs.LinkFree) (p : Path) :
    fs.linkAt p = .ok none ∨ fs.linkAt p = .error .embeddedNull := by
  unfold Files.linkAt
  split
  · rename_i place target hs
    exact absurd ((spot_eq_ok.1 hs).2.2.stands rfl) (h.tree place target)
  · exact .inr rfl
  · exact .inl rfl

theorem hasNull_of_linkAt (h : fs.linkAt p ≠ .error .embeddedNull) : hasNull p = false := by
  cases hnull : hasNull p with
  | false => rfl
  | true =>
    refine absurd ?_ h
    unfold linkAt spot
    rw [hnull, if_pos rfl]

theorem LinkFree.linkAt_of_hasNull (h : fs.LinkFree) (hnull : hasNull p = false) :
    fs.linkAt p = .ok none := by
  refine (h.linkAt p).resolve_right fun herror => ?_
  unfold Files.linkAt spot spotOfNames at herror
  rw [hnull, if_neg Bool.false_ne_true] at herror
  by_cases hlong : pathLimit ≤ p.toString.utf8ByteSize
  · rw [if_pos hlong] at herror
    cases herror
  · rw [if_neg hlong] at herror
    rcases hw : fs.tree.walk .entry maxLinks []
        (if p.isAbsolute then p.parts else fs.here ++ p.parts) with
        f | ⟨place, _ | _ | target⟩ | ⟨d, n⟩ <;> rw [hw] at herror <;> cases herror

theorem hasNull_eq_false : hasNull p = false ↔ ∀ n ∈ p.parts, '\x00' ∉ n.toList := by
  unfold hasNull
  rw [List.any_eq_false]
  simp

theorem hasNull_up (h : hasNull p = false) : hasNull p.up = false := by
  rw [hasNull_eq_false] at h ⊢
  have back : ∀ n ∈ (p.child "..").parts, '\x00' ∉ n.toList := by
    intro n hn
    rcases List.mem_append.1 hn with hn | hn
    · exact h n hn
    · rw [List.mem_singleton.1 hn]
      decide
  unfold Path.up
  split
  · split
    · exact h
    · exact back
  · split
    · exact back
    · exact fun n hn => h n (List.dropLast_subset _ hn)

/-- Without links a path is traced by its names alone. -/
theorem LinkFree.traceNames (h : fs.LinkFree) {onLink : Path → String → Met → Except Failure Traced}
    {met : Met} {ns : List String} {t : Traced} (hp : hasNull p = false)
    (ht : fs.traceNames onLink p met ns = .ok t) :
    t.path.anchor = p.anchor ∧ hasNull t.path = false := by
  induction ns generalizing p with
  | nil =>
    cases ht
    exact ⟨rfl, hp⟩
  | cons n ns ih =>
    by_cases hstay : n = "" ∨ n = "."
    · rw [traceNames_stay hstay] at ht
      exact ih hp ht
    by_cases hup : n = ".."
    · subst hup
      rw [traceNames_up] at ht
      have anchor : p.up.anchor = p.anchor := by
        unfold Path.up
        split
        · split <;> rfl
        · split <;> rfl
      rw [← anchor]
      exact ih (hasNull_up hp) ht
    · rw [traceNames_name ⟨fun hn => hstay (.inl hn), fun hn => hstay (.inr hn), hup⟩] at ht
      rcases h.linkAt (p.child n) with hlink | hlink <;> rw [hlink] at ht
      · exact ih (p := p.child n) (hasNull_of_linkAt (by rw [hlink]; nofun)) ht
      · cases ht

/-- Without links a resolved path starts at the root, and its names are proper. -/
theorem LinkFree.locate_root (h : fs.LinkFree) (hq : fs.locate p = .ok q) :
    q.anchor = .root ∧ ∀ n ∈ q.parts, Proper n := by
  obtain ⟨-, names⟩ := locate_components (fun n hn => (h.here n hn).component) hq
  unfold locate at hq
  rcases hhome : fs.expandHome p with f | p' <;> rw [hhome] at hq
  · cases hq
  obtain ⟨⟨t, htrace, rfl⟩, -, -⟩ := resolve_eq_ok.1 hq
  have traced : (t.path.anchor = .here ∨ t.path.anchor = .root) ∧ hasNull t.path = false := by
    rw [trace] at htrace
    split at htrace
    · obtain ⟨anchor, hnull⟩ := h.traceNames (p := ⟨.root, []⟩) rfl htrace
      exact ⟨.inr anchor, hnull⟩
    · obtain ⟨anchor, hnull⟩ := h.traceNames (p := ⟨.here, []⟩) rfl htrace
      exact ⟨.inl anchor, hnull⟩
  obtain ⟨anchored, hnull⟩ := traced
  have absolute : (fs.absolute t.path).anchor = .root ∧ hasNull (fs.absolute t.path) = false := by
    rw [hasNull_eq_false] at hnull ⊢
    unfold Files.absolute Path.join
    rcases anchored with ha | ha <;> rw [ha]
    · refine ⟨rfl, fun n hn => ?_⟩
      rcases List.mem_append.1 hn with hn | hn
      · exact (h.here n hn).noNull
      · exact hnull n hn
    · exact ⟨ha, hnull⟩
  have isAbsolute : (fs.absolute t.path).isAbsolute = true := by
    rw [Path.isAbsolute, absolute.1]
    rfl
  refine ⟨absolute.1, fun n hn => ⟨(names n hn).1, (names n hn).2, ?_⟩⟩
  unfold Path.normalized at hn
  rw [isAbsolute] at hn
  exact hasNull_eq_false.1 absolute.2 n (mem_collapse hn).1

/-- A look-up fails for a character that ends names, or with a fault of the files, which is that of the
walk if it is a loop. -/
theorem stat_error {f : Failure} (h : fs.stat p = .error f) :
    (hasNull p = true ∧ f = .embeddedNull) ∨ ∃ fault, f = .file fault p.toString ∧
      (fault = .tooManyLinks → fs.tree.walk .target maxLinks []
        (if p.isAbsolute then p.parts else fs.here ++ p.parts) = .error fault) := by
  unfold stat spot spotOfNames at h
  by_cases hnull : hasNull p = true
  · rw [if_pos hnull] at h
    cases h
    exact .inl ⟨hnull, rfl⟩
  · rw [if_neg hnull] at h
    right
    by_cases hlong : pathLimit ≤ p.toString.utf8ByteSize
    · rw [if_pos hlong] at h
      cases h
      exact ⟨_, rfl, nofun⟩
    · rw [if_neg hlong] at h
      generalize fs.tree.walk .target maxLinks []
        (if p.isAbsolute then p.parts else fs.here ++ p.parts) = r at h
      rcases r with fault | ⟨_, _⟩ | ⟨_, _⟩ <;> cases h
      · exact ⟨fault, rfl, fun _ => rfl⟩
      · exact ⟨_, rfl, nofun⟩

/-- Without links a look-up never goes round in circles. -/
theorem LinkFree.stat_loopless (h : fs.LinkFree) (p : Path) (name : String) :
    fs.stat p ≠ .error (.file .tooManyLinks name) := by
  have untired : ∀ {k l ns r}, fs.tree.Leads .target k l ns r → r ≠ .error .tooManyLinks := by
    intro k l ns r leads
    induction leads with
    | tired _ link _ => exact absurd link (h.tree _ _)
    | follow _ link _ _ _ => exact absurd link (h.tree _ _)
    | stay _ _ ih => exact ih
    | up _ ih => exact ih
    | down _ _ _ ih => exact ih
    | _ => nofun
  intro looped
  rcases stat_error looped with ⟨-, hf⟩ | ⟨fault, hf, walked⟩
  · cases hf
  · cases hf
    exact untired (fs.tree.leads_walk .target maxLinks _) (walked rfl)

/-- Without links a resolved path stays resolved. -/
theorem LinkFree.settles (h : fs.LinkFree) (h' : fs'.LinkFree) (hq : fs.locate p = .ok q) :
    fs'.locate q = .ok q := by
  obtain ⟨anchor, proper⟩ := h.locate_root hq
  obtain ⟨a, ns⟩ := q
  obtain rfl : a = .root := anchor
  have nulless : hasNull ⟨.root, ns⟩ = false := hasNull_root fun n hn => (proper n hn).noNull
  refine locate_of_unlinked (fun n hn => ⟨(proper n hn).component, (proper n hn).notUp⟩)
    (fun k _ hk => ?_) (h'.stat_loopless _) fun hstat => ?_
  · exact h'.linkAt_of_hasNull (hasNull_root fun n hn => (proper n (hk.subset hn)).noNull)
  · rcases stat_error hstat with ⟨hnull, -⟩ | ⟨fault, hf, -⟩
    · rw [nulless] at hnull
      cases hnull
    · cases hf

/-- Without links, resolving a resolved path changes nothing. -/
theorem LinkFree.resolves (h : fs.LinkFree) (hq : fs.locate p = .ok q) : fs.locate q = .ok q :=
  h.settles h hq

/-! ## No link is made -/

theorem LinkFree.put (h : fs.LinkFree) (l : Location) {e : Entry} (he : e.LinkFree) :
    ({ fs with tree := fs.tree.put l e } : Files).LinkFree :=
  ⟨h.tree.put l he, h.here⟩

theorem LinkFree.erase (h : fs.LinkFree) (l : Location) :
    ({ fs with tree := fs.tree.erase l } : Files).LinkFree :=
  ⟨h.tree.erase l, h.here⟩

/-- Whenever the task ends in a state after one with the property, that has the property too. -/
def Keeps {α : Type} (p : Files → Prop) (x : Task Files α) : Prop :=
  ∀ ⦃fs r fs'⦄, x fs = (r, fs') → p fs → p fs'

theorem Keeps.run {α : Type} {p : Files → Prop} {x : Task Files α} (hx : Keeps p x) (h : p fs) :
    p (x fs).2 :=
  hx (show x fs = ((x fs).1, (x fs).2) from rfl) h

theorem Keeps.bind {α β : Type} {p : Files → Prop} {x : Task Files α} {f : α → Task Files β}
    (hx : Keeps p x) (hf : ∀ a, Keeps p (f a)) : Keeps p (x >>= f) := by
  intro fs r fs' h hp
  rcases Task.bind_eq.1 h with ⟨a, fs₁, h₁, h₂⟩ | ⟨e, h₁, -⟩
  · exact hf a h₂ (hx h₁ hp)
  · exact hx h₁ hp

theorem Keeps.tryCatch {α : Type} {p : Files → Prop} {x : Task Files α} {h : Failure → Task Files α}
    (hx : Keeps p x) (hh : ∀ e, Keeps p (h e)) : Keeps p (tryCatch x h) := by
  intro fs r fs' hr hp
  rcases Task.tryCatch_eq.1 hr with ⟨a, h₁, -⟩ | ⟨e, fs₁, h₁, h₂⟩
  · exact hx h₁ hp
  · exact hh e h₂ (hx h₁ hp)

theorem Keeps.of_same {α : Type} {p : Files → Prop} {x : Task Files α}
    (h : ∀ fs r fs', x fs = (r, fs') → fs' = fs) : Keeps p x :=
  fun fs r fs' hx hp => h fs r fs' hx ▸ hp

theorem keeps_writeBytes (path : Path) (content : Bytes) :
    Keeps LinkFree (writeBytes path content) := by
  intro fs r fs' h hfs
  unfold writeBytes at h
  split at h <;> cases h
  · exact hfs.put _ trivial
  · exact hfs

theorem keeps_makeDirectoryNamed (name : String) : Keeps LinkFree (makeDirectoryNamed name) := by
  intro fs r fs' h hfs
  unfold makeDirectoryNamed at h
  split at h <;> cases h
  · exact hfs.put _ linkFree_emptyDirectory
  · exact hfs
  · exact hfs

theorem keeps_makeDirectoriesUp {make : String → Task Files Unit}
    (hmake : ∀ name, Keeps LinkFree (make name)) (height : Nat) (name : String) :
    Keeps LinkFree (makeDirectoriesUp make height name) := by
  -- a missing parent is made first, by the same step one level up
  induction height generalizing name with
  | zero => exact .of_same fun fs r fs' h => by cases h; rfl
  | succ height ih =>
    rw [makeDirectoriesUp]
    refine .bind (.of_same fun fs r fs' h => by cases h; rfl) fun fs => ?_
    simp only
    split
    · refine .bind (.tryCatch (ih _) fun e => ?_) fun _ => ?_
      · refine .of_same fun fs r fs' h => ?_
        split at h <;> (cases h; rfl)
      · split
        · exact .of_same fun fs r fs' h => by cases h; rfl
        · exact hmake _
    · exact hmake _

theorem keeps_removeNamed (name : String) : Keeps LinkFree (removeNamed name) := by
  intro fs r fs' h hfs
  unfold removeNamed at h
  split at h
  · cases h
    exact hfs
  · split at h <;> cases h
    · exact hfs
    · exact hfs.erase _
  · cases h
    exact hfs
  · cases h
    exact hfs

theorem keeps_makeDirectories (name : String) : Keeps LinkFree (makeDirectories name) :=
  fun fs _ _ h => keeps_makeDirectoriesUp keeps_makeDirectoryNamed fs.machine.missing name h

theorem LinkFree.touched (h : fs.LinkFree) (ht : fs.Touched fs') : fs'.LinkFree := by
  cases ht with
  | stored p content => exact (keeps_writeBytes p content).run h
  | made name => exact (keeps_makeDirectories name).run h
  | deleted name => exact (keeps_removeNamed name).run h

/-- Whatever becomes of files without links has none. -/
theorem LinkFree.evolves {others : Prop} (h : fs.LinkFree) (he : fs.Evolves others fs') :
    fs'.LinkFree := by
  induction he with
  | refl => exact h
  | @tail fs₁ fs₂ _ change ih =>
    cases change with
    | written refused b p _ =>
      rcases hw : b.writeUnder refused p fs₁ with ⟨f | u, fs'⟩
      · rw [Buffer.writeUnder_error hw]
        exact ih
      · obtain ⟨place, replaced⟩ := Buffer.writeUnder_ok hw
        rw [replaced.files]
        exact ih.put _ trivial
    | touched _ ht => exact ih.touched ht

end Files

end JavaStudio
