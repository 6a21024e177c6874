import JavaStudio.Files.Basic
import JavaStudio.Proofs.Files.Tree

/-!
# Where a walk leads

`t.Leads aim k l ns r`: from the directory at the location `l` the names `ns` lead to `r`, through
at most `k` links. The relation has one rule for each kind of step and knows locations only, so that
what a walk does can be shown by induction on it, and compared between two trees. It is what
`Tree.walk` computes (`leads_iff`).

* `Leads.stands`, `Leads.vacant_stands`: a walk ends at what stands in the tree, or at a free name
  of a directory.
* `leads_straight`: the names of a location lead there.
-/

namespace JavaStudio

/-- A name that an entry can have: it is not empty and no dots that mean a directory. -/
structure IsName (n : String) : Prop where
  nonempty : n ≠ ""
  notHere : n ≠ "."
  notUp : n ≠ ".."

/-- The entry of a name is looked up when the names `ns` are still to come. -/
structure Tries (aim : Aim) (n : String) (ns : List String) : Prop where
  isName : IsName n
  allowed : ¬ (aim = .writing ∧ onlySlashes ns = true)
  short : tooLong n = false

/-- A name that an entry can have and a directory can hold. -/
structure Fits (n : String) : Prop where
  isName : IsName n
  short : tooLong n = false

theorem onlySlashes_eq_true {ns : List String} :
    onlySlashes ns = true ↔ ns ≠ [] ∧ ∀ n ∈ ns, n = "" := by
  simp [onlySlashes]

theorem Fits.tries {aim : Aim} {n : String} {ns : List String} (h : Fits n)
    (hns : ∀ m ∈ ns, Fits m) : Tries aim n ns where
  isName := h.isName
  allowed := by
    rintro ⟨-, hslash⟩
    obtain ⟨hne, hall⟩ := onlySlashes_eq_true.1 hslash
    obtain ⟨m, hm⟩ := List.exists_mem_of_ne_nil _ hne
    exact (hns m hm).isName.nonempty (hall m hm)
  short := h.short

theorem Tries.reading (h : Tries aim n ns) (aim' : Aim) (other : aim' ≠ .writing)
    (ms : List String) : Tries aim' n ms :=
  ⟨h.isName, fun slashed => other slashed.1, h.short⟩

/-- A link is followed unless it is the last name and its own entry is wanted. -/
def Followed (aim : Aim) (ns : List String) : Prop := ¬ (ns = [] ∧ aim = .entry)

/-- The directory that the target of a link at a directory starts from. -/
def startOf (l : Location) (target : String) : Location := if startsAtRoot target then [] else l

namespace Trail

/-- The directories of a trail stand in each other. -/
def Stands (root : Folder) : Trail → Prop
  | [] => True
  | (n, f) :: w => Folder.find? n (Trail.folder root w) = some (.directory f) ∧ Stands root w

theorem location_cons (n : String) (f : Folder) (w : Trail) :
    Trail.location ((n, f) :: w) = Trail.location w ++ [n] := by
  simp [Trail.location]

theorem location_drop (w : Trail) : Trail.location (w.drop 1) = (Trail.location w).dropLast := by
  cases w with
  | nil => rfl
  | cons x w =>
    obtain ⟨n, f⟩ := x
    rw [location_cons, List.dropLast_concat]
    rfl

theorem Stands.drop {root : Folder} {w : Trail} (h : w.Stands root) : Stands root (w.drop 1) := by
  cases w with
  | nil => exact h
  | cons x w => exact h.2

end Trail

namespace Tree

variable {t : Tree} {aim : Aim} {k : Nat} {l : Location} {n : String} {ns : List String}
  {r : Except FileFault Spot} {w : Trail}

theorem get?_location (h : w.Stands t.root) :
    t.get? w.location = some (.directory (w.folder t.root)) := by
  induction w with
  | nil => rfl
  | cons x w ih =>
    obtain ⟨n, f⟩ := x
    rw [Trail.location_cons, get?_snoc, ih h.2]
    exact h.1

theorem find?_folder (h : w.Stands t.root) (n : String) :
    (w.folder t.root).find? n = t.get? (w.location ++ [n]) := by
  rw [get?_snoc, get?_location h]
  rfl

/-! ## The relation -/

inductive Leads (t : Tree) (aim : Aim) :
    Nat → Location → List String → Except FileFault Spot → Prop
  | here {k : Nat} {l : Location} {f : Folder} : t.get? l = some (.directory f) →
      Leads t aim k l [] (.ok (.entry l (.directory f)))
  | stay {k : Nat} {l : Location} {n : String} {ns : List String} {r : Except FileFault Spot} :
      n = "" ∨ n = "." → Leads t aim k l ns r → Leads t aim k l (n :: ns) r
  | up {k : Nat} {l : Location} {ns : List String} {r : Except FileFault Spot} :
      Leads t aim k l.dropLast ns r → Leads t aim k l (".." :: ns) r
  | slashed {k : Nat} {l : Location} {n : String} {ns : List String} : IsName n → aim = .writing →
      onlySlashes ns = true → Leads t aim k l (n :: ns) (.error .isDirectory)
  | long {k : Nat} {l : Location} {n : String} {ns : List String} : IsName n →
      ¬ (aim = .writing ∧ onlySlashes ns = true) → tooLong n = true →
      Leads t aim k l (n :: ns) (.error .nameTooLong)
  | vacant {k : Nat} {l : Location} {n : String} : Tries aim n [] → t.get? (l ++ [n]) = none →
      Leads t aim k l [n] (.ok (.vacant l n))
  | missing {k : Nat} {l : Location} {n : String} {ns : List String} : Tries aim n ns →
      t.get? (l ++ [n]) = none → ns ≠ [] → Leads t aim k l (n :: ns) (.error .notFound)
  | down {k : Nat} {l : Location} {n : String} {ns : List String} {f : Folder}
      {r : Except FileFault Spot} : Tries aim n ns → t.get? (l ++ [n]) = some (.directory f) →
      Leads t aim k (l ++ [n]) ns r → Leads t aim k l (n :: ns) r
  | file {k : Nat} {l : Location} {n : String} {content : Bytes} : Tries aim n [] →
      t.get? (l ++ [n]) = some (.file content) →
      Leads t aim k l [n] (.ok (.entry (l ++ [n]) (.file content)))
  | blocked {k : Nat} {l : Location} {n : String} {ns : List String} {content : Bytes} :
      Tries aim n ns → t.get? (l ++ [n]) = some (.file content) → ns ≠ [] →
      Leads t aim k l (n :: ns) (.error .notDirectory)
  | link {k : Nat} {l : Location} {n : String} {target : String} : Tries aim n [] → aim = .entry →
      t.get? (l ++ [n]) = some (.link target) →
      Leads t aim k l [n] (.ok (.entry (l ++ [n]) (.link target)))
  | tired {l : Location} {n : String} {ns : List String} {target : String} : Tries aim n ns →
      t.get? (l ++ [n]) = some (.link target) → Followed aim ns →
      Leads t aim 0 l (n :: ns) (.error .tooManyLinks)
  | follow {k : Nat} {l : Location} {n : String} {ns : List String} {target : String}
      {r : Except FileFault Spot} : Tries aim n ns → t.get? (l ++ [n]) = some (.link target) →
      Followed aim ns → Leads t aim k (startOf l target) (namesOf target ++ ns) r →
      Leads t aim (k + 1) l (n :: ns) r

/-! ## It is the walk -/

/-- What a walk through at most `k` links does at a link. -/
def onward (t : Tree) (aim : Aim) : Nat → Trail → List String → Except FileFault Spot
  | 0 => fun _ _ => .error .tooManyLinks
  | k + 1 => t.walk aim k

theorem walk_eq (t : Tree) (aim : Aim) (k : Nat) :
    t.walk aim k = t.walkTo aim (t.onward aim k) := by
  cases k <;> rfl

theorem leads_walkTo {onLink : Trail → List String → Except FileFault Spot}
    (follow : ∀ {l n ns target w}, Tries aim n ns → t.get? (l ++ [n]) = some (.link target) →
      Followed aim ns → w.Stands t.root → w.location = startOf l target →
      t.Leads aim k l (n :: ns) (onLink w (namesOf target ++ ns)))
    (hw : w.Stands t.root) (ns : List String) :
    t.Leads aim k w.location ns (t.walkTo aim onLink w ns) := by
  induction ns generalizing w with
  | nil => exact .here (get?_location hw)
  | cons n ns ih =>
    rw [walkTo]
    by_cases hstay : n = "" ∨ n = "."
    · rw [if_pos (by simpa using hstay)]
      exact .stay hstay (ih hw)
    rw [if_neg (by simpa using hstay)]
    by_cases hup : n = ".."
    · subst hup
      rw [if_pos rfl]
      refine .up ?_
      rw [← Trail.location_drop]
      exact ih hw.drop
    rw [if_neg hup]
    have isName : IsName n := ⟨fun h => hstay (.inl h), fun h => hstay (.inr h), hup⟩
    by_cases hslash : aim = .writing ∧ onlySlashes ns = true
    · rw [if_pos (by simpa using hslash)]
      exact .slashed isName hslash.1 hslash.2
    rw [if_neg (by simpa using hslash)]
    by_cases hlong : tooLong n = true
    · rw [if_pos hlong]
      exact .long isName hslash hlong
    rw [if_neg hlong, find?_folder hw]
    have tries : Tries aim n ns := ⟨isName, hslash, by simpa using hlong⟩
    rcases hn : t.get? (w.location ++ [n]) with _ | ⟨content | f | target⟩
    · by_cases hns : ns = []
      · subst hns
        exact .vacant tries hn
      · simp only [List.isEmpty_iff, hns, if_false]
        exact .missing tries hn hns
    · by_cases hns : ns = []
      · subst hns
        exact .file tries hn
      · simp only [List.isEmpty_iff, hns, if_false]
        exact .blocked tries hn hns
    · have below : Trail.Stands t.root ((n, f) :: w) := ⟨(find?_folder hw n).trans hn, hw⟩
      refine .down tries hn ?_
      rw [← Trail.location_cons n f w]
      exact ih below
    · by_cases hend : ns = [] ∧ aim = .entry
      · obtain ⟨rfl, rfl⟩ := hend
        exact .link tries rfl hn
      · simp only
        rw [if_neg (by simpa using hend)]
        refine follow tries hn hend ?_ ?_
        · split
          · trivial
          · exact hw
        · unfold startOf
          split <;> rfl

theorem leads_walk_of_stands (k : Nat) (hw : w.Stands t.root) (ns : List String) :
    t.Leads aim k w.location ns (t.walk aim k w ns) := by
  -- on the number of links that may still be followed: the names of a target can be more than those
  -- that it stands for
  induction k generalizing w ns with
  | zero => exact leads_walkTo (fun tries hn followed _ _ => .tired tries hn followed) hw ns
  | succ k ih =>
    refine leads_walkTo (fun {l n ns target w'} tries hn followed hw' hl => ?_) hw ns
    refine .follow tries hn followed ?_
    rw [← hl]
    exact ih hw' _

/-- A walk from the root leads where `walk` says. -/
theorem leads_walk (t : Tree) (aim : Aim) (k : Nat) (ns : List String) :
    t.Leads aim k [] ns (t.walk aim k [] ns) :=
  leads_walk_of_stands (w := []) k trivial ns

theorem walk_stay (h : n = "" ∨ n = ".") : t.walk aim k w (n :: ns) = t.walk aim k w ns := by
  rw [walk_eq, walkTo, if_pos (by simpa using h)]

theorem walk_up : t.walk aim k w (".." :: ns) = t.walk aim k (w.drop 1) ns := by
  rw [walk_eq, walkTo, if_neg (by decide), if_pos rfl]

theorem walk_name (h : IsName n) :
    t.walk aim k w (n :: ns) =
      if aim = .writing && onlySlashes ns then .error .isDirectory
      else if tooLong n then .error .nameTooLong
      else match (w.folder t.root).find? n with
        | none => if ns.isEmpty then .ok (.vacant w.location n) else .error .notFound
        | some (.directory f) => t.walk aim k ((n, f) :: w) ns
        | some (.file content) =>
          if ns.isEmpty then .ok (.entry (w.location ++ [n]) (.file content))
          else .error .notDirectory
        | some (.link target) =>
          if ns.isEmpty && aim = .entry then .ok (.entry (w.location ++ [n]) (.link target))
          else t.onward aim k (if startsAtRoot target then [] else w) (namesOf target ++ ns) := by
  rw [walk_eq, walkTo, if_neg (by simp [h.nonempty, h.notHere])]
  exact if_neg h.notUp

theorem walk_tries (h : Tries aim n ns) (hw : w.Stands t.root) :
    t.walk aim k w (n :: ns) = match t.get? (w.location ++ [n]) with
      | none => if ns.isEmpty then .ok (.vacant w.location n) else .error .notFound
      | some (.directory f) => t.walk aim k ((n, f) :: w) ns
      | some (.file content) =>
        if ns.isEmpty then .ok (.entry (w.location ++ [n]) (.file content))
        else .error .notDirectory
      | some (.link target) =>
        if ns.isEmpty && aim = .entry then .ok (.entry (w.location ++ [n]) (.link target))
        else t.onward aim k (if startsAtRoot target then [] else w) (namesOf target ++ ns) := by
  rw [walk_name h.isName, if_neg (by simpa using h.allowed), if_neg (by simp [h.short]),
    find?_folder hw]

/-- A walk from a trail comes to where its names lead. -/
theorem Leads.walk_of_stands (h : t.Leads aim k l ns r) (hw : w.Stands t.root)
    (hl : w.location = l) : t.walk aim k w ns = r := by
  induction h generalizing w with
  | here hf =>
    subst hl
    rw [walk_eq, walkTo]
    rw [get?_location hw] at hf
    cases hf
    rfl
  | stay hn _ ih => rw [walk_stay hn, ih hw hl]
  | up _ ih => rw [walk_up, ih hw.drop (by rw [Trail.location_drop, hl])]
  | slashed isName haim hslash =>
    rw [walk_name isName, if_pos (by simp [haim, hslash])]
  | long isName hslash hlong =>
    rw [walk_name isName, if_neg (by simpa using hslash), if_pos hlong]
  | vacant tries hn =>
    subst hl
    rw [walk_tries tries hw, hn]
    rfl
  | missing tries hn hns =>
    subst hl
    rw [walk_tries tries hw, hn]
    exact if_neg (by simpa using hns)
  | @down k l n ns f r tries hn _ ih =>
    subst hl
    rw [walk_tries tries hw, hn]
    exact ih ⟨(find?_folder hw n).trans hn, hw⟩ (Trail.location_cons n f w)
  | file tries hn =>
    subst hl
    rw [walk_tries tries hw, hn]
    rfl
  | blocked tries hn hns =>
    subst hl
    rw [walk_tries tries hw, hn]
    exact if_neg (by simpa using hns)
  | link tries haim hn =>
    subst hl
    rw [walk_tries tries hw, hn]
    exact if_pos (by simp [haim])
  | tired tries hn followed =>
    subst hl
    rw [walk_tries tries hw, hn]
    exact if_neg (by simpa [Followed] using followed)
  | @follow k l n ns target r tries hn followed _ ih =>
    subst hl
    rw [walk_tries tries hw, hn]
    refine (if_neg (by simpa [Followed] using followed)).trans ?_
    refine ih ?_ ?_
    · split
      · trivial
      · exact hw
    · unfold startOf
      split <;> rfl

/-- A walk from the root comes to where its names lead. -/
theorem Leads.walk (h : t.Leads aim k [] ns r) : t.walk aim k [] ns = r :=
  h.walk_of_stands (w := []) trivial rfl

theorem leads_iff : t.Leads aim k [] ns r ↔ t.walk aim k [] ns = r :=
  ⟨Leads.walk, fun h => h ▸ leads_walk t aim k ns⟩

/-! ## Where walks end -/

/-- A walk that ends at an entry ends at what stands in the tree. -/
theorem Leads.stands (h : t.Leads aim k l ns r) :
    ∀ {place e}, r = .ok (.entry place e) → t.get? place = some e := by
  induction h with
  | here hf => rintro _ _ ⟨⟩; exact hf
  | stay _ _ ih => exact ih
  | up _ ih => exact ih
  | slashed _ _ _ => nofun
  | long _ _ _ => nofun
  | vacant _ _ => nofun
  | missing _ _ _ => nofun
  | down _ _ _ ih => exact ih
  | file _ hn => rintro _ _ ⟨⟩; exact hn
  | blocked _ _ _ => nofun
  | link _ _ hn => rintro _ _ ⟨⟩; exact hn
  | tired _ _ _ => nofun
  | follow _ _ _ _ ih => exact ih

theorem isDirectory_startOf (h : t.IsDirectory l) (target : String) :
    t.IsDirectory (startOf l target) := by
  unfold startOf
  split
  · exact t.isDirectory_nil
  · exact h

/-- A walk that ends at no entry ends at a free name of a directory. -/
theorem Leads.vacant_stands (h : t.Leads aim k l ns r) (hl : t.IsDirectory l) :
    ∀ {d n}, r = .ok (.vacant d n) →
      t.IsDirectory d ∧ t.get? (d ++ [n]) = none ∧ IsName n ∧ tooLong n = false := by
  induction h with
  | here _ => nofun
  | stay _ _ ih => exact ih hl
  | up _ ih => exact ih (isDirectory_dropLast hl)
  | slashed _ _ _ => nofun
  | long _ _ _ => nofun
  | vacant tries hn => rintro _ _ ⟨⟩; exact ⟨hl, hn, tries.isName, tries.short⟩
  | missing _ _ _ => nofun
  | down _ hn _ ih => exact ih ⟨_, hn⟩
  | file _ _ => nofun
  | blocked _ _ _ => nofun
  | link _ _ _ => nofun
  | tired _ _ _ => nofun
  | follow _ _ _ _ ih => exact ih (isDirectory_startOf hl _)

/-- Where names lead there is their entry, unless that is a link. -/
theorem Leads.entry (h : t.Leads aim k l ns r) :
    ∀ {s}, r = .ok s → t.Leads .entry k l ns (.ok s) ∨
      ∃ place target, t.Leads .entry k l ns (.ok (.entry place (.link target))) := by
  have tries : ∀ {n ns}, Tries aim n ns → Tries .entry n ns := fun tries =>
    tries.reading .entry nofun _
  induction h with
  | here hf => rintro s ⟨⟩; exact .inl (.here hf)
  | stay hn _ ih =>
    intro s hr
    exact (ih hr).imp (.stay hn) fun ⟨place, target, h⟩ => ⟨place, target, .stay hn h⟩
  | up _ ih =>
    intro s hr
    exact (ih hr).imp .up fun ⟨place, target, h⟩ => ⟨place, target, .up h⟩
  | slashed _ _ _ => nofun
  | long _ _ _ => nofun
  | vacant hn free => rintro s ⟨⟩; exact .inl (.vacant (tries hn) free)
  | missing _ _ _ => nofun
  | down hn hf _ ih =>
    intro s hr
    exact (ih hr).imp (.down (tries hn) hf) fun ⟨place, target, h⟩ =>
      ⟨place, target, .down (tries hn) hf h⟩
  | file hn hf => rintro s ⟨⟩; exact .inl (.file (tries hn) hf)
  | blocked _ _ _ => nofun
  | link hn _ hlink => rintro s ⟨⟩; exact .inl (.link (tries hn) rfl hlink)
  | tired _ _ _ => nofun
  | @follow k l n ns target r hn hlink _ _ ih =>
    intro s hr
    by_cases last : ns = []
    · subst last
      exact .inr ⟨_, target, .link (tries hn) rfl hlink⟩
    · have followed : Followed .entry ns := fun hend => last hend.1
      exact (ih hr).imp (.follow (tries hn) hlink followed) fun ⟨place, target, h⟩ =>
        ⟨place, target, .follow (tries hn) hlink followed h⟩

theorem getLast?_cons_of_ne_nil {ns : List String} (h : ns ≠ []) (n : String) :
    (n :: ns).getLast? = ns.getLast? := by
  cases ns with
  | nil => exact absurd rfl h
  | cons m ns => rw [List.getLast?_cons_cons]

theorem Leads.ne_nil_of_file {place : Location} {content : Bytes}
    (h : t.Leads aim k l ns (.ok (.entry place (.file content)))) : ns ≠ [] := by
  rintro rfl
  cases h

/-- The file that a path names itself has the last name of the path. -/
theorem Leads.getLast? (h : t.Leads .entry k l ns r) :
    ∀ {place content}, r = .ok (.entry place (.file content)) → place.getLast? = ns.getLast? := by
  induction h with
  | here _ => nofun
  | stay _ rest ih =>
    rintro place content rfl
    rw [getLast?_cons_of_ne_nil rest.ne_nil_of_file, ih rfl]
  | up rest ih =>
    rintro place content rfl
    rw [getLast?_cons_of_ne_nil rest.ne_nil_of_file, ih rfl]
  | slashed _ _ _ => nofun
  | long _ _ _ => nofun
  | vacant _ _ => nofun
  | missing _ _ _ => nofun
  | down _ _ rest ih =>
    rintro place content rfl
    rw [getLast?_cons_of_ne_nil rest.ne_nil_of_file, ih rfl]
  | file _ _ =>
    rintro place content ⟨⟩
    rw [List.getLast?_concat, List.getLast?_singleton]
  | blocked _ _ _ => nofun
  | link _ _ _ => nofun
  | tired _ _ _ => nofun
  | follow _ _ followed _ ih =>
    rintro place content rfl
    have more := fun h => followed ⟨h, rfl⟩
    rw [getLast?_cons_of_ne_nil more, ih rfl, List.getLast?_append,
      List.getLast?_eq_some_getLast more,
      Option.some_or]

/-- The names of a location lead there, unless a link stands there that is to be followed. -/
theorem leads_straight {e : Entry} (hl : t.IsDirectory l) (hns : ∀ n ∈ ns, Fits n)
    (he : t.get? (l ++ ns) = some e) (unfollowed : aim = .entry ∨ ∀ target, e ≠ .link target) :
    t.Leads aim k l ns (.ok (.entry (l ++ ns) e)) := by
  induction ns generalizing l with
  | nil =>
    obtain ⟨f, hf⟩ := hl
    rw [List.append_nil] at he ⊢
    rw [hf] at he
    cases he
    exact .here hf
  | cons n ns ih =>
    have rest : ∀ m ∈ ns, Fits m := fun m hm => hns m (List.mem_cons_of_mem n hm)
    have tries : Tries aim n ns := (hns n List.mem_cons_self).tries rest
    rw [List.append_cons] at he ⊢
    by_cases hend : ns = []
    · subst hend
      rw [List.append_nil] at he ⊢
      cases e with
      | file content => exact .file tries he
      | directory f => exact .down tries he (.here he)
      | link target =>
        rcases unfollowed with haim | hlink
        · exact .link tries haim he
        · exact absurd rfl (hlink target)
    · obtain ⟨f, hf⟩ := isDirectory_of_append hend he
      exact .down tries hf (ih ⟨f, hf⟩ rest he)

/-- The names of a free place lead there. -/
theorem leads_straight_vacant (hl : t.IsDirectory l) (hns : ∀ m ∈ ns, Fits m) (hn : Fits n)
    (hd : t.IsDirectory (l ++ ns)) (hfree : t.get? (l ++ ns ++ [n]) = none) :
    t.Leads aim k l (ns ++ [n]) (.ok (.vacant (l ++ ns) n)) := by
  induction ns generalizing l with
  | nil =>
    rw [List.append_nil] at hfree ⊢
    have tries : Tries aim n [] := hn.tries nofun
    exact .vacant tries hfree
  | cons m ns ih =>
    have rest : ∀ m ∈ ns, Fits m := fun m' hm => hns m' (List.mem_cons_of_mem m hm)
    have further : ∀ m ∈ ns ++ [n], Fits m := fun m' hm => by
      rcases List.mem_append.1 hm with hm | hm
      · exact rest m' hm
      · rw [List.mem_singleton.1 hm]
        exact hn
    rw [List.append_cons l m ns] at hd hfree ⊢
    have below : t.IsDirectory (l ++ [m]) := by
      by_cases hend : ns = []
      · rwa [hend, List.append_nil] at hd
      · exact isDirectory_of_append hend hd.choose_spec
    have tries : Tries aim m (ns ++ [n]) := (hns m List.mem_cons_self).tries further
    exact .down tries below.choose_spec (ih below rest hd hfree)

/-- Where no link is followed, names of entries lead along themselves. -/
theorem Leads.along (h : t.Leads aim k l ns r) (hns : ∀ n ∈ ns, IsName n)
    (unlinked : ∀ m, m <+: ns → (aim = .entry → m ≠ ns) →
      ∀ target, t.get? (l ++ m) ≠ some (.link target)) :
    ∀ s, r = .ok s → s.location = l ++ ns := by
  induction h with
  | here _ => rintro s ⟨⟩; rw [List.append_nil]; rfl
  | stay hn _ _ =>
    have name := hns _ List.mem_cons_self
    exact absurd hn (not_or.2 ⟨name.nonempty, name.notHere⟩)
  | up _ _ => exact absurd rfl (hns _ List.mem_cons_self).notUp
  | slashed _ _ _ => nofun
  | long _ _ _ => nofun
  | vacant _ _ => rintro s ⟨⟩; rfl
  | missing _ _ _ => nofun
  | @down k l n ns f r _ _ _ ih =>
    intro s hr
    have deeper := ih (fun m hm => hns m (List.mem_cons_of_mem _ hm))
      (fun m hm hentry target => ?_) s hr
    · rw [deeper, List.append_assoc, List.singleton_append]
    · rw [List.append_assoc, List.singleton_append]
      refine unlinked (n :: m) (List.cons_prefix_cons.2 ⟨rfl, hm⟩) (fun haim hend => ?_) target
      exact hentry haim (List.cons.inj hend).2
  | file _ _ => rintro s ⟨⟩; rfl
  | blocked _ _ _ => nofun
  | link _ _ _ => rintro s ⟨⟩; rfl
  | tired _ _ _ => nofun
  | @follow k l n ns target r _ hn followed _ _ =>
    refine absurd hn (unlinked [n] (List.cons_prefix_cons.2 ⟨rfl, List.nil_prefix⟩) ?_ target)
    exact fun haim hend => followed ⟨(List.cons.inj hend).2.symm, haim⟩

/-- The names of the location at which a walk ends are names that were walked. -/
theorem Leads.names {Q : String → Prop}
    (targets : ∀ {place target}, t.get? place = some (.link target) → ∀ n ∈ namesOf target, Q n)
    (h : t.Leads aim k l ns r) (hl : ∀ n ∈ l, Q n ∧ Fits n) (hns : ∀ n ∈ ns, Q n) :
    ∀ s, r = .ok s → ∀ n ∈ s.location, Q n ∧ Fits n := by
  have extend : ∀ {aim} {l : Location} {n : String} {ns : List String}, Tries aim n ns →
      (∀ m ∈ l, Q m ∧ Fits m) → (∀ m ∈ n :: ns, Q m) → ∀ m ∈ l ++ [n], Q m ∧ Fits m := by
    intro aim l n ns tries hl hns m hm
    rcases List.mem_append.1 hm with hm | hm
    · exact hl m hm
    · rw [List.mem_singleton.1 hm]
      exact ⟨hns n List.mem_cons_self, tries.isName, tries.short⟩
  induction h with
  | here _ => rintro s ⟨⟩; exact hl
  | stay _ _ ih => exact ih hl fun n hn => hns n (List.mem_cons_of_mem _ hn)
  | up _ ih =>
    exact ih (fun n hn => hl n (List.dropLast_subset _ hn)) fun n hn =>
      hns n (List.mem_cons_of_mem _ hn)
  | slashed _ _ _ => nofun
  | long _ _ _ => nofun
  | vacant tries _ => rintro s ⟨⟩; exact extend tries hl hns
  | missing _ _ _ => nofun
  | down tries _ _ ih =>
    exact ih (extend tries hl hns) fun n hn => hns n (List.mem_cons_of_mem _ hn)
  | file tries _ => rintro s ⟨⟩; exact extend tries hl hns
  | blocked _ _ _ => nofun
  | link tries _ _ => rintro s ⟨⟩; exact extend tries hl hns
  | tired _ _ _ => nofun
  | follow _ hn _ _ ih =>
    refine ih (fun m hm => ?_) fun m hm => ?_
    · unfold startOf at hm
      split at hm
      · cases hm
      · exact hl m hm
    · rcases List.mem_append.1 hm with hm | hm
      · exact targets hn m hm
      · exact hns m (List.mem_cons_of_mem _ hm)

/-! ## Past files and through links -/

section

variable {d : Location} {target : String}

theorem stands_below (hw : w.Stands t.root) {f : Folder}
    (hn : t.get? (w.location ++ [n]) = some (.directory f)) : Trail.Stands t.root ((n, f) :: w) :=
  ⟨(find?_folder hw n).trans hn, hw⟩

theorem stands_startOf (hw : w.Stands t.root) (target : String) :
    Trail.Stands t.root (if startsAtRoot target then [] else w) := by
  split
  · trivial
  · exact hw

theorem location_startOf (w : Trail) (target : String) :
    Trail.location (if startsAtRoot target then [] else w) = startOf w.location target := by
  unfold startOf
  split <;> rfl

/-- No name leads on from a file. -/
theorem Leads.walk_past_file (h : t.Leads .target k l ns r) :
    ∀ {place content}, r = .ok (.entry place (.file content)) → ∀ {w : Trail} {ms : List String},
      w.Stands t.root → w.location = l → ms ≠ [] → ∀ k' s, t.walk .entry k' w (ns ++ ms) ≠ .ok s := by
  induction h with
  | here _ => nofun
  | stay hn _ ih =>
    intro _ _ hr w ms hw hl more k' s
    rw [List.cons_append, walk_stay hn]
    exact ih hr hw hl more k' s
  | up _ ih =>
    intro _ _ hr w ms hw hl more k' s
    rw [List.cons_append, walk_up]
    exact ih hr hw.drop (by rw [Trail.location_drop, hl]) more k' s
  | slashed _ _ _ => nofun
  | long _ _ _ => nofun
  | vacant _ _ => nofun
  | missing _ _ _ => nofun
  | down tries hn _ ih =>
    intro _ _ hr w ms hw hl more k' s
    subst hl
    rw [List.cons_append, walk_tries (tries.reading .entry nofun _) hw, hn]
    exact ih hr (stands_below hw hn) (Trail.location_cons _ _ w) more k' s
  | file tries hn =>
    intro _ _ _ w ms hw hl more k' s
    subst hl
    rw [List.cons_append, walk_tries (tries.reading .entry nofun _) hw, hn, List.nil_append]
    simp [more]
  | blocked _ _ _ => nofun
  | link _ haim _ => nomatch haim
  | tired _ _ _ => nofun
  | @follow _ _ n ns target _ tries hn _ _ ih =>
    intro _ _ hr w ms hw hl more k' s
    subst hl
    rw [List.cons_append, walk_tries (tries.reading .entry nofun _) hw, hn]
    simp only
    rw [if_neg (by simp [more])]
    cases k' with
    | zero =>
      intro run
      cases run
    | succ k' =>
      have past := ih hr (stands_startOf hw target) (location_startOf w target) more k' s
      rw [List.append_assoc] at past
      exact past

/-- Where names end at a link, following them to their end is following the link. -/
theorem Leads.walk_through (h : t.Leads .entry k l ns r) :
    r = .ok (.entry (d ++ [n]) (.link target)) → ∀ {w : Trail}, w.Stands t.root → w.location = l →
      ∀ {k₁ s}, t.walk .target k₁ w ns = .ok s → ∃ k' w', w'.Stands t.root ∧
        w'.location = startOf d target ∧ t.walk .target k' w' (namesOf target) = .ok s := by
  induction h with
  | here _ => nofun
  | stay hn _ ih =>
    intro hr w hw hl k₁ s run
    rw [walk_stay hn] at run
    exact ih hr hw hl run
  | up _ ih =>
    intro hr w hw hl k₁ s run
    rw [walk_up] at run
    exact ih hr hw.drop (by rw [Trail.location_drop, hl]) run
  | slashed _ _ _ => nofun
  | long _ _ _ => nofun
  | vacant _ _ => nofun
  | missing _ _ _ => nofun
  | down tries hn _ ih =>
    intro hr w hw hl k₁ s run
    subst hl
    rw [walk_tries (tries.reading .target nofun _) hw, hn] at run
    exact ih hr (stands_below hw hn) (Trail.location_cons _ _ w) run
  | file _ _ => exact fun hr => nomatch (Spot.entry.inj (Except.ok.inj hr)).2
  | blocked _ _ _ => nofun
  | link tries _ hn =>
    intro hr w hw hl k₁ s run
    subst hl
    obtain ⟨place, entry⟩ := Spot.entry.inj (Except.ok.inj hr)
    obtain ⟨rfl, -⟩ := List.append_inj' place rfl
    obtain rfl := Entry.link.inj entry
    rw [walk_tries (tries.reading .target nofun _) hw, hn] at run
    cases k₁ with
    | zero => cases run
    | succ k₁ =>
      refine ⟨k₁, _, stands_startOf hw _, location_startOf w _, ?_⟩
      simpa [onward] using run
  | tired _ _ _ => nofun
  | @follow _ _ n ns target _ tries hn _ _ ih =>
    intro hr w hw hl k₁ s run
    subst hl
    rw [walk_tries (tries.reading .target nofun _) hw, hn] at run
    cases k₁ with
    | zero => simp [onward] at run
    | succ k₁ =>
      have next : t.walk .target k₁ (if startsAtRoot target then [] else w)
          (namesOf target ++ ns) = .ok s := by
        simpa [onward] using run
      exact ih hr (stands_startOf hw target) (location_startOf w target) next

end

end Tree

end JavaStudio
