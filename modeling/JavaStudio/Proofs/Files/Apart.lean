import JavaStudio.Proofs.Files.Leads

/-!
# Trees that differ in one file

`t.Apart t' place`: the trees are alike but for the place, where each has a file or nothing. A walk
that does not end at the place ends at the same location in both (`Leads.elsewhere`); one that ends
there ends at the file that is put there (`Leads.fill`).
-/

namespace JavaStudio.Tree

/-- The trees are alike but for what stands at a place, which is a file or nothing. -/
structure Apart (t t' : Tree) (place : Location) : Prop where
  elsewhere : ∀ x, x ≠ place → (t.get? x).map Entry.bare = (t'.get? x).map Entry.bare
  quiet : ∀ e, t.get? place = some e → ∃ content, e = .file content
  quiet' : ∀ e, t'.get? place = some e → ∃ content, e = .file content

variable {t t' : Tree} {place x : Location}

namespace Apart

theorem symm (h : t.Apart t' place) : t'.Apart t place where
  elsewhere x hx := (h.elsewhere x hx).symm
  quiet := h.quiet'
  quiet' := h.quiet

theorem trans {t'' : Tree} (h : t.Apart t' place) (h' : t'.Apart t'' place) :
    t.Apart t'' place where
  elsewhere x hx := (h.elsewhere x hx).trans (h'.elsewhere x hx)
  quiet := h.quiet
  quiet' := h'.quiet'

end Apart

/-- No directory stands at the place. -/
def Solid (t : Tree) (place : Location) : Prop := ∀ f, t.get? place ≠ some (.directory f)

theorem Solid.below {k : Location} (h : t.Solid place) (hk : k ≠ []) : t.get? (place ++ k) = none := by
  rcases hg : t.get? (place ++ k) with _ | e
  · rfl
  · obtain ⟨f, hf⟩ := isDirectory_of_append hk hg
    exact absurd hf (h f)

/-- A place where no directory stands is the last of any way. -/
theorem Solid.eq_of_isPrefix (h : t.Solid place) (below : place <+: x) {e : Entry}
    (hx : t.get? x = some e) : x = place := by
  obtain ⟨k, rfl⟩ := below
  cases k with
  | nil => exact List.append_nil _
  | cons n k =>
    rw [h.below (List.cons_ne_nil n k)] at hx
    cases hx

theorem solid_of_quiet (quiet : ∀ e, t.get? place = some e → ∃ content, e = .file content) :
    t.Solid place := by
  intro f hf
  obtain ⟨_, hfile⟩ := quiet _ hf
  cases hfile

theorem ne_of_link (quiet : ∀ e, t.get? place = some e → ∃ content, e = .file content)
    {target : String} (linked : t.get? x = some (.link target)) : x ≠ place := by
  rintro rfl
  obtain ⟨_, hfile⟩ := quiet _ linked
  cases hfile

theorem isDirectory_of_bare (same : (t.get? x).map Entry.bare = (t'.get? x).map Entry.bare)
    (h : t.IsDirectory x) : t'.IsDirectory x := by
  obtain ⟨f, hf⟩ := h
  rw [hf] at same
  rcases hx : t'.get? x with _ | ⟨_ | f' | _⟩ <;> rw [hx] at same
  · cases same
  · cases same
  · exact ⟨f', hx⟩
  · cases same

theorem get?_eq_file_of_bare (same : (t.get? x).map Entry.bare = (t'.get? x).map Entry.bare)
    {content : Bytes} (hx : t.get? x = some (.file content)) :
    t'.get? x = some (.file content) := by
  rw [hx] at same
  rcases hx' : t'.get? x with _ | e <;> rw [hx'] at same
  · cases same
  · rw [Entry.bare_eq_file.1 (Option.some.inj same).symm]

theorem quiet_of_bare (same : (t.get? x).map Entry.bare = (t'.get? x).map Entry.bare)
    (quiet : ∀ e, t.get? x = some e → ∃ content, e = .file content) :
    ∀ e, t'.get? x = some e → ∃ content, e = .file content := by
  intro e' he'
  rw [he'] at same
  rcases hx : t.get? x with _ | e <;> rw [hx] at same
  · cases same
  · obtain ⟨content, rfl⟩ := quiet e hx
    exact ⟨content, Entry.bare_eq_file.1 (Option.some.inj same).symm⟩

/-- Trees that are alike but at a place and below it are alike below it if no directory stands there. -/
theorem elsewhere_of_outside
    (outside : ∀ x, ¬ place <+: x → (t.get? x).map Entry.bare = (t'.get? x).map Entry.bare)
    (solid : t.Solid place) (solid' : t'.Solid place) :
    ∀ x, x ≠ place → (t.get? x).map Entry.bare = (t'.get? x).map Entry.bare := by
  intro x hx
  by_cases below : place <+: x
  · obtain ⟨k, rfl⟩ := below
    have hk : k ≠ [] := by
      rintro rfl
      exact hx (List.append_nil _)
    rw [solid.below hk, solid'.below hk]
  · exact outside x below

theorem quiet_of_put {d : Location} {n : String} (hd : t.IsDirectory d) (content : Bytes) :
    ∀ e, (t.put (d ++ [n]) (.file content)).get? (d ++ [n]) = some e →
      ∃ content, e = .file content := by
  intro e he
  rw [get?_put_same hd.choose_spec, Option.some.injEq] at he
  exact ⟨content, he.symm⟩

theorem quiet_of_erase {d : Location} {n : String} (hd : t.IsDirectory d) :
    ∀ e, (t.erase (d ++ [n])).get? (d ++ [n]) = some e → ∃ content, e = .file content := by
  intro e he
  rw [get?_erase_same hd.choose_spec] at he
  cases he

namespace Apart

variable {d : Location} {n : String}

/-- A file is put where there was a file or nothing. -/
theorem put (hd : t.IsDirectory d)
    (quiet : ∀ e, t.get? (d ++ [n]) = some e → ∃ content, e = .file content) (content : Bytes) :
    t.Apart (t.put (d ++ [n]) (.file content)) (d ++ [n]) where
  elsewhere := elsewhere_of_outside (fun _ hx => (get?_put_other hx t _).symm) (solid_of_quiet quiet)
    (solid_of_quiet (quiet_of_put hd content))
  quiet := quiet
  quiet' := quiet_of_put hd content

/-- A file is taken away. -/
theorem erase (hd : t.IsDirectory d)
    (quiet : ∀ e, t.get? (d ++ [n]) = some e → ∃ content, e = .file content) :
    t.Apart (t.erase (d ++ [n])) (d ++ [n]) where
  elsewhere := elsewhere_of_outside (fun _ hx => (get?_erase_other hx t).symm) (solid_of_quiet quiet)
    (solid_of_quiet (quiet_of_erase hd))
  quiet := quiet
  quiet' := quiet_of_erase hd

/-- Something is taken away, or a file is put there instead. -/
theorem erase_put (hd : t.IsDirectory d) (content : Bytes) :
    (t.erase (d ++ [n])).Apart (t.put (d ++ [n]) (.file content)) (d ++ [n]) where
  elsewhere := elsewhere_of_outside
    (fun _ hx => (get?_erase_other hx t).trans (get?_put_other hx t _).symm)
    (solid_of_quiet (quiet_of_erase hd)) (solid_of_quiet (quiet_of_put hd content))
  quiet := quiet_of_erase hd
  quiet' := quiet_of_put hd content

theorem directory (h : t.Apart t' place) {f : Folder} (hx : t.get? x = some (.directory f)) :
    ∃ f', t'.get? x = some (.directory f') := by
  have hne : x ≠ place := by
    rintro rfl
    exact solid_of_quiet h.quiet f hx
  exact isDirectory_of_bare (h.elsewhere x hne) ⟨f, hx⟩

theorem link (h : t.Apart t' place) {target : String} (hx : t.get? x = some (.link target)) :
    t'.get? x = some (.link target) := by
  have same := h.elsewhere x (ne_of_link h.quiet hx)
  rw [hx] at same
  rcases hx' : t'.get? x with _ | e <;> rw [hx'] at same
  · cases same
  · rw [Entry.bare_eq_link.1 (Option.some.inj same).symm]

theorem file (h : t.Apart t' place) {content : Bytes} (hne : x ≠ place)
    (hx : t.get? x = some (.file content)) : t'.get? x = some (.file content) :=
  get?_eq_file_of_bare (h.elsewhere x hne) hx

theorem absent (h : t.Apart t' place) (hne : x ≠ place) (hx : t.get? x = none) :
    t'.get? x = none := by
  have same := h.elsewhere x hne
  rw [hx] at same
  exact Option.map_eq_none_iff.1 same.symm

theorem solid (h : t.Apart t' place) (hx : t.Solid x) : t'.Solid x := fun _ hf =>
  have ⟨_, hf'⟩ := h.symm.directory hf
  hx _ hf'

end Apart

/-! ## The same change to both trees -/

section

variable {d l : Location} {n : String} {e : Entry}

/-- Nothing stands at a place that was cleared, nor below it. -/
theorem get?_erase_below (hd : t.IsDirectory d) (below : d ++ [n] <+: x) :
    (t.erase (d ++ [n])).get? x = none := by
  obtain ⟨k, rfl⟩ := below
  cases k with
  | nil =>
    rw [List.append_nil]
    exact get?_erase_same hd.choose_spec
  | cons m k => exact (solid_of_quiet (quiet_of_erase hd)).below (List.cons_ne_nil m k)

/-- The directories that a cleared place does not lie above are still there. -/
theorem isDirectory_erase (solid : t.Solid (d ++ [n])) (hl : t.IsDirectory l) :
    (t.erase (d ++ [n])).IsDirectory l := by
  refine isDirectory_of_bare (get?_erase_other (fun below => ?_) t).symm hl
  obtain ⟨f, hf⟩ := hl
  exact solid f (solid.eq_of_isPrefix below hf ▸ hf)

/-- What stands at a place after another one was cleared stood there before. -/
theorem quiet_erase (hd : t.IsDirectory d)
    (quiet : ∀ e, t.get? place = some e → ∃ content, e = .file content) :
    ∀ e, (t.erase (d ++ [n])).get? place = some e → ∃ content, e = .file content := by
  intro e he
  by_cases below : d ++ [n] <+: place
  · rw [get?_erase_below hd below] at he
    cases he
  · exact quiet_of_bare (get?_erase_other below t).symm quiet e he

theorem Apart.isDirectory (h : t.Apart t' place) (hl : t.IsDirectory l) : t'.IsDirectory l :=
  h.directory hl.choose_spec

/-- The same place is cleared in both trees. -/
theorem Apart.erased (h : t.Apart t' place) (hd : t.IsDirectory d) :
    (t.erase (d ++ [n])).Apart (t'.erase (d ++ [n])) place where
  elsewhere x hx := by
    by_cases below : d ++ [n] <+: x
    · rw [get?_erase_below hd below, get?_erase_below (h.isDirectory hd) below]
    · rw [get?_erase_other below, get?_erase_other below, h.elsewhere x hx]
  quiet := quiet_erase hd h.quiet
  quiet' := quiet_erase (h.isDirectory hd) h.quiet'

end

/-! ## Walks -/

variable {k : Nat} {l : Location} {ns : List String} {r : Except FileFault Spot}

/-- A walk to the place ends at the file that stands there in the other tree, whatever it is for;
one that followed a link at its end is for what the link leads to. -/
theorem Leads.fill {aim₀ : Aim} (h : t.Leads aim₀ k l ns r) (apart : t.Apart t' place)
    {content : Bytes} (filled : t'.get? place = some (.file content)) (aim : Aim)
    (aims : aim₀ = .entry ∨ aim = .target) :
    ∀ {s}, r = .ok s → s.location = place →
      (aim = .writing → ∀ m, ns.getLast? = some m → m ≠ "") →
      t'.Leads aim k l ns (.ok (.entry place (.file content))) := by
  have widen : ∀ {n : String} {ns : List String}, Tries aim₀ n ns →
      (aim = .writing → ∀ m, (n :: ns).getLast? = some m → m ≠ "") → Tries aim n ns := by
    refine fun {n ns} tries last => ⟨tries.isName, ?_, tries.short⟩
    rintro ⟨haim, hslash⟩
    obtain ⟨hne, hall⟩ := onlySlashes_eq_true.1 hslash
    have hlast := List.getLast?_eq_some_getLast hne
    rw [← getLast?_cons_of_ne_nil hne n] at hlast
    exact last haim _ hlast (hall _ (List.getLast_mem hne))
  have shorten : ∀ {n : String} {ns : List String},
      (aim = .writing → ∀ m, (n :: ns).getLast? = some m → m ≠ "") →
      aim = .writing → ∀ m, ns.getLast? = some m → m ≠ "" := by
    intro n ns last haim m hm
    have hne : ns ≠ [] := by rintro rfl; cases hm
    exact last haim m (by rw [getLast?_cons_of_ne_nil hne, hm])
  induction h with
  | here hf =>
    rintro s ⟨⟩ rfl _
    exact absurd hf (solid_of_quiet apart.quiet _)
  | stay hn _ ih => exact fun hr hplace last => .stay hn (ih hr hplace (shorten last))
  | up _ ih => exact fun hr hplace last => .up (ih hr hplace (shorten last))
  | slashed _ _ _ => nofun
  | long _ _ _ => nofun
  | vacant tries _ =>
    rintro s ⟨⟩ rfl last
    exact .file (widen tries last) filled
  | missing _ _ _ => nofun
  | down tries hn _ ih =>
    intro s hr hplace last
    obtain ⟨f', hf'⟩ := apart.directory hn
    exact .down (widen tries last) hf' (ih hr hplace (shorten last))
  | file tries _ =>
    rintro s ⟨⟩ rfl last
    exact .file (widen tries last) filled
  | blocked _ _ _ => nofun
  | link _ _ hn =>
    rintro s ⟨⟩ rfl _
    exact absurd rfl (ne_of_link apart.quiet hn)
  | tired _ _ _ => nofun
  | @follow k l n ns target r tries hn followed _ ih =>
    intro s hr hplace last
    refine .follow (widen tries last) (apart.link hn) ?_ (ih hr hplace fun haim m hm => ?_)
    · rintro ⟨hns, rfl⟩
      exact aims.elim (fun haim => followed ⟨hns, haim⟩) nofun
    have more : ns ≠ [] := by
      rintro rfl
      exact aims.elim (fun haim₀ => followed ⟨rfl, haim₀⟩) fun htarget => by cases haim ▸ htarget
    rw [List.getLast?_append, List.getLast?_eq_some_getLast more, Option.some_or] at hm
    exact shorten last haim m (by rw [List.getLast?_eq_some_getLast more, hm])

/-- A walk that does not end at the place ends at the same location in both trees. -/
theorem Leads.elsewhere {aim : Aim} (h : t.Leads aim k l ns r) (apart : t.Apart t' place) :
    ∀ {s}, r = .ok s → s.location ≠ place →
      ∃ s', t'.Leads aim k l ns (.ok s') ∧ s'.location = s.location := by
  induction h with
  | here hf =>
    rintro s ⟨⟩ _
    obtain ⟨f', hf'⟩ := apart.directory hf
    exact ⟨_, .here hf', rfl⟩
  | stay hn _ ih =>
    intro s hr hs
    obtain ⟨s', h', hs'⟩ := ih hr hs
    exact ⟨s', .stay hn h', hs'⟩
  | up _ ih =>
    intro s hr hs
    obtain ⟨s', h', hs'⟩ := ih hr hs
    exact ⟨s', .up h', hs'⟩
  | slashed _ _ _ => nofun
  | long _ _ _ => nofun
  | vacant tries hn =>
    rintro s ⟨⟩ hs
    exact ⟨_, .vacant tries (apart.absent hs hn), rfl⟩
  | missing _ _ _ => nofun
  | down tries hn _ ih =>
    intro s hr hs
    obtain ⟨f', hf'⟩ := apart.directory hn
    obtain ⟨s', h', hs'⟩ := ih hr hs
    exact ⟨s', .down tries hf' h', hs'⟩
  | file tries hn =>
    rintro s ⟨⟩ hs
    exact ⟨_, .file tries (apart.file hs hn), rfl⟩
  | blocked _ _ _ => nofun
  | link tries haim hn =>
    rintro s ⟨⟩ _
    exact ⟨_, .link tries haim (apart.link hn), rfl⟩
  | tired _ _ _ => nofun
  | follow tries hn followed _ ih =>
    intro s hr hs
    obtain ⟨s', h', hs'⟩ := ih hr hs
    exact ⟨s', .follow tries (apart.link hn) followed h', hs'⟩

/-- Names that end at a link lead to a free name once it is cleared, unless they lead through it. -/
theorem Leads.cleared {d : Location} {n target : String} (h : t.Leads .entry k l ns r) (hd : t.IsDirectory d)
    (linked : t.get? (d ++ [n]) = some (.link target)) :
    r = .ok (.entry (d ++ [n]) (.link target)) →
      (t.erase (d ++ [n])).Leads .entry k l ns (.ok (.vacant d n)) ∨
        ∃ k' ms, ms ≠ [] ∧ t.Leads .entry k' (startOf d target) (namesOf target ++ ms) r := by
  have solid : t.Solid (d ++ [n]) := fun f hf => nomatch linked.symm.trans hf
  induction h with
  | here _ => nofun
  | stay hn _ ih => exact fun hr => (ih hr).imp_left (.stay hn)
  | up _ ih => exact fun hr => (ih hr).imp_left .up
  | slashed _ _ _ => nofun
  | long _ _ _ => nofun
  | vacant _ _ => nofun
  | missing _ _ _ => nofun
  | down tries hn _ ih =>
    intro hr
    obtain ⟨f, hf⟩ := isDirectory_erase solid ⟨_, hn⟩
    exact (ih hr).imp_left (.down tries hf)
  | file _ _ => exact fun hr => nomatch (Spot.entry.inj (Except.ok.inj hr)).2
  | blocked _ _ _ => nofun
  | link tries _ _ =>
    intro hr
    obtain ⟨place, -⟩ := Spot.entry.inj (Except.ok.inj hr)
    obtain ⟨rfl, name⟩ := List.append_inj' place rfl
    obtain rfl := List.singleton_inj.1 name
    exact .inl (.vacant tries (get?_erase_same hd.choose_spec))
  | tired _ _ _ => nofun
  | @follow k l m ns target' _ tries hn followed rest ih =>
    intro hr
    by_cases same : l ++ [m] = d ++ [n]
    · obtain ⟨rfl, name⟩ := List.append_inj' same rfl
      obtain rfl := List.singleton_inj.1 name
      obtain rfl := Entry.link.inj (Option.some.inj (hn.symm.trans linked))
      exact .inr ⟨k, ns, fun none => followed ⟨none, rfl⟩, rest⟩
    · have kept : (t.erase (d ++ [n])).get? (l ++ [m]) = some (.link target') := by
        have outside : ¬ d ++ [n] <+: l ++ [m] := fun below =>
          same (solid.eq_of_isPrefix below hn)
        have bare := get?_erase_other outside t
        rw [hn] at bare
        rcases hx : (t.erase (d ++ [n])).get? (l ++ [m]) with _ | e <;> rw [hx] at bare
        · cases bare
        · rw [Entry.bare_eq_link.1 (Option.some.inj bare)]
      exact (ih hr).imp_left (.follow tries kept followed)

end JavaStudio.Tree
