import JavaStudio.Proofs.Files.LinkFree
import JavaStudio.Proofs.Files.Moved

/-!
# Distinct names for distinct files

A file of a studio is known by its resolved path, and only resolved paths are written. `Files.Distinct`
says that two of them never name one place, whatever is saved and wherever the paths come from by which
files are chosen. That is so where resolving a path leaves no link on its way (`Untangled.distinct`), as
in a tree with a link to a directory (`untangled_forked`). Links that go round in circles are left, and
so are links that are met under names too long for the system, which is why the paths count by which
files are chosen. Then a resolved path that is read or written spells the location of its file
(`Distinct.of_read`, `Distinct.of_write`).
-/

namespace JavaStudio

namespace Files

variable {fs fs' : Files} {aim : Aim} {p q chosen target : Path} {l place : Location} {s : Spot}
  {content : Bytes} {picks : Path → Prop}

/-- No name of the current directory has a slash or says nothing, and no target of a link has the
character that ends names. -/
structure WellNamed (fs : Files) : Prop where
  here : ∀ n ∈ fs.here, Component n
  targets : ∀ {place target}, fs.tree.get? place = some (.link target) → '\x00' ∉ target.toList

/-- The names of a path lead to a place. -/
def Names (fs : Files) (aim : Aim) (p : Path) (place : Location) : Prop :=
  ∃ s, fs.tree.Leads aim maxLinks [] (fs.namesTo p) (.ok s) ∧ s.location = place

/-- A buffer is written, completely or not, to the resolved form of a path by which files are chosen, or
to a path that is its own resolved form. -/
inductive Saves (picks : Path → Prop) : Files → Files → Prop
  | written {fs : Files} {chosen target : Path} (refused : Refusals) (b : Buffer) :
      picks chosen ∨ chosen = target → fs.locate chosen = .ok target →
      Saves picks fs (b.writeUnder refused target fs).2

/-- What files can become when documents are saved. -/
abbrev Sequel (picks : Path → Prop) : Files → Files → Prop := Relation.ReflTransGen (Saves picks)

/-- A path is resolved, now or after documents were saved: a path by which files are chosen leads to it,
or it is its own resolved form. -/
def Normalized (picks : Path → Prop) (fs : Files) (p : Path) : Prop :=
  ∃ fs' chosen, fs.Sequel picks fs' ∧ (picks chosen ∨ chosen = p) ∧ fs'.locate chosen = .ok p

/-- Different normalized paths name different files, whatever is saved. -/
def Distinct (picks : Path → Prop) (fs : Files) : Prop :=
  ∀ {fs' p q aim place}, fs.Sequel picks fs' → fs.Normalized picks p → fs.Normalized picks q →
    fs'.Names aim p place → fs'.Names aim q place → p = q

/-! ## Names -/

theorem namesTo_of_isAbsolute (fs : Files) (h : p.isAbsolute = true) : fs.namesTo p = p.parts := by
  rw [namesTo, if_pos h]

theorem names_of_spot (hs : fs.spot aim p = .ok s) : fs.Names aim p s.location :=
  ⟨s, (spot_eq_ok.1 hs).2.2, rfl⟩

/-- Where a resolved path leads, all names are proper. -/
theorem WellNamed.properPlace (h : fs.WellNamed) (located : fs.locate chosen = .ok p)
    (hs : fs.spot aim p = .ok s) : ProperPlace s.location := by
  obtain ⟨absolute, names⟩ := locate_components h.here located
  obtain ⟨hnull, -, leads⟩ := spot_eq_ok.1 hs
  rw [fs.namesTo_of_isAbsolute absolute] at leads
  have walked : ∀ n ∈ s.location, ('/' ∉ n.toList ∧ '\x00' ∉ n.toList) ∧ Fits n := by
    refine leads.names (fun {place target} hlink n hn => ?_) nofun (fun n hn => ?_) s rfl
    · exact ⟨noSlash_of_mem_namesOf hn, fun h0 => h.targets hlink (mem_of_mem_namesOf hn h0)⟩
    · exact ⟨(names n hn).1.noSlash, hasNull_eq_false.1 hnull n hn⟩
  intro n hn
  obtain ⟨⟨noSlash, noNull⟩, fits⟩ := walked n hn
  exact ⟨⟨⟨fits.isName.nonempty, fits.isName.notHere, noSlash⟩, fits.isName.notUp, noNull⟩, fits⟩

/-! ## Files at proper places -/

/-- The path that spells the location of a file leads to it. -/
theorem names_straight (hl : ProperPlace l) {e : Entry} (he : fs.tree.get? l = some e)
    (unfollowed : aim = .entry ∨ ∀ target, e ≠ .link target) : fs.Names aim ⟨.root, l⟩ l :=
  ⟨_, Tree.leads_straight (l := []) fs.tree.isDirectory_nil hl.fits he unfollowed, rfl⟩

/-- The path that spells the location of a file is normalized. -/
theorem normalized_straight (hl : ProperPlace l) (saved : fs.Sequel picks fs')
    (he : fs'.tree.get? l = some (.file content)) : fs.Normalized picks ⟨.root, l⟩ :=
  ⟨fs', _, saved, .inr rfl, locate_straight hl he nofun⟩

theorem readBytes_straight (hl : ProperPlace l)
    (short : (Path.toString ⟨.root, l⟩).utf8ByteSize < pathLimit)
    (he : fs.tree.get? l = some (.file content)) : fs.readBytes ⟨.root, l⟩ = .ok content := by
  have spot : fs.spot .target ⟨.root, l⟩ = .ok (.entry l (.file content)) :=
    spot_eq_ok.2 ⟨hasNull_of_properPlace hl, short,
      Tree.leads_straight (l := []) fs.tree.isDirectory_nil hl.fits he (.inr nofun)⟩
  unfold readBytes stat
  rw [spot]

/-- A resolved path that leads to a file spells its location. -/
theorem Distinct.of_read (h : fs.Distinct picks) (saved : fs.Sequel picks fs')
    (named : fs'.WellNamed) (picked : picks chosen) (located : fs'.locate chosen = .ok p)
    (hs : fs'.spot .target p = .ok (.entry l (.file content))) :
    p = ⟨.root, l⟩ ∧ ProperPlace l ∧ fs'.tree.get? l = some (.file content) := by
  have hl : ProperPlace l := named.properPlace located hs
  have stands : fs'.tree.get? l = some (.file content) := (spot_eq_ok.1 hs).2.2.stands rfl
  refine ⟨h saved ⟨fs', chosen, saved, .inl picked, located⟩ (normalized_straight hl saved stands)
    (names_of_spot hs) (names_straight hl stands (.inr nofun)), hl, stands⟩

/-- A resolved path at which a file was put spells its location. -/
theorem Distinct.of_write (h : fs.Distinct picks) {fs₁ fs₂ : Files} (before : fs.Sequel picks fs₁)
    (after : fs.Sequel picks fs₂) (named : fs₁.WellNamed) (picked : picks chosen ∨ chosen = target)
    (located : fs₁.locate chosen = .ok target)
    (replaced : Source.Replaced fs₁ fs₂ target place content) :
    target = ⟨.root, place⟩ ∧ ProperPlace place := by
  obtain ⟨s, hs, rfl⟩ := replaced.leads
  have hl : ProperPlace s.location := named.properPlace located hs
  refine ⟨h before ⟨fs₁, chosen, before, picked, located⟩
    (normalized_straight hl after replaced.get?) (names_of_spot hs) ?_, hl⟩
  -- The place was free, or something stood there that gave way.
  rcases he : fs₁.tree.get? s.location with _ | e
  · obtain ⟨d, n, hplace, hd⟩ := replaced.parent
    rw [hplace] at he hl ⊢
    exact ⟨_, Tree.leads_straight_vacant (l := []) fs₁.tree.isDirectory_nil
      hl.of_append.fits (hl.fits n (List.mem_append_right _ (by simp))) hd he, rfl⟩
  · exact names_straight hl he (.inl rfl)

/-! ## Clear paths -/

/-- A path from the root with proper names, on whose way no link stands. -/
structure Clear (fs : Files) (p : Path) : Prop where
  anchor : p.anchor = .root
  proper : ∀ n ∈ p.parts, Proper n
  unlinked : ∀ l, l <+: p.parts → l ≠ p.parts → ∀ target, fs.tree.get? l ≠ some (.link target)

/-- A file that was put at a clear path stands at its names, and the path is normalized and leads to
it. -/
theorem Clear.replaced (h : fs.Clear target)
    (replaced : Source.Replaced fs fs' target place content) :
    fs'.readBytes target = .ok content ∧ fs'.locate target = .ok target := by
  obtain ⟨s, hs, rfl⟩ := replaced.leads
  obtain ⟨-, short, leads⟩ := spot_eq_ok.1 hs
  obtain ⟨a, ns⟩ := target
  obtain rfl : a = .root := h.anchor
  have isName : ∀ n ∈ ns, IsName n := fun n hn => (h.proper n hn).isName
  have place : s.location = ns := by
    rw [leads.along isName (fun m hm hentry => h.unlinked m hm (hentry rfl)) s rfl]
    rfl
  have walked : ∀ n ∈ s.location, True ∧ Fits n :=
    leads.names (fun _ _ _ => trivial) nofun (fun _ _ => trivial) s rfl
  have stands := replaced.get?
  rw [place] at walked stands
  have hl : ProperPlace ns := fun n hn => ⟨h.proper n hn, (walked n hn).2⟩
  exact ⟨readBytes_straight hl short stands, locate_straight hl stands nofun⟩

/-! ## What the studio writes -/

/-- Putting a file makes no link. -/
theorem link_of_put {d : Location} {n : String} (hd : fs.tree.IsDirectory d) {target : String}
    (h : (fs.tree.put (d ++ [n]) (.file content)).get? l = some (.link target)) :
    fs.tree.get? l = some (.link target) := by
  have stands : (fs.tree.put (d ++ [n]) (.file content)).get? (d ++ [n]) = some (.file content) :=
    Tree.get?_put_same hd.choose_spec _
  -- below the new file nothing stands, at its place there is no link, and the rest is as before
  by_cases below : d ++ [n] <+: l
  · obtain ⟨k, rfl⟩ := below
    by_cases hk : k = []
    · rw [hk, List.append_nil, stands] at h
      cases h
    · obtain ⟨_, hf⟩ := Tree.isDirectory_of_append hk h
      rw [stands] at hf
      cases hf
  · have same := Tree.get?_put_other below fs.tree (.file content)
    rw [h] at same
    rcases hl : fs.tree.get? l with _ | e <;> rw [hl] at same
    · cases same
    · rw [Entry.bare_eq_link.1 (Option.some.inj same).symm]

theorem WellNamed.saves (h : fs.WellNamed) (saves : Saves picks fs fs') : fs'.WellNamed := by
  cases saves with
  | @written _ target refused b _ _ =>
    rcases hw : b.writeUnder refused target fs with ⟨f | _, fs'⟩
    · rw [Buffer.writeUnder_error hw]
      exact h
    · obtain ⟨place, replaced⟩ := Buffer.writeUnder_ok hw
      obtain ⟨d, n, rfl, hd⟩ := replaced.parent
      rw [replaced.files]
      exact ⟨h.here, fun hlink => h.targets (link_of_put hd hlink)⟩

theorem WellNamed.sequel (h : fs.WellNamed) (saved : fs.Sequel picks fs') : fs'.WellNamed := by
  induction saved with
  | refl => exact h
  | tail _ saves ih => exact ih.saves saves

/-! ## A file more or less -/

section

variable {tree : Tree}

theorem linkAt_eq_link {target : String} :
    fs.linkAt p = .ok (some target) ↔ ∃ place, fs.spot .entry p = .ok (.entry place (.link target)) := by
  unfold linkAt
  rcases fs.spot .entry p with f | ⟨place, _ | _ | target'⟩ | ⟨d, n⟩
  · cases f <;> simp
  all_goals simp

theorem linkAt_eq_error {f : Failure} :
    fs.linkAt p = .error f ↔ hasNull p = true ∧ f = .embeddedNull := by
  unfold linkAt spot
  cases hasNull p with
  | true =>
    rw [if_pos rfl]
    simp [eq_comm]
  | false =>
    rw [if_neg Bool.false_ne_true]
    unfold spotOfNames
    by_cases hlong : pathLimit ≤ p.toString.utf8ByteSize
    · rw [if_pos hlong]
      simp
    · rw [if_neg hlong]
      rcases fs.tree.walk .entry maxLinks [] (if p.isAbsolute then p.parts else fs.here ++ p.parts) with
        fault | ⟨place, _ | _ | target⟩ | ⟨d, n⟩ <;> simp

/-- Where a file comes or goes, paths name the links that they named. -/
theorem linkAt_apart (apart : fs.tree.Apart tree place) (p : Path) :
    ({ fs with tree := tree } : Files).linkAt p = fs.linkAt p := by
  rcases found : fs.linkAt p with f | _ | target
  · exact linkAt_eq_error.2 (linkAt_eq_error.1 found)
  · rcases found' : ({ fs with tree := tree } : Files).linkAt p with f | _ | target
    · rw [linkAt_eq_error.2 (linkAt_eq_error.1 found')] at found
      cases found
    · rfl
    · obtain ⟨l, hs⟩ := linkAt_eq_link.1 found'
      have back : ({ fs with tree := tree } : Files).tree.Apart fs.tree place := apart.symm
      rw [linkAt_eq_link.2 ⟨l, spot_link back hs⟩] at found
      cases found
  · obtain ⟨l, hs⟩ := linkAt_eq_link.1 found
    exact linkAt_eq_link.2 ⟨l, spot_link apart hs⟩

theorem traceNames_congr (links : ∀ p, fs'.linkAt p = fs.linkAt p)
    (onLink : Path → String → Met → Except Failure Traced) (met : Met) (ns : List String) :
    fs'.traceNames onLink p met ns = fs.traceNames onLink p met ns := by
  induction ns generalizing p met with
  | nil => rfl
  | cons n ns ih => simp only [traceNames, links, ih]

theorem trace_congr (links : ∀ p, fs'.linkAt p = fs.linkAt p) (depth : Nat) (text : String)
    (met : Met) : fs'.trace depth p text met = fs.trace depth p text met := by
  induction depth generalizing p text met with
  | zero => rfl
  | succ depth ih =>
    have same : (fun q target m => fs'.trace depth q target m) =
        fun q target m => fs.trace depth q target m := by
      funext q target m
      exact ih target m
    rw [trace, trace, same]
    exact traceNames_congr links _ _ _

theorem stat_eq_loop {name : String} :
    fs.stat p = .error (.file .tooManyLinks name) ↔ hasNull p = false ∧
      p.toString.utf8ByteSize < pathLimit ∧ name = p.toString ∧
      fs.tree.Leads .target maxLinks [] (fs.namesTo p) (.error .tooManyLinks) := by
  unfold stat spot spotOfNames namesTo
  rw [Tree.leads_iff]
  cases hasNull p with
  | true => simp
  | false =>
    rw [if_neg Bool.false_ne_true]
    by_cases hlong : pathLimit ≤ p.toString.utf8ByteSize
    · rw [if_pos hlong]
      simp [Nat.not_lt.2 hlong]
    · rw [if_neg hlong]
      rcases fs.tree.walk .target maxLinks [] (if p.isAbsolute then p.parts else fs.here ++ p.parts) with
        fault | ⟨place, e⟩ | ⟨d, n⟩ <;> simp [Nat.lt_of_not_le hlong, eq_comm, and_comm]

/-- Where a file comes or goes, ways that go round in circles still do. -/
theorem stat_loop_apart (apart : fs.tree.Apart tree place) {name : String}
    (looped : fs.stat p = .error (.file .tooManyLinks name)) :
    ({ fs with tree := tree } : Files).stat p = .error (.file .tooManyLinks name) := by
  have tired : ∀ {k l ns r}, fs.tree.Leads .target k l ns r → r = .error .tooManyLinks →
      tree.Leads .target k l ns (.error .tooManyLinks) := by
    intro k l ns r leads
    induction leads with
    | stay hn _ ih => exact fun hr => .stay hn (ih hr)
    | up _ ih => exact fun hr => .up (ih hr)
    | down tries hf _ ih =>
      obtain ⟨f', hf'⟩ := apart.directory hf
      exact fun hr => .down tries hf' (ih hr)
    | tired tries hlink followed => exact fun _ => .tired tries (apart.link hlink) followed
    | follow tries hlink followed _ ih =>
      exact fun hr => .follow tries (apart.link hlink) followed (ih hr)
    | _ => nofun
  obtain ⟨hnull, short, named, leads⟩ := stat_eq_loop.1 looped
  exact stat_eq_loop.2 ⟨hnull, short, named, tired leads rfl⟩

theorem stat_of_hasNull (h : hasNull p = true) : fs.stat p = .error .embeddedNull := by
  unfold stat spot
  rw [if_pos h]

/-- Where a file comes or goes, every path has the resolved form that it had. -/
theorem locate_apart (apart : fs.tree.Apart tree place) :
    ({ fs with tree := tree } : Files).locate p = .ok q ↔ fs.locate p = .ok q := by
  have back : ({ fs with tree := tree } : Files).tree.Apart fs.tree place := apart.symm
  have loops : ∀ r name, ({ fs with tree := tree } : Files).stat r = .error (.file .tooManyLinks name) ↔
      fs.stat r = .error (.file .tooManyLinks name) := fun r name =>
    ⟨stat_loop_apart back, stat_loop_apart apart⟩
  have null : ∀ {fs : Files} {r : Path}, fs.stat r = .error .embeddedNull ↔ hasNull r = true := by
    refine fun {fs r} => ⟨fun h => ?_, stat_of_hasNull⟩
    rcases stat_error h with ⟨hnull, -⟩ | ⟨_, hf, -⟩
    · exact hnull
    · cases hf
  have resolves : ∀ p q, ({ fs with tree := tree } : Files).resolve p = .ok q ↔
      fs.resolve p = .ok q := by
    intro p q
    rw [resolve_eq_ok, resolve_eq_ok, trace_congr (linkAt_apart apart)]
    simp only [ne_eq, loops, null]
    rfl
  have homes : ({ fs with tree := tree } : Files).expandHome p = fs.expandHome p := rfl
  unfold locate
  rw [homes]
  rcases fs.expandHome p with f | p'
  · simp
  · exact resolves p' q

end

/-! ## Ways without links -/

/-- A path from the root with names of entries, on which no link stands. -/
structure Unlinked (fs : Files) (p : Path) : Prop where
  anchor : p.anchor = .root
  names : ∀ n ∈ p.parts, IsName n
  free : ∀ l, l <+: p.parts → ∀ target, fs.tree.get? l ≠ some (.link target)

/-- A path on which no link stands leads along its names. -/
theorem Unlinked.along (h : fs.Unlinked p) (names : fs.Names aim p place) : p = ⟨.root, place⟩ := by
  obtain ⟨s, leads, rfl⟩ := names
  obtain ⟨a, ns⟩ := p
  obtain rfl : a = .root := h.anchor
  rw [leads.along h.names (fun m hm _ => h.free m hm) s rfl]
  rfl

theorem Unlinked.apart {tree : Tree} (h : fs.Unlinked p) (apart : fs.tree.Apart tree place) :
    ({ fs with tree := tree } : Files).Unlinked p where
  anchor := h.anchor
  names := h.names
  free l hl target linked := h.free l hl target (apart.symm.link linked)

/-- Resolving leaves no link on the way of a path, as far as paths are in use or resolved already. -/
def Untangled (picks : Path → Prop) (fs : Files) : Prop :=
  ∀ {chosen p}, picks chosen ∨ chosen = p → fs.locate chosen = .ok p → fs.Unlinked p

/-- Saving a document where resolving leaves no link puts a file where there was a file or nothing. -/
theorem Untangled.apart (h : fs.Untangled picks) (saves : Saves picks fs fs') :
    fs' = fs ∨ ∃ tree place, fs.tree.Apart tree place ∧ fs' = { fs with tree := tree } := by
  cases saves with
  | @written chosen target refused b picked located =>
    rcases hw : b.writeUnder refused target fs with ⟨f | _, fs'⟩
    · exact .inl (Buffer.writeUnder_error hw)
    obtain ⟨place, replaced⟩ := Buffer.writeUnder_ok hw
    obtain ⟨s, hs, hplace⟩ := replaced.leads
    have spelled : target = ⟨.root, place⟩ :=
      (h picked located).along (hplace ▸ names_of_spot hs)
    obtain ⟨d, n, rfl, hd⟩ := replaced.parent
    refine .inr ⟨_, _, Tree.Apart.put hd (fun e he => ?_) _, replaced.files⟩
    cases e with
    | file content => exact ⟨content, rfl⟩
    | directory f => exact absurd he (replaced.replaceable f)
    | link target' =>
      refine absurd he ((h picked located).free _ ?_ target')
      exact spelled ▸ List.prefix_refl _

theorem Untangled.sequel (h : fs.Untangled picks) (saved : fs.Sequel picks fs') :
    fs'.Untangled picks ∧ (∀ {p q}, fs'.locate p = .ok q ↔ fs.locate p = .ok q) ∧
      ∀ {p}, fs.Unlinked p → fs'.Unlinked p := by
  induction saved with
  | refl => exact ⟨h, .rfl, id⟩
  | tail _ saves ih =>
    obtain ⟨untangled, located, unlinked⟩ := ih
    rcases untangled.apart saves with rfl | ⟨tree, place, apart, rfl⟩
    · exact ⟨untangled, located, unlinked⟩
    · exact ⟨fun picked hp => (untangled picked ((locate_apart apart).1 hp)).apart apart,
        (locate_apart apart).trans located, fun clear => (unlinked clear).apart apart⟩

/-- Where resolving leaves no link, different normalized paths name different files. -/
theorem Untangled.distinct (h : fs.Untangled picks) : fs.Distinct picks := by
  have clear : ∀ {fs' p}, fs.Sequel picks fs' → fs.Normalized picks p → fs'.Unlinked p := by
    rintro fs' p saved ⟨fs₁, chosen, saved₁, picked, located⟩
    exact (h.sequel saved).2.2 (h picked ((h.sequel saved₁).2.1.1 located))
  intro fs' p q aim place saved hp hq names names'
  rw [(clear saved hp).along names, (clear saved hq).along names']

/-! ## A link to a directory -/

/-- A directory `d` and a link `l` that leads to it. -/
def forked : Files := { tree := ⟨[("d", .directory []), ("l", .link "d")]⟩, here := [], home := "/" }

theorem link_forked {target : String} :
    forked.tree.get? l = some (.link target) ↔ l = ["l"] ∧ target = "d" := by
  have names : "d" ≠ "l" := by decide
  rcases l with _ | ⟨n, _ | ⟨m, l⟩⟩
  · simp [Tree.get?, Folder.get?]
  all_goals
    by_cases hd : n = "d"
    · subst hd
      simp [forked, Tree.get?, Folder.get?, Folder.find?, names]
    · by_cases hl : n = "l"
      · subst hl
        simp [forked, Tree.get?, Folder.get?, Folder.find?, names, eq_comm]
      · simp [forked, Tree.get?, Folder.get?, Folder.find?, hl, Ne.symm hd, Ne.symm hl]

theorem wellNamed_forked : forked.WellNamed where
  here := List.forall_mem_nil _
  targets hlink := by
    rw [(link_forked.1 hlink).2]
    decide

/-- A path that does not begin with the link meets none. -/
theorem unlinked_forked {ns : List String} (names : ∀ n ∈ ns, IsName n) (first : ns.head? ≠ some "l") :
    forked.Unlinked ⟨.root, ns⟩ where
  anchor := rfl
  names := names
  free l hl target linked := by
    obtain ⟨rfl, -⟩ := link_forked.1 linked
    obtain ⟨k, rfl⟩ := hl
    exact first rfl

/-- No link is named on the way from the root along names that do not begin with the link. -/
theorem linkAt_forked {ns : List String} (names : ∀ n ∈ ns, IsName n) (first : ns.head? ≠ some "l")
    (hnull : hasNull ⟨.root, ns⟩ = false) : forked.linkAt ⟨.root, ns⟩ = .ok none := by
  rcases found : forked.linkAt ⟨.root, ns⟩ with f | _ | target
  · rw [(linkAt_eq_error.1 found).1] at hnull
    cases hnull
  · rfl
  · obtain ⟨place, hs⟩ := linkAt_eq_link.1 found
    have stands := (spot_eq_ok.1 hs).2.2.stands rfl
    have unlinked := unlinked_forked names first
    obtain rfl : ns = place := congrArg Path.parts (unlinked.along (names_of_spot hs))
    exact absurd stands (unlinked.free ns (List.prefix_refl ns) target)

/-- Tracing goes straight along names that, behind some others, do not begin with the link. -/
theorem spelled_forked {onLink : Path → String → Met → Except Failure Traced} {met : Met} {t : Traced}
    (before : List String) {ns : List String} (names : ∀ n ∈ before ++ ns, IsName n)
    (noNull : ∀ n ∈ before ++ ns, '\x00' ∉ n.toList) (first : (before ++ ns).head? ≠ some "l")
    (traced : forked.traceNames onLink ⟨.root, before⟩ met ns = .ok t) :
    (forked.absolute t.path).normalized = ⟨.root, before ++ ns⟩ := by
  have unlinked : ∀ k, k ≠ [] → k <+: ns → forked.linkAt ⟨.root, before ++ k⟩ = .ok none := by
    intro k _ hpre
    have within : before ++ k <+: before ++ ns := (List.prefix_append_right_inj before).2 hpre
    apply linkAt_forked (fun n hn => names n (within.subset hn))
    · intro link
      obtain ⟨rest, whole⟩ := within
      rw [← whole, List.head?_append, link] at first
      exact first rfl
    · exact hasNull_root fun n hn => noNull n (within.subset hn)
  rw [traceNames_unlinked (fun n hn => names n (List.mem_append_right before hn)) unlinked] at traced
  rw [← Except.ok.inj traced]
  exact forked.normalized_absolute fun n hn => (names n hn).notUp

/-- A path that is its own resolved form does not begin with the link. -/
theorem unlinked_of_locate_forked (located : forked.locate p = .ok p) : forked.Unlinked p := by
  obtain ⟨absolute, names⟩ := locate_components wellNamed_forked.here located
  have isName : ∀ n ∈ p.parts, IsName n := fun n hn =>
    ⟨(names n hn).1.nonempty, (names n hn).1.notHere, (names n hn).2⟩
  have written : forked.expandHome p = .ok p := by
    obtain ⟨a, ns⟩ := p
    cases a with
    | here => cases absolute
    | root => rfl
    | doubleRoot => rfl
  unfold locate at located
  rw [written] at located
  obtain ⟨⟨t, traced, spelled⟩, -, nulless⟩ := resolve_eq_ok.1 located
  have noNull : ∀ n ∈ p.parts, '\x00' ∉ n.toList := by
    rw [← hasNull_eq_false, ← Bool.not_eq_true]
    exact fun hnull => nulless (stat_of_hasNull hnull)
  rw [trace_toString absolute fun n hn => (names n hn).1.noSlash] at traced
  by_cases first : p.parts.head? = some "l"
  · -- from the link on the way leads below `d`, and so does the resolved form
    obtain ⟨ns, hns⟩ := List.head?_eq_some_iff.1 first
    rw [hns, List.forall_mem_cons] at isName noNull
    rw [hns, traceNames_name isName.1] at traced
    have below : ∀ n ∈ "d" :: ns, IsName n :=
      List.forall_mem_cons.2 ⟨⟨by decide, by decide, by decide⟩, isName.2⟩
    have proper : ∀ n ∈ "d" :: ns, '\x00' ∉ n.toList :=
      List.forall_mem_cons.2 ⟨by decide, noNull.2⟩
    rw [spelled_forked ["d"] below proper (by simp) traced] at spelled
    rw [spelled] at hns
    exact absurd (List.cons.inj hns).1 (by decide)
  · rw [spelled_forked [] isName noNull first traced] at spelled
    rw [spelled]
    exact unlinked_forked isName first

/-- Resolving leaves no link where files are chosen through the link. -/
theorem untangled_forked : forked.Untangled (· = ⟨.root, ["l", "a"]⟩) := by
  rintro chosen p (rfl | rfl) located
  · obtain rfl : (⟨.root, ["d", "a"]⟩ : Path) = p := Except.ok.inj located
    refine unlinked_forked (List.forall_mem_cons.2 ⟨⟨by decide, by decide, by decide⟩, ?_⟩) (by decide)
    exact List.forall_mem_singleton.2 ⟨by decide, by decide, by decide⟩
  · exact unlinked_of_locate_forked located

end Files

end JavaStudio
