import JavaStudio.Proofs.Files.Calls
import JavaStudio.Proofs.Files.Names

/-!
# What resolving a path gives

* `locate_components`: the names of a resolved path are names without slashes and dots.
* `locate_of_unlinked`: a path from the root that meets no link is its own resolved form;
  `locate_straight`: so is the path to a file or directory.
-/

namespace JavaStudio

namespace Path

/-- All names of a path say something. -/
def Spelled (p : Path) : Prop := ∀ n ∈ p.parts, Component n

theorem component_up : Component ".." := ⟨by decide, by decide, by decide⟩

theorem Spelled.child {p : Path} {n : String} (h : p.Spelled) (hn : Component n) :
    (p.child n).Spelled := by
  intro m hm
  rcases List.mem_append.1 hm with hm | hm
  · exact h m hm
  · rw [List.mem_singleton.1 hm]
    exact hn

theorem Spelled.parent {p : Path} (h : p.Spelled) : p.parent.Spelled := fun n hn =>
  h n (List.dropLast_subset _ hn)

theorem Spelled.up {p : Path} (h : p.Spelled) : p.up.Spelled := by
  unfold Path.up
  split
  · split
    · exact h
    · exact h.child component_up
  · split
    · exact h.child component_up
    · exact h.parent

theorem Spelled.join {p q : Path} (hp : p.Spelled) (hq : q.Spelled) : (p.join q).Spelled := by
  unfold Path.join
  split
  · intro n hn
    rcases List.mem_append.1 hn with hn | hn
    · exact hp n hn
    · exact hq n hn
  · exact hq

end Path

open JavaStudio.Path

theorem spelled_pathOfNames (ns : List String) : (pathOfNames ns).Spelled := fun _ hn =>
  component_of_mem_components hn

namespace Files

variable {fs : Files} {p q : Path}

/-! ## Names of resolved paths -/

/-- The links met so far lead to paths whose names say something. -/
def MetSpelled (met : Met) : Prop := ∀ q there, known q met = some (some there) → there.Spelled

theorem MetSpelled.cons {met : Met} (h : MetSpelled met) {q : Path} {v : Option Path}
    (hv : ∀ there, v = some there → there.Spelled) : MetSpelled ((q, v) :: met) := by
  intro r there hr
  rw [known] at hr
  split at hr
  · exact hv there (Option.some.inj hr)
  · exact h r there hr

section

variable {onLink : Path → String → Met → Except Failure Traced} {met : Met} {n : String}
  {ns : List String}

theorem traceNames_stay (h : n = "" ∨ n = ".") :
    fs.traceNames onLink p met (n :: ns) = fs.traceNames onLink p met ns := by
  rw [traceNames, if_pos (by simpa using h)]

theorem traceNames_up :
    fs.traceNames onLink p met (".." :: ns) = fs.traceNames onLink p.up met ns := by
  rw [traceNames, if_neg (by decide), if_pos rfl]

theorem traceNames_name (h : IsName n) :
    fs.traceNames onLink p met (n :: ns) =
      match fs.linkAt (p.child n) with
      | .error e => .error e
      | .ok none => fs.traceNames onLink (p.child n) met ns
      | .ok (some target) =>
        match known (p.child n) met with
        | some (some there) => fs.traceNames onLink there met ns
        | some none => .ok ⟨(p.child n).join (pathOfNames ns), false, met⟩
        | none => match onLink p target ((p.child n, none) :: met) with
          | .error e => .error e
          | .ok t =>
            if t.free then fs.traceNames onLink t.path ((p.child n, some t.path) :: t.met) ns
            else .ok ⟨t.path.join (pathOfNames ns), false, t.met⟩ := by
  rw [traceNames, if_neg (by simp [h.nonempty, h.notHere])]
  exact if_neg h.notUp

end

theorem traceNames_spelled {onLink : Path → String → Met → Except Failure Traced}
    (hon : ∀ {q target met t}, q.Spelled → MetSpelled met → onLink q target met = .ok t →
      t.path.Spelled ∧ MetSpelled t.met)
    {met : Met} {ns : List String} {t : Traced} (hp : p.Spelled) (hmet : MetSpelled met)
    (hns : ∀ n ∈ ns, '/' ∉ n.toList) (h : fs.traceNames onLink p met ns = .ok t) :
    t.path.Spelled ∧ MetSpelled t.met := by
  induction ns generalizing p met with
  | nil =>
    cases h
    exact ⟨hp, hmet⟩
  | cons n ns ih =>
    have rest : ∀ m ∈ ns, '/' ∉ m.toList := fun m hm => hns m (List.mem_cons_of_mem n hm)
    by_cases hstay : n = "" ∨ n = "."
    · rw [traceNames_stay hstay] at h
      exact ih hp hmet rest h
    by_cases hup : n = ".."
    · subst hup
      rw [traceNames_up] at h
      exact ih hp.up hmet rest h
    have hn : Component n :=
      ⟨fun hn => hstay (.inl hn), fun hn => hstay (.inr hn), hns n List.mem_cons_self⟩
    rw [traceNames_name ⟨hn.nonempty, hn.notHere, hup⟩] at h
    have hlink := hp.child hn
    rcases hat : fs.linkAt (p.child n) with f | _ | target <;> rw [hat] at h <;> simp only at h
    · cases h
    · exact ih hlink hmet rest h
    · rcases hknown : known (p.child n) met with _ | _ | there <;> rw [hknown] at h <;>
        simp only at h
      · rcases htrace : onLink p target ((p.child n, none) :: met) with f | t' <;>
          rw [htrace] at h <;> simp only at h
        · cases h
        · obtain ⟨hpath, hmet'⟩ := hon hp (hmet.cons fun _ hv => by cases hv) htrace
          split at h
          · exact ih hpath (hmet'.cons fun there ht => Option.some.inj ht ▸ hpath) rest h
          · cases h
            exact ⟨hpath.join (spelled_pathOfNames ns), hmet'⟩
      · cases h
        exact ⟨hlink.join (spelled_pathOfNames ns), hmet⟩
      · exact ih (hmet _ _ hknown) hmet rest h

theorem trace_spelled {depth : Nat} {text : String} {met : Met} {t : Traced} (hp : p.Spelled)
    (hmet : MetSpelled met) (h : fs.trace depth p text met = .ok t) :
    t.path.Spelled ∧ MetSpelled t.met := by
  -- one level for every link: the target of a link is traced with one level less
  induction depth generalizing p text met t with
  | zero => cases h
  | succ depth ih =>
    refine traceNames_spelled (fun hq hm ht => ih hq hm ht) ?_ hmet
      (fun _ hn => noSlash_of_mem_namesOf hn) h
    split
    · intro n hn
      cases hn
    · exact hp

theorem resolve_eq_ok :
    fs.resolve p = .ok q ↔
      (∃ t, fs.trace (fs.machine.nesting + 1) ⟨.here, []⟩ p.toString [] = .ok t ∧
        q = (fs.absolute t.path).normalized) ∧
      (∀ name, fs.stat q ≠ .error (.file .tooManyLinks name)) ∧
      fs.stat q ≠ .error .embeddedNull := by
  unfold resolve
  rcases fs.trace (fs.machine.nesting + 1) ⟨.here, []⟩ p.toString [] with f | t
  · simp
  simp only [Except.ok.injEq, exists_eq_left']
  constructor
  · intro h
    split at h
    · cases h
    · cases h
    · rename_i hloop hnull
      cases h
      exact ⟨rfl, hloop, hnull⟩
  · rintro ⟨rfl, hloop, hnull⟩
    split
    · rename_i name hname
      exact absurd hname (hloop name)
    · rename_i hname
      exact absurd hname hnull
    · rfl

/-- A resolved path starts at a root, and its names are names without slashes and dots. -/
theorem locate_components (here : ∀ n ∈ fs.here, Component n) (h : fs.locate p = .ok q) :
    q.isAbsolute = true ∧ ∀ n ∈ q.parts, Component n ∧ n ≠ ".." := by
  unfold locate at h
  rcases hhome : fs.expandHome p with f | p' <;> rw [hhome] at h
  · cases h
  obtain ⟨⟨t, htrace, rfl⟩, -, -⟩ := resolve_eq_ok.1 h
  have start : Spelled ⟨.here, []⟩ := by
    intro n hn
    cases hn
  have spelled : t.path.Spelled := (trace_spelled start (fun _ _ hr => by cases hr) htrace).1
  have absolute : (fs.absolute t.path).isAbsolute = true := by
    unfold Files.absolute Path.join
    split
    · rfl
    · rename_i hanchor
      simpa [isAbsolute] using hanchor
  have names : (fs.absolute t.path).Spelled := Spelled.join here spelled
  refine ⟨absolute, fun n hn => ?_⟩
  unfold normalized at hn
  rw [absolute] at hn
  obtain ⟨hmem, hup⟩ := mem_collapse hn
  exact ⟨names n hmem, hup⟩

/-! ## Failures -/

theorem linkAt_ordinary {f : Failure} (h : fs.linkAt p = .error f) : f.isOrdinary = true := by
  unfold linkAt at h
  split at h
  · cases h
  · cases h
    rfl
  · cases h

theorem traceNames_ordinary {onLink : Path → String → Met → Except Failure Traced} {f : Failure}
    (hon : ∀ {q target met}, onLink q target met = .error f → f.isOrdinary = true) {met : Met}
    {ns : List String} (h : fs.traceNames onLink p met ns = .error f) : f.isOrdinary = true := by
  induction ns generalizing p met with
  | nil => cases h
  | cons n ns ih =>
    by_cases hstay : n = "" ∨ n = "."
    · rw [traceNames_stay hstay] at h
      exact ih h
    by_cases hup : n = ".."
    · subst hup
      rw [traceNames_up] at h
      exact ih h
    rw [traceNames_name ⟨fun hn => hstay (.inl hn), fun hn => hstay (.inr hn), hup⟩] at h
    rcases hat : fs.linkAt (p.child n) with g | _ | target <;> rw [hat] at h <;> simp only at h
    · cases h
      exact linkAt_ordinary hat
    · exact ih h
    · rcases hknown : known (p.child n) met with _ | _ | there <;> rw [hknown] at h <;>
        simp only at h
      · rcases htrace : onLink p target ((p.child n, none) :: met) with g | t <;>
          rw [htrace] at h <;> simp only at h
        · cases h
          exact hon htrace
        · split at h
          · exact ih h
          · cases h
      · cases h
      · exact ih h

theorem trace_ordinary {depth : Nat} {text : String} {met : Met} {f : Failure}
    (h : fs.trace depth p text met = .error f) : f.isOrdinary = true := by
  induction depth generalizing p text met with
  | zero =>
    cases h
    rfl
  | succ depth ih => exact traceNames_ordinary ih h

/-- A path that cannot be resolved is no end of the program. -/
theorem locate_ordinary {f : Failure} (h : fs.locate p = .error f) : f.isOrdinary = true := by
  have homes : ∀ {name g}, fs.homeOf name = .error g → g.isOrdinary = true := by
    intro name g hg
    unfold homeOf at hg
    split at hg
    · cases hg
    · split at hg
      · cases hg
      · cases hg
        split <;> rfl
  unfold locate at h
  split at h
  · rename_i g hhome
    cases h
    unfold expandHome at hhome
    split at hhome
    · split at hhome
      · rename_i n _ _ _ _
        rcases hn : fs.homeOf n with g | home <;> rw [hn] at hhome <;> cases hhome
        exact homes hn
      · cases hhome
    · cases hhome
  · unfold resolve at h
    split at h
    · rename_i htrace
      cases h
      exact trace_ordinary htrace
    · simp only at h
      split at h <;> cases h <;> rfl

/-! ## Paths without links -/

theorem traceNames_unlinked {onLink : Path → String → Met → Except Failure Traced} {met : Met}
    {ns : List String} (hns : ∀ n ∈ ns, IsName n)
    (unlinked : ∀ k, k ≠ [] → k <+: ns → fs.linkAt ⟨p.anchor, p.parts ++ k⟩ = .ok none) :
    fs.traceNames onLink p met ns = .ok ⟨⟨p.anchor, p.parts ++ ns⟩, true, met⟩ := by
  induction ns generalizing p with
  | nil => rw [traceNames, List.append_nil]
  | cons n ns ih =>
    have first : fs.linkAt (p.child n) = .ok none :=
      unlinked [n] (List.cons_ne_nil n []) (List.cons_prefix_cons.2 ⟨rfl, List.nil_prefix⟩)
    have rest : ∀ k, k ≠ [] → k <+: ns →
        fs.linkAt ⟨(p.child n).anchor, (p.child n).parts ++ k⟩ = .ok none := by
      intro k _ hk
      have whole := unlinked (n :: k) (List.cons_ne_nil n k) (List.cons_prefix_cons.2 ⟨rfl, hk⟩)
      rwa [List.append_cons] at whole
    rw [traceNames_name (hns n List.mem_cons_self), first]
    simp only
    rw [ih (fun m hm => hns m (List.mem_cons_of_mem n hm)) rest, List.append_cons p.parts n ns]
    rfl

/-- An absolute path is traced along its names from the root. -/
theorem trace_toString {depth : Nat} {start : Path} {met : Met} (absolute : p.isAbsolute = true)
    (names : ∀ n ∈ p.parts, '/' ∉ n.toList) :
    fs.trace (depth + 1) start p.toString met =
      fs.traceNames (fun q target m => fs.trace depth q target m) ⟨.root, []⟩ met p.parts := by
  obtain ⟨a, ns⟩ := p
  by_cases hend : ns = []
  · subst hend
    cases a with
    | here => cases absolute
    | root => rfl
    | doubleRoot => rfl
  · cases a with
    | here => cases absolute
    | root =>
      rw [trace, startsAtRoot_toString, if_pos rfl, namesOf_toString hend names,
        traceNames_stay (.inl rfl)]
    | doubleRoot =>
      have spelled : Path.toString ⟨.doubleRoot, ns⟩ = "/" ++ Path.toString ⟨.root, ns⟩ := by
        show "//" ++ "/".intercalate ns = "/" ++ ("/" ++ "/".intercalate ns)
        rw [← String.append_assoc]
        rfl
      have starts : startsAtRoot ("/" ++ Path.toString ⟨.root, ns⟩) = true := by
        unfold startsAtRoot
        rw [String.toList_append]
        rfl
      rw [trace, spelled, starts, if_pos rfl, namesOf_slash, namesOf_toString hend names,
        traceNames_stay (.inl rfl), traceNames_stay (.inl rfl)]

theorem normalized_absolute (fs : Files) {ns : List String} (hns : ∀ n ∈ ns, n ≠ "..") :
    (fs.absolute ⟨.root, ns⟩).normalized = ⟨.root, ns⟩ := by
  show (⟨.root, collapse true [] ns⟩ : Path) = ⟨.root, ns⟩
  rw [collapse_of_names hns]
  rfl

/-- A path from the root that meets no link is its own resolved form. -/
theorem locate_of_unlinked {ns : List String} (hns : ∀ n ∈ ns, Component n ∧ n ≠ "..")
    (unlinked : ∀ k, k ≠ [] → k <+: ns → fs.linkAt ⟨.root, k⟩ = .ok none)
    (loopless : ∀ name, fs.stat ⟨.root, ns⟩ ≠ .error (.file .tooManyLinks name))
    (nulless : fs.stat ⟨.root, ns⟩ ≠ .error .embeddedNull) :
    fs.locate ⟨.root, ns⟩ = .ok ⟨.root, ns⟩ := by
  have isName : ∀ n ∈ ns, IsName n := fun n hn =>
    ⟨(hns n hn).1.nonempty, (hns n hn).1.notHere, (hns n hn).2⟩
  have traced : fs.trace (fs.machine.nesting + 1) ⟨.here, []⟩ (Path.toString ⟨.root, ns⟩) [] =
      .ok ⟨⟨.root, ns⟩, true, []⟩ := by
    rw [trace_toString rfl fun n hn => (hns n hn).1.noSlash]
    exact traceNames_unlinked isName unlinked
  have same := fs.normalized_absolute fun n hn => (hns n hn).2
  exact resolve_eq_ok.2 ⟨⟨_, traced, same.symm⟩, loopless, nulless⟩

/-! ## Paths to what stands in the tree -/

theorem hasNull_root {l : Location} (h : ∀ n ∈ l, '\x00' ∉ n.toList) :
    hasNull ⟨.root, l⟩ = false := by
  unfold hasNull
  rw [List.any_eq_false]
  intro n hn
  simpa using h n hn

theorem hasNull_of_properPlace {l : Location} (h : ProperPlace l) : hasNull ⟨.root, l⟩ = false :=
  hasNull_root fun n hn => (h.proper n hn).noNull

/-- A look-up along the names of a location ends there, unless they are too long to spell. -/
theorem spot_straight (aim : Aim) {l : Location} {e : Entry} (hl : ProperPlace l)
    (he : fs.tree.get? l = some e) (unfollowed : aim = .entry ∨ ∀ target, e ≠ .link target) :
    fs.spot aim ⟨.root, l⟩ = .ok (.entry l e) ∨
      fs.spot aim ⟨.root, l⟩ = .error (.file .nameTooLong (Path.toString ⟨.root, l⟩)) := by
  by_cases hlong : pathLimit ≤ (Path.toString ⟨.root, l⟩).utf8ByteSize
  · right
    unfold spot spotOfNames
    rw [hasNull_of_properPlace hl, if_neg Bool.false_ne_true, if_pos hlong]
  · left
    refine spot_eq_ok.2 ⟨hasNull_of_properPlace hl, Nat.lt_of_not_le hlong, ?_⟩
    exact Tree.leads_straight (l := []) fs.tree.isDirectory_nil hl.fits he unfollowed

/-- The path to a file or a directory is its own resolved form. -/
theorem locate_straight {l : Location} {e : Entry} (hl : ProperPlace l)
    (he : fs.tree.get? l = some e) (unlinked : ∀ target, e ≠ .link target) :
    fs.locate ⟨.root, l⟩ = .ok ⟨.root, l⟩ := by
  have ends := spot_straight .target hl he (.inr unlinked)
  refine locate_of_unlinked (fun n hn => ⟨(hl.proper n hn).component, (hl.proper n hn).notUp⟩)
    (fun k _ hk => ?_) (fun name hstat => ?_) fun hstat => ?_
  · obtain ⟨k', rfl⟩ := hk
    have stands : ∃ e', fs.tree.get? k = some e' ∧ ∀ target, e' ≠ .link target := by
      by_cases hend : k' = []
      · subst hend
        rw [List.append_nil] at he
        exact ⟨e, he, unlinked⟩
      · obtain ⟨f, hf⟩ := Tree.isDirectory_of_append hend he
        exact ⟨_, hf, nofun⟩
    obtain ⟨e', he', hlink⟩ := stands
    unfold linkAt
    rcases spot_straight .entry hl.of_append he' (.inl rfl) with hs | hs <;> rw [hs]
    cases e' with
    | link target => exact absurd rfl (hlink target)
    | file _ => rfl
    | directory _ => rfl
  · unfold stat at hstat
    rcases ends with hs | hs <;> rw [hs] at hstat <;> cases hstat
  · unfold stat at hstat
    rcases ends with hs | hs <;> rw [hs] at hstat <;> cases hstat

end Files

end JavaStudio
