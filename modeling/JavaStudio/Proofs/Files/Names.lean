import JavaStudio.Files.Resolve
import JavaStudio.Proofs.Files.Leads

/-!
# Names between slashes

A text is cut into names at its slashes, and a path is spelled by its names with slashes between
them. A `Proper` name is one that a path can spell and an entry can have; the names that resolving a
path gives are proper but for the character that the system does not take (`locate_components`).
-/

namespace JavaStudio

/-! ## Cutting and joining -/

namespace Text

variable {cut : Char → Bool} {u t : Text}

theorem splitAt_of_none (h : ∀ c ∈ u, cut c = false) : splitAt cut u = [u] := by
  induction u with
  | nil => rfl
  | cons c u ih =>
    rw [splitAt, if_neg (by simp [h c List.mem_cons_self]),
      ih fun x hx => h x (List.mem_cons_of_mem c hx)]

theorem splitAt_append_cons {c : Char} (h : ∀ x ∈ u, cut x = false) (hc : cut c = true) (t : Text) :
    splitAt cut (u ++ c :: t) = u :: splitAt cut t := by
  induction u with
  | nil => rw [List.nil_append, splitAt, if_pos hc]
  | cons x u ih =>
    rw [List.cons_append, splitAt, if_neg (by simp [h x List.mem_cons_self]),
      ih fun y hy => h y (List.mem_cons_of_mem x hy)]

/-- Parts without cuts, joined by a cut, are found again. -/
theorem splitAt_intercalate {c : Char} (hc : cut c = true) {us : List Text} (hus : us ≠ [])
    (h : ∀ u ∈ us, ∀ x ∈ u, cut x = false) : splitAt cut ([c].intercalate us) = us := by
  induction us with
  | nil => exact absurd rfl hus
  | cons u us ih =>
    have first := h u List.mem_cons_self
    have rest : ∀ v ∈ us, ∀ x ∈ v, cut x = false := fun v hv => h v (List.mem_cons_of_mem u hv)
    by_cases hend : us = []
    · rw [hend, List.intercalate_singleton, splitAt_of_none first]
    · rw [List.intercalate_cons_of_ne_nil hend, List.append_assoc, List.singleton_append,
        splitAt_append_cons first hc, ih hend rest]

/-- The characters of a part are characters of the text, and no cuts. -/
theorem of_mem_splitAt (t : Text) : ∀ u ∈ splitAt cut t, ∀ c ∈ u, c ∈ t ∧ cut c = false := by
  induction t with
  | nil =>
    intro u hu c hc
    rw [List.mem_singleton.1 hu] at hc
    cases hc
  | cons x t ih =>
    have later : ∀ u ∈ splitAt cut t, ∀ c ∈ u, c ∈ x :: t ∧ cut c = false := fun u hu c hc =>
      (ih u hu c hc).imp_left (List.mem_cons_of_mem x)
    rw [splitAt]
    split
    · intro u hu
      rcases List.mem_cons.1 hu with rfl | hu
      · nofun
      · exact later u hu
    · rename_i hx
      have first : x ∈ x :: t ∧ cut x = false := ⟨List.mem_cons_self, by simpa using hx⟩
      split
      · intro u hu c hc
        rw [List.mem_singleton.1 hu] at hc
        exact List.mem_singleton.1 hc ▸ first
      · rename_i p ps hp
        rw [hp] at later
        intro u hu c hc
        rcases List.mem_cons.1 hu with rfl | hu
        · rcases List.mem_cons.1 hc with rfl | hc
          · exact first
          · exact later p List.mem_cons_self c hc
        · exact later u (List.mem_cons_of_mem p hu) c hc

end Text

/-! ## Names -/

/-- A name without a slash that says something. -/
structure Component (n : String) : Prop where
  nonempty : n ≠ ""
  notHere : n ≠ "."
  noSlash : '/' ∉ n.toList

/-- A name that a path can spell and an entry can have. -/
structure Proper (n : String) : Prop where
  component : Component n
  notUp : n ≠ ".."
  noNull : '\x00' ∉ n.toList

theorem Proper.isName {n : String} (h : Proper n) : IsName n :=
  ⟨h.component.nonempty, h.component.notHere, h.notUp⟩

/-- A location whose names can be spelled and held by directories. -/
def ProperPlace (l : Location) : Prop := ∀ n ∈ l, Proper n ∧ Fits n

theorem ProperPlace.proper {l : Location} (h : ProperPlace l) : ∀ n ∈ l, Proper n := fun n hn =>
  (h n hn).1

theorem ProperPlace.fits {l : Location} (h : ProperPlace l) : ∀ n ∈ l, Fits n := fun n hn =>
  (h n hn).2

theorem ProperPlace.of_append {l k : Location} (h : ProperPlace (l ++ k)) : ProperPlace l :=
  fun n hn => h n (List.mem_append_left k hn)

theorem noSlash_of_mem_namesOf {text n : String} (h : n ∈ namesOf text) : '/' ∉ n.toList := by
  obtain ⟨u, hu, rfl⟩ := List.mem_map.1 h
  intro hslash
  rw [String.toList_ofList] at hslash
  have uncut := (Text.of_mem_splitAt _ u hu '/' hslash).2
  exact absurd uncut (by decide)

theorem mem_of_mem_namesOf {text n : String} (h : n ∈ namesOf text) {c : Char} (hc : c ∈ n.toList) :
    c ∈ text.toList := by
  obtain ⟨u, hu, rfl⟩ := List.mem_map.1 h
  rw [String.toList_ofList] at hc
  exact (Text.of_mem_splitAt _ u hu c hc).1

theorem namesOf_slash (t : String) : namesOf ("/" ++ t) = "" :: namesOf t := by
  unfold namesOf
  rw [String.toList_append, show "/".toList = ['/'] from rfl, List.singleton_append, Text.splitAt,
    if_pos (by decide)]
  rfl

theorem namesOf_intercalate {ns : List String} (hns : ns ≠ []) (h : ∀ n ∈ ns, '/' ∉ n.toList) :
    namesOf ("/".intercalate ns) = ns := by
  have parts : Text.splitAt (· == '/') (['/'].intercalate (ns.map String.toList)) =
      ns.map String.toList := by
    refine Text.splitAt_intercalate rfl (by simpa using hns) ?_
    intro u hu c hc
    obtain ⟨n, hn, rfl⟩ := List.mem_map.1 hu
    rw [beq_eq_false_iff_ne]
    rintro rfl
    exact h n hn hc
  unfold namesOf
  rw [String.toList_intercalate, show "/".toList = ['/'] from rfl, parts, List.map_map]
  show ns.map (fun n => String.ofList n.toList) = ns
  simp

theorem namesOf_toString {ns : List String} (hns : ns ≠ []) (h : ∀ n ∈ ns, '/' ∉ n.toList) :
    namesOf (Path.toString ⟨.root, ns⟩) = "" :: ns := by
  show namesOf ("/" ++ "/".intercalate ns) = _
  rw [namesOf_slash, namesOf_intercalate hns h]

theorem startsAtRoot_toString (ns : List String) :
    startsAtRoot (Path.toString ⟨.root, ns⟩) = true := by
  show decide (("/" ++ "/".intercalate ns).toList.head? = some '/') = true
  rw [String.toList_append]
  rfl

theorem component_of_mem_components {t : Text} {n : String} (h : n ∈ Path.components t) :
    Component n := by
  obtain ⟨u, hu, rfl⟩ := List.mem_map.1 h
  obtain ⟨hmem, hkeep⟩ := List.mem_filter.1 hu
  simp only [Bool.and_eq_true, Bool.not_eq_true', List.isEmpty_eq_false_iff, bne_iff_ne,
    ne_eq] at hkeep
  refine ⟨fun he => hkeep.1 ?_, fun he => hkeep.2 ?_, fun hslash => ?_⟩
  · have := congrArg String.toList he
    simpa using this
  · have := congrArg String.toList he
    simpa using this
  · rw [String.toList_ofList] at hslash
    exact absurd (Text.of_mem_splitAt _ u hmem '/' hslash).2 (by decide)

/-! ## Taking `..` back -/

theorem collapse_cons (absolute : Bool) (done : List String) (n : String) (ns : List String) :
    Path.collapse absolute done (n :: ns) =
      if n = ".." then
        match done with
        | [] => Path.collapse absolute (if absolute then [] else [n]) ns
        | d :: ds => Path.collapse absolute (if d = ".." then n :: d :: ds else ds) ns
      else Path.collapse absolute (n :: done) ns := by
  cases done <;> rfl

theorem collapse_name {absolute : Bool} {done : List String} {n : String} (h : n ≠ "..")
    (ns : List String) :
    Path.collapse absolute done (n :: ns) = Path.collapse absolute (n :: done) ns := by
  rw [collapse_cons, if_neg h]

theorem collapse_up_nil (ns : List String) :
    Path.collapse true [] (".." :: ns) = Path.collapse true [] ns := by
  rw [collapse_cons, if_pos rfl]
  exact congrArg (Path.collapse true · ns) (if_pos rfl)

theorem collapse_up_cons {absolute : Bool} {d : String} {ds : List String} (h : d ≠ "..")
    (ns : List String) :
    Path.collapse absolute (d :: ds) (".." :: ns) = Path.collapse absolute ds ns := by
  rw [collapse_cons, if_pos rfl]
  exact congrArg (Path.collapse absolute · ns) (if_neg h)

theorem collapse_of_names {absolute : Bool} {done ns : List String} (h : ∀ n ∈ ns, n ≠ "..") :
    Path.collapse absolute done ns = done.reverse ++ ns := by
  induction ns generalizing done with
  | nil => simp [Path.collapse]
  | cons n ns ih =>
    rw [collapse_name (h n List.mem_cons_self), ih fun m hm => h m (List.mem_cons_of_mem n hm),
      List.reverse_cons, List.append_assoc, List.singleton_append]

theorem mem_collapse_onto {done ns : List String} (hdone : ∀ n ∈ done, n ≠ "..") :
    ∀ n ∈ Path.collapse true done ns, (n ∈ done ∨ n ∈ ns) ∧ n ≠ ".." := by
  induction ns generalizing done with
  | nil =>
    intro n hn
    rw [Path.collapse, List.mem_reverse] at hn
    exact ⟨.inl hn, hdone n hn⟩
  | cons m ns ih =>
    intro n hn
    by_cases hm : m = ".."
    · subst hm
      cases done with
      | nil =>
        rw [collapse_up_nil] at hn
        obtain ⟨hmem, hup⟩ := ih hdone n hn
        exact ⟨hmem.imp_right (List.mem_cons_of_mem ".."), hup⟩
      | cons d ds =>
        rw [collapse_up_cons (hdone d List.mem_cons_self)] at hn
        obtain ⟨hmem, hup⟩ := ih (fun x hx => hdone x (List.mem_cons_of_mem d hx)) n hn
        exact ⟨hmem.imp (List.mem_cons_of_mem d) (List.mem_cons_of_mem ".."), hup⟩
    · rw [collapse_name hm] at hn
      obtain ⟨hmem, hup⟩ := ih (List.forall_mem_cons.2 ⟨hm, hdone⟩) n hn
      simp only [List.mem_cons] at hmem ⊢
      exact ⟨or_assoc.1 (hmem.imp_left Or.symm), hup⟩

/-- From a root on, every `..` is taken back. -/
theorem mem_collapse {n : String} {ns : List String} (h : n ∈ Path.collapse true [] ns) :
    n ∈ ns ∧ n ≠ ".." := by
  have start : ∀ n ∈ ([] : List String), n ≠ ".." := nofun
  obtain ⟨hmem, hup⟩ := mem_collapse_onto start n h
  exact ⟨hmem.resolve_left nofun, hup⟩

end JavaStudio
