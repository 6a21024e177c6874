import JavaStudio.Proofs.Act
import JavaStudio.Proofs.Source.Climb
import JavaStudio.Proofs.Source.Header
import JavaStudio.Studio.Command
import Mathlib.Data.List.Induction
import Mathlib.Data.List.TakeWhile

/-!
# Source roots of documents

The name that a text declares is a row of identifiers between dots, so no segment of it is empty. On
the way up from a file every segment is compared with the name of a directory, and a root has no
name: the climb ends before it could go past the root.

* `rootOf_rooting`: from a declared package the climb finds the directory below which the segments
  lead to the file, or reports the directory that does not fit.
* `sourceRoots_resolve`: every document has a source root or a fault of its package, and the roots
  and faults of all registered documents can be had, whatever the documents are.
-/

namespace JavaStudio

/-! ## Declared names -/

namespace Package

open Text

/-- Identifiers with dots between them. -/
inductive Dotted : Text → Prop
  | one {x : Text} : Identifier x → Dotted x
  | more {x name : Text} : Identifier x → Dotted name → Dotted (x ++ '.' :: name)

theorem Identifier.ne_nil {x : Text} (h : Identifier x) : x ≠ [] := by
  cases h
  nofun

theorem Identifier.not_separator {x : Text} (h : Identifier x) : ∀ c ∈ x, isSeparator c = false := by
  intro c hc
  have part := h.part c hc
  cases hs : isSeparator c with
  | false => rfl
  | true =>
    simp only [isSeparator, Bool.or_eq_true, beq_iff_eq] at hs
    rcases hs with rfl | rfl <;> revert part <;> decide

theorem identifier_of_read {t x after : Text} (h : identifier? t = some (x, after)) :
    Identifier x := by
  cases t with
  | nil => cases h
  | cons c t =>
    rw [identifier?] at h
    split at h
    · rename_i start
      cases h
      exact .mk start fun d hd => List.mem_takeWhile_imp hd
    · cases h

/-- What is read behind an identifier is nothing more, or a dot and a name. -/
theorem dotted_of_rest {steps : Nat} {t rest : Text} (h : dottedRest steps t = some rest) :
    rest = [] ∨ ∃ name, Dotted name ∧ rest = '.' :: name := by
  induction steps generalizing t rest with
  | zero => cases h
  | succ steps ih =>
    rw [dottedRest] at h
    split at h
    · exact .inl (Option.some.inj h).symm
    · split at h
      · rename_i x after hread
        obtain ⟨rest, hrest, rfl⟩ := Option.map_eq_some_iff.1 h
        have hx := identifier_of_read hread
        right
        rcases ih hrest with rfl | ⟨name, hname, rfl⟩
        · exact ⟨x, .one hx, by rw [List.append_nil]⟩
        · exact ⟨x ++ '.' :: name, .more hx hname, rfl⟩
      · cases h
    · cases h

theorem dotted_of_dotted? {t name : Text} (h : dotted? t = some name) : Dotted name := by
  unfold dotted? at h
  split at h
  · rename_i x after hread
    obtain ⟨rest, hrest, rfl⟩ := Option.map_eq_some_iff.1 h
    have hx := identifier_of_read hread
    rcases dotted_of_rest hrest with rfl | ⟨name, hname, rfl⟩
    · rw [List.append_nil]
      exact .one hx
    · exact .more hx hname
  · cases h

/-- What is declared is the default package or a dotted name, and what is refused is malformed. -/
theorem declared_cases (t : Text) :
    (∃ name, declared t = .ok name ∧ (name = [] ∨ Dotted name)) ∨ declared t = .error malformed := by
  unfold declared
  simp only
  cases hname : statement? (bare t) with
  | some name =>
    refine .inl ⟨name, rfl, .inr ?_⟩
    rw [statement?] at hname
    split at hname
    · split at hname
      · exact dotted_of_dotted? hname
      · cases hname
    · cases hname
  | none =>
    simp only
    split
    · exact .inr rfl
    · exact .inl ⟨[], rfl, .inl rfl⟩

theorem Dotted.parts {name : Text} (h : Dotted name) : ∀ u ∈ splitAt isSeparator name, u ≠ [] := by
  induction h with
  | one hx =>
    rw [splitAt_of_none hx.not_separator]
    intro u hu
    rw [List.mem_singleton.1 hu]
    exact hx.ne_nil
  | more hx _ ih =>
    rw [splitAt_append_cons hx.not_separator (by decide)]
    exact List.forall_mem_cons.2 ⟨hx.ne_nil, ih⟩

/-- No segment of a declared package is empty. -/
theorem segments_ne_empty {t name : Text} (h : declared t = .ok name) :
    ∀ s ∈ segments name, s ≠ "" := by
  rcases declared_cases t with ⟨name', hname, hdotted⟩ | herror
  · rw [hname] at h
    cases h
    intro s hs
    rcases hdotted with rfl | hdotted
    · cases hs
    · rw [segments] at hs
      split at hs
      · cases hs
      · obtain ⟨u, hu, rfl⟩ := List.mem_map.1 hs
        intro hempty
        exact hdotted.parts u hu (by simpa using congrArg String.toList hempty)
  · rw [herror] at h
    cases h

/-! ## The way up -/

/-- How a climb for some segments ends: at the directory below which the segments lead to where the
climb began, or with a directory that does not have the name of its segment. -/
inductive Climb (start : Path) (segments : List String) : Except Failure Path → Prop
  | root {root : Path} : start = root.join ⟨.here, segments⟩ → Climb start segments (.ok root)
  | mismatch {fault : PackageFault} : Climb start segments (.error (.invalidPackage fault))

/-- From a declared package the way up comes to a directory or to a mismatch. -/
theorem rootOf_rooting (file : Path) {t package : Text} (h : declared t = .ok package) :
    Climb file.parent (segments package) (rootOf file package) := by
  have filled := segments_ne_empty h
  have up : Ascent file file.parent (segments package) (rootOf file package) :=
    climb_ascent file file.parent _
  generalize segments package = ss at up filled ⊢
  generalize rootOf file package = r at up ⊢
  cases up with
  | root above => exact .root above
  | mismatch => exact .mismatch
  -- only an empty segment has the name of a root
  | top => exact absurd rfl (filled "" (by simp))

end Package

/-! ## Documents -/

namespace Desk

/-- How looking for the source root of a document ends: with the directory below which the segments of
its package lead to the directory of its file, or with a fault of its package. -/
inductive Rooting (fs : Files) (doc : Document) : Except Failure Path → Prop
  | root {package : Text} {file root : Path} : doc.buffer.package = .ok package →
      doc.path = some file →
      (fs.absolute file).parent = root.join ⟨.here, Package.segments package⟩ →
      Rooting fs doc (.ok root)
  | fault {fault : PackageFault} : Rooting fs doc (.error (.invalidPackage fault))

theorem sourceRoot_rooting (k : Desk) (fs : Files) (d : DocId) :
    Rooting fs (k.document d) (k.sourceRoot fs d) := by
  unfold sourceRoot
  rcases Package.declared_cases (k.document d).buffer.text with ⟨package, hpackage, -⟩ | hmalformed
  · have hdeclared : (k.document d).buffer.package = .ok package := hpackage
    simp only [hdeclared]
    cases hpath : (k.document d).path with
    | none => exact .fault
    | some file =>
      simp only
      have up := Package.rootOf_rooting (fs.absolute file) hpackage
      generalize Package.rootOf (fs.absolute file) package = r at up
      cases up with
      | root hroot => exact .root hdeclared hpath hroot
      | mismatch => exact .fault
  · have hdeclared : (k.document d).buffer.package = .error Package.malformed := hmalformed
    simp only [hdeclared]
    exact .fault

/-- The source root of a document that has one. -/
def root? (k : Desk) (fs : Files) (d : DocId) : Option Path := (k.sourceRoot fs d).toOption

/-- The fault of a document without a source root. -/
def fault? (k : Desk) (fs : Files) (d : DocId) : Option PackageFault :=
  match k.sourceRoot fs d with
  | .error (.invalidPackage fault) => some fault
  | _ => none

theorem eraseDups_concat {α : Type} [BEq α] [LawfulBEq α] (xs : List α) (p : α) :
    (xs ++ [p]).eraseDups =
      if xs.eraseDups.contains p then xs.eraseDups else xs.eraseDups ++ [p] := by
  rw [List.eraseDups_append]
  by_cases h : p ∈ xs <;> simp [List.removeAll, List.eraseDups_cons, h]

theorem nodup_eraseDups {α : Type} [BEq α] [LawfulBEq α] (xs : List α) : xs.eraseDups.Nodup := by
  induction xs using List.reverseRecOn with
  | nil => simp
  | append_singleton xs p ih =>
    rw [eraseDups_concat]
    split
    · exact ih
    · rename_i h
      have fresh : p ∉ xs.eraseDups := fun hp => h (List.contains_iff_mem.2 hp)
      refine List.nodup_append.2 ⟨ih, List.pairwise_singleton _ p, fun q hq r hr => ?_⟩
      rw [List.mem_singleton.1 hr]
      exact fun hqp => fresh (hqp ▸ hq)

/-- With the roots seen so far, the documents that follow add theirs in order. -/
theorem sourceRootsOf_eq (k : Desk) (fs : Files) (seen : List Path) (ds : List DocId) :
    k.sourceRootsOf fs seen.eraseDups ds =
      .ok ((seen ++ ds.filterMap (k.root? fs)).eraseDups, ds.filterMap (k.fault? fs)) := by
  induction ds generalizing seen with
  | nil => simp [sourceRootsOf]
  | cons d ds ih =>
    have rooting := k.sourceRoot_rooting fs d
    rw [sourceRootsOf]
    generalize hr : k.sourceRoot fs d = r at rooting
    cases rooting with
    | @root _ _ root _ _ _ =>
      have first : k.root? fs d = some root := by rw [root?, hr]; rfl
      have sound : k.fault? fs d = none := by rw [fault?, hr]
      simp only [← eraseDups_concat, ih, List.filterMap_cons, first, sound, List.append_assoc,
        List.singleton_append]
    | @fault fault =>
      have rootless : k.root? fs d = none := by rw [root?, hr]; rfl
      have first : k.fault? fs d = some fault := by rw [fault?, hr]
      simp only [ih, List.filterMap_cons, rootless, first]
      rfl

end Desk

/-! ## The studio -/

namespace Studio

variable {S : Type}

/-- Every document has a source root or a fault of its package. The source roots of all registered
documents can be had: the roots of those that have one, each once and in the order in which they are
first seen, and one fault for each of the others in the order of the documents. -/
theorem sourceRoots_resolve (c : Collaborators S) (s : Studio S) :
    (∀ d, ∃ r, Studio.sourceRoot d s = some (r, s) ∧
      Desk.Rooting s.host.files (s.desk.document d) r) ∧
    ∃ roots faults, StudioCommand.sourceRoots.run c s =
        some (.ok (.rootsAndFaults roots faults), s) ∧
      roots = (s.desk.registered.filterMap (s.desk.root? s.host.files)).eraseDups ∧ roots.Nodup ∧
      faults = s.desk.registered.filterMap (s.desk.fault? s.host.files) := by
  refine ⟨fun d => ⟨_, rfl, s.desk.sourceRoot_rooting s.host.files d⟩, _, _, ?_, rfl,
    Desk.nodup_eraseDups _, rfl⟩
  have resolved := s.desk.sourceRootsOf_eq s.host.files [] s.desk.registered
  exact Act.bind_of_ok (x := fun s => some (s.desk.sourceRoots s.host.files, s))
    (congrArg (fun r => some (r, s)) resolved) _

end Studio

end JavaStudio
