import JavaStudio.Proofs.Files.Names
import JavaStudio.Source.Package
import Mathlib.Data.List.Induction

/-!
# The way up from a file

A package is cut into segments, and the way up from the directory of a file takes back one name for
each of them, the last segment first.

* `climb_join`: segments that name the last directories of a path are all taken back.
* `climb_ascent`: a climb comes to the directory above all segments, or stops at a directory of
  another name, or stops at a root, whose empty name an empty segment has.
* `rootOf_exact`: which of these comes of a file and a package, and with what.
-/

namespace JavaStudio

namespace Path

variable {p : Path}

/-- No name of the path is empty. -/
def Named (p : Path) : Prop := ∀ n ∈ p.parts, n ≠ ""

/-- The path is a root of the file system. -/
def IsRoot (p : Path) : Prop := p.isAbsolute = true ∧ p.parts = []

theorem named_ofText (t : Text) : (ofText t).Named := by
  intro n hn
  obtain ⟨u, hu, rfl⟩ := List.mem_map.1 hn
  have kept := (List.mem_filter.1 hu).2
  intro hempty
  rw [show u = [] by simpa using congrArg String.toList hempty] at kept
  cases kept

theorem Named.parent (h : p.Named) : p.parent.Named := fun n hn => h n (List.dropLast_subset _ hn)

theorem parent_ne_self (h : p.parts ≠ []) : p.parent ≠ p := by
  intro hp
  have hlen : p.parts.dropLast.length = p.parts.length := congrArg (·.parts.length) hp
  have hpos : 0 < p.parts.length := List.length_pos_iff.2 h
  rw [List.length_dropLast] at hlen
  omega

theorem Named.below {names : List String} (h : (p.join ⟨.here, names⟩).Named) :
    ∀ n ∈ names, n ≠ "" :=
  fun n hn => h n (List.mem_append_right _ hn)

theorem join_concat (p : Path) (names : List String) (n : String) :
    p.join ⟨.here, names ++ [n]⟩ = (p.join ⟨.here, names⟩).child n := by
  simp [join, child]

end Path

namespace Package

open Text

/-! ## Segments -/

/-- A text is cut into the parts between its separators. -/
inductive Cut : Text → List String → Prop
  | last {u : Text} : (∀ c ∈ u, isSeparator c = false) → Cut u [String.ofList u]
  | more {u t : Text} {c : Char} {ss : List String} : (∀ x ∈ u, isSeparator x = false) →
      isSeparator c = true → Cut t ss → Cut (u ++ c :: t) (String.ofList u :: ss)

theorem Cut.segments {t : Text} {ss : List String} (h : Cut t ss) :
    (splitAt isSeparator t).map String.ofList = ss := by
  induction h with
  | last hu => simp [splitAt_of_none hu]
  | more hu hc _ ih => simp [splitAt_append_cons hu hc, ih]

theorem cut_splitAt (t : Text) : Cut t ((splitAt isSeparator t).map String.ofList) := by
  induction t with
  | nil => exact .last (by simp)
  | cons c t ih =>
    cases hc : isSeparator c with
    | true =>
      rw [splitAt, if_pos hc]
      exact .more (u := []) (by simp) hc ih
    | false =>
      -- the character goes in front of the first part
      generalize hss : (splitAt isSeparator t).map String.ofList = ss at ih
      cases ih with
      | last ht =>
        have whole : ∀ x ∈ c :: t, isSeparator x = false := List.forall_mem_cons.2 ⟨hc, ht⟩
        rw [splitAt_of_none whole]
        exact .last whole
      | more hu hd rest =>
        have first : ∀ x ∈ c :: _, isSeparator x = false := List.forall_mem_cons.2 ⟨hc, hu⟩
        rw [← List.cons_append, splitAt_append_cons first hd, List.map_cons, rest.segments]
        exact .more first hd rest

/-- A package that is not the default one has the parts between its separators as segments. -/
theorem segments_eq_iff {package : Text} (h : package ≠ []) {ss : List String} :
    segments package = ss ↔ Cut package ss := by
  rw [segments, if_neg h]
  constructor
  · intro hss
    rw [← hss]
    exact cut_splitAt package
  · exact Cut.segments

/-! ## Climbing -/

variable {file root : Path}

theorem climb_join (file dir : Path) (later rest : List String) :
    climb file (dir.join ⟨.here, later⟩) (later.reverse ++ rest) = climb file dir rest := by
  induction later using List.reverseRecOn with
  | nil => simp [Path.join]
  | append_singleton later s ih =>
    have below : ((dir.join ⟨.here, later⟩).child s).parts ≠ [] := by simp [Path.child]
    rw [Path.join_concat, List.reverse_concat, List.cons_append, climb, Path.name_child,
      if_neg (by simp), if_neg (Path.parent_ne_self below), Path.parent_child, ih]

theorem climb_top {top : Path} (high : top.parts = []) (rest : List String) :
    climb file top ("" :: rest) = .error (.noParentDirectory top) := by
  obtain ⟨anchor, parts⟩ := top
  obtain rfl : parts = [] := high
  have self : (⟨anchor, []⟩ : Path).parent = ⟨anchor, []⟩ := rfl
  rw [climb, if_neg (by simp [Path.name]), if_pos self]

/-- How a climb for some segments ends. -/
inductive Ascent (file start : Path) : List String → Except Failure Path → Prop
  /-- All segments are taken back. -/
  | root {root : Path} {ss : List String} : start = root.join ⟨.here, ss⟩ →
      Ascent file start ss (.ok root)
  /-- The later segments are taken back, and the next one is not the name of the directory. -/
  | mismatch {dir : Path} {before later : List String} {s : String} :
      start = dir.join ⟨.here, later⟩ → s ≠ dir.name →
      Ascent file start (before ++ s :: later) (.error (mismatch file dir s))
  /-- The later segments are taken back up to the top, and the next one is empty. -/
  | top {top : Path} {before later : List String} : start = top.join ⟨.here, later⟩ →
      top.parts = [] → Ascent file start (before ++ "" :: later) (.error (.noParentDirectory top))

theorem climb_ascent (file start : Path) (ss : List String) :
    Ascent file start ss (climb file start ss.reverse) := by
  induction ss using List.reverseRecOn generalizing start with
  | nil => exact .root (by simp [Path.join])
  | append_singleton ss s ih =>
    have here : start = start.join ⟨.here, []⟩ := by simp [Path.join]
    rw [List.reverse_concat]
    by_cases hs : s ≠ start.name
    · rw [climb, if_pos hs]
      exact .mismatch here hs
    · obtain rfl : s = start.name := Decidable.not_not.1 hs
      by_cases htop : start.parts = []
      · have unnamed : start.name = "" := by rw [Path.name, htop]; rfl
        rw [unnamed, climb_top htop]
        exact .top here htop
      · have back : start = start.parent.child start.name := (Path.child_parent_name htop).symm
        rw [climb, if_neg hs, if_neg (Path.parent_ne_self htop)]
        have up := ih start.parent
        -- what is above the parent is above the start by one name more
        generalize climb file start.parent ss.reverse = r at up
        cases up with
        | root above =>
          refine .root ?_
          rwa [Path.join_concat, ← above]
        | @mismatch dir before later x above other =>
          rw [List.append_assoc, List.cons_append]
          refine .mismatch ?_ other
          rwa [Path.join_concat, ← above]
        | @top top before later above high =>
          rw [List.append_assoc, List.cons_append]
          refine .top ?_ high
          rwa [Path.join_concat, ← above]

/-! ## The source root -/

theorem rootOf_of_parent {package : Text}
    (above : file.parent = root.join ⟨.here, segments package⟩) : rootOf file package = .ok root := by
  have up := climb_join file root (segments package) []
  rw [List.append_nil] at up
  rw [rootOf, above, up, climb]

/-- The source root of a file is the directory below which the segments of its package lead to the
directory of the file, none of them empty. The climb comes to the root of the file system just if all
segments behind an empty one lead there. Otherwise it fails at the last segment that is not the name of
the directory in its place. -/
theorem rootOf_exact (absolute : file.isAbsolute = true) (named : file.Named) (package : Text) :
    (package = [] → segments package = []) ∧ (package ≠ [] → Cut package (segments package)) ∧
    (∀ root, rootOf file package = .ok root ↔
      (∀ s ∈ segments package, s ≠ "") ∧ file.parent = root.join ⟨.here, segments package⟩) ∧
    (∀ top, rootOf file package = .error (.noParentDirectory top) ↔
      ∃ before later : List String, segments package = before ++ "" :: later ∧ (∀ s ∈ later, s ≠ "") ∧
        top.IsRoot ∧ file.parent = top.join ⟨.here, later⟩) ∧
    ((∀ root, rootOf file package ≠ .ok root) →
      (∀ top, rootOf file package ≠ .error (.noParentDirectory top)) →
      ∃ (before later : List String) (s : String) (dir : Path) (fault : PackageFault),
        segments package = before ++ s :: later ∧ file.parent = dir.join ⟨.here, later⟩ ∧ s ≠ dir.name ∧
        rootOf file package = .error (.invalidPackage fault) ∧
        fault.component = some s ∧ fault.directory = some dir.name ∧ fault.path = some file) := by
  have up : Ascent file file.parent (segments package) (rootOf file package) :=
    climb_ascent file file.parent _
  refine ⟨fun h => by rw [h]; rfl, fun h => (segments_eq_iff h).1 rfl, fun root => ⟨fun h => ?_, ?_⟩,
    fun top => ⟨fun h => ?_, ?_⟩, fun rootless low => ?_⟩
  · rw [h] at up
    generalize segments package = ss at up ⊢
    cases up with
    | root above => exact ⟨Path.Named.below (above ▸ named.parent), above⟩
  · intro ⟨_, above⟩
    exact rootOf_of_parent above
  · rw [h] at up
    generalize segments package = ss at up ⊢
    cases up with
    | @top _ before later above high =>
      refine ⟨before, later, rfl, Path.Named.below (above ▸ named.parent), ⟨?_, high⟩, above⟩
      have anchored : file.parent.isAbsolute = (top.join ⟨.here, later⟩).isAbsolute := by rw [above]
      exact anchored.symm.trans absolute
  · intro ⟨before, later, hss, _, ⟨_, high⟩, above⟩
    have empty := climb_join file top later ("" :: before.reverse)
    rw [rootOf, above, hss, List.reverse_append, List.reverse_cons, List.append_assoc,
      List.singleton_append, empty, climb_top high]
  · generalize segments package = ss at up ⊢
    generalize rootOf file package = r at up rootless low ⊢
    cases up with
    | root => exact absurd rfl (rootless _)
    | top => exact absurd rfl (low _)
    | @mismatch dir before later s above other =>
      exact ⟨before, later, s, dir, _, rfl, above, other, rfl, rfl, rfl, rfl⟩

theorem rootOf_exact_nested :
    (Path.ofText "/src/a/b/C.java".toList).isAbsolute = true ∧
      (Path.ofText "/src/a/b/C.java".toList).Named ∧
      rootOf (Path.ofText "/src/a/b/C.java".toList) "a/b".toList = .ok ⟨.root, ["src"]⟩ := by
  have named := Path.named_ofText "/src/a/b/C.java".toList
  have absolute : (Path.ofText "/src/a/b/C.java".toList).isAbsolute = true := by decide
  obtain ⟨-, -, roots, -, -⟩ := rootOf_exact absolute named "a/b".toList
  exact ⟨absolute, named, (roots ⟨.root, ["src"]⟩).2 ⟨by decide, by decide⟩⟩

end Package

end JavaStudio
