import JavaStudio.Proofs.Files.Moved
import JavaStudio.Proofs.Source.LineEnds
import JavaStudio.Proofs.Source.RoundTrip
import JavaStudio.Proofs.Studio.Desk

/-!
# The package of a document and of its file

A document is compiled by the package that its text declares, and the compiler reads the file that the
text was written to. What is read of the file has line feeds for line ends and no mark at its head.

* `Desk.sourceRoot_changeBuffer`: the source root of a document depends on its package only.
* `Buffer.package_of_written`: what is read of a file that was written, and when it declares the package
  that the text declares.
* `Buffer.package_lost`: a line comment that goes on over a carriage return hides a statement that the
  file declares, and so does a mark at the head.
-/

namespace JavaStudio

open Source Package

namespace Desk

theorem sourceRoot_changeBuffer {k : Desk} {fs : Files} {d : DocId} {f : Buffer → Buffer}
    (h : (f (k.document d).buffer).package = (k.document d).buffer.package) :
    (k.changeBuffer d f).sourceRoot fs d = k.sourceRoot fs d := by
  have package : ((k.changeBuffer d f).document d).buffer.package = (k.document d).buffer.package := by
    rw [changeBuffer, document_change]
    split
    · exact h
    · rfl
  unfold sourceRoot
  simp only [package, path_changeBuffer]

end Desk

namespace Buffer

variable {fs fs' : Files} {p : Path} {b : Buffer} {refused : Refusals}

/-- The file of a text can declare another package than the text: a mark stands at the head of the text,
or a line comment in front of the statement hides something behind a carriage return. -/
def Unlike (t : Text) : Prop :=
  t.head? = some markChar ∨ uncovers .code (dropBlocks false t) = true

theorem not_unlike {t : Text} (h : ¬ Unlike t) :
    t.head? ≠ some markChar ∧ uncovers .code (dropBlocks false t) = false :=
  ⟨fun mark => h (.inl mark), Bool.eq_false_iff.2 fun shown => h (.inr shown)⟩

/-- A mark at the head stands in front of the keyword. -/
theorem declared_of_mark {t : Text} (h : t.head? = some markChar) : declared t = .ok [] := by
  obtain ⟨t, rfl⟩ := List.head?_eq_some_iff.1 h
  have silent : Silent (markChar :: bare t) := .cons (by decide) fun u eq => nomatch eq
  have none := Silent.declared (w := []) nofun silent
  rw [declared, bare_cons (by decide)]
  simp only [List.nil_append] at none
  simp only [none, Option.isSome_none, Bool.false_eq_true, if_false]

theorem dropMark_of_head {t : Text} (h : t.head? ≠ some markChar) : dropMark t = t := by
  cases t with
  | nil => rfl
  | cons c t => exact if_neg fun mark => h (by rw [mark, List.head?_cons])

/-- What is read of a file that a text was written to declares what the text declares. -/
theorem declared_of_file {t : Text} (h : ¬ Unlike t) :
    declared (dropMark (dropMark (Text.unixNewlines t))) = declared t := by
  obtain ⟨unmarked, covered⟩ := not_unlike h
  have whole : dropMark (Text.unixNewlines t) = Text.unixNewlines t := by
    rw [← unixNewlines_dropMark, dropMark_of_head unmarked]
  rw [whole, whole, declared_unixNewlines covered]

/-- A text that was written is at the place to which its path leads. -/
theorem spot_of_written {u : Unit} (written : b.writeUnder refused p fs = (.ok u, fs')) :
    ∃ s, fs.spot .entry p = .ok s ∧
      fs'.tree.get? s.location = some (.file (Utf8.encode (Text.unixNewlines b.text))) ∧
      (fs.Direct p → fs'.spot .target p =
        .ok (.entry s.location (.file (Utf8.encode (Text.unixNewlines b.text))))) := by
  obtain ⟨place, replaced⟩ := writeUnder_ok written
  obtain ⟨s, leads, rfl⟩ := replaced.leads
  refine ⟨s, leads, replaced.get?, fun direct => ?_⟩
  rw [replaced.files]
  exact Files.spot_put leads replaced.replaceable direct _ .target nofun

/-- A text that was written is read with line feeds for its line ends and without marks at its head. -/
theorem read_of_spot {l : Location} {t : Text}
    (h : fs.spot .target p = .ok (.entry l (.file (Utf8.encode (Text.unixNewlines t))))) (b : Buffer) :
    b.read fs p = .ok { b with
      text := dropMark (dropMark (Text.unixNewlines t)), place := .whole 0, modified := false } := by
  have twice := Text.unixNewlines_of_not_mem (Text.return_not_mem_unixNewlines t)
  rw [read, Source.read, Files.readBytes_of_spot h]
  simp only [textOf_encode, unixNewlines_dropMark, twice]

/-- A text that was written is at the place to which its path leads, and is read there with line feeds
for its line ends and without marks at its head. What is read declares the package that the text
declares, and gives a document the same source root, unless a mark or a line comment gets in between. A
text with a mark declares none, whatever its file declares. -/
theorem package_of_written {u : Unit} (written : b.writeUnder refused p fs = (.ok u, fs')) :
    ∃ s, fs.spot .entry p = .ok s ∧
      (fs.Direct p → ∃ e, fs'.spot .target p = .ok (.entry s.location e)) ∧
      ∀ q e, fs'.spot .target q = .ok (.entry s.location e) → ∀ fresh : Buffer, ∃ read,
        fresh.read fs' q = .ok read ∧
          read.text = dropMark (dropMark (Text.unixNewlines b.text)) ∧
          (b.text.head? = some markChar → b.package = .ok []) ∧
          (¬ Unlike b.text → read.package = b.package ∧
            ∀ k d, (Desk.document k d).buffer = b →
              (k.changeBuffer d fun _ => read).sourceRoot fs' d = k.sourceRoot fs' d) := by
  obtain ⟨s, leads, stored, found⟩ := spot_of_written written
  refine ⟨s, leads, fun direct => ⟨_, found direct⟩, fun q e there fresh => ?_⟩
  have stands := (Files.spot_eq_ok.1 there).2.2.stands rfl
  rw [stored, Option.some.injEq] at stands
  subst stands
  refine ⟨_, read_of_spot there fresh, rfl, declared_of_mark, fun like => ?_⟩
  have package := declared_of_file like
  refine ⟨package, fun k d held => Desk.sourceRoot_changeBuffer ?_⟩
  rw [held]
  exact package

/-- A package behind comments of which the first ends with a carriage return and the second with both
characters, and with lone carriage returns among its blanks. -/
theorem package_of_written_mixed : ∃ fs' read,
    ({ text := Text.ofString "// x\r// y\r\n\rpackage\ra . b; // y\rz" } : Buffer).write ⟨.root, ["a"]⟩
      { tree := ⟨[]⟩ } = (.ok (), fs') ∧
    ({} : Buffer).read fs' ⟨.root, ["a"]⟩ = .ok read ∧
    read.text = Text.ofString "// x\n// y\n\npackage\na . b; // y\nz" ∧
    read.package = .ok (Text.ofString "a.b") := by
  have run : ∃ fs', ({ text := Text.ofString "// x\r// y\r\n\rpackage\ra . b; // y\rz" } : Buffer).writeUnder
      (fun _ => none) ⟨.root, ["a"]⟩ { tree := ⟨[]⟩ } = (.ok (), fs') := ⟨_, rfl⟩
  obtain ⟨fs', run⟩ := run
  have direct : Files.Direct { tree := ⟨[]⟩ } ⟨.root, ["a"]⟩ :=
    Files.direct_of_unlinked fun _ _ h => by cases h
  obtain ⟨s, -, found, readable⟩ := package_of_written run
  obtain ⟨e, there⟩ := found direct
  obtain ⟨read, reading, text, -, same⟩ := readable _ e there {}
  have like : ¬ Unlike (Text.ofString "// x\r// y\r\n\rpackage\ra . b; // y\rz") := by
    rintro (mark | shown)
    · revert mark
      decide
    · revert shown
      decide
  have package : declared (Text.ofString "// x\r// y\r\n\rpackage\ra . b; // y\rz") =
      .ok (Text.ofString "a.b") := rfl
  exact ⟨fs', read, run, reading, text.trans (by decide), (same like).1.trans package⟩

/-- A text declares no package, and what is read of the file that it was written to declares one. -/
def Hides (t package : Text) : Prop :=
  ∃ fs' read,
    ({ text := t } : Buffer).write ⟨.root, ["a"]⟩ { tree := ⟨[]⟩ } = (.ok (), fs') ∧
    ({ text := t } : Buffer).package = .ok [] ∧
    ({} : Buffer).read fs' ⟨.root, ["a"]⟩ = .ok read ∧ read.package = .ok package

theorem hides_of_declared {t package : Text}
    (written : ∃ fs', ({ text := t } : Buffer).writeUnder (fun _ => none) ⟨.root, ["a"]⟩
      { tree := ⟨[]⟩ } = (.ok (), fs'))
    (hidden : declared t = .ok [])
    (shown : declared (dropMark (dropMark (Text.unixNewlines t))) = .ok package) : Hides t package := by
  have direct : Files.Direct { tree := ⟨[]⟩ } ⟨.root, ["a"]⟩ :=
    Files.direct_of_unlinked fun _ _ h => by cases h
  obtain ⟨fs', run⟩ := written
  obtain ⟨s, -, -, found⟩ := spot_of_written run
  exact ⟨fs', _, run, hidden, read_of_spot (found direct) {}, shown⟩

/-- The statement behind a carriage return is part of the comment in the text and none in the file; a
mark at the head of the text hides the statement behind it. -/
theorem package_lost :
    Hides (Text.ofString "// x\rpackage a;") (Text.ofString "a") ∧
      Hides (markChar :: Text.ofString "package a;") (Text.ofString "a") :=
  ⟨hides_of_declared ⟨_, rfl⟩ rfl rfl, hides_of_declared ⟨_, rfl⟩ rfl rfl⟩

end Buffer

end JavaStudio
