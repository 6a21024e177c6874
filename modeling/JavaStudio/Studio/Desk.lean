import JavaStudio.Files.Resolve
import JavaStudio.Source.Buffer

/-!
# The desk

The documents of the studio. Every document ever made keeps its place in one list, and its number is
that place. The desk also holds which documents are registered, in the order in which they were added,
and an index from paths to registered documents.
-/

namespace JavaStudio

/-- A document: its text, the file it is kept in and, if it began without one, its number among those
that did. -/
structure Document where
  buffer : Buffer := {}
  path : Option Path := none
  untitled : Option Nat := none
  deriving Inhabited

namespace Document

/-- The name of a document without its mark. -/
def name (d : Document) : String :=
  match d.path, d.untitled with
  | some p, _ => p.name
  | none, some k => s!"Untitled {k}"
  | none, none => "Untitled"

/-- The name of a document, with a star while it is modified. -/
def title (d : Document) : String := if d.buffer.modified then "*" ++ d.name else d.name

/-- The file that a document is kept in. -/
def backing (d : Document) : Except Failure Path :=
  match d.path with
  | some p => .ok p
  | none => .error (.noBackingFile d.title)

end Document

/-- An index from paths to documents. -/
abbrev PathIndex := List (Path × DocId)

namespace PathIndex

/-- The document at a path. -/
def find? (p : Path) : PathIndex → Option DocId
  | [] => none
  | (q, d) :: ix => if q = p then some d else find? p ix

/-- The index without a path. -/
def erase (p : Path) (ix : PathIndex) : PathIndex := ix.filter fun e => e.1 ≠ p

/-- The index with a document at a path. -/
def put (p : Path) (d : DocId) (ix : PathIndex) : PathIndex := (p, d) :: erase p ix

/-- The index without the path that a document had, if it had one. -/
def eraseOld (p : Option Path) (ix : PathIndex) : PathIndex :=
  match p with
  | some p => erase p ix
  | none => ix

theorem find?_erase_same (p : Path) (ix : PathIndex) : find? p (erase p ix) = none := by
  induction ix with
  | nil => rfl
  | cons e ix ih =>
    obtain ⟨q, d⟩ := e
    by_cases h : q = p
    · simpa [erase, h] using ih
    · simpa [erase, h, find?] using ih

theorem find?_erase_other {p q : Path} (h : q ≠ p) (ix : PathIndex) :
    find? q (erase p ix) = find? q ix := by
  induction ix with
  | nil => rfl
  | cons e ix ih =>
    obtain ⟨r, d⟩ := e
    by_cases hr : r = p
    · have hq : r ≠ q := by rw [hr]; exact Ne.symm h
      rw [find?, if_neg hq, ← ih]
      simp [erase, hr]
    · by_cases hq : r = q
      · simp [erase, find?, hq, h]
      · simpa [erase, hr, find?, hq] using ih

theorem find?_put_same (p : Path) (d : DocId) (ix : PathIndex) : find? p (put p d ix) = some d := by
  simp [put, find?]

theorem find?_put_other {p q : Path} (h : q ≠ p) (d : DocId) (ix : PathIndex) :
    find? q (put p d ix) = find? q ix := by
  simp [put, find?, Ne.symm h, find?_erase_other h]

end PathIndex

/-- The documents of the studio. -/
structure Desk where
  documents : List Document := []
  registered : List DocId := []
  index : PathIndex := []
  nextUntitled : Nat := 1
  deriving Inhabited

namespace Desk

/-- The document of a number. -/
def document (k : Desk) (d : DocId) : Document := k.documents[d]?.getD {}

/-- The desk with a document changed. -/
def change (k : Desk) (d : DocId) (f : Document → Document) : Desk :=
  { k with documents := k.documents.modify d f }

/-- The desk with the text of a document changed. -/
def changeBuffer (k : Desk) (d : DocId) (f : Buffer → Buffer) : Desk :=
  k.change d fun doc => { doc with buffer := f doc.buffer }

/-- A document is registered. -/
def holds (k : Desk) (d : DocId) : Bool := k.registered.contains d

/-- The number of the next document to be made. -/
def nextId (k : Desk) : DocId := k.documents.length

/-- The desk with a new document that has no file. -/
def addUntitled (k : Desk) (buffer : Buffer) : Desk :=
  { k with
    documents := k.documents ++ [{ buffer := buffer, untitled := some k.nextUntitled }]
    registered := k.registered ++ [k.nextId]
    nextUntitled := k.nextUntitled + 1 }

/-- The desk with a new document that was read from a file. -/
def addOpened (k : Desk) (p : Path) (buffer : Buffer) : Desk :=
  { k with
    documents := k.documents ++ [{ buffer := buffer, path := some p }]
    registered := k.registered ++ [k.nextId]
    index := k.index.put p k.nextId }

/-- The registered document that the index has at a path. -/
def findAt (k : Desk) (p : Path) : Option DocId :=
  match k.index.find? p with
  | some d => if k.holds d then some d else none
  | none => none

/-- The desk without a registered document and its path. -/
def remove (k : Desk) (d : DocId) : Desk :=
  { k with
    registered := k.registered.erase d
    index := k.index.eraseOld (k.document d).path }

/-- The index after a document moved to a path; one that is not registered has no part in it. -/
def rebind (k : Desk) (d : DocId) (p : Path) : Desk :=
  if k.holds d then { k with index := (k.index.eraseOld (k.document d).path).put p d } else k

/-- The desk after a document was written to a path. -/
def saved (k : Desk) (d : DocId) (p : Path) : Desk :=
  ((k.changeBuffer d Buffer.markSaved).rebind d p).change d fun doc => { doc with path := some p }

/-- The registered document that is kept in the file at a path. -/
def find (fs : Files) (k : Desk) (p : Path) : Except Failure (Option DocId) :=
  match fs.locate p with
  | .ok p => .ok (k.findAt p)
  | .error e => .error e

/-- The failure to take a file that a document already holds. -/
def alreadyOpen (k : Desk) (d : DocId) : Failure := .alreadyOpen d (k.document d).title

/-- The directory that must be searched for the packages of a document. -/
def sourceRoot (k : Desk) (fs : Files) (d : DocId) : Except Failure Path :=
  let doc := k.document d
  match doc.buffer.package with
  | .error e => .error e
  | .ok package => match doc.path with
    | none => .error Package.unsaved
    | some p => Package.rootOf (fs.absolute p) package

/-- The roots and faults of some documents: the distinct roots in the order in which they are first
seen, after those already seen, and one fault for each document without a root. -/
def sourceRootsOf (k : Desk) (fs : Files) :
    List Path → List DocId → Except Failure (List Path × List PackageFault)
  | seen, [] => .ok (seen, [])
  | seen, d :: ds =>
    match k.sourceRoot fs d with
    | .ok p => sourceRootsOf k fs (if seen.contains p then seen else seen ++ [p]) ds
    | .error (.invalidPackage fault) =>
      (sourceRootsOf k fs seen ds).map fun (roots, faults) => (roots, fault :: faults)
    | .error e => .error e

/-- The distinct roots of the registered documents and the faults of those without one. -/
def sourceRoots (k : Desk) (fs : Files) : Except Failure (List Path × List PackageFault) :=
  k.sourceRootsOf fs [] k.registered

/-- The distinct roots of the registered documents, if every one has a root. -/
def sourceRootSet (k : Desk) (fs : Files) : Except Failure (List Path) :=
  match k.sourceRoots fs with
  | .error e => .error e
  | .ok (roots, []) => .ok roots
  | .ok (_, fault :: _) => .error (.invalidPackage fault)

end Desk

end JavaStudio
