import JavaStudio.Text.Quoted

/-!
# Paths

A path is an anchor and the names below it. Reading a path drops empty and `.` components and keeps
`..`, because the directory above a link's target need not be the one above the link. Two leading
slashes are an anchor of their own; three or more are one.
-/

namespace JavaStudio

/-- Where a path starts. -/
inductive Anchor
  | here
  | root
  | doubleRoot
  deriving DecidableEq, Repr, Inhabited

/-- A path: an anchor and the names that lead on from it. -/
structure Path where
  anchor : Anchor
  parts : List String
  deriving DecidableEq, Repr, Inhabited

namespace Path

/-- The parts of a text between slashes that name something. -/
def components (t : Text) : List String :=
  ((Text.splitAt (· == '/') t).filter fun p => !p.isEmpty && p != ['.']).map String.ofList

/-- The anchor that a text begins with. -/
def anchorOf : Text → Anchor
  | '/' :: '/' :: '/' :: _ => .root
  | '/' :: '/' :: _ => .doubleRoot
  | '/' :: _ => .root
  | _ => .here

/-- The path that a text spells. -/
def ofText (t : Text) : Path := ⟨anchorOf t, components t⟩

/-- The path that a string spells. -/
def ofString (s : String) : Path := ofText s.toList

/-- The text of an anchor. -/
def anchorText : Anchor → String
  | .here => ""
  | .root => "/"
  | .doubleRoot => "//"

/-- The spelling of a path; the empty relative path is a dot. -/
def toString (p : Path) : String :=
  match p.anchor, p.parts with
  | .here, [] => "."
  | a, parts => anchorText a ++ "/".intercalate parts

/-- The path starts at a root. -/
def isAbsolute (p : Path) : Bool := p.anchor != .here

/-- The last name, empty at an anchor. -/
def name (p : Path) : String := p.parts.getLast?.getD ""

/-- The path without its last name; an anchor is its own parent. -/
def parent (p : Path) : Path := { p with parts := p.parts.dropLast }

/-- The path one name further. -/
def child (p : Path) (name : String) : Path := { p with parts := p.parts ++ [name] }

/-- `q` seen from `p`: an absolute path stays as it is. -/
def join (p q : Path) : Path :=
  match q.anchor with
  | .here => { p with parts := p.parts ++ q.parts }
  | _ => q

/-- The path one step up by spelling alone. A root is its own parent, and a relative path with no name
left to take back gets a `..`. -/
def up (p : Path) : Path :=
  match p.parts.getLast? with
  | none => if p.isAbsolute then p else p.child ".."
  | some n => if n = ".." then p.child ".." else p.parent

/-- The names with every `..` taken back against the name before it, in reverse onto `done`. A `..`
above the root is dropped, and above a relative start it is kept. -/
def collapse (absolute : Bool) : List String → List String → List String
  | done, [] => done.reverse
  | done, n :: ns =>
    if n = ".." then
      match done with
      | [] => collapse absolute (if absolute then [] else [n]) ns
      | d :: ds => collapse absolute (if d = ".." then n :: d :: ds else ds) ns
    else collapse absolute (n :: done) ns

/-- The path with every `..` taken back by spelling alone. -/
def normalized (p : Path) : Path := { p with parts := collapse p.isAbsolute [] p.parts }

/-- The part of a name before its last dot, unless the dot begins or ends the name. -/
def stem (name : Text) : Text :=
  let tail := name.reverse.takeWhile (· != '.')
  let head := name.take (name.length - tail.length - 1)
  if tail.length < name.length && !tail.isEmpty && !head.isEmpty then head else name

/-- The path with another suffix on its last name, if it has a name. -/
def withSuffix? (suffix : String) (p : Path) : Option Path :=
  if p.name = "" then none
  else some (p.parent.child (String.ofList (stem p.name.toList) ++ suffix))

/-- How messages show a path. -/
def shown (p : Path) : String := "PosixPath(" ++ quoted p.toString ++ ")"

@[simp] theorem name_child (p : Path) (n : String) : (p.child n).name = n := by
  simp [name, child]

@[simp] theorem parent_child (p : Path) (n : String) : (p.child n).parent = p := by
  simp [parent, child]

/-- A path with a name is its parent and that name. -/
theorem child_parent_name {p : Path} (h : p.parts ≠ []) : p.parent.child p.name = p := by
  obtain ⟨a, ps⟩ := p
  simp only [child, parent, name, mk.injEq, true_and]
  rw [List.getLast?_eq_some_getLast h, Option.getD_some]
  exact List.dropLast_concat_getLast h

end Path

end JavaStudio
