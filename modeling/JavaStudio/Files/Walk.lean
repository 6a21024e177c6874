import JavaStudio.Files.Tree

/-!
# Walking a path

`Tree.walk` leads a list of names from a directory to a spot of the tree. The directories passed on the
way down are kept, so that `..` leads back. A link on the way is replaced by the names of its target; a
walk through more than forty links is refused.
-/

namespace JavaStudio

/-- Where a walk ends: at an entry, or at a name that a directory does not have. -/
inductive Spot
  | entry (place : Location) (found : Entry)
  | vacant (directory : Location) (name : String)
  deriving Repr

/-- The location of a spot. -/
def Spot.location : Spot → Location
  | entry place _ => place
  | vacant directory name => directory ++ [name]

/-- What a walk is for: the entry of the last name itself, what that leads to through links, or a file
to be written there. -/
inductive Aim
  | entry
  | target
  | writing
  deriving DecidableEq, Repr

/-- The names of a text between slashes; a slash at its end leaves an empty name. -/
def namesOf (text : String) : List String :=
  (Text.splitAt (· == '/') text.toList).map String.ofList

/-- Whether a text starts at the root. -/
def startsAtRoot (text : String) : Bool := text.toList.head? = some '/'

/-- Nothing follows a name but slashes, so that it is taken for a directory. -/
def onlySlashes (names : List String) : Bool := !names.isEmpty && names.all (·.isEmpty)

/-- The longest name in bytes. -/
def maxNameBytes : Nat := 255

/-- A name that no directory can hold. -/
def tooLong (name : String) : Bool := maxNameBytes < name.utf8ByteSize

/-- The links that one walk may go through. -/
def maxLinks : Nat := 40

/-- The directories that a walk is in, the innermost first, each with its name; the root has none. -/
abbrev Trail := List (String × Folder)

namespace Trail

/-- The location of the innermost directory. -/
def location (w : Trail) : Location := (w.map (·.1)).reverse

/-- The innermost directory. -/
def folder (root : Folder) : Trail → Folder
  | [] => root
  | (_, f) :: _ => f

end Trail

namespace Tree

/-- Walks the names from a trail and hands over at a link: the trail that the link's target starts
from, with the names of the target and those still to come. A link at the end is handed over unless
its own entry is wanted. No file is written under a name that a slash follows. -/
def walkTo (tree : Tree) (aim : Aim) (onLink : Trail → List String → Except FileFault Spot)
    (trail : Trail) : List String → Except FileFault Spot
  | [] => .ok (.entry trail.location (.directory (trail.folder tree.root)))
  | n :: ns =>
    if n = "" || n = "." then walkTo tree aim onLink trail ns
    else if n = ".." then walkTo tree aim onLink (trail.drop 1) ns
    else if aim = .writing && onlySlashes ns then .error .isDirectory
    else if tooLong n then .error .nameTooLong
    else match (trail.folder tree.root).find? n with
      | none => if ns.isEmpty then .ok (.vacant trail.location n) else .error .notFound
      | some (.directory f) => walkTo tree aim onLink ((n, f) :: trail) ns
      | some (.file content) =>
        if ns.isEmpty then .ok (.entry (trail.location ++ [n]) (.file content))
        else .error .notDirectory
      | some (.link target) =>
        if ns.isEmpty && aim = .entry then .ok (.entry (trail.location ++ [n]) (.link target))
        else onLink (if startsAtRoot target then [] else trail) (namesOf target ++ ns)

/-- Walks through at most `links` links. -/
def walk (tree : Tree) (aim : Aim) : Nat → Trail → List String → Except FileFault Spot
  | 0 => tree.walkTo aim fun _ _ => .error .tooManyLinks
  | links + 1 => tree.walkTo aim (tree.walk aim links)

end Tree

end JavaStudio
