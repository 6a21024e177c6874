import JavaStudio.Act
import JavaStudio.Files.Walk
import JavaStudio.Machine

/-!
# Calls on files

The tree of files with a current directory and a home, and the calls that the studio makes on it. A
call that fails leaves the tree as it was. `replace` moves an entry over another in one step, and a
directory goes with all below it.
-/

namespace JavaStudio

/-- The files of a machine as a program sees them. -/
structure Files where
  tree : Tree
  here : Location := []
  home : String := "/"
  machine : Machine := {}
  deriving Inhabited

namespace Files

/-- The path to a location. -/
def pathOf (l : Location) : Path := ⟨.root, l⟩

/-- The path seen from the root, with every `..` kept. -/
def absolute (fs : Files) (p : Path) : Path := (pathOf fs.here).join p

/-- A path with a character that ends names in the system. -/
def hasNull (p : Path) : Bool := p.parts.any (·.toList.contains '\x00')

/-- The bytes at which a path is too long for the system. -/
def pathLimit : Nat := 4096

/-- The spot that names lead to from the root or the current directory, with the text that spells the
names. -/
def spotOfNames (fs : Files) (aim : Aim) (text : String) (fromRoot : Bool) (names : List String) :
    Except Failure Spot :=
  if pathLimit ≤ text.utf8ByteSize then .error (.file .nameTooLong text)
  else match fs.tree.walk aim maxLinks [] (if fromRoot then names else fs.here ++ names) with
    | .ok s => .ok s
    | .error fault => .error (.file fault text)

/-- The spot that a path leads to. -/
def spot (fs : Files) (aim : Aim) (p : Path) : Except Failure Spot :=
  if hasNull p then .error .embeddedNull
  else fs.spotOfNames aim p.toString p.isAbsolute p.parts

/-- The entry that a path leads to through its links. -/
def stat (fs : Files) (p : Path) : Except Failure Entry :=
  match fs.spot .target p with
  | .ok (.entry _ e) => .ok e
  | .ok (.vacant _ _) => .error (.file .notFound p.toString)
  | .error e => .error e

/-- Something stands where a path leads; what cannot be looked up does not. -/
def stands (fs : Files) (p : Path) : Bool :=
  match fs.stat p with
  | .ok _ => true
  | .error _ => false

/-- A failed look-up that only says that nothing is there. -/
def saysAbsent : Failure → Bool
  | .file .notFound _ | .file .notDirectory _ | .file .tooManyLinks _ | .embeddedNull => true
  | _ => false

/-- Something stands where a path leads. -/
def holds (fs : Files) (p : Path) : Except Failure Bool :=
  match fs.stat p with
  | .ok _ => .ok true
  | .error e => if saysAbsent e then .ok false else .error e

/-- A directory stands where a path leads. -/
def holdsDirectory (fs : Files) (p : Path) : Except Failure Bool :=
  match fs.stat p with
  | .ok (.directory _) => .ok true
  | .ok _ => .ok false
  | .error e => if saysAbsent e then .ok false else .error e

/-- The content of the file that a path leads to. -/
def readBytes (fs : Files) (p : Path) : Except Failure Bytes :=
  match fs.stat p with
  | .ok (.file content) => .ok content
  | .ok _ => .error (.file .isDirectory p.toString)
  | .error e => .error e

/-- Where a write to a path lands: at a file, or at a free name. -/
def writable (fs : Files) (p : Path) : Except Failure (Location × Bytes) :=
  match fs.spot .writing p with
  | .ok (.entry place (.file content)) => .ok (place, content)
  | .ok (.entry _ _) => .error (.file .isDirectory p.toString)
  | .ok (.vacant dir name) => .ok (dir ++ [name], [])
  | .error e => .error e

/-- Makes the content of a file, new or old. -/
def writeBytes (p : Path) (content : Bytes) : Task Files Unit := fun fs =>
  match fs.writable p with
  | .ok (place, _) => (.ok (), { fs with tree := fs.tree.put place (.file content) })
  | .error e => (.error e, fs)

/-- Opens a file at its end, new or old, and gives its location. -/
def openAtEnd (p : Path) : Task Files Location := fun fs =>
  match fs.writable p with
  | .ok (place, old) => (.ok place, { fs with tree := fs.tree.put place (.file old) })
  | .error e => (.error e, fs)

/-- The size of the file at a location, if there is one. -/
def sizeAt? (fs : Files) (place : Location) : Option Nat :=
  match fs.tree.get? place with
  | some (.file content) => some content.length
  | _ => none

/-- Adds to the content of the file at a location, if there is one. -/
def extend (place : Location) (content : Bytes) : Task Files Unit := fun fs =>
  match fs.tree.get? place with
  | some (.file old) => (.ok (), { fs with tree := fs.tree.put place (.file (old ++ content)) })
  | _ => (.ok (), fs)

/-- Makes a file that is not there yet. -/
def createFile (p : Path) : Task Files Unit := fun fs =>
  match fs.spot .entry p with
  | .ok (.vacant dir name) =>
    (.ok (), { fs with tree := fs.tree.put (dir ++ [name]) (.file []) })
  | .ok (.entry _ _) => (.error (.file .alreadyExists p.toString), fs)
  | .error e => (.error e, fs)

/-- Makes a directory below one that is there. -/
def makeDirectory (p : Path) : Task Files Unit := fun fs =>
  match fs.spot .entry p with
  | .ok (.vacant dir name) =>
    (.ok (), { fs with tree := fs.tree.put (dir ++ [name]) (.directory []) })
  | .ok (.entry _ _) => (.error (.file .alreadyExists p.toString), fs)
  | .error e => (.error e, fs)

/-- Makes a directory unless it is there, when its parent is. -/
def ensureDirectory (p : Path) : Task Files Unit :=
  tryCatch (makeDirectory p) fun e => match e with
    | .file .notFound _ => throw e
    | .file _ _ => do
      if ← Task.ofExcept ((← get).holdsDirectory p) then pure () else throw e
    | _ => throw e

/-- Makes a directory and those above it unless they are there. The number bounds how many are
missing. -/
def ensureDirectoriesUp : Nat → Path → Task Files Unit
  | 0, _ => throw (.tooDeep .parents)
  | height + 1, p =>
    tryCatch (ensureDirectory p) fun e => match e with
      | .file .notFound _ =>
        if p.parent = p then throw e
        else do
          ensureDirectoriesUp height p.parent
          ensureDirectory p
      | _ => throw e

/-- Makes a directory and those above it unless they are there. -/
def ensureDirectories (p : Path) : Task Files Unit := fun fs =>
  ensureDirectoriesUp fs.machine.nesting p fs

/-- Takes a file or link away. -/
def remove (p : Path) : Task Files Unit := fun fs =>
  match fs.spot .entry p with
  | .ok (.entry _ (.directory _)) => (.error (.file .isDirectory p.toString), fs)
  | .ok (.entry place _) => (.ok (), { fs with tree := fs.tree.erase place })
  | .ok (.vacant _ _) => (.error (.file .notFound p.toString), fs)
  | .error e => (.error e, fs)

/-- A path whose last name, if it has one, is not an entry's own. -/
def endsInDots (p : Path) : Bool := p.parts.isEmpty || p.name = ".."

/-- A location lies below another one. -/
def isBelow (l above : Location) : Bool := above.isPrefixOf l && l != above

/-- Why what stands at a location cannot be moved to another one, if it cannot. Only an empty
directory gives way to a directory, only a file or link to a file or link, and neither location may
lie below the other. -/
def moveFault? (tree : Tree) (source goal : Location) (moved : Entry) : Option FileFault :=
  if isBelow goal source then some .invalid
  else if isBelow source goal then some .notEmpty
  else match moved, tree.get? goal with
    | .directory _, some (.directory f) =>
      if source ≠ goal && !f.isEmpty then some .notEmpty else none
    | .directory _, some _ => some .notDirectory
    | _, some (.directory _) => some .isDirectory
    | _, _ => none

/-- The location of a spot that an entry may be moved to. -/
def goalOf (fs : Files) (p : Path) : Except Failure Location :=
  match fs.spot .entry p with
  | .error e => .error e
  | .ok s => if endsInDots p then .error (.file .busy p.toString) else .ok s.location

/-- Moves a file, a link or a directory over what has the other path. -/
def replace (source target : Path) : Task Files Unit := fun fs =>
  match fs.spot .entry source with
  | .ok (.entry place e) =>
    match fs.goalOf target with
    | .error f => (.error f, fs)
    | .ok goal => match moveFault? fs.tree place goal e with
      | some fault => (.error (.file fault target.toString), fs)
      | none => (.ok (), { fs with tree := (fs.tree.erase place).put goal e })
  | .ok (.vacant _ _) => (.error (.file .notFound source.toString), fs)
  | .error e => (.error e, fs)

/-- The name of an entry below a path in a listing: what is a directory, or a link to one, ends in a
slash. -/
def listed (fs : Files) (p : Path) (l : Location) (e : Entry) : Except Failure String :=
  let name := "/".intercalate l
  match e with
  | .directory _ => .ok (name ++ "/")
  | .file _ => .ok name
  | .link _ =>
    (fs.holdsDirectory (p.join ⟨.here, l⟩)).map fun isDirectory =>
      if isDirectory then name ++ "/" else name

/-- An entry is a directory that lies too deep to be listed. -/
def isTooDeep (fs : Files) (l : Location) : Entry → Bool
  | .directory _ => fs.machine.listing < l.length
  | _ => false

/-- The names of all that stands in a folder below a path, sorted. -/
def listing (fs : Files) (p : Path) (f : Folder) : Except Failure (List String) := do
  let entries := Folder.entriesIn [] f
  if entries.any fun e => fs.isTooDeep e.1 e.2 then throw (.tooDeep .path)
  let names ← entries.mapM fun e => fs.listed p e.1 e.2
  return names.mergeSort fun a b => decide (a ≤ b)

/-- The names of all that stands below the directory that a path leads to; none when it leads to no
directory. -/
def listingAt (fs : Files) (p : Path) : Except Failure (List String) :=
  match fs.spot .target p with
  | .ok (.entry _ (.directory f)) => fs.listing p f
  | .ok _ => .ok []
  | .error e => if saysAbsent e then .ok [] else .error e

end Files

end JavaStudio
