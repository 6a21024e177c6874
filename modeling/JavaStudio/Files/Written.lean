import JavaStudio.Files.Basic

/-!
# Calls by written names

The system reads a name letter by letter, and not all that it means survives in a path: a slash at the
end of a name asks for a directory, and the empty name stands for nothing. The calls here take a name
as it is written, and a failure shows it so.
-/

namespace JavaStudio

namespace Files

/-- The spot that a written name leads to. -/
def spotOf (fs : Files) (aim : Aim) (name : String) : Except Failure Spot :=
  if name.toList.contains '\x00' then .error .embeddedNull
  else if name.isEmpty then .error (.file .notFound name)
  else fs.spotOfNames aim name (startsAtRoot name) (namesOf name)

/-- A name without the slashes at its end, unless there is nothing else. -/
def withoutEndSlashes (name : String) : String :=
  match name.toList.reverse.dropWhile (· == '/') with
  | [] => name
  | cs => String.ofList cs.reverse

/-- A slash stands at the end of a name. -/
def endsInSlash (name : String) : Bool := name.toList.getLast? = some '/'

/-- A failure that shows a name as it was written. -/
def showing {α : Type} (name : String) : Except Failure α → Except Failure α
  | .error (.file fault _) => .error (.file fault name)
  | r => r

/-- The spot of the entry that a written name is for, whatever slashes are at its end. -/
def entrySpot (fs : Files) (name : String) : Except Failure Spot :=
  if pathLimit ≤ name.utf8ByteSize then .error (.file .nameTooLong name)
  else showing name (fs.spotOf .entry (withoutEndSlashes name))

/-- Takes the file or link of a written name away. -/
def removeNamed (name : String) : Task Files Unit := fun fs =>
  match fs.entrySpot name with
  | .ok (.entry _ (.directory _)) => (.error (.file .isDirectory name), fs)
  | .ok (.entry place _) =>
    if endsInSlash name then (.error (.file .notDirectory name), fs)
    else (.ok (), { fs with tree := fs.tree.erase place })
  | .ok (.vacant _ _) => (.error (.file .notFound name), fs)
  | .error e => (.error e, fs)

/-- Makes the directory of a written name below one that is there. -/
def makeDirectoryNamed (name : String) : Task Files Unit := fun fs =>
  match fs.entrySpot name with
  | .ok (.vacant dir last) =>
    (.ok (), { fs with tree := fs.tree.put (dir ++ [last]) (.directory []) })
  | .ok (.entry _ _) => (.error (.file .alreadyExists name), fs)
  | .error e => (.error e, fs)

/-- The location of a new link of a written name to a target. -/
def linkPlace (fs : Files) (name target : String) : Except Failure Location :=
  if name.toList.contains '\x00' then .error .embeddedNull
  else if target.isEmpty then .error (.file .notFound target)
  else if pathLimit ≤ target.utf8ByteSize then .error (.file .nameTooLong target)
  else match fs.entrySpot name with
    | .ok (.vacant dir last) =>
      if endsInSlash name then .error (.file .notFound name) else .ok (dir ++ [last])
    | .ok (.entry _ _) => .error (.file .alreadyExists name)
    | .error e => .error e

/-- Makes a link of a written name to a target, which is kept as it is written. -/
def makeLinkNamed (name target : String) : Task Files Unit := fun fs =>
  if target.toList.contains '\x00' then (.error .embeddedNull, fs)
  else match linkPlace fs name target with
    | .ok place => (.ok (), { fs with tree := fs.tree.put place (.link target) })
    | .error e => (.error e, fs)

/-- Something stands where a written name leads; what cannot be looked up does not. -/
def standsNamed (fs : Files) (name : String) : Bool :=
  match fs.spotOf .target name with
  | .ok (.entry _ _) => true
  | _ => false

/-- A directory stands where a written name leads; what cannot be looked up is none. -/
def isDirectoryNamed (fs : Files) (name : String) : Bool :=
  match fs.spotOf .target name with
  | .ok (.entry _ (.directory _)) => true
  | _ => false

/-- Makes the directory of a written name below one that is there, unless it is there itself. -/
def ensureDirectoryNamed (name : String) : Task Files Unit :=
  tryCatch (makeDirectoryNamed name) fun e => do
    unless (← get).isDirectoryNamed name do throw e

/-- The part of a name before its last slash, without slashes at the end, and the part after it. -/
def splitLast (name : String) : String × String :=
  let last := name.toList.reverse.takeWhile (· != '/')
  let head := name.toList.reverse.dropWhile (· != '/')
  (withoutEndSlashes (String.ofList head.reverse), String.ofList last.reverse)

/-- The name above a written name and its last part. -/
def splitName (name : String) : String × String :=
  let (head, last) := splitLast name
  if last.isEmpty then splitLast head else (head, last)

/-- Makes, with a call that makes one directory, that of a written name, and first, from the top, those
above it that are missing. What already has the name of one of those is left to the directories below.
The number bounds how many are missing. -/
def makeDirectoriesUp (make : String → Task Files Unit) : Nat → String → Task Files Unit
  | 0, _ => throw (.tooDeep .path)
  | height + 1, name => do
    let (head, last) := splitName name
    if !head.isEmpty && !last.isEmpty && !(← get).standsNamed head then do
      tryCatch (makeDirectoriesUp make height head) fun e => match e with
        | .file .alreadyExists _ => pure ()
        | e => throw e
      if last = "." then return ()
    make name

/-- Makes the directory of a written name, which is not there yet, with those above it that are
missing. -/
def makeDirectories (name : String) : Task Files Unit := fun fs =>
  makeDirectoriesUp makeDirectoryNamed fs.machine.missing name fs

/-- Makes the directory of a written name and those above it unless they are there. -/
def ensureDirectoriesNamed (name : String) : Task Files Unit := fun fs =>
  makeDirectoriesUp ensureDirectoryNamed fs.machine.missing name fs

end Files

end JavaStudio
