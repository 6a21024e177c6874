import JavaStudio.Encoding.Flaw
import JavaStudio.Files.Basic
import JavaStudio.Text.Lines

/-!
# Source files

`read` gives the text of a source file with line feeds for its line ends. Without the name of an
encoding, it is the one of a byte order mark, else the first in which the bytes are text: UTF-8, that of
the locale or Latin-1, in which every byte is a character.
`write` puts a text in place of a file in one step: it is written to a scratch file beside the target
and moved over it, and a failure anywhere takes the scratch file away again.
-/

namespace JavaStudio

/-- A use of a file that the system may refuse whatever stands there: reading it, and the three steps of
writing it. A file that was made can always be taken away again. -/
inductive FileUse
  | reading (path : Path)
  /-- A scratch file is made for the path. -/
  | making (path : Path)
  /-- The scratch file gets its content. -/
  | filling (path : Path)
  /-- The scratch file is moved over the path. -/
  | moving (path : Path)
  deriving DecidableEq, Repr

/-- The path of the file. -/
def FileUse.path : FileUse → Path
  | reading p | making p | filling p | moving p => p

/-- Why the system refuses a use of a file, if it does: for want of a right, of room or of a sound
disk. -/
abbrev Refusals := FileUse → Option FileFault

/-- The system's word on a use of a file. -/
def Refusals.check (refused : Refusals) (use : FileUse) : Except Failure Unit :=
  match refused use with
  | some fault => .error (.file fault use.path.toString)
  | none => .ok ()

namespace Source

/-- The character that a byte order mark stands for. -/
def markChar : Char := '\uFEFF'

/-- The text without a mark at its head. -/
def dropMark : Text → Text
  | c :: t => if c = markChar then t else c :: t
  | [] => []

/-- The encoding of a name, one of the table or one that the machine has beside them. -/
def codecNamed (m : Machine) (name : String) : Except Failure Codec :=
  match Encoding.ofName? name with
  | some e => .ok e.codec
  | none => match m.codec? name with
    | some codec => .ok codec
    | none => .error (.unknownEncoding name)

/-- What is given as the name of an encoding can be one. -/
def checkName (name : String) : Except Failure Unit :=
  if name.toList.contains '\x00' then .error .nullInName else .ok ()

/-- The text that bytes stand for in the encoding of a name. Without bytes that is the empty text,
whether there is the encoding or not. -/
def decodeAs (m : Machine) (name : String) (bs : Bytes) : Except Failure Text := do
  checkName name
  if bs.isEmpty then return []
  (← codecNamed m name).decode bs

/-- The bytes are text in the encoding of a name. -/
def decodes (m : Machine) (name : String) (bs : Bytes) : Except Failure Bool :=
  match decodeAs m name bs with
  | .ok _ => .ok true
  | .error (.undecodable _) => .ok false
  | .error e => .error e

/-- The first of some names in whose encoding the bytes are text. -/
def firstThatDecodes (m : Machine) (bs : Bytes) : List String → Except Failure String
  | [] => .ok "utf-8"
  | name :: names => do
    if ← decodes m name bs then return name
    firstThatDecodes m bs names

/-- The name of the encoding of the locale. -/
def localeName (m : Machine) : String := if m.preferred = "" then "utf-8" else m.preferred

/-- The names of the encodings that content without a mark may have. -/
def candidates (m : Machine) : List String := ["utf-8", localeName m, "latin-1"]

/-- The name of the encoding that the content of a file shows. -/
def guess (m : Machine) (bs : Bytes) : Except Failure String :=
  if Encoding.mark8.isPrefixOf bs then .ok "utf-8-sig"
  else if Encoding.markLittle.isPrefixOf bs then .ok "utf-16-le"
  else if Encoding.markBig.isPrefixOf bs then .ok "utf-16-be"
  else firstThatDecodes m bs (candidates m)

/-- The text that bytes stand for, in a named encoding or in the one that they show; an empty name is
none. -/
def decode (m : Machine) (encoding : Option String) (bs : Bytes) : Except Failure Text :=
  match encoding with
  | none | some "" => do decodeAs m (← guess m bs) bs
  | some name => decodeAs m name bs

/-- The text that the content of a source file holds. -/
def textOf (m : Machine) (encoding : Option String) (bs : Bytes) : Except Failure Text :=
  (decode m encoding bs).map fun t => Text.unixNewlines (dropMark t)

/-- The text of a source file. -/
def read (fs : Files) (p : Path) (encoding : Option String) : Except Failure Text :=
  match fs.readBytes p with
  | .ok bs => textOf fs.machine encoding bs
  | .error e => .error e

/-- The policies for line ends: a line feed, or a carriage return and a line feed. -/
def newlines : List String := ["\n", "\r\n"]

/-- A text with its line ends written by a policy. -/
def body (newline : String) (t : Text) : Text :=
  let t := Text.unixNewlines t
  if newline = "\n" then t else Text.withNewline newline.toList t

/-- The content of a file that holds a text. -/
def contentOf (m : Machine) (encoding newline : String) (w : Wide) : Except Failure Bytes := do
  checkName encoding
  (← codecNamed m encoding).encode (w.map (body newline))

/-- The name of the `k`-th scratch file for a name. -/
def scratchName (name : String) (k : Nat) : String :=
  let digits := Nat.toDigits 10 k
  "." ++ name ++ "." ++ String.ofList (List.replicate (8 - digits.length) '0' ++ digits) ++ ".tmp"

/-- Makes the first scratch file from `k` on whose name is free. -/
def makeScratch (dir : Path) (name : String) : Nat → Nat → Task Files Path
  | 0, k => throw (.file .alreadyExists (dir.child (scratchName name k)).toString)
  | tries + 1, k => do
    let scratch := dir.child (scratchName name k)
    match ← (Files.createFile scratch).attempt with
    | .ok () => return scratch
    | .error (.file .alreadyExists _) => makeScratch dir name tries (k + 1)
    | .error e => throw e

/-- The directory of scratch files for a target: its parent, spelled without `..`. -/
def scratchDirectory (fs : Files) (target : Path) : Path := (fs.absolute target.parent).normalized

/-- Takes a scratch file away if it is there. -/
def dropScratch (scratch : Path) : Task Files Unit :=
  tryCatch (Files.remove scratch) fun e => match e with
    | .file .notFound _ => pure ()
    | e => throw e

/-- What is done with a scratch file before it is taken for the target: it gets its content and is
moved over the target. -/
def fillAndMove (refused : Refusals) (target scratch : Path) (w : Wide) (encoding newline : String) :
    Task Files Unit := do
  let content ← Task.ofExcept (contentOf (← get).machine encoding newline w)
  Task.ofExcept (refused.check (.filling target))
  Files.writeBytes scratch content
  Task.ofExcept (refused.check (.moving target))
  Files.replace scratch target

/-- Puts a text in place of the target, through a scratch file, on a system that may refuse. -/
def writeUnder (refused : Refusals) (target : Path) (w : Wide) (encoding newline : String) :
    Task Files Path := do
  if newlines.contains newline then
    let fs ← get
    Task.ofExcept (refused.check (.making target))
    let scratch ← makeScratch (scratchDirectory fs target) target.name
      (fs.tree.entries.length + 1) 0
    tryCatch (fillAndMove refused target scratch w encoding newline) fun e => do
      dropScratch scratch
      throw e
    return target
  else throw (.unsupportedNewline (quoted newline))

/-- Puts a text in place of the target on a system that refuses nothing. -/
def write (target : Path) (t : Text) (encoding newline : String) : Task Files Path :=
  writeUnder (fun _ => none) target (.text t) encoding newline

end Source

end JavaStudio
