import JavaStudio.Failure
import JavaStudio.Text.Blank
import JavaStudio.Text.Word

/-!
# The declared package

`declared` gives the package that a source text declares at its head, the empty text when it
declares none. Block comments count as a blank and are taken out of the whole text first, then line
comments are taken out up to their line feeds. What is left must begin with the statement.
-/

namespace JavaStudio.Package

/-- A block comment that was opened before the text is closed in it. -/
def closes : Text → Bool
  | '*' :: '/' :: _ => true
  | _ :: t => closes t
  | [] => false

/-- The text with a blank for every block comment; `inside` one, up to its close. An opening that
is never closed stays. -/
def dropBlocks : (inside : Bool) → Text → Text
  | false, '/' :: '*' :: t =>
    if closes t then ' ' :: dropBlocks true t else '/' :: dropBlocks false ('*' :: t)
  | false, c :: t => c :: dropBlocks false t
  | true, '*' :: '/' :: t => dropBlocks false t
  | true, _ :: t => dropBlocks true t
  | _, [] => []

/-- The text without its line comments; `inside` one, up to the line feed. -/
def dropLineComments : (inside : Bool) → Text → Text
  | false, '/' :: '/' :: t => dropLineComments true t
  | false, c :: t => c :: dropLineComments false t
  | true, '\n' :: t => '\n' :: dropLineComments false t
  | true, _ :: t => dropLineComments true t
  | _, [] => []

/-- The text without comments. -/
def bare (t : Text) : Text := dropLineComments false (dropBlocks false t)

/-- The rest of a dotted name and the semicolon after it, with blanks around each. -/
def dottedRest : Nat → Text → Option Text
  | 0, _ => none
  | steps + 1, t => match Text.dropBlank t with
    | ';' :: _ => some []
    | '.' :: t => match Text.identifier? (Text.dropBlank t) with
      | some (name, t) => (dottedRest steps t).map fun rest => '.' :: name ++ rest
      | none => none
    | _ => none

/-- A dotted name with a semicolon at the head of a text, without blanks. -/
def dotted? (t : Text) : Option Text :=
  match Text.identifier? t with
  | some (name, t) => (dottedRest (t.length + 1) t).map (name ++ ·)
  | none => none

/-- The word that begins the statement. -/
def keyword : Text := Text.ofString "package"

/-- What follows the keyword at the head of a text, when the word ends there. -/
def afterKeyword? (t : Text) : Option Text :=
  match Text.after? keyword (Text.dropBlank t) with
  | some (c :: t) => if Text.isWord c then none else some (c :: t)
  | r => r

/-- The name that a package statement at the head of a text declares. -/
def statement? (t : Text) : Option Text :=
  match Text.after? keyword (Text.dropBlank t) with
  | some (c :: t) => if Text.isBlank c then dotted? (Text.dropBlank t) else none
  | _ => none

/-- A package statement that breaks off. -/
def malformed : Failure := .invalidPackage { message := "Malformed package statement." }

/-- The package that a source text declares, without blanks. -/
def declared (t : Text) : Except Failure Text :=
  let t := bare t
  match statement? t with
  | some name => .ok name
  | none => if (afterKeyword? t).isSome then .error malformed else .ok []

/-- A package is cut into segments at dots and slashes. -/
def isSeparator (c : Char) : Bool := c == '.' || c == '/'

/-- The segments of a package; the default package has none. -/
def segments (package : Text) : List String :=
  if package = [] then [] else (Text.splitAt isSeparator package).map String.ofList

/-- A directory on the way up does not have the name of its segment. -/
def mismatch (file directory : Path) (component : String) : Failure :=
  .invalidPackage {
    message := s!"The source file {file.toString} is in the wrong directory or in the " ++
      s!"wrong package. The directory name {directory.name} does not match " ++
      s!"the package component {component}."
    path := some file
    directory := some directory.name
    component := some component }

/-- Climbs from a directory past one directory for each segment, the last segment first. -/
def climb (file : Path) (directory : Path) : List String → Except Failure Path
  | [] => .ok directory
  | s :: ss =>
    if s ≠ directory.name then .error (mismatch file directory s)
    else if directory.parent = directory then .error (.noParentDirectory directory)
    else climb file directory.parent ss

/-- The directory that must be searched for the packages of a file at an absolute path. -/
def rootOf (file : Path) (package : Text) : Except Failure Path :=
  climb file file.parent (segments package).reverse

/-- A document without a file has no source root. -/
def unsaved : Failure :=
  .invalidPackage { message := "Can not get source root for unsaved file. Please save." }

end JavaStudio.Package
