import JavaStudio.Path
import JavaStudio.Text.Digit

/-!
# Failures

Every way in which an operation of the studio can fail, as a cause with the data that its message
needs. `Failure.message` holds the wording of all of them. `Failure.isOrdinary` separates the
failures that a guarded call takes note of from the two that end the program.
-/

namespace JavaStudio

/-- A document is known by the number under which it was made. -/
abbrev DocId := Nat

/-- Why the file system refuses a call. -/
inductive FileFault
  | notFound
  | notDirectory
  | isDirectory
  | alreadyExists
  | tooManyLinks
  | nameTooLong
  | busy
  | notEmpty
  | invalid
  | denied
  | full
  | broken
  deriving DecidableEq, Repr

namespace FileFault

/-- The system's number for the fault. -/
def code : FileFault → Nat
  | notFound => 2
  | notDirectory => 20
  | isDirectory => 21
  | alreadyExists => 17
  | tooManyLinks => 40
  | nameTooLong => 36
  | busy => 16
  | notEmpty => 39
  | invalid => 22
  | denied => 13
  | full => 28
  | broken => 5

/-- The system's text for the fault. -/
def text : FileFault → String
  | notFound => "No such file or directory"
  | notDirectory => "Not a directory"
  | isDirectory => "Is a directory"
  | alreadyExists => "File exists"
  | tooManyLinks => "Too many levels of symbolic links"
  | nameTooLong => "File name too long"
  | busy => "Device or resource busy"
  | notEmpty => "Directory not empty"
  | invalid => "Invalid argument"
  | denied => "Permission denied"
  | full => "No space left on device"
  | broken => "Input/output error"

/-- The name of the fault's family. -/
def name : FileFault → String
  | notFound => "FileNotFoundError"
  | notDirectory => "NotADirectoryError"
  | isDirectory => "IsADirectoryError"
  | alreadyExists => "FileExistsError"
  | denied => "PermissionError"
  | _ => "OSError"

end FileFault

/-- Why the package of a document has no source root. The mismatch of a directory and a component
of the package is carried with the message. -/
structure PackageFault where
  message : String
  path : Option Path := none
  directory : Option String := none
  component : Option String := none
  deriving DecidableEq, Repr

/-- The kinds of failure that a collaborator outside the studio may report. -/
inductive Outside
  | runtime
  | value
  | badSyntax
  | system
  | process
  deriving DecidableEq, Repr

/-- The name of the kind. -/
def Outside.name : Outside → String
  | runtime => "RuntimeError"
  | value => "ValueError"
  | badSyntax => "SyntaxError"
  | system => "OSError"
  | process => "SubprocessError"

/-- What can be nested in itself: arrays and objects that are read, targets of links, directories that
are made with those above them, or made from the top or listed, values of settings and lists that are
reported. -/
inductive Nest
  | array
  | object
  | link
  | parents
  | path
  | setting
  | listed
  deriving DecidableEq, Repr

/-- What is said of the place at which nesting went too deep. -/
def Nest.remark : Nest → String
  | array => " while decoding a JSON array from a unicode string"
  | object => " while decoding a JSON object from a unicode string"
  | parents => " while calling a Python object"
  | listed => " in __instancecheck__"
  | link | path | setting => ""

/-- What is wrong with a value of the wrong kind, given with the name of that kind. -/
inductive Misfit
  /-- A value cannot be compared with another one by some sign. -/
  | incomparable (sign left right : String)
  /-- A value is no path. -/
  | notPath (kind : String)
  /-- A value has no items to be listed with others. -/
  | notListed (kind : String)
  /-- A value has no items to be gone through. -/
  | notIterable (kind : String)
  /-- A value is no text. -/
  | notText (kind : String)
  /-- A number is no place in a text or list. -/
  | notPlace
  /-- A number is no place of a character in a text. -/
  | notCharacterPlace (kind : String)
  /-- A value is no place in a list. -/
  | notListPlace (kind : String)
  /-- A value does not count anything. -/
  | notCount (kind : String)
  /-- A value is no level of importance. -/
  | notLevel (shown : String)
  /-- A value is no name of a logger. -/
  | notLoggerName
  /-- There is no option of this key. -/
  | unknownOption (key : String)
  /-- There is no step of this name. -/
  | unknownStep (name : String)
  deriving DecidableEq, Repr

/-- The text that is shown of a misfit. -/
def Misfit.message : Misfit → String
  | incomparable sign left right =>
    s!"'{sign}' not supported between instances of '{left}' and '{right}'"
  | notPath kind => s!"expected str, bytes or os.PathLike object, not {kind}"
  | notListed kind => s!"Value after * must be an iterable, not {kind}"
  | notIterable kind => s!"'{kind}' object is not iterable"
  | notText kind => s!"decoding to str: need a bytes-like object, {kind} found"
  | notPlace => "slice indices must be integers or None or have an __index__ method"
  | notCharacterPlace kind => s!"string indices must be integers, not '{kind}'"
  | notListPlace kind => s!"list indices must be integers or slices, not {kind}"
  | notCount kind => s!"'{kind}' object cannot be interpreted as an integer"
  | notLevel shown => s!"not a level: {shown}"
  | notLoggerName => "not the name of a logger"
  | unknownOption key => s!"no option {key}"
  | unknownStep name => s!"no step {name}"

/-- Bytes that are no text in an encoding: from where up to where, the first of them and why. -/
structure BadBytes where
  encoding : String
  start : Nat
  length : Nat
  first : Nat
  reason : String
  deriving DecidableEq, Repr

/-- The text that is shown of bad bytes. -/
def BadBytes.message (b : BadBytes) : String :=
  s!"'{b.encoding}' codec can't decode " ++
    (if b.length = 1 then s!"byte 0x{String.ofList (Text.hex 2 b.first)} in position {b.start}"
    else s!"bytes in position {b.start}-{b.start + b.length - 1}") ++ ": " ++ b.reason

/-- What a failure was made from: its text, and its full form as it is shown among others. -/
structure Argument where
  text : String
  full : String
  deriving DecidableEq, Repr

/-- Why an operation did not complete. -/
inductive Failure
  /-- The choice of a file was given up. -/
  | cancelled (arguments : List Argument)
  /-- An open document of this title holds the chosen file. -/
  | alreadyOpen (document : DocId) (title : String)
  /-- The package of a document does not fit its place. -/
  | invalidPackage (fault : PackageFault)
  /-- A document that was never saved has no file. -/
  | noBackingFile (title : String)
  /-- The root was reached with parts of the package left. -/
  | noParentDirectory (directory : Path)
  /-- The file system refused a call on a path. -/
  | file (fault : FileFault) (path : String)
  /-- A path holds the character that ends names in the file system. -/
  | embeddedNull
  /-- The links of a path lead back to one of them. -/
  | linkLoop (path : String)
  /-- Things are nested in each other deeper than there is room for. -/
  | tooDeep (nest : Nest)
  /-- A path begins with the home of someone unknown. -/
  | unknownHome
  /-- A path without a name cannot take a suffix. -/
  | emptyName (path : Path)
  /-- The bytes of a file are not text in its encoding. -/
  | undecodable (bytes : BadBytes)
  /-- A text has a character that its encoding lacks. -/
  | unencodable
  /-- There is no encoding of this name. -/
  | unknownEncoding (name : String)
  /-- The name of an encoding holds the character that ends names. -/
  | nullInName
  /-- Lines end in a line feed or in a carriage return and a line feed. -/
  | unsupportedNewline (shown : String)
  /-- A number has too many digits to be read. -/
  | tooManyDigits (digits : Nat)
  /-- An integer has too many digits to be written. -/
  | longInteger
  /-- The history has no entry before its cursor. -/
  | noPreviousEntry
  /-- The history has no entry after its cursor. -/
  | noNextEntry
  /-- No registered compiler has the name that is shown so. -/
  | unknownCompiler (shown : String)
  /-- The compiler is not among the registered ones. -/
  | unregisteredCompiler (name : String)
  /-- The compiler cannot run now. -/
  | unavailableCompiler (name : String)
  /-- The workspace has nothing to compile with. -/
  | noCompilerAttached
  /-- Work was given to a pool that was shut down. -/
  | poolClosed
  /-- A pool needs a worker. -/
  | noWorkers
  /-- A wait cannot be negative. -/
  | negativeTimeout
  /-- A wait is longer than the clock can tell. -/
  | overlongTimeout
  /-- An integer exceeds all floating-point numbers. -/
  | hugeInteger
  /-- A value is not of the kind that its use needs. -/
  | wrongKind (misfit : Misfit)
  /-- No level of importance has the name that is shown so. -/
  | unknownLevel (shown : String)
  /-- An event without a document was asked for it. -/
  | absentDocument
  /-- Loose parts were asked for what only a joined studio does. -/
  | notJoined
  /-- A document was asked for by a name that stands for none. -/
  | noSuchDocument (label : String)
  /-- A collaborator was asked for by a name that none has. -/
  | noSuchName (name : String)
  /-- A future was asked for by a number under which none was given out. -/
  | noSuchFuture
  /-- A collaborator reported a failure of its own. -/
  | outside (kind : Outside) (argument : Option String)
  /-- A collaborator reported a failure that cannot be put into words: trying to fails as well. -/
  | speechless (kind : Outside) (complaint : String)
  /-- The program ends. -/
  | exit (code : Int)
  /-- The user broke in. -/
  | interrupted (message : String)
  deriving DecidableEq, Repr

namespace Failure

/-- A guarded call takes note of every failure but the end of the program and the user's break. -/
def isOrdinary : Failure → Bool
  | exit _ => false
  | interrupted _ => false
  | _ => true

/-- A runtime failure of a collaborator. -/
abbrev runtime (message : String) : Failure := outside .runtime (some message)

/-- The text that a failure shows. -/
def message : Failure → String
  | cancelled [] => ""
  | cancelled [a] => a.text
  | cancelled as => "(" ++ ", ".intercalate (as.map (·.full)) ++ ")"
  | alreadyOpen _ title => title ++ " is already open"
  | invalidPackage fault => fault.message
  | noBackingFile title => title ++ " has no backing file"
  | noParentDirectory d => d.toString ++ " has no parent directory"
  | file fault path => s!"[Errno {fault.code}] {fault.text}: {quoted path}"
  | embeddedNull => "embedded null byte"
  | linkLoop path => "Symlink loop from " ++ quoted path
  | tooDeep nest => "maximum recursion depth exceeded" ++ nest.remark
  | unknownHome => "Could not determine home directory."
  | emptyName p => p.shown ++ " has an empty name"
  | undecodable bytes => bytes.message
  | unencodable => "unencodable character"
  | unknownEncoding name => "unknown encoding: " ++ name
  | nullInName => "embedded null character"
  | unsupportedNewline shown => "Unsupported newline policy: " ++ shown
  | tooManyDigits n =>
    s!"Exceeds the limit ({Text.maxDigits} digits) for integer string conversion: " ++
      s!"value has {n} digits; use sys.set_int_max_str_digits() to increase the limit"
  | longInteger =>
    s!"Exceeds the limit ({Text.maxDigits} digits) for integer string conversion; " ++
      "use sys.set_int_max_str_digits() to increase the limit"
  | noPreviousEntry => "No previous history entry"
  | noNextEntry => "No next history entry"
  | unknownCompiler shown => "Unknown compiler " ++ shown
  | unregisteredCompiler name => "Compiler " ++ quoted name ++ " is not registered"
  | unavailableCompiler name => "Compiler " ++ quoted name ++ " is not available"
  | noCompilerAttached => "No compiler attached to this workspace"
  | poolClosed => "cannot schedule new futures after shutdown"
  | noWorkers => "max_workers must be greater than 0"
  | negativeTimeout => "'timeout' must be a non-negative number"
  | overlongTimeout => "timestamp out of range for platform time_t"
  | hugeInteger => "int too large to convert to float"
  | wrongKind misfit => misfit.message
  | unknownLevel shown => "Unknown level: " ++ shown
  | absentDocument => "no document"
  | notJoined => "not joined"
  | noSuchDocument label => "no document " ++ label
  | noSuchName name => quoted name
  | noSuchFuture => "list index out of range"
  | outside .badSyntax none => "None"
  | outside _ argument => argument.getD ""
  | speechless _ _ => ""
  | exit code => toString code
  | interrupted message => message

/-- The name of a failure's kind. -/
def name : Failure → String
  | cancelled _ => "OperationCancelled"
  | alreadyOpen _ _ => "AlreadyOpenError"
  | invalidPackage _ => "InvalidPackageError"
  | noBackingFile _ => "NoBackingFileError"
  | noParentDirectory _ => "UnexpectedStateError"
  | file fault _ => fault.name
  | linkLoop _ | unknownHome | noCompilerAttached | poolClosed => "RuntimeError"
  | tooDeep _ => "RecursionError"
  | undecodable _ => "UnicodeDecodeError"
  | unencodable => "UnicodeEncodeError"
  | unknownEncoding _ | noSuchDocument _ => "LookupError"
  | noPreviousEntry | noNextEntry | noSuchFuture => "IndexError"
  | noSuchName _ => "KeyError"
  | wrongKind _ => "TypeError"
  | overlongTimeout | hugeInteger => "OverflowError"
  | absentDocument | notJoined => "AttributeError"
  | outside kind _ => kind.name
  | speechless kind _ => kind.name
  | exit _ => "SystemExit"
  | interrupted _ => "KeyboardInterrupt"
  | embeddedNull | nullInName | emptyName _ | unsupportedNewline _ | tooManyDigits _ | longInteger
  | unknownCompiler _ | unknownLevel _ | unregisteredCompiler _ | unavailableCompiler _ | noWorkers | negativeTimeout => "ValueError"

/-- The full form of a failure, its kind with what it was made from. -/
def shown (f : Failure) : String :=
  match f with
  | cancelled as => f.name ++ "(" ++ ", ".intercalate (as.map (·.full)) ++ ")"
  | outside _ none => f.name ++ "()"
  | _ => f.name ++ "(" ++ quoted f.message ++ ")"

/-- What is said of a failure: its message, or its full form when the message is empty. -/
def words : Failure → Except Failure String
  | speechless kind complaint => .error (outside kind (some complaint))
  | f => .ok (if f.message = "" then f.shown else f.message)

end Failure

end JavaStudio
