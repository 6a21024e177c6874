import JavaStudio.Json.Basic

/-!
# Reading JSON

A strict reader: control characters must be escaped in strings, nothing may follow the value but
white space, and the names `NaN`, `Infinity` and `-Infinity` are numbers. A unit that is escaped without
the other half of its pair stays half of one, but in the name of a field it is replaced. An integer of
more digits than `Text.maxDigits` is refused with a fault of its own, and so is an array or object
inside more of them than there is room for. `readWithin` supplies as many steps as the length of the
text can use up, and `read` as much room.
-/

namespace JavaStudio.Json

/-- Why a text is not read. -/
inductive Fault
  | malformed
  | longInteger (digits : Nat)
  | deepArray
  | deepObject
  deriving DecidableEq, Repr

/-- A value and the text after it. -/
abbrev Reading (α : Type) := Except Fault (α × Text)

/-- The white space of JSON. -/
def isSpace (c : Char) : Bool := c == ' ' || c == '\t' || c == '\n' || c == '\r'

/-- The text without its leading white space. -/
def skip (t : Text) : Text := t.dropWhile isSpace

/-- An ASCII digit. -/
def isAsciiDigit (c : Char) : Bool := '0' ≤ c && c ≤ '9'

/-- The number that a row of ASCII digits stands for. -/
def decimal (ds : Text) : Nat := Text.digitsValue (ds.map fun c => c.toNat - 48)

/-- The value of a hexadecimal digit. -/
def hexValue? (c : Char) : Option Nat :=
  if isAsciiDigit c then some (c.toNat - 48)
  else if 'a' ≤ c && c ≤ 'f' then some (c.toNat - 87)
  else if 'A' ≤ c && c ≤ 'F' then some (c.toNat - 55)
  else none

/-- Four hexadecimal digits at the head of a text. -/
def hexUnit? : Text → Option (Nat × Text)
  | a :: b :: c :: d :: t => do
    let a ← hexValue? a
    let b ← hexValue? b
    let c ← hexValue? c
    let d ← hexValue? d
    return (((a * 16 + b) * 16 + c) * 16 + d, t)
  | _ => none

/-- A high unit of a surrogate pair. -/
def isHighUnit (n : Nat) : Bool := 0xD800 ≤ n && n ≤ 0xDBFF

/-- A low unit of a surrogate pair. -/
def isLowUnit (n : Nat) : Bool := 0xDC00 ≤ n && n ≤ 0xDFFF

/-- The character that a pair of units stands for. -/
def pairChar (high low : Nat) : Char :=
  Char.ofNat (0x10000 + (high - 0xD800) * 0x400 + (low - 0xDC00))

/-- The letter that a unit by itself is. -/
def unitLetter (n : Nat) : Letter :=
  if isHighUnit n || isLowUnit n then .half (.ofUnit n) else .char (Char.ofNat n)

/-- The unit that an escape at the head of the text writes, if it is a low one. -/
def lowUnit? : Text → Option (Nat × Text)
  | '\\' :: 'u' :: t => match hexUnit? t with
    | some (n, r) => if isLowUnit n then some (n, r) else none
    | none => none
  | _ => none

/-- The character of an escape other than `u`. -/
def escaped? : Char → Option Char
  | '"' => some '"'
  | '\\' => some '\\'
  | '/' => some '/'
  | 'b' => some '\x08'
  | 'f' => some '\x0c'
  | 'n' => some '\n'
  | 'r' => some '\r'
  | 't' => some '\t'
  | _ => none

/-- The first letter of a string's body and the text after it; nothing at the closing quote. -/
def bodyLetter : Text → Except Fault (Option Letter × Text)
  | [] => .error .malformed
  | '"' :: t => .ok (none, t)
  | '\\' :: 'u' :: t => match hexUnit? t with
    | none => .error .malformed
    | some (n, r) => match if isHighUnit n then lowUnit? r else none with
      | some (low, r) => .ok (some (.char (pairChar n low)), r)
      | none => .ok (some (unitLetter n), r)
  | '\\' :: c :: t => match escaped? c with
    | some c => .ok (some (.char c), t)
    | none => .error .malformed
  | c :: t => if c.toNat < 32 || c = '\\' then .error .malformed else .ok (some (.char c), t)

/-- The rest of a string after its opening quote, in reverse onto `done`. -/
def body : Nat → List Letter → Text → Reading Wide
  | 0, _, _ => .error .malformed
  | steps + 1, done, t => match bodyLetter t with
    | .error e => .error e
    | .ok (none, r) => .ok (.ofLetters done.reverse, r)
    | .ok (some l, r) => body steps (l :: done) r

/-- The fraction after an integer part: its digits, none when there is no fraction. -/
def fraction : Text → Text × Text
  | '.' :: c :: t =>
    if isAsciiDigit c then (c :: t.takeWhile isAsciiDigit, t.dropWhile isAsciiDigit)
    else ([], '.' :: c :: t)
  | t => ([], t)

/-- The digits of an exponent and the text after them. -/
def exponentDigits (negative : Bool) (t : Text) : Option (Int × Text) :=
  match t.takeWhile isAsciiDigit with
  | [] => none
  | ds => some (if negative then -(decimal ds) else decimal ds, t.dropWhile isAsciiDigit)

/-- An exponent at the head of a text. -/
def exponent? : Text → Option (Int × Text)
  | e :: t =>
    if e = 'e' || e = 'E' then
      match t with
      | '-' :: r => exponentDigits true r
      | '+' :: r => exponentDigits false r
      | r => exponentDigits false r
    else none
  | [] => none

/-- What follows the digits of an integer part: the number is an integer unless a fraction or an
exponent comes next. -/
def numberRest (negative : Bool) (ds t : Text) : Reading Number :=
  let (fs, r) := fraction t
  match fs, exponent? r with
  | [], none =>
    if Text.maxDigits < ds.length then .error (.longInteger ds.length)
    else .ok (.int (if negative then -(decimal ds) else decimal ds), r)
  | fs, some (e, r) =>
    .ok (.float (.ofDecimal negative (decimal (ds ++ fs)) (e - fs.length)), r)
  | fs, none => .ok (.float (.ofDecimal negative (decimal (ds ++ fs)) (-fs.length)), r)

/-- A number without its sign. -/
def unsignedNumber (negative : Bool) : Text → Reading Number
  | '0' :: t => numberRest negative ['0'] t
  | c :: t =>
    if isAsciiDigit c then
      numberRest negative (c :: t.takeWhile isAsciiDigit) (t.dropWhile isAsciiDigit)
    else .error .malformed
  | [] => .error .malformed

/-- The values that are written as words. -/
def words : List (Text × Json) := [
  (Text.ofString "null", null), (Text.ofString "true", bool true),
  (Text.ofString "false", bool false), (Text.ofString "NaN", num (.float .nan)),
  (Text.ofString "Infinity", num (.float (.infinite false))),
  (Text.ofString "-Infinity", num (.float (.infinite true)))]

/-- A word of the table at the head of a text. -/
def word? (t : Text) : Option (Json × Text) :=
  words.findSome? fun (w, v) => (Text.after? w t).map fun r => (v, r)

/-- A value that is neither string, array nor object. -/
def scalar (t : Text) : Reading Json :=
  match word? t with
  | some (v, r) => .ok (v, r)
  | none =>
    let reading := match t with
      | '-' :: r => unsignedNumber true r
      | r => unsignedNumber false r
    match reading with
    | .ok (n, r) => .ok (num n, r)
    | .error e => .error e

mutual

/-- A value at the head of a text, with room for so many arrays and objects inside each other. -/
def value : Nat → Nat → Text → Reading Json
  | 0, _, _ => .error .malformed
  | steps + 1, room, t => match t with
    | '"' :: r => match body steps [] r with
      | .ok (w, r) => .ok (ofWide w, r)
      | .error e => .error e
    | '[' :: r => match room, skip r with
      | 0, _ => .error .deepArray
      | _, ']' :: r => .ok (arr [], r)
      | room + 1, r => match items steps room r with
        | .ok (vs, r) => .ok (arr vs, r)
        | .error e => .error e
    | '{' :: r => match room, skip r with
      | 0, _ => .error .deepObject
      | _, '}' :: r => .ok (obj [], r)
      | room + 1, r => match members steps room [] r with
        | .ok (fs, r) => .ok (obj fs, r)
        | .error e => .error e
    | t => scalar t

/-- The items of an array up to its closing bracket. -/
def items : Nat → Nat → Text → Reading (List Json)
  | 0, _, _ => .error .malformed
  | steps + 1, room, t => match value steps room t with
    | .error e => .error e
    | .ok (v, r) => match skip r with
      | ']' :: r => .ok ([v], r)
      | ',' :: r => match items steps room (skip r) with
        | .ok (vs, r) => .ok (v :: vs, r)
        | .error e => .error e
      | _ => .error .malformed

/-- The fields of an object up to its closing brace, after the fields `done`. Halves in their names are
mended: whoever looks a field up has a name without any. -/
def members : Nat → Nat → List (String × Json) → Text → Reading (List (String × Json))
  | 0, _, _, _ => .error .malformed
  | steps + 1, room, done, t => match t with
    | '"' :: r => match body steps [] r with
      | .error e => .error e
      | .ok (name, r) => match skip r with
        | ':' :: r => match value steps room (skip r) with
          | .error e => .error e
          | .ok (v, r) =>
            let done := put (String.ofList name.mended) v done
            match skip r with
            | '}' :: r => .ok (done, r)
            | ',' :: r => members steps room done (skip r)
            | _ => .error .malformed
        | _ => .error .malformed
    | _ => .error .malformed

end

/-- The value that a whole text holds, with room for so many arrays and objects inside each other. -/
def readWithin (room : Nat) (t : Text) : Except Fault Json :=
  match value (2 * t.length + 2) room (skip t) with
  | .error e => .error e
  | .ok (v, r) => if (skip r).isEmpty then .ok v else .error .malformed

/-- The value that a whole text holds. -/
def read (t : Text) : Except Fault Json := readWithin t.length t

end JavaStudio.Json
