import JavaStudio.Text.Blank
import JavaStudio.Text.Wide

/-!
# Launch lines

A line that begins with the launcher's keyword and names a class with its arguments stands for a call
of the class's main method. `expand` gives that call and leaves every other line as it is.
-/

namespace JavaStudio.Launch

/-- A character inside a string literal. -/
def literalChar (c : Char) : Text :=
  if c = '\\' then ['\\', '\\'] else if c = '"' then ['\\', '"'] else [c]

/-- The string literal of an argument. -/
def literal (argument : Text) : Text := '"' :: argument.flatMap literalChar ++ ['"']

/-- The call of the main method of a class. -/
def mainCall (className : Text) (arguments : List Text) : Text :=
  className ++ Text.ofString ".main(new String[]\x7b" ++
    Text.join [','] (arguments.map literal) ++ Text.ofString "\x7d);"

/-- What follows the keyword and white space, if anything does but white space. -/
def body? (keyword t : Text) : Option Text :=
  match Text.after? keyword t with
  | some (c :: r) =>
    if Text.isBlank c then
      match Text.dropBlank r with
      | [] => none
      | body => some body
    else none
  | _ => none

/-- The text without one semicolon at its end. -/
def dropSemicolon (t : Text) : Text := if t.getLast? = some ';' then t.dropLast else t

/-- The line as the interpreter is to see it. -/
def expand (keyword t : Text) : Text :=
  match body? keyword t with
  | none => t
  | some body => match Text.words (dropSemicolon body) with
    | [] => t
    | className :: arguments => mainCall className arguments

/-- The line as the interpreter is to see it, by a keyword that may be torn. No line begins with such a
one. -/
def expandBy (keyword : Wide) (t : Text) : Text :=
  match keyword with
  | .text keyword => expand keyword t
  | .torn .. => t

end JavaStudio.Launch
