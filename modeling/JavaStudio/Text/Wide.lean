import JavaStudio.Text.Quoted

/-!
# Wide texts

A program holds texts that no file in a proper encoding does: half of a surrogate pair may stand in them
by itself, where a character should. A wide text is cut at such halves, so every sequence of characters
and halves is one wide text and no other.
-/

namespace JavaStudio

/-- Half of a surrogate pair, counted from the first one. -/
abbrev Half := Fin 0x800

namespace Half

/-- The unit of sixteen bits that the half is. -/
def unit (h : Half) : Nat := 0xD800 + h

/-- The half can begin a pair. -/
def isHigh (h : Half) : Bool := h < 0x400

/-- The half that a unit of sixteen bits is. -/
def ofUnit (n : Nat) : Half := Fin.ofNat 0x800 (n - 0xD800)

end Half

/-- What a wide text is made of: characters and halves. -/
inductive Letter
  | char (c : Char)
  | half (h : Half)
  deriving DecidableEq, Repr

/-- A text in which halves may stand: characters up to its end, or up to the first half. -/
inductive Wide
  | text (t : Text)
  | torn (t : Text) (half : Half) (rest : Wide)
  deriving DecidableEq, Repr

namespace Wide

instance : Inhabited Wide := ⟨text []⟩

/-- A letter in front of a wide text. -/
def cons : Letter → Wide → Wide
  | .char c, text t => text (c :: t)
  | .char c, torn t half rest => torn (c :: t) half rest
  | .half h, w => torn [] h w

/-- The wide text of some letters. -/
def ofLetters (ls : List Letter) : Wide := ls.foldr cons (text [])

/-- The letters of a wide text. -/
def letters : Wide → List Letter
  | text t => t.map .char
  | torn t half rest => t.map .char ++ .half half :: rest.letters

/-- The wide text in which a function is applied to the characters between halves. -/
def map (f : Text → Text) : Wide → Wide
  | text t => text (f t)
  | torn t half rest => torn (f t) half (rest.map f)

/-- The text with a replacement character for every half. -/
def mended : Wide → Text
  | text t => t
  | torn t _ rest => t ++ '\uFFFD' :: rest.mended

/-- The text does not begin with a half that can end a pair. -/
def EndsNoPair : Wide → Prop
  | torn [] half _ => half.isHigh = true
  | _ => True

/-- No half that can begin a pair has one right behind it that can end the pair. -/
def Apart : Wide → Prop
  | text _ => True
  | torn _ half rest => (half.isHigh = true → rest.EndsNoPair) ∧ rest.Apart

theorem ofLetters_chars (t : Text) (ls : List Letter) :
    ofLetters (t.map .char ++ ls) = match ofLetters ls with
      | text u => text (t ++ u)
      | torn u half rest => torn (t ++ u) half rest := by
  induction t with
  | nil => cases h : ofLetters ls <;> rw [List.map_nil, List.nil_append, h] <;> rfl
  | cons c t ih =>
    show cons (.char c) (ofLetters (t.map .char ++ ls)) = _
    rw [ih]
    cases ofLetters ls <;> rfl

/-- A wide text is known by its letters. -/
theorem ofLetters_letters (w : Wide) : ofLetters w.letters = w := by
  induction w with
  | text t =>
    have whole : ofLetters (t.map .char ++ []) = text (t ++ []) := ofLetters_chars t []
    rwa [List.append_nil, List.append_nil] at whole
  | torn t half rest ih =>
    have cut : ofLetters (.half half :: rest.letters) = torn [] half rest :=
      congrArg (torn [] half) ih
    have whole := ofLetters_chars t (.half half :: rest.letters)
    rw [cut] at whole
    show ofLetters (t.map .char ++ .half half :: rest.letters) = torn t half rest
    rw [whole]
    show torn (t ++ []) half rest = torn t half rest
    rw [List.append_nil]

/-- How a wide text is shown between quotes. -/
def quoted (w : Wide) : Text :=
  let quote := Text.quoteOf w.mended
  quote :: pieces quote w ++ [quote]
where
  /-- The characters and halves between the quotes. -/
  pieces (quote : Char) : Wide → Text
    | text t => t.flatMap (Text.quoteChar quote)
    | torn t half rest =>
      t.flatMap (Text.quoteChar quote) ++ '\\' :: 'u' :: Text.hex 4 half.unit ++ pieces quote rest

end Wide

end JavaStudio
