import JavaStudio.Proofs.Encoding.Exact

/-!
# What the content of a file shows

Without the name of an encoding, the content of a source file is decoded in the encoding that it shows:
that of the mark at its head, else UTF-8 if it is that, else the one of the locale if it is that, else
Latin-1. Without a mark this never fails, whatever the locale. A mark is believed whatever follows it, so
a mark before the bytes of no text makes the file one that cannot be read.

* `textOf_shows`, `textOf_misleading`: what comes of each content.
* `read_unnamed`: a file is read, without carriage returns, exactly if its mark does not mislead.
* `read_misled`: a file that cannot be read.
-/

namespace JavaStudio.Source

open Encoding

variable {m : Machine} {bs r : Bytes} {t : Text}

/-- The content begins with a mark, and what follows is no text in the encoding of the mark. -/
inductive Misleading : Bytes → Prop
  | utf8 {r : Bytes} : (∀ t, r ≠ Utf8.encode t) → Misleading (mark8 ++ r)
  | little {r : Bytes} : (∀ t, r ≠ Utf16.encode .little t) → Misleading (markLittle ++ r)
  | big {r : Bytes} : (∀ t, r ≠ Utf16.encode .big t) → Misleading (markBig ++ r)

/-- The text that the content of a file shows on a machine. A character like the mark is dropped at the
head of a text in UTF-8, marked or not, and of one in the encoding of the locale. -/
inductive Shows (m : Machine) : Bytes → Text → Prop
  | utf8Marked (t : Text) : Shows m (mark8 ++ Utf8.encode t) (dropMark t)
  | utf16Little (t : Text) : Shows m (markLittle ++ Utf16.encode .little t) t
  | utf16Big (t : Text) : Shows m (markBig ++ Utf16.encode .big t) t
  | utf8 {t : Text} : Unmarked (Utf8.encode t) → Shows m (Utf8.encode t) t
  | locale {bs : Bytes} {t : Text} : Unmarked bs → (∀ t, bs ≠ Utf8.encode t) →
      decodeAs m (localeName m) bs = .ok t → Shows m bs (dropMark t)
  | latin1 {bs : Bytes} : Unmarked bs → (∀ t, bs ≠ Utf8.encode t) →
      (∀ t, decodeAs m (localeName m) bs ≠ .ok t) → Shows m bs (bs.map fun b => Char.ofNat b.toNat)

/-- The encoding of the locale is known to the machine. It decodes bytes, or refuses them because they
are no text in it. -/
structure LocaleKnown (m : Machine) : Prop where
  checked : checkName (localeName m) = .ok ()
  decides : ∃ codec, codecNamed m (localeName m) = .ok codec ∧
    ∀ bs, (∃ t, codec.decode bs = .ok t) ∨ ∃ bad, codec.decode bs = .error (.undecodable bad)

/-! ## The encoding that is found -/

theorem decode_markLittle (m : Machine) (r : Bytes) :
    decode m none (markLittle ++ r) = Encoding.utf16Little.decode (markLittle ++ r) := by
  have guessed : guess m (markLittle ++ r) = .ok "utf-16-le" := rfl
  rw [decode_guessed guessed, decodeAs_named (e := .utf16Little) rfl rfl]

theorem decode_markBig (m : Machine) (r : Bytes) :
    decode m none (markBig ++ r) = Encoding.utf16Big.decode (markBig ++ r) := by
  have guessed : guess m (markBig ++ r) = .ok "utf-16-be" := rfl
  rw [decode_guessed guessed, decodeAs_named (e := .utf16Big) rfl rfl]

/-- A mark of UTF-16 is decoded to its character, and decoding goes on behind it. -/
theorem decode?_markLittle (r : Bytes) :
    Utf16.decode? .little (markLittle ++ r) = (Utf16.decode? .little r).map (markChar :: ·) :=
  Utf16.decode?_unitsOfChar .little markChar r

theorem decode?_markBig (r : Bytes) :
    Utf16.decode? .big (markBig ++ r) = (Utf16.decode? .big r).map (markChar :: ·) :=
  Utf16.decode?_unitsOfChar .big markChar r

theorem utf8_none_of_ne (noText : ∀ t, bs ≠ Utf8.encode t) : Utf8.decode? bs = none :=
  Option.eq_none_iff_forall_ne_some.2 fun t ht => noText t (Utf8.decode?_eq_some.1 ht)

theorem utf16_none_of_ne {order : Utf16.Order} (noText : ∀ t, bs ≠ Utf16.encode order t) :
    Utf16.decode? order bs = none :=
  Option.eq_none_iff_forall_ne_some.2 fun t ht => noText t (Utf16.decode?_eq_some.1 ht)

theorem LocaleKnown.decodeAs (known : LocaleKnown m) (bs : Bytes) :
    (∃ t, decodeAs m (localeName m) bs = .ok t) ∨
      ∃ bad, decodeAs m (localeName m) bs = .error (.undecodable bad) := by
  obtain ⟨codec, named, decides⟩ := known.decides
  unfold Source.decodeAs
  rw [known.checked]
  cases bs with
  | nil => exact .inl ⟨[], rfl⟩
  | cons b bs =>
    rw [named]
    exact decides (b :: bs)

/-- Content without a mark that is no UTF-8 is decoded in the encoding of the locale or in Latin-1. -/
theorem guess_other (unmarked : Unmarked bs) (noText : ∀ t, bs ≠ Utf8.encode t)
    {b : Bool} (decided : decodes m (localeName m) bs = .ok b) :
    guess m bs = .ok (if b then localeName m else "latin-1") := by
  have first : decodes m "utf-8" bs = .ok false := by
    have refused : Encoding.utf8.decode? bs = none := utf8_none_of_ne noText
    rw [decodes_named (e := .utf8) rfl rfl, refused, Option.isSome_none]
  have last : decodes m "latin-1" bs = .ok true := by
    have all : bs.all (·.toNat < 256) = true :=
      List.all_eq_true.2 fun b _ => decide_eq_true b.toNat_lt
    have decoded : Encoding.latin1.decode? bs = some (bs.map fun b => Char.ofNat b.toNat) := if_pos all
    rw [decodes_named (e := .latin1) rfl rfl, decoded, Option.isSome_some]
  rw [guess_unmarked unmarked, candidates, firstThatDecodes_cons first, if_neg Bool.false_ne_true,
    firstThatDecodes_cons decided, firstThatDecodes_cons last]
  cases b <;> rfl

/-! ## What comes of the content -/

theorem markChar_not_latin1 (bs : Bytes) :
    dropMark (bs.map fun b => Char.ofNat b.toNat) = bs.map fun b => Char.ofNat b.toNat := by
  rcases bs with _ | ⟨b, bs⟩
  · rfl
  · refine if_neg fun hc => ?_
    have range := b.toNat_lt
    have value : markChar.toNat = b.toNat := by
      rw [← hc]
      exact toNat_ofNat_of_isValidChar (.inl (by omega))
    have large : markChar.toNat = 0xFEFF := rfl
    omega

theorem decode_shows (known : LocaleKnown m) (h : Shows m bs t) :
    ∃ t', decode m none bs = .ok t' ∧ dropMark t' = t := by
  cases h with
  | utf8Marked t =>
    rw [decode_mark8]
    exact ⟨t, decode_of_decode? (Utf8.decode?_encode t), rfl⟩
  | utf16Little t =>
    have decoded := decode?_markLittle (Utf16.encode .little t)
    rw [Utf16.decode?_encode, Option.map_some] at decoded
    rw [decode_markLittle]
    exact ⟨markChar :: t, decode_of_decode? decoded, rfl⟩
  | utf16Big t =>
    have decoded := decode?_markBig (Utf16.encode .big t)
    rw [Utf16.decode?_encode, Option.map_some] at decoded
    rw [decode_markBig]
    exact ⟨markChar :: t, decode_of_decode? decoded, rfl⟩
  | utf8 unmarked =>
    have decoded := decode_encode m t
    rw [dropMark_unmarked unmarked] at decoded
    exact ⟨t, decoded, dropMark_unmarked unmarked⟩
  | @locale _ t unmarked noText decoded =>
    have decided : decodes m (localeName m) bs = .ok true := by
      rw [decodes, decoded]
    exact ⟨t, (decode_guessed (guess_other unmarked noText decided)).trans decoded, rfl⟩
  | latin1 unmarked noText other =>
    have decided : decodes m (localeName m) bs = .ok false := by
      obtain ⟨t, decoded⟩ | ⟨bad, refused⟩ := known.decodeAs bs
      · exact absurd decoded (other t)
      · rw [decodes, refused]
    have all : bs.all (·.toNat < 256) = true :=
      List.all_eq_true.2 fun b _ => decide_eq_true b.toNat_lt
    have guessed : guess m bs = .ok "latin-1" := guess_other unmarked noText decided
    rw [decode_guessed guessed, decodeAs_named (e := .latin1) rfl rfl]
    exact ⟨_, decode_of_decode? (if_pos all), markChar_not_latin1 bs⟩

theorem textOf_shows (known : LocaleKnown m) (h : Shows m bs t) :
    textOf m none bs = .ok (Text.unixNewlines t) := by
  obtain ⟨t', decoded, rfl⟩ := decode_shows known h
  rw [textOf, decoded]
  rfl

theorem textOf_misleading (m : Machine) (h : Misleading bs) :
    ∃ b, textOf m none bs = .error (.undecodable b) := by
  have refused : ∃ b, decode m none bs = .error (.undecodable b) := by
    cases h with
    | utf8 noText =>
      rw [decode_mark8]
      exact ⟨_, decode_of_decode?_eq_none (utf8_none_of_ne noText)⟩
    | @little r noText =>
      have decoded := decode?_markLittle r
      rw [utf16_none_of_ne noText, Option.map_none] at decoded
      rw [decode_markLittle]
      exact ⟨_, decode_of_decode?_eq_none decoded⟩
    | @big r noText =>
      have decoded := decode?_markBig r
      rw [utf16_none_of_ne noText, Option.map_none] at decoded
      rw [decode_markBig]
      exact ⟨_, decode_of_decode?_eq_none decoded⟩
  obtain ⟨b, refused⟩ := refused
  exact ⟨b, by rw [textOf, refused]; rfl⟩

/-- Every content shows a text, unless it begins with a mark that misleads. -/
theorem shows_of_not_misleading (m : Machine) (h : ¬ Misleading bs) : ∃ t, Shows m bs t := by
  by_cases marked8 : mark8 <+: bs
  · obtain ⟨r, rfl⟩ := marked8
    by_cases text : ∃ t, r = Utf8.encode t
    · obtain ⟨t, rfl⟩ := text
      exact ⟨_, .utf8Marked t⟩
    · exact absurd (.utf8 fun t ht => text ⟨t, ht⟩) h
  by_cases markedLittle : markLittle <+: bs
  · obtain ⟨r, rfl⟩ := markedLittle
    by_cases text : ∃ t, r = Utf16.encode .little t
    · obtain ⟨t, rfl⟩ := text
      exact ⟨_, .utf16Little t⟩
    · exact absurd (.little fun t ht => text ⟨t, ht⟩) h
  by_cases markedBig : markBig <+: bs
  · obtain ⟨r, rfl⟩ := markedBig
    by_cases text : ∃ t, r = Utf16.encode .big t
    · obtain ⟨t, rfl⟩ := text
      exact ⟨_, .utf16Big t⟩
    · exact absurd (.big fun t ht => text ⟨t, ht⟩) h
  have unmarked : Unmarked bs := ⟨marked8, markedLittle, markedBig⟩
  by_cases text : ∃ t, bs = Utf8.encode t
  · obtain ⟨t, rfl⟩ := text
    exact ⟨_, .utf8 unmarked⟩
  have noText : ∀ t, bs ≠ Utf8.encode t := fun t ht => text ⟨t, ht⟩
  by_cases local' : ∃ t, decodeAs m (localeName m) bs = .ok t
  · obtain ⟨t, decoded⟩ := local'
    exact ⟨_, .locale unmarked noText decoded⟩
  · exact ⟨_, .latin1 unmarked noText fun t decoded => local' ⟨t, decoded⟩⟩

/-! ## Reading a file -/

variable {fs : Files} {p : Path}

/-- A file that is there is read, and its text has no carriage return, unless its content begins with a
mark that misleads; then it cannot be decoded. -/
theorem read_unnamed (known : LocaleKnown fs.machine) (stored : fs.readBytes p = .ok bs) :
    (¬ Misleading bs → ∃ t, Shows fs.machine bs t ∧ read fs p none = .ok (Text.unixNewlines t) ∧
      '\r' ∉ Text.unixNewlines t) ∧
    (Misleading bs → ∃ b, read fs p none = .error (.undecodable b)) := by
  have held : read fs p none = textOf fs.machine none bs := by rw [read, stored]
  constructor
  · intro h
    obtain ⟨t, shows⟩ := shows_of_not_misleading fs.machine h
    exact ⟨t, shows, held.trans (textOf_shows known shows), Text.return_not_mem_unixNewlines t⟩
  · intro h
    obtain ⟨b, refused⟩ := textOf_misleading fs.machine h
    exact ⟨b, held.trans refused⟩

theorem Misleading.marked (h : Misleading bs) : ¬ Unmarked bs := by
  intro unmarked
  cases h with
  | utf8 _ => exact unmarked.not8 (List.prefix_append _ _)
  | little _ => exact unmarked.notLittle (List.prefix_append _ _)
  | big _ => exact unmarked.notBig (List.prefix_append _ _)

/-- The characters that code page 1252 has between those of ASCII and the upper half of Latin-1; zero
where it has none. -/
def windowsChars : List Nat := [
  0x20AC, 0, 0x201A, 0x192, 0x201E, 0x2026, 0x2020, 0x2021, 0x2C6, 0x2030, 0x160, 0x2039, 0x152, 0,
  0x17D, 0, 0, 0x2018, 0x2019, 0x201C, 0x201D, 0x2022, 0x2013, 0x2014, 0x2DC, 0x2122, 0x161, 0x203A,
  0x153, 0, 0x17E, 0x178]

/-- The character of a byte in code page 1252. -/
def windowsChar? (b : UInt8) : Option Char :=
  if b.toNat < 0x80 || 0xA0 ≤ b.toNat then some (Char.ofNat b.toNat)
  else match windowsChars[b.toNat - 0x80]? with
    | none | some 0 => none
    | some n => some (Char.ofNat n)

/-- The byte of a character in code page 1252. -/
def windowsByte? (c : Char) : Option UInt8 :=
  ((List.range 256).map UInt8.ofNat).find? fun b => windowsChar? b = some c

/-- The bytes of a text in code page 1252. -/
def windowsEncode : Wide → Except Failure Bytes
  | .text t => match t.mapM windowsByte? with
    | some bs => .ok bs
    | none => .error .unencodable
  | .torn .. => .error .unencodable

/-- The text of bytes in code page 1252. -/
def windowsDecode (bs : Bytes) : Except Failure Text :=
  match bs.mapM windowsChar? with
  | some t => .ok t
  | none =>
    let k := bs.findIdx fun b => (windowsChar? b).isNone
    .error (.undecodable ⟨"charmap", k, 1, (bs[k]?.getD 0).toNat, "character maps to <undefined>"⟩)

/-- A machine whose locale has code page 1252. -/
def western : Machine where
  preferred := "cp1252"
  codec? name := if name = "cp1252" then some ⟨windowsEncode, windowsDecode⟩ else none

theorem windowsDecode_decides (bs : Bytes) :
    (∃ t, windowsDecode bs = .ok t) ∨ ∃ bad, windowsDecode bs = .error (.undecodable bad) := by
  unfold windowsDecode
  cases bs.mapM windowsChar? with
  | none => exact .inr ⟨_, rfl⟩
  | some t => exact .inl ⟨t, rfl⟩

theorem localeKnown_western : LocaleKnown western :=
  ⟨rfl, ⟨windowsEncode, windowsDecode⟩, rfl, windowsDecode_decides⟩

/-- A machine of such a kind with one file. -/
def oneFile (machine : Machine) (content : Bytes) : Files :=
  { tree := ⟨[("a", .file content)]⟩, machine := machine }

/-- A euro sign of the locale and a carriage return are read, and so is a byte that the locale does not
have; a mark before a stray byte is not. -/
theorem read_unnamed_oneFile :
    (∃ t, Shows western [0x80, 0x0D] t ∧
      read (oneFile western [0x80, 0x0D]) ⟨.root, ["a"]⟩ none = .ok (Text.unixNewlines t) ∧
      '\r' ∉ Text.unixNewlines t) ∧
    (∃ t, Shows western [0x81] t ∧
      read (oneFile western [0x81]) ⟨.root, ["a"]⟩ none = .ok (Text.unixNewlines t) ∧
      '\r' ∉ Text.unixNewlines t) ∧
    ∃ b, read (oneFile western [0xFE, 0xFF, 0x41]) ⟨.root, ["a"]⟩ none = .error (.undecodable b) := by
  have euro : Unmarked [0x80, 0x0D] := ⟨by decide, by decide, by decide⟩
  have stray : Unmarked [0x81] := ⟨by decide, by decide, by decide⟩
  have odd : ∀ t, [0x41] ≠ Utf16.encode .big t := fun t ht => by
    have read := Utf16.decode?_encode .big t
    rw [← ht] at read
    cases read
  have read {content} := @read_unnamed content (oneFile western content) ⟨.root, ["a"]⟩
    localeKnown_western rfl
  exact ⟨read.1 fun h => h.marked euro, read.1 fun h => h.marked stray, read.2 (.big odd)⟩

/-- A file whose mark of UTF-8 is followed by a byte that is none cannot be read, although its bytes are
Latin-1. -/
theorem read_misled :
    (oneFile {} [0xEF, 0xBB, 0xBF, 0xFF]).readBytes ⟨.root, ["a"]⟩ = .ok [0xEF, 0xBB, 0xBF, 0xFF] ∧
      Encoding.decode .latin1 [0xEF, 0xBB, 0xBF, 0xFF] = .ok ['ï', '»', '¿', 'ÿ'] ∧
      ∀ t, read (oneFile {} [0xEF, 0xBB, 0xBF, 0xFF]) ⟨.root, ["a"]⟩ none ≠ .ok t :=
  ⟨rfl, rfl, nofun⟩

end JavaStudio.Source
