import JavaStudio.Event
import JavaStudio.Text.Word

/-!
# Names of handlers

The handler for events of some name has the words of that name in lower case, with underscores between
them. A word begins at every capital, so the name can be told from the handler's name.

* `Text.lower_of_ascii`: within ASCII, lower case is a matter of single characters.
* `splitAt_lower_underscored`: the underscores cut a name just where its words begin.
* `eventName?_handlerName`: the words, each with a capital, make up the name of the event again.
* `EventKind.handler_inj`: no two kinds of events have one handler.
-/

namespace JavaStudio

variable {a b t : Text} {c : Char}

/-! ## ASCII -/

/-- What holds of the first 128 characters holds of those of ASCII. -/
theorem forall_ascii {p : Char → Prop} (h : ∀ n < 128, p (Char.ofNat n)) (hc : c.toNat < 128) :
    p c := by
  have := h c.toNat hc
  rwa [Char.ofNat_toNat] at this

theorem Text.lowerCode_of_ascii (hc : c.toNat < 128) : Char.ofNat (lowerCode c.toNat) = c.toLower :=
  forall_ascii (p := fun c => Char.ofNat (lowerCode c.toNat) = c.toLower) (by decide) hc

theorem Text.lowerChar_of_ascii (hc : c.toNat < 128) (before rest : Text) :
    lowerChar before c rest = [c.toLower] := by
  have dotted : c ≠ 'İ' := by
    rintro rfl
    exact absurd hc (by decide)
  have sigma : c ≠ 'Σ' := by
    rintro rfl
    exact absurd hc (by decide)
  rw [lowerChar, if_neg dotted, if_neg sigma, lowerCode_of_ascii hc]

theorem Text.lower_of_ascii (h : ∀ c ∈ t, c.toNat < 128) : lower t = t.map Char.toLower := by
  have along : ∀ before, lowerFrom before t = t.map Char.toLower := by
    induction t with
    | nil => exact fun _ => rfl
    | cons c t ih =>
      obtain ⟨hc, ht⟩ := List.forall_mem_cons.1 h
      intro before
      rw [lowerFrom, lowerChar_of_ascii hc, ih ht, List.map_cons, List.singleton_append]
  exact along []

/-! ## Words -/

/-- A letter or a digit of ASCII. -/
def isNameChar (c : Char) : Bool := Text.isAsciiLetter c || ('0' ≤ c && c ≤ '9')

/-- The name of a class of events: a capital of ASCII, and letters and digits of ASCII behind it. -/
def IsClassName : Text → Prop
  | [] => False
  | c :: t => isCapital c = true ∧ t.all isNameChar = true

instance : DecidablePred IsClassName
  | [] => inferInstanceAs (Decidable False)
  | c :: t => inferInstanceAs (Decidable (isCapital c = true ∧ t.all isNameChar = true))

/-- A word with a capital. -/
def capitalized : Text → Text
  | [] => []
  | c :: t => c.toUpper :: t

/-- The words of the name of a handler are cut at underscores. -/
def isUnderscore (c : Char) : Bool := c == '_'

/-- The name of the events that a handler is for: the words behind `on_`, each with a capital. -/
def eventName? (handler : Text) : Option Text :=
  (Text.after? (Text.ofString "on_") handler).map fun t =>
    (Text.splitAt isUnderscore t).flatMap capitalized

theorem isAscii_of_isNameChar (h : isNameChar c = true) : c.toNat < 128 := by
  simp only [isNameChar, Text.isAsciiLetter, Bool.or_eq_true, Bool.and_eq_true, decide_eq_true_eq,
    Char.le_def, UInt32.le_iff_toNat_le] at h
  have code : c.toNat = c.val.toNat := rfl
  have ends : 'Z'.val.toNat = 90 ∧ 'z'.val.toNat = 122 ∧ '9'.val.toNat = 57 := by decide
  omega

theorem isNameChar_of_isCapital (h : isCapital c = true) : isNameChar c = true := by
  replace h : ('A' ≤ c && c ≤ 'Z') = true := h
  rw [isNameChar, Text.isAsciiLetter, h, Bool.or_true, Bool.true_or]

/-- A letter or digit is no underscore, nor is its lower case, which only a capital differs from. -/
theorem toLower_of_isNameChar (h : isNameChar c = true) :
    isUnderscore c.toLower = false ∧
      (if isCapital c = true then c.toLower.toUpper = c else c.toLower = c) :=
  forall_ascii (p := fun c => isNameChar c = true → isUnderscore c.toLower = false ∧
    (if isCapital c = true then c.toLower.toUpper = c else c.toLower = c))
    (by decide) (isAscii_of_isNameChar h) h

theorem Text.splitAt_cons {cut : Char → Bool} {p : Text} {ps : List Text} (hc : cut c = false)
    (ht : splitAt cut t = p :: ps) : splitAt cut (c :: t) = (c :: p) :: ps := by
  rw [splitAt, if_neg (by simp [hc]), ht]

theorem underscored_of_capital (hc : isCapital c = true) (t : Text) :
    underscored (c :: t) = '_' :: c :: underscored t := by
  rw [underscored, List.flatMap_cons, if_pos hc]
  rfl

theorem underscored_of_not_capital (hc : isCapital c = false) (t : Text) :
    underscored (c :: t) = c :: underscored t := by
  rw [underscored, List.flatMap_cons, if_neg (by simp [hc])]
  rfl

theorem underscored_ascii (h : ∀ c ∈ t, isNameChar c = true) : ∀ c ∈ underscored t, c.toNat < 128 := by
  intro c hc
  obtain ⟨d, hd, hc⟩ := List.mem_flatMap.1 hc
  have ascii := isAscii_of_isNameChar (h d hd)
  split at hc
  · rcases List.mem_cons.1 hc with rfl | hc
    · decide
    · rwa [List.mem_singleton.1 hc]
  · rwa [List.mem_singleton.1 hc]

/-- The part in front of the first underscore ends a word that began before, and each of the others is a
word of its own. -/
theorem splitAt_lower_underscored (h : ∀ c ∈ t, isNameChar c = true) :
    ∃ p ps, Text.splitAt isUnderscore ((underscored t).map Char.toLower) = p :: ps ∧
      p ++ ps.flatMap capitalized = t := by
  induction t with
  | nil => exact ⟨[], [], rfl, rfl⟩
  | cons c t ih =>
    -- A capital closes the first part of what follows and opens a new, empty one in front of it.
    obtain ⟨hc, ht⟩ := List.forall_mem_cons.1 h
    obtain ⟨p, ps, parts, whole⟩ := ih ht
    obtain ⟨uncut, same⟩ := toLower_of_isNameChar hc
    have next := Text.splitAt_cons uncut parts
    cases capital : isCapital c with
    | true =>
      rw [if_pos capital] at same
      refine ⟨[], (c.toLower :: p) :: ps, ?_, ?_⟩
      · have cut : isUnderscore ('_' : Char).toLower = true := by decide
        rw [underscored_of_capital capital, List.map_cons, List.map_cons, Text.splitAt, if_pos cut, next]
      · rw [List.nil_append, List.flatMap_cons, capitalized, same, List.cons_append, whole]
    | false =>
      rw [if_neg (by simp [capital])] at same
      refine ⟨c.toLower :: p, ps, ?_, ?_⟩
      · rw [underscored_of_not_capital capital, List.map_cons, next]
      · rw [same, List.cons_append, whole]

/-! ## From a handler back to its events -/

theorem eventName?_handlerName (ha : IsClassName a) : eventName? (handlerName a) = some a := by
  cases a with
  | nil => exact ha.elim
  | cons c t =>
    obtain ⟨capital, rest⟩ := ha
    replace rest : ∀ d ∈ t, isNameChar d = true := List.all_eq_true.1 rest
    have first := isNameChar_of_isCapital capital
    have ascii : ∀ d ∈ innerUnderscored (c :: t), d.toNat < 128 :=
      List.forall_mem_cons.2 ⟨isAscii_of_isNameChar first, underscored_ascii rest⟩
    obtain ⟨uncut, same⟩ := toLower_of_isNameChar first
    rw [if_pos capital] at same
    obtain ⟨p, ps, parts, whole⟩ := splitAt_lower_underscored rest
    have words : Text.splitAt isUnderscore (Text.lower (innerUnderscored (c :: t))) =
        (c.toLower :: p) :: ps := by
      rw [Text.lower_of_ascii ascii, innerUnderscored, List.map_cons, Text.splitAt_cons uncut parts]
    have stripped : Text.after? (Text.ofString "on_") (handlerName (c :: t)) =
        some (Text.lower (innerUnderscored (c :: t))) := Text.after?_eq_some_iff.2 rfl
    rw [eventName?, stripped, Option.map_some, words, List.flatMap_cons, capitalized, same,
      List.cons_append, whole]

theorem handlerName_inj (ha : IsClassName a) (hb : IsClassName b) :
    handlerName a = handlerName b ↔ a = b := by
  constructor
  · intro same
    have read : some a = some b := by
      rw [← eventName?_handlerName ha, ← eventName?_handlerName hb, same]
    exact Option.some.inj read
  · exact congrArg handlerName

/-! ## Kinds -/

namespace EventKind

theorem isClassName (k : EventKind) : IsClassName k.name.toList := by cases k <;> decide

theorem ofName?_name (k : EventKind) : ofName? k.name = some k := by cases k <;> rfl

theorem name_inj {k k' : EventKind} : k.name = k'.name ↔ k = k' := by
  constructor
  · intro same
    have found : some k = some k' := by rw [← ofName?_name k, ← ofName?_name k', same]
    exact Option.some.inj found
  · exact congrArg name

theorem handler_inj {k k' : EventKind} : k.handler = k'.handler ↔ k = k' := by
  rw [handler, handler, String.ofList_inj, handlerName_inj k.isClassName k'.isClassName,
    String.toList_inj, name_inj]

end EventKind

end JavaStudio
