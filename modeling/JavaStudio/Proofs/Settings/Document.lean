import JavaStudio.Proofs.Json.Ascii
import JavaStudio.Proofs.Json.Proper
import JavaStudio.Proofs.Json.ReadBack
import JavaStudio.Proofs.Settings.Load
import Mathlib.Data.Set.List

/-!
# The document of some settings

The values of settings that satisfy the schema are simple: none is an object, and an array holds only
strings. If the document of simple settings can be written, it is read back with the same value under
every key, and it satisfies the schema if the settings do.

* `read_render`: the document is read back.
* `conforms_stored`, `merge_stored`: what a load makes of it.
-/

namespace JavaStudio

namespace Json

variable {name : String} {v : Json} {vs : List Json} {fs : List (String × Json)}

theorem mem_of_lookup (h : lookup name fs = some v) : (name, v) ∈ fs := by
  induction fs with
  | nil => cases h
  | cons f fs ih =>
    obtain ⟨k, w⟩ := f
    unfold lookup at h
    split at h
    · rename_i same
      rw [← same, ← Option.some.inj h]
      exact List.mem_cons_self
    · exact List.mem_cons_of_mem _ (ih h)

/-- The fields of different names are what is looked up. -/
theorem lookup_eq_some (distinct : (fs.map (·.1)).Nodup) :
    lookup name fs = some v ↔ (name, v) ∈ fs := by
  refine ⟨mem_of_lookup, fun h => ?_⟩
  induction fs with
  | nil => cases h
  | cons f fs ih =>
    obtain ⟨k, w⟩ := f
    obtain ⟨fresh, distinct⟩ := List.nodup_cons.1 distinct
    unfold lookup
    rcases List.mem_cons.1 h with same | h
    · cases same
      rw [if_pos rfl]
    · rw [if_neg, ih distinct h]
      rintro rfl
      exact fresh (List.mem_map.2 ⟨_, h, rfl⟩)

theorem fieldsAreWritable_iff : fieldsAreWritable fs = true ↔ ∀ f ∈ fs, f.2.isWritable = true := by
  induction fs with
  | nil => simp [fieldsAreWritable]
  | cons f fs ih => simp [fieldsAreWritable, ih]

/-! ## Simple values -/

/-- A value without objects, whose arrays hold only strings. A floating-point number must be one that
there is, and no string holds a pair in halves. -/
inductive Simple : Json → Prop
  | null : Simple null
  | bool (b : Bool) : Simple (bool b)
  | int (i : Int) : Simple (int i)
  | float {x : Binary64} : x.Proper → Simple (num (.float x))
  | string {w : Wide} : w.Apart → Simple (ofWide w)
  | strings {ws : List Wide} : (∀ w ∈ ws, w.Apart) → Simple (arr (ws.map ofWide))

namespace Simple

theorem sound (h : Simple v) (writable : v.isWritable = true) : Sound v := by
  cases h with
  | null => exact .null
  | bool b => exact .bool b
  | int i =>
    have short : (Text.ofNat i.natAbs).length ≤ Text.maxDigits := of_decide_eq_true writable
    exact .num short
  | float proper => exact .num proper
  | string apart => exact .string apart
  | strings apart =>
    refine .arr fun v hv => ?_
    obtain ⟨w, hw, rfl⟩ := List.mem_map.1 hv
    exact .string (apart w hw)

theorem ordered (h : Simple v) : v.ordered = v := by
  cases h with
  | string _ => exact ordered_ofWide _
  | strings _ =>
    rw [Json.ordered, orderedItems_eq_map, List.map_map]
    exact congrArg arr (List.map_congr_left fun w _ => ordered_ofWide w)
  | _ => rfl

theorem depth (h : Simple v) : v.depth ≤ 1 := by
  have shallow : ∀ w, (ofWide w).depth = 0 := fun w => by cases w <;> rfl
  cases h with
  | string _ => exact (shallow _).trans_le (Nat.zero_le 1)
  | @strings ws _ =>
    have flat : itemsDepth (ws.map ofWide) = 0 := by
      clear * - shallow
      induction ws with
      | nil => rfl
      | cons w ws ih => rw [List.map_cons, itemsDepth, ih, shallow, Nat.max_self]
    rw [Json.depth, flat]
  | _ => exact Nat.zero_le _

end Simple

theorem fieldsDepth_le (h : ∀ f ∈ fs, Simple f.2) : fieldsDepth fs ≤ 1 := by
  induction fs with
  | nil => exact Nat.zero_le _
  | cons f fs ih =>
    rw [fieldsDepth]
    exact Nat.max_le.2 ⟨(h f List.mem_cons_self).depth,
      ih fun g hg => h g (List.mem_cons_of_mem _ hg)⟩

end Json

namespace Schema

variable {demand : Demand} {v : Json}

/-- An array that is asked for strings is one of strings. -/
theorem isMet_strings (h : Demand.strings.isMet v = true) :
    ∃ ws : List Wide, v = .arr (ws.map .ofWide) := by
  cases v with
  | arr vs =>
    have strings : ∀ v ∈ vs, v ∈ Set.range Json.ofWide := fun v hv =>
      (isString_eq_true.1 (List.all_eq_true.1 h v hv)).imp fun _ => Eq.symm
    obtain ⟨ws, rfl⟩ := (Set.ext_iff.1 (Set.range_list_map Json.ofWide) vs).2 strings
    exact ⟨ws, rfl⟩
  | _ => cases h

/-- What meets a demand is simple. -/
theorem simple_of_isMet (h : demand.isMet v = true) (proper : v.Proper) : v.Simple := by
  have number : ∀ x, v = .num x → v.Simple := by
    rintro x rfl
    cases proper with
    | int i => exact .int i
    | float proper => exact .float proper
  have string : ∀ w, v = .ofWide w → v.Simple := by
    rintro w rfl
    exact .string (Json.proper_ofWide.1 proper)
  cases demand with
  | integer =>
    cases v with
    | num x => exact number x rfl
    | _ => cases h
  | integerFrom least =>
    obtain ⟨x, hx, -⟩ := isMet_integerFrom h
    exact number x hx
  | truth =>
    cases v with
    | bool b => exact .bool b
    | _ => cases h
  | stringOrNull =>
    rcases Bool.or_eq_true_iff.1 h with null | text
    · cases v with
      | null => exact .null
      | _ => cases null
    · obtain ⟨w, hw⟩ := isString_eq_true.1 text
      exact string w hw
  | nonEmptyString =>
    obtain ⟨w, hw⟩ := isString_eq_true.1 (Bool.and_eq_true_iff.1 h).1
    exact string w hw
  | solidString =>
    obtain ⟨w, hw⟩ := isMet_solidString h
    exact string w hw
  | strings =>
    obtain ⟨ws, rfl⟩ := isMet_strings h
    cases proper with
    | arr items =>
      exact .strings fun w hw => Json.proper_ofWide.1 (items _ (List.mem_map_of_mem hw))

end Schema

/-! ## Documents -/

namespace Settings

/-- The floating-point numbers in the values are numbers that there are, and no string in them holds a
pair in halves. -/
def Proper (s : Settings) : Prop := ∀ o, (s.get o).Proper

/-- The values are simple. -/
def Simple (s : Settings) : Prop := ∀ o, (s.get o).Simple

end Settings

namespace Store

open Schema

variable {s : Settings} {fields : List (String × Json)} {name : String} {v : Json}

/-- The fields of the document of some settings, in the order of their making. -/
def documentFields (s : Settings) : List (String × Json) := s.fields ++ [("version", .int version)]

theorem mem_documentFields :
    (name, v) ∈ documentFields s ↔
      (∃ o : Setting, name = o.key ∧ v = s.get o) ∨ name = "version" ∧ v = .int version := by
  unfold documentFields Settings.fields
  rw [List.mem_append, List.mem_map, List.mem_singleton, Prod.mk.injEq]
  refine or_congr_left ⟨?_, ?_⟩
  · rintro ⟨o, -, h⟩
    cases h
    exact ⟨o, rfl, rfl⟩
  · rintro ⟨o, rfl, rfl⟩
    exact ⟨o, Setting.mem_all o, rfl⟩

theorem documentFields_distinct (s : Settings) : ((documentFields s).map (·.1)).Nodup := by
  have names : (documentFields s).map (·.1) = Setting.all.map Setting.key ++ ["version"] := rfl
  rw [names]
  decide

/-- Fields in which the document of some settings was read back. -/
def Stored (s : Settings) (fields : List (String × Json)) : Prop :=
  ∀ name v, Json.lookup name fields = some v ↔ (name, v) ∈ documentFields s

theorem simple_documentFields (simple : s.Simple) : ∀ f ∈ documentFields s, f.2.Simple := by
  rintro ⟨name, v⟩ hf
  rcases mem_documentFields.1 hf with ⟨o, -, rfl⟩ | ⟨-, rfl⟩
  · exact simple o
  · exact .int version

theorem sound_document (simple : s.Simple) (writable : (document s).isWritable = true) :
    (document s).Sound :=
  .obj (documentFields_distinct s) fun f hf =>
    (simple_documentFields simple f hf).sound (Json.fieldsAreWritable_iff.1 writable f hf)

/-- The document of simple settings is read back with the same values, if it can be written. -/
theorem read_render (simple : s.Simple) (writable : (document s).isWritable = true) (m : Machine) :
    ∃ fields, Json.readWithin m.nesting (render s) = .ok (.obj fields) ∧ Stored s fields := by
  have flat := Json.fieldsDepth_le (simple_documentFields simple)
  have fits : (document s).depth ≤ m.nesting := by
    have roomy := m.roomy
    unfold document Machine.nesting
    rw [Json.depth]
    exact (Nat.succ_le_succ flat).trans (by omega)
  have same : Json.orderedFields (documentFields s) = documentFields s := by
    rw [Json.orderedFields_eq_map]
    refine (List.map_congr_left fun f hf => ?_).trans (List.map_id _)
    rw [(simple_documentFields simple f hf).ordered]
    rfl
  refine ⟨Json.sortedFields (documentFields s), ?_, fun name v => ?_⟩
  · rw [render, Json.readWithin_indented (sound_document simple writable) fits]
    have flat : (document s).ordered = .obj (Json.sortedFields (documentFields s)) :=
      congrArg (fun fs => Json.obj (Json.sortedFields fs)) same
    rw [flat]
  · have perm := Json.sortedFields_perm (documentFields s)
    have distinct := (perm.map (·.1)).nodup_iff.2 (documentFields_distinct s)
    rw [Json.lookup_eq_some distinct, perm.mem_iff]

/-- The document of some settings satisfies the schema if the settings do. -/
theorem conforms_stored (stored : Stored s fields) : Conforms (.obj fields) ↔ Satisfied s := by
  constructor
  · intro h o demand hmem
    exact h _ _ hmem _ ((stored _ _).2 (mem_documentFields.2 (.inl ⟨o, rfl, rfl⟩)))
  · intro h name demand hmem v hv
    rcases mem_documentFields.1 ((stored _ _).1 hv) with ⟨o, rfl, rfl⟩ | ⟨rfl, rfl⟩
    · exact h o demand hmem
    · have integer : demand = .integer := by
        simpa [demands] using hmem
      rw [integer]
      rfl

theorem isCurrent_stored (stored : Stored s fields) : isCurrent fields = true := by
  have found : Json.lookup "version" fields = some (.int version) :=
    (stored _ _).2 (mem_documentFields.2 (.inr ⟨rfl, rfl⟩))
  unfold isCurrent
  rw [found]
  rfl

/-- The fields bring every value back. -/
theorem merge_stored (stored : Stored s fields) (t : Settings) :
    t.merge (Settings.given fields) = s := by
  refine Settings.ext_get fun o => ?_
  have found : Settings.given fields o = some (s.get o) :=
    (stored _ _).2 (mem_documentFields.2 (.inl ⟨o, rfl, rfl⟩))
  rw [Settings.get_merge, found]
  rfl

theorem simple_of_satisfied (satisfied : Satisfied s) (proper : s.Proper) : s.Simple := fun o =>
  simple_of_isMet (satisfied_iff.1 satisfied o) (proper o)

theorem proper_standard : Settings.standard.Proper := by
  have empty : (Json.arr []).Proper := .arr fun _ hv => absurd hv List.not_mem_nil
  intro o
  cases o with
  | launcherKeyword | javacPath => exact .str _
  | activeCompiler | compileOutputDir | logDir => exact .null
  | extraClasspath | recentFiles => exact empty
  | indentWidth | historyLimit => exact .int _
  | debugLogging => exact .bool _

/-- The values that are read from a document without faults are simple. -/
theorem simple_of_read {t : Text} {room : Nat} (read : Json.readWithin room t = .ok (.obj fields))
    (accepted : Conforms (.obj fields)) :
    (Settings.standard.merge (Settings.given fields)).Simple := by
  refine simple_of_satisfied (satisfied_standard.merge accepted) fun o => ?_
  rw [Settings.get_merge]
  rcases given : Settings.given fields o with _ | v
  · exact proper_standard o
  · exact Json.proper_of_read read _ (Json.mem_of_lookup given)

end Store

end JavaStudio
