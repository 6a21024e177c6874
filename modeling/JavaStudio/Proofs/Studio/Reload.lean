import JavaStudio.Proofs.Labelled
import JavaStudio.Proofs.Settings.Save
import JavaStudio.Proofs.Studio.Indent

/-!
# Settings that are changed, saved and loaded again

Values come into the settings from their file, from the environment, by remembering files and by setting
the indent. The file is checked against the schema, the environment and the indent are not. `Kept` says
what any chain of changes leaves of the settings it began with.

* `satisfied_iff_admissible`: the settings satisfy the schema if what the environment and the last change
  of the indent brought in does.
* `changed_is_reloaded`: if so, they are loaded as they were saved, and else the standard settings are.
-/

namespace JavaStudio

open Schema Store Studio

/-! ## Changes -/

namespace Settings

variable {s s₁ s' : Settings} {w : Int} {ws : List Int}

/-- A file is remembered. -/
def Remembering (s s' : Settings) : Prop := ∃ fs p, s.remember fs p = .ok s'

/-- A studio that keeps its indent in these settings takes another indent. -/
def Widening (w : Int) (s s' : Settings) : Prop :=
  ∃ (S : Type) (before after : Studio S) (q : Except Failure Unit),
    before.wiring.keepsIndent = true ∧ before.settings = s ∧
      setIndent (.int w) before = some (q, after) ∧ after.settings = s'

theorem Widening.eq (h : Widening w s s') : s' = { s with indentWidth := .int w } := by
  obtain ⟨S, before, after, q, keeps, rfl, run, rfl⟩ := h
  obtain ⟨-, settings, -, -, -⟩ := setIndent_eq_some run
  rw [settings, if_pos keeps]

/-- The recent files are strings in which no half of a pair meets the other one. -/
def Listing (s : Settings) : Prop :=
  ∃ rs : List Wide, (∀ w ∈ rs, w.Apart) ∧ s.get .recentFiles = .arr (rs.map .ofWide)

/-- What changes leave of settings that they began with, when they set the indent to some widths. -/
structure Kept (s : Settings) (ws : List Int) (s' : Settings) : Prop where
  recent : s'.Listing
  width : s'.get .indentWidth = (ws.getLast?.map Json.int).getD (s.get .indentWidth)
  others : ∀ o, o ≠ .indentWidth → o ≠ .recentFiles → s'.get o = s.get o

namespace Kept

theorem start (recent : s.Listing) : Kept s [] s := ⟨recent, rfl, fun _ _ _ => rfl⟩

theorem pushRecent_ofWide (entry : String) (rs : List Wide) :
    pushRecent entry (rs.map .ofWide) = List.map Json.ofWide
      ((.text entry.toList :: rs.filter fun w => differs entry (.ofWide w)).take recentLimit) := by
  unfold pushRecent
  rw [List.filter_map, List.map_take, List.map_cons, ← Json.str_eq_ofWide]
  rfl

theorem remember (h : Kept s ws s₁) (step : Remembering s₁ s') : Kept s ws s' := by
  obtain ⟨fs, p, run⟩ := step
  obtain ⟨rs, apart, recent⟩ := h.recent
  have recent : s₁.recentFiles = .arr (rs.map .ofWide) := recent
  unfold Settings.remember at run
  split at run
  · cases run
  rename_i place _
  rw [recent] at run
  cases run
  have listed := congrArg Json.arr (pushRecent_ofWide place.toString rs)
  refine ⟨⟨_, fun w hw => ?_, listed⟩, h.width, fun o hindent hrecent => ?_⟩
  · rcases List.mem_cons.1 (List.mem_of_mem_take hw) with rfl | hw
    · trivial
    · exact apart w (List.mem_of_mem_filter hw)
  rw [← h.others o hindent hrecent]
  cases o <;> first | rfl | contradiction

theorem widen (h : Kept s ws s₁) (step : Widening w s₁ s') : Kept s (ws ++ [w]) s' := by
  rw [step.eq]
  refine ⟨h.recent, ?_, fun o hindent hrecent => ?_⟩
  · rw [List.getLast?_concat]
    rfl
  · rw [← h.others o hindent hrecent]
    cases o <;> first | rfl | contradiction

/-- Every chain of changes keeps the rest. -/
theorem run (recent : s.Listing)
    (chain : Labelled Remembering Widening s ws s') : Kept s ws s' := by
  induction chain with
  | start => exact .start recent
  | aside _ step ih => exact ih.remember step
  | step _ step ih => exact ih.widen step

theorem simple (h : Kept s ws s') (simple : s.Simple) : s'.Simple := by
  intro o
  by_cases hrecent : o = .recentFiles
  · obtain ⟨rs, apart, recent⟩ := h.recent
    rw [hrecent, recent]
    exact .strings apart
  by_cases hindent : o = .indentWidth
  · rw [hindent, h.width]
    cases ws.getLast? with
    | none => exact simple .indentWidth
    | some w => exact .int w
  · rw [h.others o hindent hrecent]
    exact simple o

end Kept

end Settings

/-! ## What is accepted -/

namespace Schema

theorem isMet_int {least i : Int} : (Demand.integerFrom least).isMet (.int i) = true ↔ least ≤ i := by
  simp [Demand.isMet, isInteger, isBelow, Number.toInt?, Number.ltInt]

theorem isMet_ofWide (rs : List Wide) : Demand.strings.isMet (.arr (rs.map .ofWide)) = true := by
  refine List.all_eq_true.2 fun v hv => ?_
  obtain ⟨w, -, rfl⟩ := List.mem_map.1 hv
  exact isString_eq_true.2 ⟨w, rfl⟩

end Schema

/-! ## Saving and loading again -/

namespace Store

variable {p : Path} {h h' g : Host} {base s s' : Settings} {ws : List Int}
  {env : Environment}

/-- What the environment and changes of the indent brought in is as the schema asks. An indent of the
environment counts as long as none was set. -/
structure Admissible (env : Environment) (ws : List Int) : Prop where
  entered : ∀ o v, fromEnvironment env o = some v → (o = .indentWidth → ws = []) →
    (demandOn o).isMet v = true
  last : ∀ w, ws.getLast? = some w → 0 ≤ w

theorem fromEnvironment_recentFiles (env : Environment) :
    fromEnvironment env .recentFiles = none := rfl

/-- What the environment says is simple. -/
theorem simple_of_fromEnvironment {o : Setting} {v : Json} (h : fromEnvironment env o = some v) :
    v.Simple := by
  unfold fromEnvironment at h
  obtain ⟨⟨name, reading⟩, -, h⟩ := Option.bind_eq_some_iff.1 h
  obtain ⟨w, found, h⟩ := Option.bind_eq_some_iff.1 h
  obtain ⟨entry, held, rfl⟩ := Option.map_eq_some_iff.1 found
  have apart := env.apart entry (List.mem_of_find?_eq_some held)
  cases reading with
  | verbatim =>
    cases h
    exact .string apart
  | flag =>
    cases hw : entry.2 <;> rw [hw] at h <;> cases h <;> exact .bool _
  | integer =>
    cases hw : entry.2 with
    | text t =>
      rw [hw] at h
      obtain ⟨i, -, rfl⟩ := Option.map_eq_some_iff.1 h
      exact .int i
    | torn =>
      rw [hw] at h
      cases h

/-- The values of a settings file are simple. -/
theorem simple_of_loadFile (sound : Sound h.validate) (run : loadFile p h = (.ok s, h')) :
    s.Simple := by
  obtain ⟨fields, rfl, rfl | ⟨accepted, t, read⟩⟩ := loadFile_eq_ok sound run
  · exact simple_of_satisfied satisfied_standard proper_standard
  · exact simple_of_read read accepted

theorem simple_merge (simple : base.Simple) : (base.merge (fromEnvironment env)).Simple := by
  intro o
  rw [Settings.get_merge]
  rcases entered : fromEnvironment env o with _ | v
  · exact simple o
  · exact simple_of_fromEnvironment entered

theorem listing_of_satisfied (satisfied : Satisfied s) (simple : s.Simple) : s.Listing := by
  obtain ⟨rs, recent⟩ := isMet_strings (satisfied_iff.1 satisfied .recentFiles)
  have held := simple .recentFiles
  unfold Settings.Listing
  generalize s.get .recentFiles = v at held recent
  cases held with
  | strings apart => exact ⟨_, apart, rfl⟩
  | @string w _ => cases w <;> cases recent
  | _ => cases recent

/-- Of the values of a file and the environment, only those of the environment can be refused. -/
theorem accepted_merge_iff (satisfied : Satisfied base) (o : Setting) :
    (demandOn o).isMet ((base.merge (fromEnvironment env)).get o) = true ↔
      ∀ v, fromEnvironment env o = some v → (demandOn o).isMet v = true := by
  rw [Settings.get_merge]
  rcases fromEnvironment env o with _ | v
  · exact ⟨fun _ _ h => (nomatch h), fun _ => satisfied_iff.1 satisfied o⟩
  · exact ⟨fun h _ hv => Option.some.inj hv ▸ h, fun h => h v rfl⟩

/-- What the schema asks of one of the changed settings of a file and the environment. -/
theorem accepted_iff (satisfied : Satisfied base)
    (kept : Settings.Kept (base.merge (fromEnvironment env)) ws s') (o : Setting) :
    (demandOn o).isMet (s'.get o) = true ↔
      (∀ v, fromEnvironment env o = some v → (o = .indentWidth → ws = []) →
        (demandOn o).isMet v = true) ∧
      (o = .indentWidth → ∀ w, ws.getLast? = some w → 0 ≤ w) := by
  by_cases hrecent : o = .recentFiles
  · subst hrecent
    obtain ⟨rs, -, recent⟩ := kept.recent
    rw [recent]
    refine ⟨fun _ => ⟨fun v hv => ?_, nofun⟩, fun _ => isMet_ofWide rs⟩
    cases hv
  by_cases hindent : o = .indentWidth
  · subst hindent
    rw [kept.width]
    rcases hw : ws.getLast? with _ | w
    · rw [List.getLast?_eq_none_iff] at hw
      refine (accepted_merge_iff satisfied .indentWidth).trans ⟨fun h => ?_, fun h v hv => ?_⟩
      · exact ⟨fun v hv _ => h v hv, fun _ _ last => nomatch last⟩
      · exact h.1 v hv fun _ => hw
    · refine isMet_int.trans ⟨fun h => ⟨fun _ _ unset => ?_, fun _ v last => ?_⟩, fun h => ?_⟩
      · rw [unset rfl] at hw
        cases hw
      · exact Option.some.inj last ▸ h
      · exact h.2 rfl w rfl
  · rw [kept.others o hindent hrecent, accepted_merge_iff satisfied]
    exact ⟨fun h => ⟨fun v hv _ => h v hv, fun same => absurd same hindent⟩,
      fun h v hv => h.1 v hv fun same => absurd same hindent⟩

/-- The changed settings of a file and the environment satisfy the schema exactly if what was brought
in is admissible. -/
theorem satisfied_iff_admissible (satisfied : Satisfied base)
    (kept : Settings.Kept (base.merge (fromEnvironment env)) ws s') :
    Satisfied s' ↔ Admissible env ws := by
  rw [satisfied_iff]
  constructor
  · intro h
    exact ⟨fun o v hv => ((accepted_iff satisfied kept o).1 (h o)).1 v hv,
      ((accepted_iff satisfied kept .indentWidth).1 (h .indentWidth)).2 rfl⟩
  · intro admissible o
    exact (accepted_iff satisfied kept o).2 ⟨admissible.entered o, fun _ => admissible.last⟩

/-- Settings that were loaded, changed and saved are loaded again as they are if what the environment
and the last change of the indent brought in is as the schema asks; else the standard settings are
loaded, which they are not, unless the validator cannot say what is wrong. Loading writes nothing. -/
theorem changed_is_reloaded {h₁ h₂ h₃ : Host} {q : Path} (sound : Sound h.validate)
    (loaded : load p [] h = (.ok s, h₁))
    (changed : Labelled Settings.Remembering Settings.Widening s ws s')
    (saved : save q s' h₂ = (.ok (), h₃)) (settled : Settled h₂.files q)
    (same : g.files = h₃.files) (sound' : Sound g.validate) (unset : Unset g.environment) :
    (Admissible h.environment ws → ∃ g', load q [] g = (.ok s', g') ∧ g'.files = g.files) ∧
      (¬ Admissible h.environment ws → s' ≠ Settings.standard ∧
        ((∃ g', load q [] g = (.ok Settings.standard, g') ∧ g'.files = g.files) ∨
          ∃ v e, g.validate v = .error e ∧ load q [] g = (.error e, g))) := by
  obtain ⟨base, _, read, rfl⟩ := load_eq_ok loaded
  have satisfied := loadFile_satisfied sound read
  have simple := simple_of_loadFile sound read
  have recent : (base.merge (fromEnvironment h.environment)).Listing := by
    unfold Settings.Listing
    rw [Settings.get_merge, fromEnvironment_recentFiles]
    exact listing_of_satisfied satisfied simple
  have kept := Settings.Kept.run recent changed
  replace simple := kept.simple (simple_merge simple)
  obtain ⟨writable, held⟩ := readBytes_of_save saved settled
  rw [← same] at held
  obtain ⟨accepted, refused⟩ := load_of_held sound' simple writable held unset
  rw [← satisfied_iff_admissible satisfied kept]
  refine ⟨fun satisfied => ?_, fun violated => ⟨?_, ?_⟩⟩
  · obtain ⟨log, run⟩ := accepted satisfied
    exact ⟨_, run, rfl⟩
  · rintro rfl
    exact violated satisfied_standard
  · exact (refused violated).imp_left fun ⟨_, run⟩ => ⟨_, run, rfl⟩

/-- A machine without files and with one variable. -/
def withVariable (name text : String) : Host :=
  { rooted [] with environment := .ofTexts [(name, text)] }

theorem load_withVariable (name text : String) : ∃ log,
    load ⟨.root, ["settings.json"]⟩ [] (withVariable name text) =
      (.ok (Settings.standard.merge (fromEnvironment (.ofTexts [(name, text)]))),
        { withVariable name text with log := log }) :=
  load_absent rfl

theorem remembering_bare (s : Settings) (recent : s.recentFiles = .arr []) :
    Settings.Remembering s { s with recentFiles := .strings ["/A.java"] } := by
  have located : (rooted []).files.locate ⟨.root, ["A.java"]⟩ = .ok ⟨.root, ["A.java"]⟩ := by
    decide +kernel
  refine ⟨(rooted []).files, ⟨.root, ["A.java"]⟩, ?_⟩
  unfold Settings.remember
  rw [located, recent]
  rfl

theorem widening_atRoot (s : Settings) (w : Int) :
    Settings.Widening w s { s with indentWidth := .int w } := by
  obtain ⟨after, run, -⟩ :=
    widening w { atRoot with wiring := joinedWiring (.int 2), settings := s }
  obtain ⟨-, settings, -, -, -⟩ := setIndent_eq_some run
  exact ⟨Unit, _, after, _, rfl, rfl, run, settings⟩

/-- A compiler from the environment, a file that is remembered and another indent are loaded again. -/
theorem changed_is_reloaded_bare : ∃ s s' h₁ h₂ g,
    load ⟨.root, ["settings.json"]⟩ [] (withVariable "WORKBENCH_JAVAC" "/jdk") = (.ok s, h₁) ∧
      Labelled Settings.Remembering Settings.Widening s [8] s' ∧
      s'.javacPath = .str "/jdk" ∧ s'.recentFiles = .strings ["/A.java"] ∧
      s'.indentWidth = .int 8 ∧
      save ⟨.root, ["settings.json"]⟩ s' h₁ = (.ok (), h₂) ∧
      load ⟨.root, ["settings.json"]⟩ [] { h₂ with environment := .ofTexts [] } = (.ok s', g) ∧
      g.files = h₂.files := by
  obtain ⟨log, loaded⟩ := load_withVariable "WORKBENCH_JAVAC" "/jdk"
  have entered : Settings.standard.merge (fromEnvironment (.ofTexts [("WORKBENCH_JAVAC", "/jdk")])) =
      { Settings.standard with javacPath := .str "/jdk" } :=
    Settings.ext_get fun o => by cases o <;> rfl
  rw [entered] at loaded
  have remembered := remembering_bare { Settings.standard with javacPath := .str "/jdk" } rfl
  have chain := (Labelled.start.aside remembered).step (widening_atRoot _ 8)
  obtain ⟨h₂, saved, validates⟩ : ∃ h₂, save ⟨.root, ["settings.json"]⟩
      { Settings.standard with
        javacPath := .str "/jdk", recentFiles := .strings ["/A.java"], indentWidth := .int 8 }
      { withVariable "WORKBENCH_JAVAC" "/jdk" with log := log } = (.ok (), h₂) ∧
      h₂.validate = check := ⟨_, rfl, rfl⟩
  have admissible : Admissible (.ofTexts [("WORKBENCH_JAVAC", "/jdk")]) [8] := by
    refine ⟨fun o v hv _ => ?_, fun w hw => ?_⟩
    · cases o <;> cases hv
      rfl
    · cases hw
      decide
  obtain ⟨g, again, same⟩ :=
    (changed_is_reloaded (g := { h₂ with environment := .ofTexts [] }) sound_check loaded chain saved
      settled_bare rfl (validates ▸ sound_check) unset_empty).1 admissible
  exact ⟨_, _, _, h₂, g, loaded, chain, rfl, rfl, rfl, saved, again, same⟩

/-- An indent below zero from the environment is saved, and all settings are lost when they are loaded
again. -/
theorem reload_refused : ∃ s h₁ h₂ g,
    load ⟨.root, ["settings.json"]⟩ [] (withVariable "WORKBENCH_INDENT_WIDTH" "-1") = (.ok s, h₁) ∧
      s.indentWidth = .int (-1) ∧ save ⟨.root, ["settings.json"]⟩ s h₁ = (.ok (), h₂) ∧
      load ⟨.root, ["settings.json"]⟩ [] { h₂ with environment := .ofTexts [] } =
        (.ok Settings.standard, g) ∧
      Settings.standard.indentWidth = .int 2 := by
  obtain ⟨log, loaded⟩ := load_withVariable "WORKBENCH_INDENT_WIDTH" "-1"
  have read : Numeral.read? "-1".toList = some (-1) := by decide +kernel
  have below : fromEnvironment (.ofTexts [("WORKBENCH_INDENT_WIDTH", "-1")]) .indentWidth =
      some (.int (-1)) :=
    congrArg (Option.map Json.int) read
  have entered : Settings.standard.merge
      (fromEnvironment (.ofTexts [("WORKBENCH_INDENT_WIDTH", "-1")])) =
      { Settings.standard with indentWidth := .int (-1) } :=
    Settings.ext_get fun o => by
      rw [Settings.get_merge]
      cases o
      case indentWidth => rw [below]; rfl
      all_goals rfl
  have simple : (Settings.standard.merge
      (fromEnvironment (.ofTexts [("WORKBENCH_INDENT_WIDTH", "-1")]))).Simple :=
    simple_merge (simple_of_satisfied satisfied_standard proper_standard)
  rw [entered] at loaded simple
  obtain ⟨h₂, saved, validates⟩ : ∃ h₂, save ⟨.root, ["settings.json"]⟩
      { Settings.standard with indentWidth := .int (-1) }
      { withVariable "WORKBENCH_INDENT_WIDTH" "-1" with log := log } = (.ok (), h₂) ∧
      h₂.validate = check := ⟨_, rfl, rfl⟩
  obtain ⟨writable, held⟩ := readBytes_of_save saved settled_bare
  have violated : ¬ Satisfied { Settings.standard with indentWidth := .int (-1) } := by
    intro satisfied
    have accepted := satisfied_iff.1 satisfied .indentWidth
    exact absurd (isMet_int.1 accepted) (by decide)
  have refused := (load_of_held (g := { h₂ with environment := .ofTexts [] })
    (validates ▸ sound_check) simple writable held unset_empty).2 violated
  obtain ⟨log', again⟩ | ⟨v, e, failed, -⟩ := refused
  · exact ⟨_, _, h₂, _, loaded, rfl, saved, again, rfl⟩
  · cases (congrFun validates v).symm.trans failed

end Store

end JavaStudio
