import JavaStudio.Proofs.Settings.Content

/-!
# Where the values of loaded settings come from

The value of an option is the first that is found in four layers: its variable in the environment, the
overrides, the document in the file and the standard settings (`Origin`). What a layer says of other keys
is passed over, and so is what counts for nothing in it: a text that is refused, null among the overrides,
a document with faults.

* `load_layered`: the value of every option is the one of its first layer, and settings are the same
  wherever the layers say the same of the options.
-/

namespace JavaStudio.Store

open Schema

variable {env env' : Environment} {p p' : Path}
  {overrides overrides' fields : List (String × Json)} {fs fs' : Files} {h h' : Host} {o : Setting}
  {s : Settings} {v w : Json}

/-! ## Layers -/

/-- The option has a variable that is set, and its text is accepted as this value. -/
def Entered (env : Environment) (o : Setting) (v : Json) : Prop :=
  ∃ name reading text, (name, o, reading) ∈ variableTable ∧ valueOf? env name = some text ∧
    convert reading text = some v

/-- The overrides have this value for the option, which is not null. -/
def Overridden (overrides : List (String × Json)) (o : Setting) (v : Json) : Prop :=
  Json.lookup o.key overrides = some v ∧ v ≠ .null

/-- The document in the file satisfies the schema and has this value for the option, which may be
null. -/
def Filed (fs : Files) (p : Path) (o : Setting) (v : Json) : Prop :=
  ∃ fields, Held fs p fields ∧ Json.lookup o.key fields = some v

theorem variableOf?_eq_some {name : String} {reading : Reading} :
    variableOf? o = some (name, reading) ↔ (name, o, reading) ∈ variableTable := by
  cases o <;> simp [variableOf?, variableTable, eq_comm]

theorem fromEnvironment_eq_some : fromEnvironment env o = some v ↔ Entered env o v := by
  unfold fromEnvironment Entered
  simp only [Option.bind_eq_bind, Option.bind_eq_some_iff, Prod.exists, variableOf?_eq_some]
  constructor
  · rintro ⟨name, reading, known, text, set, accepted⟩
    exact ⟨name, reading, text, known, set, accepted⟩
  · rintro ⟨name, reading, text, known, set, accepted⟩
    exact ⟨name, reading, known, text, set, accepted⟩

theorem givenValue_eq_some : Settings.givenValue overrides o = some v ↔ Overridden overrides o v := by
  unfold Settings.givenValue Settings.given Overridden
  rw [Option.filter_eq_some_iff]
  refine and_congr_right fun _ => ?_
  cases v <;> simp [Json.isNull]

/-- Where the value of an option comes from: the first of the layers that has one. -/
inductive Origin (env : Environment) (overrides : List (String × Json)) (fs : Files)
    (p : Path) (o : Setting) : Json → Prop
  | entered {v : Json} : Entered env o v → Origin env overrides fs p o v
  | overridden {v : Json} : (∀ w, ¬ Entered env o w) → Overridden overrides o v →
      Origin env overrides fs p o v
  | filed {v : Json} : (∀ w, ¬ Entered env o w) → (∀ w, ¬ Overridden overrides o w) →
      Filed fs p o v → Origin env overrides fs p o v
  | standard : (∀ w, ¬ Entered env o w) → (∀ w, ¬ Overridden overrides o w) →
      (∀ w, ¬ Filed fs p o w) → Origin env overrides fs p o o.standard

/-! ## Each layer has one value at most -/

theorem Entered.unique (hv : Entered env o v) (hw : Entered env o w) : v = w :=
  Option.some.inj ((fromEnvironment_eq_some.2 hv).symm.trans (fromEnvironment_eq_some.2 hw))

theorem Overridden.unique (hv : Overridden overrides o v) (hw : Overridden overrides o w) : v = w :=
  Option.some.inj (hv.1.symm.trans hw.1)

theorem Filed.unique (hv : Filed fs p o v) (hw : Filed fs p o w) : v = w := by
  obtain ⟨fields, held, found⟩ := hv
  obtain ⟨fields', held', found'⟩ := hw
  rw [held.unique held', found] at found'
  exact Option.some.inj found'

/-- An option has one value. -/
theorem Origin.unique (hv : Origin env overrides fs p o v) (hw : Origin env overrides fs p o w) :
    v = w := by
  cases hv with
  | entered hv => cases hw with
    | entered hw => exact hv.unique hw
    | overridden none | filed none | standard none => exact absurd hv (none _)
  | overridden none hv => cases hw with
    | entered hw => exact absurd hw (none _)
    | overridden _ hw => exact hv.unique hw
    | filed _ none | standard _ none => exact absurd hv (none _)
  | filed none none' hv => cases hw with
    | entered hw => exact absurd hw (none _)
    | overridden _ hw => exact absurd hw (none' _)
    | filed _ _ hw => exact hv.unique hw
    | standard _ _ none => exact absurd hv (none _)
  | standard none none' none'' => cases hw with
    | entered hw => exact absurd hw (none _)
    | overridden _ hw => exact absurd hw (none' _)
    | filed _ _ hw => exact absurd hw (none'' _)
    | standard => rfl

/-- Where the value comes from depends on nothing but what the layers say of the option. -/
theorem Origin.congr (entered : ∀ w, Entered env o w ↔ Entered env' o w)
    (overridden : ∀ w, Overridden overrides o w ↔ Overridden overrides' o w)
    (filed : ∀ w, Filed fs p o w ↔ Filed fs' p' o w) (hv : Origin env overrides fs p o v) :
    Origin env' overrides' fs' p' o v := by
  cases hv with
  | entered hv => exact .entered ((entered _).1 hv)
  | overridden none hv =>
    exact .overridden (fun w hw => none w ((entered w).2 hw)) ((overridden _).1 hv)
  | filed none none' hv =>
    exact .filed (fun w hw => none w ((entered w).2 hw))
      (fun w hw => none' w ((overridden w).2 hw)) ((filed _).1 hv)
  | standard none none' none'' =>
    exact .standard (fun w hw => none w ((entered w).2 hw))
      (fun w hw => none' w ((overridden w).2 hw)) fun w hw => none'' w ((filed w).2 hw)

/-! ## The settings that are loaded -/

/-- The fields that a load finds: those of the document that the file holds, or none. -/
def Found (fs : Files) (p : Path) (fields : List (String × Json)) : Prop :=
  Held fs p fields ∨ (∀ found, ¬ Held fs p found) ∧ fields = []

theorem Found.filed (found : Found fs p fields) :
    Json.lookup o.key fields = some v ↔ Filed fs p o v := by
  rcases found with held | ⟨invalid, rfl⟩
  · refine ⟨fun value => ⟨fields, held, value⟩, ?_⟩
    rintro ⟨fields', held', value⟩
    rwa [held.unique held'] at value
  · refine ⟨nofun, ?_⟩
    rintro ⟨fields', held', -⟩
    exact absurd held' (invalid fields')

theorem Found.unique (found : Found fs p fields) {fields' : List (String × Json)}
    (found' : Found fs p fields') : fields' = fields := by
  rcases found with held | ⟨invalid, rfl⟩ <;> rcases found' with held' | ⟨invalid', rfl⟩
  · exact held.unique held'
  · exact absurd held (invalid' _)
  · exact absurd held' (invalid _)
  · rfl

/-- A load that returns lays the overrides and then the environment over what it finds. It saves what it
finds if that is of another version, and else it writes nothing. -/
theorem load_found (sound : Sound h.validate) (run : load p overrides h = (.ok s, h')) :
    ∃ fields, Found h.files p fields ∧ s = ((Settings.standard.merge (Settings.given fields)).merge
      (Settings.givenValue overrides)).merge (fromEnvironment h.environment) ∧
    (¬ Dated fields ∧ Legible h p ∧ h'.files = h.files ∨
      Dated fields ∧ ∃ h₁, save p (Settings.standard.merge (Settings.given fields)) h = (.ok (), h₁) ∧
        h'.files = h₁.files) := by
  rcases load_cases sound p overrides with
    ⟨fields, _, held, dated, loaded⟩ | ⟨fields, _, legible, found, loaded⟩ | ⟨_, _, -, failed⟩
  · rcases saved : save p (Settings.standard.merge (Settings.given fields)) h with ⟨_ | _, h₁⟩ <;>
      rw [run, saved] at loaded <;> cases loaded
    exact ⟨fields, .inl held, rfl, .inr ⟨dated, h₁, saved, rfl⟩⟩
  · have current : ¬ Dated fields := by
      rcases found with ⟨-, current⟩ | ⟨-, rfl⟩
      · exact current
      · exact fun dated => dated.1 rfl
    cases run.symm.trans loaded
    exact ⟨fields, found.imp_left And.left, rfl, .inl ⟨current, legible, rfl⟩⟩
  · cases run.symm.trans failed

/-- Of layers that are laid over each other the first that has a value counts. -/
theorem origin_of_found (found : Found fs p fields) (o : Setting) :
    Origin env overrides fs p o ((((Settings.standard.merge (Settings.given fields)).merge
      (Settings.givenValue overrides)).merge (fromEnvironment env)).get o) := by
  have missing : ∀ {x : Option Json} {q : Json → Prop}, (∀ w, x = some w ↔ q w) → x = none →
      ∀ w, ¬ q w := by
    intro x q value none w hw
    cases none.symm.trans ((value w).2 hw)
  rw [Settings.get_merge, Settings.get_merge, Settings.get_merge]
  -- From the top layer down: one that has no value leaves the option to those below it.
  rcases hentered : fromEnvironment env o with _ | v
  case some => exact .entered (fromEnvironment_eq_some.1 hentered)
  have unset := missing (fun w => fromEnvironment_eq_some) hentered
  rcases hoverridden : Settings.givenValue overrides o with _ | v
  case some => exact .overridden unset (givenValue_eq_some.1 hoverridden)
  have kept := missing (fun w => givenValue_eq_some) hoverridden
  rcases hfiled : Settings.given fields o with _ | v
  · have absent := missing (fun w => found.filed) hfiled
    have standard : Settings.standard.get o = o.standard := Settings.get_ofFn _ o
    simp only [Option.getD_none, standard]
    exact .standard unset kept absent
  · exact .filed unset kept (found.filed.1 hfiled)

/-- A load that returns gives every option the value of its variable if that is set and accepted, else
the one among the overrides unless it is null, else the one of the document in the file, else the
standard one. Nothing else has a say: wherever the layers say the same of the options, the settings are
the same. -/
theorem load_layered (sound : Sound h.validate) (run : load p overrides h = (.ok s, h')) :
    (∀ o v, Origin h.environment overrides h.files p o v ↔ v = s.get o) ∧
    ∀ p' overrides' g t g', Sound g.validate → load p' overrides' g = (.ok t, g') →
      (∀ o w, Entered g.environment o w ↔ Entered h.environment o w) →
      (∀ o w, Overridden overrides' o w ↔ Overridden overrides o w) →
      (∀ o w, Filed g.files p' o w ↔ Filed h.files p o w) → t = s := by
  have origin : ∀ {p overrides h s h'}, Sound h.validate → load p overrides h = (.ok s, h') →
      ∀ o, Origin h.environment overrides h.files p o (s.get o) := by
    intro p overrides h s h' sound run o
    obtain ⟨fields, found, rfl, -⟩ := load_found sound run
    exact origin_of_found found o
  refine ⟨fun o v => ⟨fun hv => hv.unique (origin sound run o), ?_⟩, ?_⟩
  · rintro rfl
    exact origin sound run o
  · intro p' overrides' g t g' sound' run' entered overridden filed
    refine Settings.ext_get fun o => ?_
    have other := (origin sound' run' o).congr (entered o) (overridden o) (filed o)
    exact other.unique (origin sound run o)

/-- The fields of a document of the current version that sets an indent. -/
def wideIndent : List (String × Json) := [("indent_width", .int 4), ("version", .int 1)]

/-- A host with this document, a keyword in its environment and a limit that is no number. -/
def enteredHost : Host :=
  { rooted [("settings.json", .file (Utf8.encode (Json.obj wideIndent).indented))] with
    environment := .ofTexts [("WORKBENCH_LAUNCHER", "run"), ("WORKBENCH_HISTORY_LIMIT", "lots")] }

theorem held_wideIndent : Held enteredHost.files ⟨.root, ["settings.json"]⟩ wideIndent := by
  have short : ∀ i ∈ [(1 : Int), 4], (Text.ofNat i.natAbs).length ≤ Text.maxDigits := by decide
  have sound : (Json.obj wideIndent).Sound := by
    refine .obj (by decide) fun f hf => ?_
    simp only [wideIndent, List.mem_cons, List.not_mem_nil, or_false] at hf
    rcases hf with rfl | rfl
    · exact .num (short 4 (by decide))
    · exact .num (short 1 (by decide))
  have sorted : Json.sortedFields wideIndent = wideIndent := List.mergeSort_of_pairwise (by decide)
  refine .of_indented sound (by decide) (congrArg Json.obj sorted) ?_ rfl
  intro key demand hmem v found
  have named := Json.mem_of_lookup found
  simp only [wideIndent, List.mem_cons, List.not_mem_nil, or_false, Prod.mk.injEq] at named
  rcases named with ⟨rfl, rfl⟩ | ⟨rfl, rfl⟩
  · have minimum : demand = .integerFrom 0 := by simpa [demands] using hmem
    rw [minimum]
    rfl
  · have integer : demand = .integer := by simpa [demands] using hmem
    rw [integer]
    rfl

/-- One option each from the environment, the overrides, the document and the standard settings: the
limit is refused and the directory of the log is null among the overrides. -/
theorem load_layered_each : ∃ s h', load ⟨.root, ["settings.json"]⟩
      [("javac_path", .str "/jdk"), ("launcher_keyword", .str "go"), ("log_dir", .null),
        ("theme", .str "dark")] enteredHost = (.ok s, h') ∧
    s.launcherKeyword = .str "run" ∧ s.javacPath = .str "/jdk" ∧ s.indentWidth = .int 4 ∧
    s.historyLimit = .int 500 ∧ s.logDir = .null := by
  have current : ¬ Dated wideIndent := fun dated => by
    obtain below | above := dated.2 1 rfl <;> exact absurd ‹_› (by decide)
  obtain ⟨s, h', run⟩ : ∃ s h', load ⟨.root, ["settings.json"]⟩
      [("javac_path", .str "/jdk"), ("launcher_keyword", .str "go"), ("log_dir", .null),
        ("theme", .str "dark")] enteredHost = (.ok s, h') := by
    rcases load_cases (h := enteredHost) sound_check ⟨.root, ["settings.json"]⟩
        [("javac_path", .str "/jdk"), ("launcher_keyword", .str "go"), ("log_dir", .null),
          ("theme", .str "dark")] with
      ⟨fields, _, held, dated, -⟩ | ⟨_, _, -, -, run⟩ | ⟨_, _, illegible, -⟩
    · exact absurd (held_wideIndent.unique held ▸ dated) current
    · exact ⟨_, _, run⟩
    · exact absurd (held_wideIndent.legible sound_check) illegible
  obtain ⟨layered, -⟩ := load_layered sound_check run
  have unset : ∀ o, fromEnvironment enteredHost.environment o = none →
      ∀ w, ¬ Entered enteredHost.environment o w := by
    intro o silent w hw
    cases silent.symm.trans (fromEnvironment_eq_some.2 hw)
  have refused : fromEnvironment enteredHost.environment .historyLimit = none := by decide +kernel
  have filed : ∀ {o v}, Json.lookup o.key wideIndent = some v ↔
      Filed enteredHost.files ⟨.root, ["settings.json"]⟩ o v := Found.filed (.inl held_wideIndent)
  have absent : ∀ o, Json.lookup o.key wideIndent = none →
      ∀ w, ¬ Filed enteredHost.files ⟨.root, ["settings.json"]⟩ o w := by
    intro o silent w hw
    cases silent.symm.trans (filed.2 hw)
  refine ⟨s, h', run, ?_, ?_, ?_, ?_, ?_⟩
  · exact ((layered .launcherKeyword (.str "run")).1 (.entered
      ⟨"WORKBENCH_LAUNCHER", .verbatim, .text ['r', 'u', 'n'], by simp [variableTable], rfl,
        rfl⟩)).symm
  · exact ((layered .javacPath (.str "/jdk")).1 (.overridden (unset _ rfl) ⟨rfl, nofun⟩)).symm
  · exact ((layered .indentWidth (.int 4)).1 (.filed (unset _ rfl)
      (fun _ given => nomatch given.1) (filed.1 rfl))).symm
  · exact ((layered .historyLimit (.int 500)).1 (.standard (unset _ refused)
      (fun _ given => nomatch given.1) (absent _ rfl))).symm
  · refine ((layered .logDir .null).1 (.standard (unset _ rfl) (fun w given => ?_)
      (absent _ rfl))).symm
    exact given.2 (Option.some.inj given.1).symm

end JavaStudio.Store
