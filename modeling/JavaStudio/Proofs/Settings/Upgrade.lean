import JavaStudio.Proofs.Files.Frame
import JavaStudio.Proofs.Settings.Layers

/-!
# Loading settings again

A load that finds a document of another version saves its values as a document of the current version,
before the overrides and the environment are laid over them. So the next load finds the same values in
the file and writes nothing, if no link had the scratch name (`Unlinked`).

* `load_again`: a load that returns is repeated by the next one, and what it writes are the values of the
  file alone.
* `load_again_astray`: where the scratch name is a link to the settings file, the values are lost.
-/

namespace JavaStudio.Store

open Schema

variable {p : Path} {overrides fields : List (String × Json)} {h h' g : Host} {fs : Files}
  {s : Settings}

/-! ## What a document becomes -/

theorem stat_of_readBytes {content : Bytes} (read : fs.readBytes p = .ok content) :
    fs.stat p = .ok (.file content) := by
  unfold Files.readBytes at read
  split at read
  · rename_i stat
    rw [stat, Except.ok.inj read]
  · cases read
  · cases read

/-- A file with the document of settings that satisfy the schema holds their values. -/
theorem held_of_document (satisfied : Satisfied s) (simple : s.Simple)
    (writable : (document s).isWritable = true)
    (read : fs.readBytes p = .ok (Utf8.encode (render s))) :
    ∃ fields, Held fs p fields ∧ Stored s fields := by
  have plain := Json.plain_indentedAt 0 (document s)
  obtain ⟨fields, parsed, stored⟩ := read_render simple writable fs.machine
  exact ⟨fields, ⟨⟨_, _, stat_of_readBytes read, textOf_encode plain.no_return, parsed⟩,
    (conforms_stored stored).2 satisfied⟩, stored⟩

/-- The values of a document satisfy the schema and are simple. -/
theorem Held.sound (held : Held fs p fields) :
    Satisfied (Settings.standard.merge (Settings.given fields)) ∧
      (Settings.standard.merge (Settings.given fields)).Simple := by
  obtain ⟨⟨_, t, -, -, read⟩, accepted⟩ := held
  exact ⟨satisfied_standard.merge accepted, simple_of_read read accepted⟩

/-- The document that was written holds the values of the one that was read, the version and nothing
else. -/
def Refiled (old new : Files) (p : Path) : Prop :=
  ∃ fields fields', Held old p fields ∧ Dated fields ∧ Held new p fields' ∧
    Stored (Settings.standard.merge (Settings.given fields)) fields'

/-- Where a file is, no directory is made above it, and its path leads through no link that it names. -/
theorem Held.settled (held : Held fs p fields) (unlinked : Unlinked fs p)
    {scratch : Path} (suffixed : p.withSuffix? ".tmp" = some scratch) : Settled fs p := by
  obtain ⟨⟨_, _, stat, -, -⟩, -⟩ := held
  refine ⟨unlinked, fun made directory => ?_⟩
  obtain ⟨s, hs, solid⟩ := Files.entry_of_file stat
  rw [Files.ensureDirectories_above hs (scratch_eq suffixed).1 solid directory]
  exact Files.direct_of_file stat

/-- After an upgrade the file holds the same values in the current version. -/
theorem refiled_of_save (held : Held h.files p fields)
    (saved : save p (Settings.standard.merge (Settings.given fields)) h = (.ok (), h'))
    (unlinked : Unlinked h.files p) : ∃ fields', Held h'.files p fields' ∧
      Stored (Settings.standard.merge (Settings.given fields)) fields' := by
  obtain ⟨satisfied, simple⟩ := held.sound
  obtain ⟨_, _, scratch, _, _, _, -, -, suffixed, -⟩ := save_eq_ok.1 saved
  have settled := held.settled unlinked suffixed
  obtain ⟨writable, read⟩ := readBytes_of_save saved settled
  exact held_of_document satisfied simple writable read

theorem Stored.current (stored : Stored s fields) : ¬ Dated fields := by
  rw [dated_iff, isCurrent_stored stored, Bool.not_true, Bool.and_false]
  exact Bool.false_ne_true

/-! ## The next load -/

/-- What is of the current version is taken as it is. -/
theorem load_of_found (sound : Sound g.validate) (found : Found g.files p fields)
    (legible : Legible g p) (current : ¬ Dated fields) (overrides : List (String × Json)) :
    ∃ log, load p overrides g =
      (.ok (((Settings.standard.merge (Settings.given fields)).merge
        (Settings.givenValue overrides)).merge (fromEnvironment g.environment)),
        { g with log := log }) := by
  rcases load_cases sound p overrides with
    ⟨fields', _, held, dated, -⟩ | ⟨fields', log, -, found', run⟩ | ⟨_, _, illegible, -⟩
  · exact absurd (found.unique (.inl held) ▸ dated) current
  · have same := found.unique (found'.imp_left And.left)
    exact ⟨log, same ▸ run⟩
  · exact absurd legible illegible

/-- What is of another version is saved and taken. -/
theorem load_of_dated {h₁ : Host} (sound : Sound h.validate) (held : Held h.files p fields)
    (dated : Dated fields)
    (saved : save p (Settings.standard.merge (Settings.given fields)) h = (.ok (), h₁))
    (overrides : List (String × Json)) :
    ∃ log, load p overrides h =
      (.ok (((Settings.standard.merge (Settings.given fields)).merge
        (Settings.givenValue overrides)).merge (fromEnvironment h.environment)),
        { h₁ with log := log }) := by
  rcases load_cases sound p overrides with
    ⟨fields', log, held', -, run⟩ | ⟨fields', _, -, ⟨held', current⟩ | ⟨invalid, -⟩, -⟩ |
      ⟨_, _, illegible, -⟩
  · rw [held.unique held', saved] at run
    exact ⟨log, run⟩
  · exact absurd dated (held.unique held' ▸ current)
  · exact absurd held (invalid fields)
  · exact absurd (held.legible sound) illegible

/-! ## What is written -/

/-- A load saves the values of a document of another version, or it writes nothing. -/
theorem load_files_cases (sound : Sound h.validate) (p : Path) (overrides : List (String × Json)) :
    (∃ fields, Held h.files p fields ∧ Dated fields ∧ (load p overrides h).2.files =
      (save p (Settings.standard.merge (Settings.given fields)) h).2.files) ∨
    (∀ fields, Held h.files p fields → ¬ Dated fields) ∧ (load p overrides h).2.files = h.files := by
  rcases load_cases sound p overrides with
    ⟨fields, _, held, dated, run⟩ | ⟨fields, _, -, found, run⟩ | ⟨_, _, illegible, run⟩
  · exact .inl ⟨fields, held, dated, by rw [run]⟩
  · refine .inr ⟨fun fields' held' => ?_, by rw [run]⟩
    rcases found with ⟨held, current⟩ | ⟨invalid, -⟩
    · exact held.unique held' ▸ current
    · exact absurd held' (invalid fields')
  · exact .inr ⟨fun _ held _ => illegible (held.legible sound), by rw [run]⟩

/-- The overrides and the environment have no part in what a load writes. -/
theorem load_files (sound : Sound h.validate) (p : Path)
    (overrides overrides' : List (String × Json)) (env : Environment) :
    (load p overrides' { h with environment := env }).2.files = (load p overrides h).2.files := by
  rcases load_files_cases (h := { h with environment := env }) sound p overrides' with
    ⟨fields', held', dated', files'⟩ | ⟨current', files'⟩ <;>
  rcases load_files_cases sound p overrides with ⟨fields, held, dated, files⟩ | ⟨current, files⟩
  · rw [files', files, held.unique held']
    rfl
  · exact absurd dated' (current _ held')
  · exact absurd dated (current' _ held)
  · rw [files', files]

/-- A load that returns is repeated: the next load with the same overrides and environment returns the
same settings and writes nothing, if no link had the scratch name where the file was written. What was
written are the values of the file alone, whatever the overrides and the environment. -/
theorem load_again (sound : Sound h.validate) (run : load p overrides h = (.ok s, h'))
    (unlinked : ∀ fields, Held h.files p fields → Dated fields → Unlinked h.files p) :
    (∀ g : Host, g.files = h'.files → g.environment = h.environment → g.validate = h.validate →
      ∃ g', load p overrides g = (.ok s, g') ∧ g'.files = g.files) ∧
    (h'.files = h.files ∨ Refiled h.files h'.files p) ∧
    ∀ overrides' env, (load p overrides' { h with environment := env }).2.files = h'.files := by
  have alone : ∀ overrides' env,
      (load p overrides' { h with environment := env }).2.files = h'.files := by
    intro overrides' env
    rw [load_files sound p overrides, run]
  obtain ⟨fields, found, rfl, ⟨current, legible, same⟩ | ⟨dated, h₁, saved, same⟩⟩ :=
    load_found sound run
  · refine ⟨fun g files environment validate => ?_, .inl same, alone⟩
    have alike : g.files = h.files := files.trans same
    have legible' : Legible g p := legible.congr alike validate
    rw [← alike] at found
    obtain ⟨log, again⟩ := load_of_found (validate ▸ sound) found legible' current overrides
    rw [environment] at again
    exact ⟨_, again, rfl⟩
  · have held : Held h.files p fields := by
      rcases found with held | ⟨-, rfl⟩
      · exact held
      · exact absurd rfl dated.1
    -- What was saved has the values of the file only, and the layers above are laid over them again.
    obtain ⟨fields', held', stored⟩ := refiled_of_save held saved (unlinked fields held dated)
    rw [← same] at held'
    refine ⟨fun g files environment validate => ?_,
      .inr ⟨fields, fields', held, dated, held', stored⟩, alone⟩
    rw [← files] at held'
    have sound' : Sound g.validate := validate ▸ sound
    obtain ⟨log, again⟩ :=
      load_of_found sound' (.inl held') (held'.legible sound') stored.current overrides
    rw [environment, merge_stored stored] at again
    exact ⟨_, again, rfl⟩

/-- The fields of a document without a version. -/
def unversioned : List (String × Json) := [("javac_path", .str "/jdk/javac")]

/-- A host with this document and some other entries. -/
def unversionedHost (others : Folder) : Host :=
  rooted (("settings.json", .file (Utf8.encode (Json.obj unversioned).indented)) :: others)

theorem held_unversioned (others : Folder) :
    Held (unversionedHost others).files ⟨.root, ["settings.json"]⟩ unversioned := by
  have sound : (Json.obj unversioned).Sound := by
    refine .obj (by decide) fun f hf => ?_
    obtain rfl := List.mem_singleton.1 hf
    exact .str _
  have sorted : Json.sortedFields unversioned = unversioned := List.mergeSort_of_pairwise (by decide)
  have fits : (Json.obj unversioned).depth ≤ Machine.nesting {} := by decide
  refine .of_indented sound fits (congrArg Json.obj sorted) ?_ rfl
  intro key demand hmem v found
  obtain ⟨rfl, rfl⟩ := Prod.mk.inj (List.mem_singleton.1 (Json.mem_of_lookup found))
  have text : demand = .nonEmptyString := by simpa [demands] using hmem
  rw [text]
  rfl

theorem dated_unversioned : Dated unversioned := ⟨by decide, nofun⟩

theorem unlinked_unversioned : Unlinked (unversionedHost []).files ⟨.root, ["settings.json"]⟩ := by
  intro made scratch directory suffixed
  cases directory
  cases suffixed
  exact fun _ _ => nofun

/-- The same host without the other entries, its environment naming a compiler. -/
def compilerHost : Host :=
  { unversionedHost [] with environment := .ofTexts [("WORKBENCH_JAVAC", "javac")] }

/-- Settings are loaded from a document without a version and then from what was made of it. The
compiler that the environment names is not written into it. -/
theorem load_again_unversioned : ∃ s h₁ h₂,
    load ⟨.root, ["settings.json"]⟩ [("indent_width", .int 8)] compilerHost = (.ok s, h₁) ∧
      load ⟨.root, ["settings.json"]⟩ [("indent_width", .int 8)] h₁ = (.ok s, h₂) ∧
      h₂.files = h₁.files ∧ s.javacPath = .str "javac" ∧
      Refiled compilerHost.files h₁.files ⟨.root, ["settings.json"]⟩ := by
  have held : Held compilerHost.files ⟨.root, ["settings.json"]⟩ unversioned := held_unversioned []
  obtain ⟨h₁, saved, environment, validate⟩ : ∃ h₁, save ⟨.root, ["settings.json"]⟩
      (Settings.standard.merge (Settings.given unversioned)) compilerHost = (.ok (), h₁) ∧
      h₁.environment = compilerHost.environment ∧ h₁.validate = compilerHost.validate :=
    ⟨_, rfl, rfl, rfl⟩
  obtain ⟨fields, held', stored⟩ := refiled_of_save held saved unlinked_unversioned
  obtain ⟨log, run⟩ :=
    load_of_dated sound_check held dated_unversioned saved [("indent_width", .int 8)]
  obtain ⟨repeated, -, -⟩ := load_again sound_check run fun _ _ _ => unlinked_unversioned
  obtain ⟨h₂, again, same⟩ := repeated { h₁ with log := log } rfl environment validate
  exact ⟨_, _, h₂, run, again, same, rfl, unversioned, fields, held, dated_unversioned, held', stored⟩

/-- Where the scratch name is a link to the settings file, the link is moved over what was written
through it, and the next load returns the standard settings. -/
theorem load_again_astray : ∃ s h₁ h₂,
    load ⟨.root, ["settings.json"]⟩ [] (unversionedHost [("settings.tmp", .link "settings.json")]) =
        (.ok s, h₁) ∧
      load ⟨.root, ["settings.json"]⟩ [] h₁ = (.ok Settings.standard, h₂) ∧
      s.javacPath = .str "/jdk/javac" ∧ Settings.standard.javacPath = .str "javac" := by
  have saved : save ⟨.root, ["settings.json"]⟩ (Settings.standard.merge (Settings.given unversioned))
      (unversionedHost [("settings.tmp", .link "settings.json")]) =
        (.ok (), rooted [("settings.json", .link "settings.json")]) :=
    save_eq_ok.2 ⟨_, _, _,
      Utf8.encode (render (Settings.standard.merge (Settings.given unversioned))),
      (rooted [("settings.json", .file (Utf8.encode (render
          (Settings.standard.merge (Settings.given unversioned))))),
        ("settings.tmp", .link "settings.json")]).files,
      (rooted [("settings.json", .link "settings.json")]).files, rfl, rfl, rfl, rfl, rfl, rfl, rfl⟩
  obtain ⟨log, run⟩ := load_of_dated sound_check (held_unversioned _) dated_unversioned saved []
  have circle : (rooted [("settings.json", .link "settings.json")]).files.holds
      ⟨.root, ["settings.json"]⟩ = .ok false := by decide +kernel
  obtain ⟨log', again⟩ := load_absent
    (g := { rooted [("settings.json", .link "settings.json")] with log := log }) circle
  exact ⟨_, _, _, run, again, rfl, rfl⟩

end JavaStudio.Store
