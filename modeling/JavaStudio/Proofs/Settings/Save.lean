import JavaStudio.Proofs.Files.Moved
import JavaStudio.Proofs.Settings.Document
import JavaStudio.Proofs.Source.ReadBack

/-!
# Settings that are saved and loaded again

A save that succeeds leaves the document of the settings where the path of the store leads, if there is
no link at the scratch name and the path leads through none that it names (`Settled`). A load of such a
document gives the settings back if they satisfy the schema, and the standard settings if they do not;
it writes nothing.

* `saved_is_loaded`: settings that satisfy the schema are loaded as they were saved.
-/

namespace JavaStudio.Store

open Schema

variable {p : Path} {h h' g : Host} {s : Settings} {content : Bytes} {fs : Files}

/-! ## Saving -/

/-- Once the directory of the store is made, no link has the scratch name. -/
def Unlinked (fs : Files) (p : Path) : Prop :=
  ∀ made scratch, Files.ensureDirectories p.parent fs = (.ok (), made) →
    p.withSuffix? ".tmp" = some scratch →
    ∀ place target, made.spot .entry scratch ≠ .ok (.entry place (.link target))

/-- Once the directory of the store is made, no link has the scratch name, and the path of the store leads
through no link that it names. -/
structure Settled (fs : Files) (p : Path) : Prop where
  unlinked : Unlinked fs p
  direct : ∀ made, Files.ensureDirectories p.parent fs = (.ok (), made) → made.Direct p

theorem scratch_eq {scratch : Path} (suffixed : p.withSuffix? ".tmp" = some scratch) :
    p.parts ≠ [] ∧ ∃ name, name ≠ "" ∧ scratch = p.parent.child name := by
  unfold Path.withSuffix? at suffixed
  split at suffixed
  · cases suffixed
  · rename_i named
    refine ⟨?_, _, ?_, (Option.some.inj suffixed).symm⟩
    · intro none
      rw [Path.name, none] at named
      exact named rfl
    · intro empty
      have length := congrArg String.length empty
      simp [String.length_append] at length

theorem contentOf_eq_ok :
    contentOf s = .ok content ↔
      (document s).isWritable = true ∧ content = Utf8.encode (render s) := by
  unfold contentOf
  split
  · rename_i writable
    rw [Except.ok.injEq, eq_comm]
    exact ⟨fun h => ⟨writable, h⟩, fun h => h.2⟩
  · rename_i long
    exact ⟨nofun, fun h => absurd h.1 long⟩

theorem onFiles_eq {α : Type} {x : Task Files α} {r : Except Failure α} :
    Host.onFiles x h = (r, h') ↔ ∃ fs', x h.files = (r, fs') ∧ h' = { h with files := fs' } := by
  unfold Host.onFiles Task.within
  rcases x h.files with ⟨q, fs'⟩
  simp only [Prod.mk.injEq]
  constructor
  · rintro ⟨rfl, rfl⟩
    exact ⟨fs', ⟨rfl, rfl⟩, rfl⟩
  · rintro ⟨_, ⟨rfl, rfl⟩, rfl⟩
    exact ⟨rfl, rfl⟩

/-- What a save that succeeds does. -/
theorem save_eq_ok :
    save p s h = (.ok (), h') ↔ ∃ fields made scratch content written moved,
      s.copied h.files.machine.saveRoom = .ok fields ∧
      Files.ensureDirectories p.parent h.files = (.ok (), made) ∧
      p.withSuffix? ".tmp" = some scratch ∧ contentOf s = .ok content ∧
      Files.writeBytes scratch content made = (.ok (), written) ∧
      Files.replace scratch p written = (.ok (), moved) ∧ h' = { h with files := moved } := by
  unfold save
  rw [onFiles_eq]
  constructor
  · rintro ⟨moved, run, rfl⟩
    rw [Task.get_bind] at run
    obtain ⟨fields, _, first, run⟩ := Task.bind_eq_ok.1 run
    rw [Task.ofExcept_apply] at first
    obtain ⟨copied, rfl⟩ := Prod.mk.inj first
    obtain ⟨_, made, directory, run⟩ := Task.bind_eq_ok.1 run
    rcases suffixed : p.withSuffix? ".tmp" with _ | scratch <;> rw [suffixed] at run
    · cases run
    obtain ⟨content, _, third, run⟩ := Task.bind_eq_ok.1 run
    rw [Task.ofExcept_apply] at third
    obtain ⟨encoded, rfl⟩ := Prod.mk.inj third
    obtain ⟨_, written, writes, run⟩ := Task.bind_eq_ok.1 run
    exact ⟨fields, made, scratch, content, written, moved, copied, directory, rfl, encoded, writes,
      run, rfl⟩
  · rintro ⟨fields, made, scratch, content, written, moved, copied, directory, suffixed, encoded,
      writes, run, rfl⟩
    refine ⟨moved, ?_, rfl⟩
    rw [Task.get_bind, copied, suffixed, encoded]
    refine Task.bind_eq_ok.2 ⟨fields, h.files, rfl, Task.bind_eq_ok.2 ⟨_, made, directory, ?_⟩⟩
    exact Task.bind_eq_ok.2 ⟨content, made, rfl, Task.bind_eq_ok.2 ⟨_, written, writes, run⟩⟩

/-- After a save that succeeds, the document of the settings is what the path leads to. -/
theorem readBytes_of_save (saved : save p s h = (.ok (), h')) (settled : Settled h.files p) :
    (document s).isWritable = true ∧
      h'.files.readBytes p = .ok (Utf8.encode (render s)) := by
  obtain ⟨_, made, scratch, _, _, _, -, directory, suffixed, encoded, written, moved, rfl⟩ :=
    save_eq_ok.1 saved
  obtain ⟨writable, rfl⟩ := contentOf_eq_ok.1 encoded
  exact ⟨writable, Files.readBytes_of_moved (settled.unlinked made scratch directory suffixed)
    (settled.direct made directory) written moved⟩

/-! ## Loading -/

theorem textOf_encode {t : Text} (unix : '\r' ∉ t) : textOf (Utf8.encode t) = .ok t := by
  have read : Encoding.utf8.decode (Utf8.encode t) = .ok t :=
    Source.decode_of_decode? (e := .utf8) (Utf8.decode?_encode t)
  rw [textOf, read]
  exact congrArg Except.ok (Text.unixNewlines_of_not_mem unix)

theorem reportFaults_eq (p : Path) (vs : List Violation) (g : Host) :
    ∃ log, reportFaults p vs g = (.ok (), { g with log := log }) := by
  induction vs generalizing g with
  | nil => exact ⟨g.log, rfl⟩
  | cons v vs ih => exact ih _

theorem reportRefused_eq (vs : List (String × Wide)) (g : Host) :
    ∃ log, reportRefused vs g = (.ok (), { g with log := log }) := by
  induction vs generalizing g with
  | nil => exact ⟨g.log, rfl⟩
  | cons v vs ih => exact ih _

/-- A document that conforms to the schema is taken. -/
theorem fieldsOf_accepted {t : Text} {fields : List (String × Json)} (sound : Sound g.validate)
    (read : Json.readWithin g.files.machine.nesting t = .ok (.obj fields))
    (accepted : Conforms (.obj fields)) : fieldsOf p t g = (.ok fields, g) := by
  have verdict : Task.ofExcept (g.validate (.obj fields)) g = (.ok [], g) := by
    rw [(sound _).2 accepted]
    rfl
  have nothing : reportFaults p ([].mergeSort Violation.notAfter) g = (.ok (), g) := by
    rw [List.mergeSort_nil]
    rfl
  rw [fieldsOf_of_read read, Task.bind_of_ok verdict, Task.bind_of_ok nothing]
  rfl

/-- A value that does not conform to the schema counts for nothing, or the validator fails. -/
theorem fieldsOf_refused {t : Text} {v : Json} (sound : Sound g.validate)
    (read : Json.readWithin g.files.machine.nesting t = .ok v) (refused : ¬ Conforms v) :
    (∃ faults log, g.validate v = .ok faults ∧ fieldsOf p t g = (.ok [], { g with log := log })) ∨
      ∃ e, g.validate v = .error e ∧ fieldsOf p t g = (.error e, g) := by
  rcases verdict : g.validate v with e | faults
  · refine .inr ⟨e, rfl, ?_⟩
    rw [fieldsOf_of_read read, verdict]
    rfl
  · obtain ⟨log, reported⟩ := reportFaults_eq p (faults.mergeSort Violation.notAfter) g
    have judged : Task.ofExcept (g.validate v) g = (.ok faults, g) := congrArg (·, g) verdict
    refine .inl ⟨faults, log, rfl, ?_⟩
    rw [fieldsOf_of_read read, Task.bind_of_ok judged, Task.bind_of_ok reported]
    split
    · exact absurd ((sound _).1 verdict) refused
    · rfl

/-- The fields of the document of some settings, which are none if it does not satisfy the schema. -/
theorem readFields_of_held (sound : Sound g.validate) (simple : s.Simple)
    (writable : (document s).isWritable = true)
    (held : g.files.readBytes p = .ok (Utf8.encode (render s))) :
    (Satisfied s → ∃ fields, Stored s fields ∧ readFields p g = (.ok fields, g)) ∧
      (¬ Satisfied s → (∃ log, readFields p g = (.ok [], { g with log := log })) ∨
        ∃ v e, g.validate v = .error e ∧ readFields p g = (.error e, g)) := by
  have stands : g.files.holds p = .ok true := by
    unfold Files.readBytes at held
    unfold Files.holds
    split at held
    · rename_i stat
      rw [stat]
    · cases held
    · cases held
  have text := textOf_encode (Json.plain_indentedAt 0 (document s)).no_return
  obtain ⟨fields, read, stored⟩ := read_render simple writable g.files.machine
  have run : readFields p g = fieldsOf p (render s) g := by
    have asked : Host.askFiles (·.holds p) g = (.ok true, g) := congrArg (·, g) stands
    have content : Host.askFiles (·.readBytes p) g = (.ok (Utf8.encode (render s)), g) :=
      congrArg (·, g) held
    have decoded : Task.ofExcept (textOf (Utf8.encode (render s))) g = (.ok (render s), g) :=
      congrArg (·, g) text
    unfold readFields
    rw [Task.bind_of_ok asked, if_pos rfl, Task.bind_of_ok content, Task.bind_of_ok decoded]
  rw [run]
  constructor
  · intro satisfied
    exact ⟨fields, stored, fieldsOf_accepted sound read ((conforms_stored stored).2 satisfied)⟩
  · intro violated
    have refused : ¬ Conforms (.obj fields) := fun conforms =>
      violated ((conforms_stored stored).1 conforms)
    rcases fieldsOf_refused sound read refused with ⟨_, log, -, found⟩ | ⟨e, failed, found⟩
    · exact .inl ⟨log, found⟩
    · exact .inr ⟨_, e, failed, found⟩

/-- The settings that a load makes of the document of some settings. -/
theorem loadFile_of_held (sound : Sound g.validate) (simple : s.Simple)
    (writable : (document s).isWritable = true)
    (held : g.files.readBytes p = .ok (Utf8.encode (render s))) :
    (Satisfied s → loadFile p g = (.ok s, g)) ∧
      (¬ Satisfied s → (∃ log, loadFile p g = (.ok Settings.standard, { g with log := log })) ∨
        ∃ v e, g.validate v = .error e ∧ loadFile p g = (.error e, g)) := by
  obtain ⟨accepted, refused⟩ := readFields_of_held sound simple writable held
  constructor
  · intro satisfied
    obtain ⟨fields, stored, read⟩ := accepted satisfied
    unfold loadFile
    rw [Task.bind_of_ok read, merge_stored stored]
    simp only [isCurrent_stored stored, Bool.not_true, Bool.and_false, Bool.false_eq_true, if_false]
    rfl
  · intro violated
    obtain ⟨log, read⟩ | ⟨v, e, failed, read⟩ := refused violated
    · have none : Settings.given [] = fun _ => none := rfl
      refine .inl ⟨log, ?_⟩
      unfold loadFile
      rw [Task.bind_of_ok read, none, merge_none]
      rfl
    · exact .inr ⟨v, e, failed, Task.bind_eq.2 (.inr ⟨e, read, rfl⟩)⟩

theorem load_of_loadFile {g' : Host} (run : loadFile p g = (.ok s, g')) :
    ∃ log, load p [] g = (.ok (s.merge (fromEnvironment g'.environment)), { g' with log := log }) := by
  obtain ⟨log, reported⟩ := reportRefused_eq (refused g'.environment) g'
  have given : Settings.givenValue [] = fun _ => none := rfl
  refine ⟨log, ?_⟩
  unfold load
  rw [Task.bind_of_ok run, Task.get_bind, Task.bind_of_ok reported, given, merge_none]
  rfl

/-- Where there is no file, the environment is laid over the standard settings. -/
theorem load_absent (absent : g.files.holds p = .ok false) :
    ∃ log, load p [] g =
      (.ok (Settings.standard.merge (fromEnvironment g.environment)), { g with log := log }) := by
  have asked : Host.askFiles (·.holds p) g = (.ok false, g) := congrArg (·, g) absent
  have read : readFields p g = (.ok [], g) := Task.bind_of_ok asked _
  refine load_of_loadFile ?_
  exact Task.bind_of_ok read _

/-- A load of the document of some settings gives the settings back if they satisfy the schema, and
the standard settings if they do not, unless the validator fails; it writes nothing. -/
theorem load_of_held (sound : Sound g.validate) (simple : s.Simple)
    (writable : (document s).isWritable = true)
    (held : g.files.readBytes p = .ok (Utf8.encode (render s))) (unset : Unset g.environment) :
    (Satisfied s → ∃ log, load p [] g = (.ok s, { g with log := log })) ∧
      (¬ Satisfied s → (∃ log, load p [] g = (.ok Settings.standard, { g with log := log })) ∨
        ∃ v e, g.validate v = .error e ∧ load p [] g = (.error e, g)) := by
  obtain ⟨accepted, refused⟩ := loadFile_of_held sound simple writable held
  have silent : fromEnvironment g.environment = fun _ => none := funext unset
  constructor
  · intro satisfied
    obtain ⟨log, run⟩ := load_of_loadFile (accepted satisfied)
    rw [silent, merge_none] at run
    exact ⟨log, run⟩
  · intro violated
    obtain ⟨_, run⟩ | ⟨v, e, failed, run⟩ := refused violated
    · obtain ⟨log, run⟩ := load_of_loadFile run
      rw [silent, merge_none] at run
      exact .inl ⟨log, run⟩
    · exact .inr ⟨v, e, failed, Task.bind_eq.2 (.inr ⟨e, run, rfl⟩)⟩

/-- Settings that satisfy the schema are loaded as they were saved, and nothing is written. -/
theorem saved_is_loaded (satisfied : Satisfied s) (proper : s.Proper)
    (saved : save p s h = (.ok (), h')) (settled : Settled h.files p) (same : g.files = h'.files)
    (sound : Sound g.validate) (unset : Unset g.environment) :
    ∃ g', load p [] g = (.ok s, g') ∧ g'.files = g.files := by
  obtain ⟨writable, held⟩ := readBytes_of_save saved settled
  rw [← same] at held
  have simple := simple_of_satisfied satisfied proper
  obtain ⟨log, run⟩ := (load_of_held sound simple writable held unset).1 satisfied
  exact ⟨_, run, rfl⟩

/-- Settings with an indent that is a number with a point, and with a recent file. -/
def wider : Settings :=
  { Settings.standard with
    indentWidth := .num (.float (.finite false 4503599627370496 (-50)))
    recentFiles := .strings ["/ä😀"] }

theorem satisfied_wider : Satisfied wider := satisfied_iff.2 fun o => by cases o <;> rfl

theorem proper_wider : wider.Proper := by
  intro o
  cases o with
  | indentWidth => exact .float ⟨by decide, by decide, by decide, .inr (by decide)⟩
  | recentFiles =>
    refine .arr fun v hv => ?_
    obtain rfl := List.mem_singleton.1 hv
    exact .str _
  | launcherKeyword => exact proper_standard .launcherKeyword
  | activeCompiler => exact proper_standard .activeCompiler
  | javacPath => exact proper_standard .javacPath
  | compileOutputDir => exact proper_standard .compileOutputDir
  | extraClasspath => exact proper_standard .extraClasspath
  | historyLimit => exact proper_standard .historyLimit
  | debugLogging => exact proper_standard .debugLogging
  | logDir => exact proper_standard .logDir

/-- A host with some entries at the root. -/
def rooted (root : Folder) : Host := { files := { tree := ⟨root⟩ } }

theorem settled_bare : Settled (rooted []).files ⟨.root, ["settings.json"]⟩ where
  unlinked made scratch directory suffixed := by
    cases directory
    cases suffixed
    exact fun _ _ => nofun
  direct made directory := by
    cases directory
    exact Files.direct_of_unlinked fun _ _ h => by cases h

/-- Settings are loaded again where there was nothing. -/
theorem saved_is_loaded_wider : ∃ h' g',
    save ⟨.root, ["settings.json"]⟩ wider (rooted []) = (.ok (), h') ∧
      load ⟨.root, ["settings.json"]⟩ [] h' = (.ok wider, g') ∧ g'.files = h'.files := by
  obtain ⟨h', saved, rest⟩ : ∃ h', save ⟨.root, ["settings.json"]⟩ wider (rooted []) = (.ok (), h') ∧
      h'.environment = .ofTexts [] ∧ h'.validate = check := ⟨_, rfl, rfl, rfl⟩
  obtain ⟨g', loaded, same⟩ := saved_is_loaded satisfied_wider proper_wider saved settled_bare
    rfl (rest.2 ▸ sound_check) (rest.1 ▸ unset_empty)
  exact ⟨h', g', saved, loaded, same⟩

theorem render_eq (s : Settings) : render s = Json.block 0 '\x7b' '\x7d'
    ((Json.byName (Json.indentedFields 1 (documentFields s))).map fun f =>
      Json.stringText f.1 ++ [':', ' '] ++ f.2) := by
  unfold render document Json.indented
  rw [Json.indentedAt]
  rfl

/-- Settings with a recent file whose name holds a pair in halves. -/
def halved : Settings :=
  { wider with recentFiles := .arr [.torn [] (.ofUnit 0xD83D) (.torn [] (.ofUnit 0xDE00) (.text []))] }

/-- The same with the character that the pair is. -/
def joined : Settings := { wider with recentFiles := .strings ["😀"] }

/-- A pair in halves is loaded as its character. Settings that were saved over a link that the path of
the store leads through are not found again. -/
theorem saved_otherwise :
    (∃ h' g', Satisfied halved ∧
      save ⟨.root, ["settings.json"]⟩ halved (rooted []) = (.ok (), h') ∧ Unset h'.environment ∧
      load ⟨.root, ["settings.json"]⟩ [] h' = (.ok joined, g') ∧ joined ≠ halved) ∧
    ∃ h' g', Satisfied wider ∧
      save ⟨.root, ["l", "l"]⟩ wider (rooted [("l", .link ".")]) = (.ok (), h') ∧
      Unset h'.environment ∧ load ⟨.root, ["l", "l"]⟩ [] h' = (.ok Settings.standard, g') ∧
      Settings.standard ≠ wider := by
  constructor
  · have fields : Json.indentedFields 1 (documentFields halved) =
        Json.indentedFields 1 (documentFields joined) := by decide +kernel
    have same : render halved = render joined := by rw [render_eq, render_eq, fields]
    obtain ⟨h', saved, rest⟩ : ∃ h', save ⟨.root, ["settings.json"]⟩ halved (rooted []) =
        (.ok (), h') ∧ h'.environment = .ofTexts [] ∧ h'.validate = check := ⟨_, rfl, rfl, rfl⟩
    have satisfied : Satisfied joined := satisfied_iff.2 fun o => by cases o <;> rfl
    have simple : joined.Simple := by
      intro o
      by_cases recent : o = .recentFiles
      · subst recent
        have apart : ∀ w ∈ [Wide.text ['😀']], w.Apart := fun w hw =>
          List.mem_singleton.1 hw ▸ trivial
        exact .strings apart
      · have others : joined.get o = wider.get o := by cases o <;> first | rfl | contradiction
        rw [others]
        exact simple_of_satisfied satisfied_wider proper_wider o
    obtain ⟨writable, held⟩ := readBytes_of_save saved settled_bare
    rw [same] at held
    obtain ⟨log, loaded⟩ := (load_of_held (rest.2 ▸ sound_check) simple (by decide +kernel) held
      (rest.1 ▸ unset_empty)).1 satisfied
    exact ⟨h', _, satisfied_iff.2 fun o => by cases o <;> rfl, saved, rest.1 ▸ unset_empty, loaded,
      fun h => nomatch congrArg Settings.recentFiles h⟩
  · have saved : save ⟨.root, ["l", "l"]⟩ wider (rooted [("l", .link ".")]) =
        (.ok (), rooted [("l", .file (Utf8.encode (render wider)))]) :=
      save_eq_ok.2 ⟨_, _, _, Utf8.encode (render wider),
        (rooted [("l", .link "."), ("l.tmp", .file (Utf8.encode (render wider)))]).files,
        (rooted [("l", .file (Utf8.encode (render wider)))]).files, rfl, rfl, rfl, rfl, rfl, rfl, rfl⟩
    have absent : (rooted [("l", .file (Utf8.encode (render wider)))]).files.holds
        ⟨.root, ["l", "l"]⟩ = .ok false := by decide +kernel
    have silent : fromEnvironment (.ofTexts []) = fun _ => none := funext unset_empty
    obtain ⟨log, loaded⟩ := load_absent absent
    rw [show (rooted _).environment = .ofTexts [] from rfl, silent, merge_none] at loaded
    exact ⟨_, _, satisfied_wider, saved, unset_empty, loaded,
      fun h => nomatch congrArg Settings.indentWidth h⟩

end JavaStudio.Store
