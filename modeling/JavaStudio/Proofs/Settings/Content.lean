import JavaStudio.Proofs.Settings.Save

/-!
# What a load makes of what it finds

A load reads its file in stages: it asks what stands at the path, decodes the bytes, reads the text as
JSON and checks the schema. What is absent, is no JSON or has faults counts for nothing; what cannot be
decoded or judged ends the load (`readFields_cases`). Of the validator no more is used than that it is
sound.

* `load_returns_iff`: when a load returns, and with which settings.
* `load_writes`: a load writes nothing unless the file holds a document that says to be of another
  version, older or newer, or of none.
-/

namespace JavaStudio.Store

open Schema

variable {p : Path} {overrides : List (String × Json)} {fields : List (String × Json)} {h h' : Host}
  {fs : Files} {s : Settings}

/-! ## What may stand at the path -/

/-- It can be told whether the text is JSON: no integer in it is too long, and nothing is nested too
deep. What it is the validator can judge. -/
structure Judged (h : Host) (t : Text) : Prop where
  parsed : ∀ e, Json.readWithin h.files.machine.nesting t = .error e → e = .malformed
  verdict : ∀ v, Json.readWithin h.files.machine.nesting t = .ok v → ∃ faults, h.validate v = .ok faults

/-- It can be told that nothing stands at the path, or a file stands there with a text that can be
judged. -/
structure Legible (h : Host) (p : Path) : Prop where
  seen : ∀ e, h.files.stat p = .error e → Files.saysAbsent e = true
  judged : ∀ e, h.files.stat p = .ok e → ∃ bs t, e = .file bs ∧ textOf bs = .ok t ∧ Judged h t

/-- The file at the path holds a document with these fields that satisfies the schema. -/
structure Held (fs : Files) (p : Path) (fields : List (String × Json)) : Prop where
  read : ∃ bs t, fs.stat p = .ok (.file bs) ∧ textOf bs = .ok t ∧
    Json.readWithin fs.machine.nesting t = .ok (.obj fields)
  accepted : Conforms (.obj fields)

theorem Legible.congr (legible : Legible h p) (files : h'.files = h.files)
    (validate : h'.validate = h.validate) : Legible h' p := by
  obtain ⟨seen, judged⟩ := legible
  refine ⟨fun e => by rw [files]; exact seen e, fun e found => ?_⟩
  rw [files] at found
  obtain ⟨bs, t, entry, text, parsed, verdict⟩ := judged e found
  refine ⟨bs, t, entry, text, fun e => by rw [files]; exact parsed e, fun v => ?_⟩
  rw [files, validate]
  exact verdict v

/-- The version that a document says to be of. -/
def versionOf? (fields : List (String × Json)) : Option Int :=
  match Json.lookup "version" fields with
  | some (.num n) => n.toInt?
  | _ => none

/-- A document with fields that says to be of another version than the current one, or of none. -/
def Dated (fields : List (String × Json)) : Prop :=
  fields ≠ [] ∧ ∀ v, versionOf? fields = some v → v < version ∨ version < v

theorem isCurrent_iff : isCurrent fields = true ↔ versionOf? fields = some version := by
  unfold isCurrent versionOf?
  cases Json.lookup "version" fields with
  | none => simp
  | some v => cases v <;> simp

/-- A document is written again when it has fields and does not say to be of the current version. -/
theorem dated_iff : Dated fields ↔ (!fields.isEmpty && !isCurrent fields) = true := by
  rw [Bool.and_eq_true, Bool.not_eq_true', Bool.not_eq_true', List.isEmpty_eq_false_iff,
    Bool.eq_false_iff, Ne.eq_def (isCurrent fields), isCurrent_iff]
  refine and_congr_right fun _ => ⟨fun other current => ?_, fun other v found => ?_⟩
  · exact absurd (other version current) (by omega)
  · exact Int.lt_or_gt_of_ne fun same => other (same ▸ found)

namespace Held

theorem legible (sound : Sound h.validate) (held : Held h.files p fields) : Legible h p := by
  obtain ⟨⟨bs, t, stat, text, read⟩, accepted⟩ := held
  refine ⟨fun e error => ?_, fun e found => ?_⟩
  · rw [stat] at error
    cases error
  · rw [stat] at found
    cases found
    refine ⟨bs, t, rfl, text, fun e error => ?_, fun v value => ?_⟩
    · rw [read] at error
      cases error
    · rw [read] at value
      cases value
      exact ⟨[], (sound _).2 accepted⟩

/-- A file with the text of a document whose fields are sorted by their names holds the document. -/
theorem of_indented (sound : (Json.obj fields).Sound)
    (fits : (Json.obj fields).depth ≤ fs.machine.nesting)
    (sorted : (Json.obj fields).ordered = .obj fields) (accepted : Conforms (.obj fields))
    (stat : fs.stat p = .ok (.file (Utf8.encode (Json.obj fields).indented))) :
    Held fs p fields := by
  have plain := Json.plain_indentedAt 0 (.obj fields)
  refine ⟨⟨_, _, stat, textOf_encode plain.no_return, ?_⟩, accepted⟩
  rw [Json.readWithin_indented sound fits, sorted]

/-- A path leads to one document at most. -/
theorem unique {fields' : List (String × Json)} (held : Held fs p fields)
    (held' : Held fs p fields') : fields' = fields := by
  obtain ⟨⟨bs, t, stat, text, read⟩, -⟩ := held
  obtain ⟨⟨bs', t', stat', text', read'⟩, -⟩ := held'
  cases stat.symm.trans stat'
  cases text.symm.trans text'
  cases read.symm.trans read'
  rfl

end Held

/-! ## Reading the file -/

/-- What becomes of reading the file: the fields of its document, nothing or a failure. -/
inductive Read (p : Path) (h : Host) : Prop
  | document (fields : List (String × Json)) (held : Held h.files p fields)
      (run : readFields p h = (.ok fields, h))
  | nothing (log : List LogRecord) (legible : Legible h p)
      (invalid : ∀ fields, ¬ Held h.files p fields)
      (run : readFields p h = (.ok [], { h with log := log }))
  | failure (e : Failure) (illegible : ¬ Legible h p) (run : readFields p h = (.error e, h))

/-- Where it cannot be told whether something stands, the read fails; where nothing stands, there are no
fields. -/
theorem readFields_unseen {e : Failure} (stat : h.files.stat p = .error e) : Read p h := by
  have holds : h.files.holds p = if Files.saysAbsent e then .ok false else .error e := by
    unfold Files.holds
    rw [stat]
  by_cases absent : Files.saysAbsent e = true
  · have asked : Host.askFiles (·.holds p) h = (.ok false, h) := by
      show (h.files.holds p, h) = _
      rw [holds, if_pos absent]
    refine .nothing h.log ⟨fun e' error => ?_, fun e' found => ?_⟩ ?_ (Task.bind_of_ok asked _)
    · cases stat.symm.trans error
      exact absent
    · cases stat.symm.trans found
    · rintro fields ⟨⟨bs, t, found, -⟩, -⟩
      cases stat.symm.trans found
  · have asked : Host.askFiles (·.holds p) h = (.error e, h) := by
      show (h.files.holds p, h) = _
      rw [holds, if_neg absent]
    refine .failure e (fun legible => absent (legible.seen e stat)) ?_
    exact Task.bind_eq.2 (.inr ⟨e, asked, rfl⟩)

/-- What stands at the path is read before anything else is done with it. -/
theorem readFields_seen {entry : Entry} (stat : h.files.stat p = .ok entry) :
    readFields p h = (Host.askFiles (·.readBytes p) >>= fun bs =>
      Task.ofExcept (textOf bs) >>= fun t => fieldsOf p t) h := by
  have asked : Host.askFiles (·.holds p) h = (.ok true, h) := by
    show (h.files.holds p, h) = _
    unfold Files.holds
    rw [stat]
  unfold readFields
  rw [Task.bind_of_ok asked, if_pos rfl]

/-- A text is made fields, nothing or a failure. -/
theorem fieldsOf_cases (sound : Sound h.validate) (p : Path) (t : Text) :
    (∃ fields, Json.readWithin h.files.machine.nesting t = .ok (.obj fields) ∧
      Conforms (.obj fields) ∧ fieldsOf p t h = (.ok fields, h)) ∨
    (Judged h t ∧ (∀ fields, Json.readWithin h.files.machine.nesting t = .ok (.obj fields) →
        ¬ Conforms (.obj fields)) ∧
      ∃ log, fieldsOf p t h = (.ok [], { h with log := log })) ∨
    (¬ Judged h t ∧ ∃ e, fieldsOf p t h = (.error e, h)) := by
  rcases read : Json.readWithin h.files.machine.nesting t with fault | v
  · by_cases malformed : fault = .malformed
    · subst malformed
      refine .inr (.inl ⟨⟨fun e error => ?_, fun v value => ?_⟩, nofun, h.log ++ [record .warning
        ("Settings file " ++ p.toString ++ " is not valid JSON") (some "malformed")], ?_⟩)
      · cases read.symm.trans error
        rfl
      · cases read.symm.trans value
      · unfold fieldsOf
        rw [Task.get_bind]
        rewrite [read]
        rfl
    · refine .inr (.inr ⟨fun judged => malformed (judged.parsed _ read), ?_⟩)
      unfold fieldsOf
      rw [Task.get_bind]
      rewrite [read]
      cases fault with
      | malformed => exact absurd rfl malformed
      | _ => exact ⟨_, rfl⟩
  by_cases accepted : Conforms v
  · obtain ⟨fields, rfl⟩ : ∃ fields, v = .obj fields := by
      cases v with
      | obj fields => exact ⟨fields, rfl⟩
      | _ => exact accepted.elim
    exact .inl ⟨fields, rfl, accepted, fieldsOf_accepted sound read accepted⟩
  rcases fieldsOf_refused (p := p) sound read accepted with
    ⟨faults, log, verdict, run⟩ | ⟨e, failed, run⟩
  · refine .inr (.inl ⟨⟨fun e error => ?_, fun v' value => ?_⟩, fun fields same => ?_, log, run⟩)
    · cases read.symm.trans error
    · cases read.symm.trans value
      exact ⟨faults, verdict⟩
    · cases same
      exact accepted
  · refine .inr (.inr ⟨fun judged => ?_, e, run⟩)
    obtain ⟨faults, verdict⟩ := judged.verdict v read
    cases failed.symm.trans verdict

/-- Reading the file gives the fields of its document, nothing or a failure. -/
theorem readFields_cases (sound : Sound h.validate) (p : Path) : Read p h := by
  rcases stat : h.files.stat p with e | entry
  · exact readFields_unseen stat
  have run := readFields_seen stat
  by_cases regular : ∃ bs, entry = .file bs
  case neg =>
    refine .failure (.file .isDirectory p.toString) (fun legible => ?_) ?_
    · obtain ⟨bs, _, rfl, -⟩ := legible.judged entry stat
      exact regular ⟨bs, rfl⟩
    · have asked : Host.askFiles (·.readBytes p) h = (.error (.file .isDirectory p.toString), h) := by
        show (h.files.readBytes p, h) = _
        unfold Files.readBytes
        rw [stat]
        cases entry with
        | file bs => exact absurd ⟨bs, rfl⟩ regular
        | _ => rfl
      rw [run]
      exact Task.bind_eq.2 (.inr ⟨_, asked, rfl⟩)
  obtain ⟨bs, rfl⟩ := regular
  have asked : Host.askFiles (·.readBytes p) h = (.ok bs, h) := by
    show (h.files.readBytes p, h) = _
    unfold Files.readBytes
    rw [stat]
  rw [Task.bind_of_ok asked] at run
  rcases text : textOf bs with e | t
  · refine .failure e (fun legible => ?_) ?_
    · obtain ⟨bs', t, same, decoded, -⟩ := legible.judged _ stat
      cases same
      cases text.symm.trans decoded
    · rw [run, text]
      rfl
  have decoded : Task.ofExcept (textOf bs) h = (.ok t, h) := congrArg (·, h) text
  rw [Task.bind_of_ok decoded] at run
  have legible_iff : Legible h p ↔ Judged h t := by
    refine ⟨fun legible => ?_, fun judged => ⟨fun e error => ?_, fun e found => ?_⟩⟩
    · obtain ⟨bs', t', same, text', judged⟩ := legible.judged _ stat
      cases same
      cases text.symm.trans text'
      exact judged
    · cases stat.symm.trans error
    · cases stat.symm.trans found
      exact ⟨bs, t, rfl, text, judged⟩
  rcases fieldsOf_cases sound p t with
    ⟨fields, read, accepted, found⟩ | ⟨judged, invalid, log, found⟩ | ⟨unjudged, e, found⟩
  · exact .document fields ⟨⟨bs, t, stat, text, read⟩, accepted⟩ (run.trans found)
  · refine .nothing log (legible_iff.2 judged) ?_ (run.trans found)
    rintro fields ⟨⟨bs', t', stat', text', read⟩, accepted⟩
    cases stat.symm.trans stat'
    cases text.symm.trans text'
    exact invalid fields read accepted
  · exact .failure e (fun legible => unjudged (legible_iff.1 legible)) (run.trans found)

/-! ## The settings of the file -/

/-- The log has no part in a save. -/
theorem save_relogged (log : List LogRecord) :
    save p s { h with log := log } = ((save p s h).1, { (save p s h).2 with log := log }) := rfl

/-- The document of another version is written again before its settings are given. -/
theorem loadFile_dated (read : readFields p h = (.ok fields, h)) (dated : Dated fields) :
    ∃ log, loadFile p h =
      ((save p (Settings.standard.merge (Settings.given fields)) h).1.map
          fun _ => Settings.standard.merge (Settings.given fields),
        { (save p (Settings.standard.merge (Settings.given fields)) h).2 with log := log }) := by
  refine ⟨h.log ++ [record .info ("Upgrading settings file " ++ p.toString ++ " to version " ++
    toString version) none], ?_⟩
  unfold loadFile
  rw [Task.bind_of_ok read]
  simp only
  rw [if_pos (dated_iff.1 dated)]
  have told : Host.report (record .info ("Upgrading settings file " ++ p.toString ++
      " to version " ++ toString version) none) h = (.ok (), { h with log := h.log ++ [record .info
        ("Upgrading settings file " ++ p.toString ++ " to version " ++ toString version) none] }) :=
    rfl
  rw [Task.bind_of_ok told]
  rcases saved : save p (Settings.standard.merge (Settings.given fields)) h with ⟨e | u, after⟩
  · exact Task.bind_eq.2 (.inr ⟨e, (save_relogged _).trans (by rw [saved]), rfl⟩)
  · exact Task.bind_eq.2 (.inl ⟨u, _, (save_relogged _).trans (by rw [saved]), rfl⟩)

/-- What is not written again is taken as it was read. -/
theorem loadFile_undated {log : List LogRecord}
    (read : readFields p h = (.ok fields, { h with log := log })) (current : ¬ Dated fields) :
    loadFile p h =
      (.ok (Settings.standard.merge (Settings.given fields)), { h with log := log }) := by
  unfold loadFile
  rw [Task.bind_of_ok read]
  simp only
  rw [if_neg fun dated => current (dated_iff.2 dated)]
  rfl

/-- A load goes as the reading of its file goes; the overrides and the environment are laid over. -/
theorem load_eq (overrides : List (String × Json)) {q : Except Failure Settings}
    (run : loadFile p h = (q, h')) :
    ∃ log, load p overrides h =
      (q.map fun base => (base.merge (Settings.givenValue overrides)).merge
        (fromEnvironment h.environment), { h' with log := log }) := by
  have sheltered := sheltered_loadFile p h
  rw [run] at sheltered
  rcases q with e | base
  · exact ⟨h'.log, Task.bind_eq.2 (.inr ⟨e, run, rfl⟩)⟩
  · obtain ⟨log, reported⟩ := reportRefused_eq (refused h'.environment) h'
    refine ⟨log, ?_⟩
    unfold load
    rw [Task.bind_of_ok run, Task.get_bind, Task.bind_of_ok reported, sheltered]
    rfl

/-- The three ways of a load: a document that is written again, what is only read, and a failure. -/
theorem load_cases (sound : Sound h.validate) (p : Path) (overrides : List (String × Json)) :
    (∃ fields log, Held h.files p fields ∧ Dated fields ∧
      load p overrides h =
        ((save p (Settings.standard.merge (Settings.given fields)) h).1.map fun _ =>
          ((Settings.standard.merge (Settings.given fields)).merge
            (Settings.givenValue overrides)).merge (fromEnvironment h.environment),
        { (save p (Settings.standard.merge (Settings.given fields)) h).2 with log := log })) ∨
    (∃ fields log, Legible h p ∧
      (Held h.files p fields ∧ ¬ Dated fields ∨ (∀ found, ¬ Held h.files p found) ∧ fields = []) ∧
      load p overrides h =
        (.ok (((Settings.standard.merge (Settings.given fields)).merge
          (Settings.givenValue overrides)).merge (fromEnvironment h.environment)),
        { h with log := log })) ∨
    ∃ e log, ¬ Legible h p ∧ load p overrides h = (.error e, { h with log := log }) := by
  rcases readFields_cases sound p with
    ⟨fields, held, read⟩ | ⟨log, legible, invalid, read⟩ | ⟨e, illegible, read⟩
  · by_cases dated : Dated fields
    · obtain ⟨_, run⟩ := loadFile_dated read dated
      obtain ⟨log, loaded⟩ := load_eq overrides run
      refine .inl ⟨fields, log, held, dated, ?_⟩
      rw [loaded]
      rcases (save p (Settings.standard.merge (Settings.given fields)) h).1 with _ | _ <;> rfl
    · have kept : loadFile p h =
          (.ok (Settings.standard.merge (Settings.given fields)), h) := loadFile_undated read dated
      obtain ⟨log, loaded⟩ := load_eq overrides kept
      exact .inr (.inl ⟨fields, log, held.legible sound, .inl ⟨held, dated⟩, loaded⟩)
  · obtain ⟨log, loaded⟩ := load_eq overrides (loadFile_undated read fun dated => dated.1 rfl)
    exact .inr (.inl ⟨[], log, legible, .inr ⟨invalid, rfl⟩, loaded⟩)
  · have run : loadFile p h = (.error e, h) := Task.bind_eq.2 (.inr ⟨e, read, rfl⟩)
    obtain ⟨log, loaded⟩ := load_eq overrides run
    exact .inr (.inr ⟨e, log, illegible, loaded⟩)

/-- A load fails where what stands at the path is not legible. -/
theorem load_illegible (sound : Sound h.validate) (illegible : ¬ Legible h p) :
    ¬ ∃ s h', load p overrides h = (.ok s, h') := by
  rintro ⟨s, h', run⟩
  rcases load_cases sound p overrides with
    ⟨_, _, held, -⟩ | ⟨_, _, legible, -⟩ | ⟨e, log, -, failed⟩
  · exact illegible (held.legible sound)
  · exact illegible legible
  · cases run.symm.trans failed

/-- A load returns exactly when what stands at the path is legible and the file can be written again if
it holds a document of another version or of none. It lays the overrides and then the environment over
the values of the document, or over the standard settings where there is none. -/
theorem load_returns_iff (sound : Sound h.validate) (p : Path) (overrides : List (String × Json)) :
    ((∃ s h', load p overrides h = (.ok s, h')) ↔
      Legible h p ∧ ∀ fields, Held h.files p fields → Dated fields →
        (save p (Settings.standard.merge (Settings.given fields)) h).1 = .ok ()) ∧
    ∀ s h', load p overrides h = (.ok s, h') →
      (∀ fields, Held h.files p fields →
        s = ((Settings.standard.merge (Settings.given fields)).merge
          (Settings.givenValue overrides)).merge (fromEnvironment h.environment)) ∧
      ((∀ fields, ¬ Held h.files p fields) →
        s = (Settings.standard.merge (Settings.givenValue overrides)).merge
          (fromEnvironment h.environment)) := by
  rcases load_cases sound p overrides with
    ⟨fields, log, held, dated, run⟩ | ⟨fields, log, legible, found, run⟩ | ⟨e, log, illegible, run⟩
  · rw [run]
    rcases saved : (save p (Settings.standard.merge (Settings.given fields)) h).1 with e | u
    · refine ⟨⟨nofun, fun ⟨_, writes⟩ => ?_⟩, nofun⟩
      have written := writes fields held dated
      rw [saved] at written
      cases written
    · refine ⟨⟨fun _ => ⟨held.legible sound, fun found held' _ => ?_⟩, fun _ => ⟨_, _, rfl⟩⟩, ?_⟩
      · rw [held.unique held', saved]
      · rintro s h' ⟨⟩
        exact ⟨fun found held' => by rw [held.unique held'], fun invalid => absurd held (invalid fields)⟩
  · rw [run]
    refine ⟨⟨fun _ => ⟨legible, fun fields' held' dated => ?_⟩, fun _ => ⟨_, _, rfl⟩⟩, ?_⟩
    · rcases found with ⟨held, current⟩ | ⟨invalid, -⟩
      · rw [held.unique held'] at dated
        exact absurd dated current
      · exact absurd held' (invalid fields')
    · rintro s h' ⟨⟩
      refine ⟨fun fields' held' => ?_, fun invalid => ?_⟩
      · rcases found with ⟨held, -⟩ | ⟨invalid, -⟩
        · rw [held.unique held']
        · exact absurd held' (invalid fields')
      · rcases found with ⟨held, -⟩ | ⟨-, rfl⟩
        · exact absurd held (invalid fields)
        · have nothing : Settings.given [] = fun _ => none := rfl
          rw [nothing, merge_none]
  · rw [run]
    exact ⟨⟨nofun, fun ⟨legible, _⟩ => absurd legible illegible⟩, nofun⟩

/-- The standard settings are loaded where nothing stands. -/
theorem load_returns_standard : ∃ s h',
    load ⟨.root, ["settings.json"]⟩ [] (rooted []) = (.ok s, h') ∧ s = Settings.standard := by
  have legible : Legible (rooted []) ⟨.root, ["settings.json"]⟩ := by
    refine ⟨fun e error => ?_, fun e found => ?_⟩
    · cases error
      rfl
    · cases found
  have invalid : ∀ fields, ¬ Held (rooted []).files ⟨.root, ["settings.json"]⟩ fields := by
    rintro fields ⟨⟨_, _, found, -⟩, -⟩
    cases found
  obtain ⟨returns, settings⟩ :=
    load_returns_iff (h := rooted []) sound_check ⟨.root, ["settings.json"]⟩ []
  obtain ⟨s, h', run⟩ := returns.2 ⟨legible, fun fields held => absurd held (invalid fields)⟩
  have silent : fromEnvironment (rooted []).environment = fun _ => none := funext unset_empty
  have given : Settings.givenValue [] = fun _ => none := rfl
  have standard := (settings s h' run).2 invalid
  rw [silent, given, merge_none, merge_none] at standard
  exact ⟨s, h', run, standard⟩

/-- The standard settings are not loaded where a directory stands at the path, nor where the bytes of
the file are no text. -/
theorem load_fails_at_directory :
    (¬ ∃ s h', load ⟨.root, ["settings.json"]⟩ [] (rooted [("settings.json", .directory [])]) =
        (.ok s, h')) ∧
      ¬ ∃ s h', load ⟨.root, ["settings.json"]⟩ [] (rooted [("settings.json", .file [255])]) =
        (.ok s, h') := by
  constructor
  · refine load_illegible sound_check fun legible => ?_
    obtain ⟨_, _, same, -⟩ := legible.judged (.directory []) rfl
    cases same
  · refine load_illegible sound_check fun legible => ?_
    obtain ⟨_, _, same, text, -⟩ := legible.judged (.file [255]) rfl
    cases same
    cases text

/-! ## What a load writes -/

/-- A load saves the settings of a document of another version, older or newer, or of none, and writes
nothing else: any other file is left as it is, and so are all files where the load fails before. -/
theorem load_writes (sound : Sound h.validate) (p : Path) (overrides : List (String × Json)) :
    (∀ fields, Held h.files p fields → Dated fields →
      (load p overrides h).2.files =
        (save p (Settings.standard.merge (Settings.given fields)) h).2.files) ∧
    ((∀ fields, Held h.files p fields → ¬ Dated fields) →
      (load p overrides h).2.files = h.files) := by
  rcases load_cases sound p overrides with
    ⟨fields, log, held, dated, run⟩ | ⟨fields, log, -, found, run⟩ | ⟨e, log, illegible, run⟩
  · rw [run]
    exact ⟨fun fields' held' _ => by rw [held.unique held'],
      fun current => absurd dated (current fields held)⟩
  · rw [run]
    refine ⟨fun fields' held' dated => ?_, fun _ => rfl⟩
    rcases found with ⟨held, current⟩ | ⟨invalid, -⟩
    · rw [held.unique held'] at dated
      exact absurd dated current
    · exact absurd held' (invalid fields')
  · rw [run]
    exact ⟨fun fields' held' _ => absurd (held'.legible sound) illegible, fun _ => rfl⟩

/-- The fields of a document of a newer version, one of which there is only in that version. -/
def newer : List (String × Json) := [("theme", .str "dark"), ("version", .int 2)]

theorem sound_newer : (Json.obj newer).Sound := by
  refine .obj (by decide) fun f hf => ?_
  rcases List.mem_cons.1 hf with rfl | hf
  · exact .str _
  · obtain rfl := List.mem_singleton.1 hf
    have short : (Text.ofNat 2).length ≤ Text.maxDigits := by decide
    exact .num short

theorem held_newer : Held (rooted [("settings.json",
    .file (Utf8.encode (Json.obj newer).indented))]).files ⟨.root, ["settings.json"]⟩ newer := by
  have sorted : Json.sortedFields newer = newer := List.mergeSort_of_pairwise (by decide)
  refine .of_indented sound_newer (by decide) (congrArg Json.obj sorted) ?_ rfl
  have known : ∀ d ∈ demands, d = ("version", .integer) ∨ Json.lookup d.1 newer = none := by
    simp [demands, newer, Json.lookup]
  intro key demand hmem v found
  rcases known _ hmem with same | none
  · cases same
    cases found
    rfl
  · cases none.symm.trans found

/-- What is written in place of the document of a newer version. -/
theorem load_writes_newer : Dated newer ∧
    (load ⟨.root, ["settings.json"]⟩ [] (rooted [("settings.json",
        .file (Utf8.encode (Json.obj newer).indented))])).2.files =
      (save ⟨.root, ["settings.json"]⟩ (Settings.standard.merge (Settings.given newer))
        (rooted [("settings.json", .file (Utf8.encode (Json.obj newer).indented))])).2.files := by
  have dated : Dated newer := ⟨by decide, fun v found => by cases found; decide⟩
  obtain ⟨written, -⟩ := load_writes (h := rooted [("settings.json",
    .file (Utf8.encode (Json.obj newer).indented))]) sound_check ⟨.root, ["settings.json"]⟩ []
  exact ⟨dated, written newer held_newer dated⟩

/-- The document of a newer version gives way to the standard settings. -/
theorem load_rewrites_newer :
    (load ⟨.root, ["settings.json"]⟩ [] (rooted [("settings.json",
        .file (Utf8.encode (Json.obj newer).indented))])).2.files.readBytes
      ⟨.root, ["settings.json"]⟩ = .ok (Utf8.encode (render Settings.standard)) := by
  have dated : Dated newer := ⟨by decide, fun v found => by cases found; decide⟩
  have given : Settings.standard.merge (Settings.given newer) = Settings.standard := rfl
  rcases load_cases (h := rooted [("settings.json",
      .file (Utf8.encode (Json.obj newer).indented))]) sound_check ⟨.root, ["settings.json"]⟩ [] with
    ⟨fields, _, held, -, run⟩ | ⟨fields, _, -, ⟨held, current⟩ | ⟨invalid, -⟩, -⟩ | ⟨_, _, illegible, -⟩
  · rw [run, held_newer.unique held, given]
    rfl
  · exact absurd dated (held_newer.unique held ▸ current)
  · exact absurd held_newer (invalid newer)
  · exact absurd (held_newer.legible sound_check) illegible

end JavaStudio.Store
