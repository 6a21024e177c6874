import JavaStudio.Proofs.Act
import JavaStudio.Settings.Store

/-!
# What is loaded

The settings that are loaded from a file satisfy the schema if the validator is sound: a file with faults
counts for nothing, and the standard settings satisfy the schema themselves (`load_satisfied`). Only
variables of the environment and overrides may bring in other values.
-/

namespace JavaStudio

namespace Schema

variable {fields : List (String × Json)} {demand : Demand} {v : Json} {validate : Validator}

theorem itemFaults_eq_nil {k : Nat} {vs : List Json} :
    itemFaults k vs = [] ↔ vs.all isString = true := by
  induction vs generalizing k with
  | nil => exact iff_of_true rfl rfl
  | cons v vs ih =>
    rw [itemFaults, List.all_cons, Bool.and_eq_true]
    split
    · rename_i string
      exact ih.trans ⟨fun h => ⟨string, h⟩, fun h => h.2⟩
    · rename_i other
      exact ⟨nofun, fun h => absurd h.1 other⟩

theorem faults_eq_nil : faults demand v = [] ↔ demand.isMet v = true := by
  cases demand with
  | integer => simp [faults, Demand.isMet]
  | integerFrom least => simp [faults, Demand.isMet]
  | truth => cases v <;> simp [faults, Demand.isMet]
  | stringOrNull =>
    rw [faults, Demand.isMet]
    split <;> simp [*]
  | nonEmptyString =>
    rw [faults, Demand.isMet, Bool.and_eq_true]
    split <;> simp [*]
  | solidString => cases hw : v.wide? <;> simp [faults, Demand.isMet, hw]
  | strings =>
    cases v with
    | arr vs => exact itemFaults_eq_nil
    | _ => simp [faults, Demand.isMet]

theorem violations_eq_nil : violations v = [] ↔ Conforms v := by
  cases v with
  | obj fields =>
    rw [violations, List.flatMap_eq_nil_iff]
    constructor
    · intro h key demand hmem v hv
      have none := h (key, demand) hmem
      simp only [faultsAt, hv, List.map_eq_nil_iff] at none
      exact faults_eq_nil.1 none
    · rintro h ⟨key, demand⟩ hmem
      simp only [faultsAt]
      split
      · rename_i v hv
        rw [faults_eq_nil.2 (h key demand hmem v hv), List.map_nil]
      · rfl
  | _ => exact ⟨nofun, fun h => h.elim⟩

theorem sound_check : Sound check := fun v => by
  rw [check, Except.ok.injEq]
  exact violations_eq_nil

theorem isMet_integerFrom {least : Int} (h : (Demand.integerFrom least).isMet v = true) :
    ∃ n, v = .num n ∧ n.toInt?.isSome = true ∧ n.ltInt least = false := by
  rw [Demand.isMet, Bool.and_eq_true, Bool.not_eq_true'] at h
  obtain ⟨integer, bound⟩ := h
  cases v with
  | num n => exact ⟨n, rfl, integer, bound⟩
  | _ => cases integer

theorem isString_eq_true : isString v = true ↔ ∃ w, v = .ofWide w := by
  rw [isString, Option.isSome_iff_exists]
  exact exists_congr fun w => Json.wide?_eq_some

theorem isMet_solidString (h : Demand.solidString.isMet v = true) : ∃ w, v = .ofWide w := by
  rw [Demand.isMet, Option.any_eq_true] at h
  obtain ⟨w, hw, -⟩ := h
  exact ⟨w, Json.wide?_eq_some.1 hw⟩

/-- What is asked of the value of an option. -/
def demandOn : Setting → Demand
  | .launcherKeyword => .solidString
  | .activeCompiler => .stringOrNull
  | .javacPath => .nonEmptyString
  | .compileOutputDir => .stringOrNull
  | .extraClasspath => .strings
  | .indentWidth => .integerFrom 0
  | .historyLimit => .integerFrom 1
  | .debugLogging => .truth
  | .logDir => .stringOrNull
  | .recentFiles => .strings

theorem mem_demands {o : Setting} {demand : Demand} :
    (o.key, demand) ∈ demands ↔ demand = demandOn o := by
  cases o <;> simp [demands, Setting.key, demandOn]

/-- The value of every option is as the schema asks. -/
def Satisfied (s : Settings) : Prop :=
  ∀ o demand, (Setting.key o, demand) ∈ demands → demand.isMet (s.get o) = true

theorem satisfied_iff {s : Settings} : Satisfied s ↔ ∀ o, (demandOn o).isMet (s.get o) = true :=
  ⟨fun h o => h o _ (mem_demands.2 rfl), fun h o _ hmem => mem_demands.1 hmem ▸ h o⟩

theorem satisfied_standard : Satisfied Settings.standard :=
  satisfied_iff.2 fun o => by cases o <;> rfl

theorem Satisfied.merge {s : Settings} (h : Satisfied s) (accepted : Conforms (.obj fields)) :
    Satisfied (s.merge (Settings.given fields)) := by
  intro o demand hmem
  simp only [Settings.get_merge, Settings.given]
  cases hv : Json.lookup o.key fields with
  | none => exact h o demand hmem
  | some v => exact accepted _ _ hmem v hv

end Schema

/-! ## Loading -/

namespace Store

open Schema

variable {p : Path} {h h' : Host} {s : Settings}

/-- A value that was read is given to the validator. -/
theorem fieldsOf_of_read {t : Text} {v : Json}
    (read : Json.readWithin h.files.machine.nesting t = .ok v) :
    fieldsOf p t h = (Task.ofExcept (h.validate v) >>= fun faults =>
      reportFaults p (faults.mergeSort Violation.notAfter) >>= fun _ =>
        match faults, v with
        | [], .obj fields => pure fields
        | _, _ => pure []) h := by
  unfold fieldsOf
  rw [Task.get_bind]
  rewrite [read]
  rfl

/-- What is made of the text of a file: nothing, or the fields of a document without faults. -/
theorem fieldsOf_eq_ok {t : Text} {fields : List (String × Json)} (sound : Sound h.validate)
    (run : fieldsOf p t h = (.ok fields, h')) :
    fields = [] ∨ Conforms (.obj fields) ∧
      Json.readWithin h.files.machine.nesting t = .ok (.obj fields) := by
  cases hread : Json.readWithin h.files.machine.nesting t with
  | error e =>
    unfold fieldsOf at run
    rw [Task.get_bind] at run
    rw [hread] at run
    cases e with
    | malformed =>
      obtain ⟨_, _, -, run⟩ := Task.bind_eq_ok.1 run
      cases run
      exact .inl rfl
    | _ => cases run
  | ok v =>
    rw [fieldsOf_of_read hread] at run
    obtain ⟨faults, _, verdict, run⟩ := Task.bind_eq_ok.1 run
    obtain ⟨_, _, -, run⟩ := Task.bind_eq_ok.1 run
    rw [Task.ofExcept_apply] at verdict
    have verdict := (Prod.mk.inj verdict).1
    split at run
    · cases run
      exact .inr ⟨(sound _).1 verdict, rfl⟩
    · cases run
      exact .inl rfl

/-- The settings of a file are laid over the standard ones. -/
theorem loadFile_eq_ok (sound : Sound h.validate) (run : loadFile p h = (.ok s, h')) :
    ∃ fields, s = Settings.standard.merge (Settings.given fields) ∧
      (fields = [] ∨ Conforms (.obj fields) ∧
        ∃ t, Json.readWithin h.files.machine.nesting t = .ok (.obj fields)) := by
  obtain ⟨fields, h₁, read, run⟩ := Task.bind_eq_ok.1 run
  refine ⟨fields, ?_, ?_⟩
  · simp only at run
    split at run
    · obtain ⟨_, _, -, run⟩ := Task.bind_eq_ok.1 run
      obtain ⟨_, _, -, run⟩ := Task.bind_eq_ok.1 run
      cases run
      rfl
    · cases run
      rfl
  · obtain ⟨holds, h₂, asked, read⟩ := Task.bind_eq_ok.1 read
    obtain ⟨-, rfl⟩ := Prod.mk.inj asked
    cases holds with
    | true =>
      obtain ⟨bs, _, content, read⟩ := Task.bind_eq_ok.1 read
      obtain ⟨t, _, text, read⟩ := Task.bind_eq_ok.1 read
      obtain ⟨-, rfl⟩ := Prod.mk.inj content
      obtain ⟨-, rfl⟩ := Prod.mk.inj text
      exact (fieldsOf_eq_ok sound read).imp_right fun found => ⟨found.1, t, found.2⟩
    | false =>
      cases read
      exact .inl rfl

theorem loadFile_satisfied (sound : Sound h.validate) (run : loadFile p h = (.ok s, h')) :
    Satisfied s := by
  obtain ⟨fields, rfl, rfl | ⟨accepted, -⟩⟩ := loadFile_eq_ok sound run
  · exact satisfied_standard
  · exact satisfied_standard.merge accepted

/-! ## The environment -/

/-- The task leaves the variables of the environment alone. -/
def Sheltered {α : Type} (x : Task Host α) : Prop := ∀ h, (x h).2.environment = h.environment

namespace Sheltered

variable {α β : Type} {x : Task Host α} {f : α → Task Host β}

protected theorem bind (hx : Sheltered x) (hf : ∀ a, Sheltered (f a)) : Sheltered (x >>= f) :=
  Task.Keeps.bind (g := Host.environment) hx hf

protected theorem pure (a : α) : Sheltered (pure a : Task Host α) := fun _ => rfl

protected theorem get : Sheltered (get : Task Host Host) := fun _ => rfl

protected theorem throw (e : Failure) : Sheltered (throw e : Task Host α) := fun _ => rfl

protected theorem ofExcept (q : Except Failure α) : Sheltered (Task.ofExcept q) := fun _ => rfl

protected theorem report (r : LogRecord) : Sheltered (Host.report r) := fun _ => rfl

protected theorem onFiles (x : Task Files α) : Sheltered (Host.onFiles x) := fun _ => rfl

protected theorem askFiles (g : Files → Except Failure α) : Sheltered (Host.askFiles g) :=
  fun _ => rfl

end Sheltered

theorem sheltered_reportFaults (p : Path) (vs : List Violation) : Sheltered (reportFaults p vs) := by
  induction vs with
  | nil => exact .pure _
  | cons v vs ih => exact (Sheltered.report _).bind fun _ => ih

theorem sheltered_fieldsOf (p : Path) (t : Text) : Sheltered (fieldsOf p t) := by
  refine Sheltered.get.bind fun h => ?_
  split
  · exact (Sheltered.report _).bind fun _ => .pure _
  · exact .throw _
  · exact .throw _
  · exact .throw _
  · refine Sheltered.get.bind fun h => (Sheltered.ofExcept _).bind fun faults =>
      (sheltered_reportFaults p _).bind fun _ => ?_
    split <;> exact .pure _

theorem sheltered_loadFile (p : Path) : Sheltered (loadFile p) := by
  have fields : Sheltered (readFields p) := by
    refine (Sheltered.askFiles _).bind fun holds => ?_
    split
    · exact (Sheltered.askFiles _).bind fun bs => (Sheltered.ofExcept _).bind fun t =>
        sheltered_fieldsOf p t
    · exact .pure _
  refine fields.bind fun fields => ?_
  simp only
  split
  · exact (Sheltered.report _).bind fun _ => (Sheltered.onFiles _).bind fun _ => .pure _
  · exact .pure _

/-! ## The settings -/

/-- The environment says nothing of the options. -/
def Unset (env : Environment) : Prop := ∀ o, fromEnvironment env o = none

theorem unset_empty : Unset (.ofTexts []) := fun o => by cases o <;> rfl

theorem merge_none (s : Settings) : s.merge (fun _ => none) = s :=
  Settings.ext_get fun o => Settings.get_merge _ s o

/-- Without overrides, the variables are laid over the settings of the file. -/
theorem load_eq_ok (run : load p [] h = (.ok s, h')) :
    ∃ base h₁, loadFile p h = (.ok base, h₁) ∧ s = base.merge (fromEnvironment h.environment) := by
  obtain ⟨base, h₁, loaded, run⟩ := Task.bind_eq_ok.1 run
  have environment : h₁.environment = h.environment := by
    have sheltered := sheltered_loadFile p h
    rwa [loaded] at sheltered
  have given : Settings.givenValue [] = fun _ => none := rfl
  rw [Task.get_bind] at run
  obtain ⟨_, _, -, run⟩ := Task.bind_eq_ok.1 run
  cases run
  rw [given, merge_none, environment]
  exact ⟨base, h₁, loaded, rfl⟩

/-- Without overrides and variables, the settings that are loaded satisfy the schema. -/
theorem load_satisfied (sound : Sound h.validate) (unset : Unset h.environment)
    (run : load p [] h = (.ok s, h')) : Satisfied s := by
  obtain ⟨base, _, loaded, rfl⟩ := load_eq_ok run
  have silent : fromEnvironment h.environment = fun _ => none := funext unset
  rw [silent, merge_none]
  exact loadFile_satisfied sound loaded

end Store

end JavaStudio
