import JavaStudio.Proofs.Studio.Roots
import JavaStudio.Proofs.Studio.Scenes
import JavaStudio.Proofs.Studio.Submit

/-!
# Recent files

The keeper of the recent files moves a file to their front when it is opened or saved, and drops the
last one when there are too many. What is dropped cannot matter later (`take_filter_take`), so the recent
files are those that are left when all files so far are gone through again (`recentOf`,
`pushRecent_recentOf`).

`Remembers` is the invariant: the keeper listens first and once, and the recent files are those of the
journal. It is broken only between the announcement of a file and the keeper's answer to it
(`deliver_keeper`), so what other listeners do when they are told, and what is done while they do it, finds
it whole (`Remembering`). `recent_files_kept` says it of all runs of a studio that was put together with
listeners of its own, as long as the keeper stays among them.
-/

namespace JavaStudio

open Studio

/-! ## Recent files -/

/-- The recent files after some files were opened or saved, one after another: the latest first, each
once, and no more than are kept. -/
def recentOf (files : List String) : List String :=
  files.reverse.eraseDups.take Settings.recentLimit

theorem filter_eraseDups (p : String) (xs : List String) :
    (xs.filter (· != p)).eraseDups = xs.eraseDups.filter (· != p) := by
  -- what stays behind the first entry is shorter, but it is no tail
  induction hn : xs.length using Nat.strong_induction_on generalizing xs with
  | _ n ih =>
    cases xs with
    | nil => rfl
    | cons x xs =>
      have shorter : ∀ q : String → Bool, (xs.filter q).length < n := by
        intro q
        have kept := List.length_filter_le q xs
        rw [← hn, List.length_cons]
        omega
      have behind := ih _ (shorter (!· == x)) (xs.filter (!· == x)) rfl
      rw [List.eraseDups_cons]
      by_cases hx : x = p
      · subst hx
        have away : xs.filter (!· == x) = xs.filter (· != x) := rfl
        rw [List.filter_cons_of_neg (by simp), List.filter_cons_of_neg (by simp), ← behind, away,
          List.filter_filter]
        simp
      · rw [List.filter_cons_of_pos (by simpa using hx), List.filter_cons_of_pos (by simpa using hx),
          List.eraseDups_cons, ← behind, List.filter_filter, List.filter_filter]
        simp only [Bool.and_comm]

/-- Of distinct entries without one of them, the first few can be told from the first few and one
more. -/
theorem take_filter_take {xs : List String} (distinct : xs.Nodup) (p : String) (n : Nat) :
    ((xs.take (n + 1)).filter (· != p)).take n = (xs.filter (· != p)).take n := by
  induction xs generalizing n with
  | nil => rfl
  | cons x xs ih =>
    obtain ⟨fresh, distinct⟩ := List.nodup_cons.1 distinct
    rw [List.take_succ_cons]
    by_cases hx : x = p
    · subst hx
      have all : ∀ ys : List String, ys ⊆ xs → ys.filter (· != x) = ys := by
        intro ys sub
        refine List.filter_eq_self.2 fun y hy => ?_
        simpa using fun hyx : y = x => fresh (hyx ▸ sub hy)
      rw [List.filter_cons_of_neg (by simp), List.filter_cons_of_neg (by simp),
        all _ (List.take_subset n xs), all _ (List.Subset.refl xs), List.take_take, Nat.min_self]
    · rw [List.filter_cons_of_pos (by simpa using hx), List.filter_cons_of_pos (by simpa using hx)]
      cases n with
      | zero => rfl
      | succ n => rw [List.take_succ_cons, List.take_succ_cons, ih distinct n]

/-- Moving a file to the front of the recent files, of which the last may be dropped, is the same as
going through all files again. -/
theorem pushRecent_recentOf (p : String) (files : List String) :
    Settings.pushRecent p ((recentOf files).map .str) = (recentOf (files ++ [p])).map .str := by
  have others : ((recentOf files).map Json.str).filter (Settings.differs p) =
      ((recentOf files).filter (· != p)).map .str := by
    rw [List.filter_map]
    rfl
  have distinct := Desk.nodup_eraseDups files.reverse
  calc Settings.pushRecent p ((recentOf files).map .str)
      = (p :: ((recentOf files).filter (· != p)).take 9).map .str := by
        rw [Settings.pushRecent, others, List.map_cons, List.map_take]
        rfl
    _ = (p :: (files.reverse.eraseDups.filter (· != p)).take 9).map .str := by
        rw [recentOf, show Settings.recentLimit = 9 + 1 from rfl, take_filter_take distinct]
    _ = (recentOf (files ++ [p])).map .str := by
        rw [← filter_eraseDups, recentOf, List.reverse_append, List.reverse_singleton,
          List.singleton_append, List.eraseDups_cons]
        rfl

theorem recentOf_nodup (files : List String) : (recentOf files).Nodup :=
  (Desk.nodup_eraseDups _).sublist (List.take_sublist _ _)

theorem length_recentOf (files : List String) : (recentOf files).length ≤ 10 :=
  List.length_take_le _ _

/-! ## Files that were opened or saved -/

/-- The file of the document that the listeners were told was opened or saved at a moment: its path at
that time. -/
def Moment.file? : Moment → Option Path
  | announced ⟨kind, some d⟩ scene => if kind.ofFile then (scene.desk.document d).path else none
  | _ => none

theorem Moment.file?_unheard {m : Moment} (h : m.isHeard = false) : m.file? = none := by
  cases m with
  | announced e scene =>
    obtain ⟨kind, _ | d⟩ := e
    · rfl
    · exact if_neg (by rw [show kind.ofFile = false from h]; exact Bool.false_ne_true)
  | _ => rfl

/-- A path that was resolved once stays so, whatever becomes of the files. -/
def Files.Settles (fs₀ : Files) : Prop :=
  ∀ ⦃fs fs' : Files⦄ ⦃p q : Path⦄, fs₀.Evolves True fs → fs.locate p = .ok q →
    fs.Evolves True fs' → fs'.locate q = .ok q

/-- A change of the subscriptions leaves the keeper of the recent files where it is. -/
def Rearrangement.sparesKeeper : Rearrangement → Bool
  | subscribed l | unsubscribed l => l ≠ .recentFiles
  | cleared => false

/-- A command leaves the keeper of the recent files its place among the listeners, and does not ask it
what it is only told. -/
def Command.sparesKeeper {δ κ : Type} (command : Command δ κ) : Bool :=
  !command.polls && command.rearrangement?.all Rearrangement.sparesKeeper

theorem Files.LinkFree.settled {fs : Files} (h : fs.LinkFree) : fs.Settles :=
  fun _ _ _ _ before located after =>
    (h.evolves before).settles ((h.evolves before).evolves after) located

namespace Studio

variable {S : Type} {c : Collaborators S} {e : Event} {s s' s₁ : Studio S} {d : DocId} {m : Moment}

/-- The files that were opened or saved so far, as the listeners were told of them. -/
def filesTold (s : Studio S) : List String := (s.journal.filterMap Moment.file?).map Path.toString

theorem filesTold_marked (s : Studio S) (m : Moment) :
    (s.marked m).filesTold = s.filesTold ++ m.file?.toList.map Path.toString := by
  have step : (s.journal ++ [m]).filterMap Moment.file? =
      s.journal.filterMap Moment.file? ++ m.file?.toList := by
    rw [List.filterMap_append]
    cases h : m.file? <;> simp [h]
  rw [filesTold, marked, step, List.map_append]
  rfl

theorem filesTold_of_heard
    (h : s'.journal.filter Moment.isHeard = s.journal.filter Moment.isHeard) :
    s'.filesTold = s.filesTold := by
  have heard : ∀ ms : List Moment, ms.filterMap Moment.file? =
      (ms.filter Moment.isHeard).filterMap Moment.file? := by
    intro ms
    rw [List.filterMap_filter]
    congr 1
    funext m
    cases hm : m.isHeard with
    | true => rw [if_pos rfl]
    | false => rw [Moment.file?_unheard hm]; rfl
  rw [filesTold, filesTold, heard s'.journal, h, ← heard]

/-- A path is its own resolved form from now on. -/
def Settled (s : Studio S) (p : Path) : Prop :=
  ∀ fs, s.host.files.Evolves True fs → fs.locate p = .ok p

/-- The keeper of the recent files is the first to listen and listens once, the recent files are those
that were opened or saved, and the paths of all documents are settled. -/
structure Remembers (s : Studio S) : Prop where
  settles : s.host.files.Settles
  keeper : ∃ ls, s.bus = .recentFiles :: ls ∧ Listener.recentFiles ∉ ls
  recent : s.settings.recentFiles = .strings (recentOf s.filesTold)
  settled : ∀ d p, (s.desk.document d).path = some p → s.Settled p

/-- The files evolve, and what is remembered stays so. -/
def Remembering (s s' : Studio S) : Prop :=
  s.Remembers → s.host.files.Evolves True s'.host.files ∧ s'.Remembers

instance : Std.Refl (Remembering (S := S)) := ⟨fun _ h => ⟨.refl, h⟩⟩

instance : IsTrans (Studio S) Remembering := ⟨fun _ _ _ h h' r =>
  ⟨(h r).1.trans (h' (h r).2).1, (h' (h r).2).2⟩⟩

namespace Remembers

/-- The files may evolve, and documents may come to settled paths. -/
theorem mono (h : s.Remembers) (files : s.host.files.Evolves True s'.host.files)
    (bus : s'.bus = s.bus) (recent : s'.settings.recentFiles = s.settings.recentFiles)
    (told : s'.filesTold = s.filesTold)
    (paths : ∀ d p, (s'.desk.document d).path = some p →
      (s.desk.document d).path = some p ∨ s'.Settled p) : s'.Remembers where
  settles _ _ _ _ before := h.settles (files.trans before)
  keeper := by rw [bus]; exact h.keeper
  recent := by rw [recent, told]; exact h.recent
  settled d p hp := by
    rcases paths d p hp with old | settled
    · exact fun fs after => h.settled d p old fs (files.trans after)
    · exact settled

theorem marked (h : s.Remembers) (none : m.file? = none) : (s.marked m).Remembers :=
  h.mono .refl rfl rfl (by rw [filesTold_marked, none]; exact List.append_nil _)
    fun _ _ hp => .inl hp

theorem logged (h : s.Remembers) (row : LogRecord) : (s.logged row).Remembers :=
  h.mono .refl rfl rfl rfl fun _ _ hp => .inl hp

/-- A path to which something was resolved is settled. -/
theorem settled_of_locate (h : s.Remembers) {chosen p : Path}
    (located : s.host.files.locate chosen = .ok p)
    (files : s.host.files.Evolves True s'.host.files) : s'.Settled p :=
  fun _ after => h.settles .refl located (files.trans after)

end Remembers

/-! ## Steps -/

/-- In a step that registers nothing a document keeps its path or comes to one that was just resolved. -/
theorem Step.path {t : Terms S} (h : Step t s s')
    (registered : s'.desk.registered = s.desk.registered) {p : Path}
    (hp : (s'.desk.document d).path = some p) :
    (s.desk.document d).path = some p ∨ ∃ chosen, s.host.files.locate chosen = .ok p := by
  cases h with
  | aside desk _ _ => rw [desk] at hp; exact .inl hp
  | noted _ desk _ _ => rw [desk] at hp; exact .inl hp
  | touched _ _ desk _ => rw [desk] at hp; exact .inl hp
  | created desk _ _ => rw [desk] at hp; exact .inl (Desk.path_addUntitled hp)
  | opened _ _ _ _ _ desk _ _ =>
    have longer := congrArg List.length registered
    rw [desk, Desk.addOpened, List.length_append, List.length_singleton] at longer
    omega
  | saved _ located _ _ _ desk _ =>
    rw [desk] at hp
    rcases Desk.path_saved hp with old | rfl
    · exact .inl old
    · exact .inr ⟨_, located⟩
  | closed _ _ desk _ _ => rw [desk] at hp; exact .inl hp
  | edited _ desk _ _ => rw [desk, Desk.path_changeBuffer] at hp; exact .inl hp

theorem Remembering.moves (k : Cast S) (patience : Nat) :
    Moves (k.terms patience True True) True (Remembering (S := S)) where
  quiet s s' step _ roll heard h := by
    have files : s.host.files.Evolves True s'.host.files := step.evolves
    obtain ⟨bus, heard⟩ := Prod.mk.inj heard
    obtain ⟨recent, heard⟩ := Prod.mk.inj heard
    refine ⟨files, h.mono files bus recent (filesTold_of_heard heard) fun d p hp => ?_⟩
    rcases step.path (congrArg Prod.fst roll) hp with old | ⟨chosen, located⟩
    · exact .inl old
    · exact .inr (h.settled_of_locate located files)

/-! ## The keeper of the recent files -/

theorem keepRecent_looks (h : e.kind.ofFile = false) :
    Act.Looks (keepRecent e : Act (Studio S) Bool) := by
  obtain ⟨kind, d⟩ := e
  cases kind with
  | documentOpened => cases h
  | documentSaved => cases h
  | _ => exact .pure _

/-- Told of a file that was opened or saved, the keeper puts it in front. -/
theorem rememberFile_remembers (h : s.Remembers) (file : e.kind.ofFile = true)
    {q : Except Failure Unit}
    (run : rememberFile e (s.marked (.announced e s.scene)) = some (q, s')) :
    s'.Remembers ∧ s'.host.files = s.host.files := by
  have unnamed : (Moment.announced e s.scene).file? = none → s' = s.marked (.announced e s.scene) →
      s'.Remembers ∧ s'.host.files = s.host.files := by
    rintro none rfl
    exact ⟨h.marked none, rfl⟩
  obtain ⟨kind, _ | d⟩ := e
  · cases run
    exact unnamed rfl rfl
  · replace file : kind.ofFile = true := file
    have told : (Moment.announced ⟨kind, some d⟩ s.scene).file? = (s.desk.document d).path :=
      if_pos file
    simp only [rememberFile, Act.get_bind] at run
    cases hp : (s.desk.document d).path with
    | none =>
      rw [hp] at told
      rw [show ((s.marked (.announced ⟨kind, some d⟩ s.scene)).desk.document d).path = none from hp]
        at run
      cases run
      exact unnamed told rfl
    | some p =>
      rw [hp] at told
      rw [show ((s.marked (.announced ⟨kind, some d⟩ s.scene)).desk.document d).path = some p from hp]
        at run
      have remembered : s.settings.remember s.host.files p = .ok { s.settings with
          recentFiles := .strings (recentOf (s.filesTold ++ [p.toString])) } := by
        rw [Settings.remember, h.settled d p hp _ .refl, h.recent, Json.strings, Json.strings,
          ← pushRecent_recentOf]
        rfl
      simp only [marked, remembered] at run
      cases run
      refine ⟨⟨h.settles, h.keeper, ?_, h.settled⟩, rfl⟩
      show Json.strings _ = Json.strings (recentOf (s.marked _).filesTold)
      rw [filesTold_marked, told]
      rfl

theorem keepRecent_remembers (h : s.Remembers) {q : Except Failure Bool}
    (run : keepRecent e (s.marked (.announced e s.scene)) = some (q, s')) :
    s'.Remembers ∧ s'.host.files = s.host.files := by
  cases file : e.kind.ofFile with
  | false =>
    obtain rfl := keepRecent_looks file run
    exact ⟨h.marked (Moment.file?_unheard file), rfl⟩
  | true =>
    have kept : ∀ {b : Bool}, (rememberFile e >>= fun _ => pure b : Act (Studio S) Bool)
        (s.marked (.announced e s.scene)) = some (q, s') →
        s'.Remembers ∧ s'.host.files = s.host.files := by
      intro b run
      rcases Act.bind_eq_some.1 run with ⟨_, s₁, remembered, rest⟩ | ⟨_, remembered, -⟩
      · cases rest
        exact rememberFile_remembers h file remembered
      · exact rememberFile_remembers h file remembered
    obtain ⟨kind, d⟩ := e
    cases kind with
    | documentOpened => exact kept run
    | documentSaved => exact kept run
    | _ => cases file

/-- The announcement of an event comes to the keeper first, and after that all is remembered again. -/
theorem deliver_keeper (h : s.Remembers) {q : Except Failure Unit}
    (run : deliver c e .recentFiles (s.marked (.announced e s.scene)) = some (q, s')) :
    s'.Remembers ∧ s'.host.files = s.host.files := by
  simp only [deliver, handlerOf] at run
  by_cases proper : e.kind.isProper = true
  · rw [if_pos proper] at run
    have called : ∀ {r s'}, guardedCall c .recentFiles "handling" e (keepRecent e)
        (s.marked (.announced e s.scene)) = some (r, s') →
        s'.Remembers ∧ s'.host.files = s.host.files := by
      intro r s' call
      rcases guardedCall_eq_some.1 call with ⟨_, kept, -⟩ | ⟨_, s₁, kept, -, -, rfl⟩ | ⟨_, kept, -⟩
      · exact keepRecent_remembers h kept
      · obtain ⟨remembers, files⟩ := keepRecent_remembers h kept
        exact ⟨remembers.logged _, files⟩
      · exact keepRecent_remembers h kept
    rcases Act.bind_eq_some.1 run with ⟨_, s₁, call, rest⟩ | ⟨_, call, -⟩
    · cases rest
      exact called call
    · exact called call
  · rw [if_neg proper] at run
    cases run
    refine ⟨h.marked (Moment.file?_unheard ?_), rfl⟩
    obtain ⟨kind, d⟩ := e
    cases kind <;> first | rfl | exact absurd rfl proper

/-! ## All that a studio does -/

theorem rearrange_remembering {change : Rearrangement} (spares : change.sparesKeeper = true) :
    Act.Along Remembering (rearrange change : Act (Studio S) Unit) := by
  intro s q s' run
  cases run
  refine .single fun h => ⟨.refl, ?_⟩
  obtain ⟨ls, bus, once⟩ := h.keeper
  have keeper : ∃ ls, change.apply s.bus = .recentFiles :: ls ∧ Listener.recentFiles ∉ ls := by
    rw [bus]
    cases change with
    | subscribed l =>
      have other : l ≠ .recentFiles := of_decide_eq_true spares
      refine ⟨ls ++ [l], rfl, fun again => ?_⟩
      rcases List.mem_append.1 again with again | again
      · exact once again
      · exact other (List.mem_singleton.1 again).symm
    | unsubscribed l =>
      have other : l ≠ .recentFiles := of_decide_eq_true spares
      refine ⟨ls.erase l, List.erase_cons_tail (by simpa using other.symm), fun again => ?_⟩
      exact once (List.mem_of_mem_erase again)
    | cleared => cases spares
  have told : (s.journal ++ [Moment.rearranged change]).filterMap Moment.file? =
      s.journal.filterMap Moment.file? := by
    rw [List.filterMap_append]
    exact List.append_nil _
  exact ⟨h.settles, keeper, h.recent.trans (by rw [filesTold, ← told]; rfl), h.settled⟩

section

variable (acts : Acts Remembering c)
include acts

theorem announce_remembering (e : Event) : Act.Along Remembering (announce c e) := by
  intro s q s' run
  refine .single fun h => ?_
  obtain ⟨ls, bus, once⟩ := h.keeper
  replace run : deliverAll c e s.bus (s.marked (.announced e s.scene)) = some (q, s') := run
  rw [bus, deliverAll] at run
  rcases Act.bind_eq_some.1 run with ⟨_, s₁, keeper, others⟩ | ⟨_, keeper, -⟩
  · obtain ⟨h₁, files⟩ := deliver_keeper h keeper
    have report : ∀ row, Act.Along Remembering (report row : Act (Studio S) Unit) := by
      intro row s q s' run
      cases run
      exact .single fun h => ⟨.refl, h.logged row⟩
    have calls : Act.Along Remembering (deliverAll c e ls) := by
      refine deliverAll_along report fun l hl handler hh => ?_
      cases l with
      | recentFiles => exact absurd hl once
      | outside n => exact acts.handler hh
    rw [← files]
    exact calls.post others h₁
  · obtain ⟨h', files⟩ := deliver_keeper h keeper
    exact ⟨files ▸ .refl, h'⟩

/-- The keeper has nothing to do with questions. -/
theorem ask_remembering (quiet : e.kind.ofFile = false) : Act.Along Remembering (ask c e) := by
  have within : Within Remembering c e := by
    refine .of_outside (fun row => ?_) (.of_looks (keepRecent_looks quiet)) acts.handler
    intro s q s' run
    cases run
    exact .single fun h => ⟨.refl, h.logged row⟩
  have marks : Act.Along Remembering (mark (.asked e) : Act (Studio S) Unit) :=
    .modify fun s h => ⟨.refl, h.marked rfl⟩
  exact .bind .get fun s => marks.bind fun _ => within.askAll s.bus

/-- Documents may come to settled paths before the listeners are told. -/
theorem announce_remembering_from {m : Studio S} {q : Except Failure Unit}
    (told : announce c e m = some (q, s')) (before : Remembering s m) : Remembering s s' := by
  have along : Act.Along Remembering (announce c e) := announce_remembering acts e
  exact IsTrans.trans _ _ _ before (along.post told)

theorem remembering_tends : Tends (fun _ => True) Remembering c where
  choose := acts.choose
  chooses _ := trivial
  afterRead := acts.afterRead
  asks := ask_remembering acts
  requests _ := announce_remembering acts _
  created told := .single <| announce_remembering_from acts told fun h =>
    ⟨.refl, h.mono .refl rfl rfl rfl fun _ _ hp => .inl (Desk.path_addUntitled hp)⟩
  opened {chosen target b s₁ s₂ s' q} _ located _ after _ told := by
    refine .single <| announce_remembering_from acts told fun h => ?_
    obtain ⟨files, h₂⟩ := acts.afterRead.post after h
    refine ⟨files, h₂.mono .refl rfl rfl rfl fun d p hp => ?_⟩
    rcases Desk.path_addOpened hp with old | rfl
    · exact .inl old
    · exact .inr (h.settled_of_locate located files)
  saved {chosen target d found fs s s' q} _ located _ _ written told := by
    refine .single <| announce_remembering_from acts told fun h => ?_
    have files : s.host.files.Evolves True fs := .single (.of_write written)
    refine ⟨files, h.mono files rfl rfl rfl fun d p hp => ?_⟩
    rcases Desk.path_saved hp with old | rfl
    · exact .inl old
    · exact .inr (h.settled_of_locate located files)
  closed _ _ told := .single <| announce_remembering_from acts told fun h =>
    ⟨.refl, h.mono .refl rfl rfl rfl fun _ _ hp => .inl hp⟩

theorem remembering_serves (k : Cast S) (patience : Nat) :
    Serves (k.terms patience True True) True Remembering c :=
  { acts with
    moves := Remembering.moves k patience
    tends := remembering_tends acts
    announces := fun _ _ => announce_remembering acts _ }

theorem command_remembering (k : Cast S) (patience : Nat) {command : Command DocId CompilerId}
    (spares : command.sparesKeeper = true) : Act.Along Remembering (command.run c) := by
  obtain ⟨unpolled, unchanged⟩ := Bool.and_eq_true_iff.1 spares
  refine command_along (remembering_serves acts k patience) (k.terms_allows patience True command)
    (fun _ => trivial) (fun _ e _ => announce_remembering acts e) (fun polls => ?_) fun {change} hchange => ?_
  · rw [polls] at unpolled
    cases unpolled
  · rw [hchange] at unchanged
    exact rearrange_remembering unchanged

end

/-- A cast that spares the keeper remembers in all that it does. -/
theorem Cast.remembering {k : Cast S} (gives : k.Gives fun command => command.sparesKeeper = true)
    (patience depth : Nat) : Acts Remembering (k.collaborators patience depth) :=
  Cast.acts (Remembering.moves k patience).plays gives
    (fun acts => command_remembering acts k patience) depth

/-! ## From the start -/

/-- Nothing happens to the listeners, the recent files and the documents, and nobody is told of any. -/
structure Unnoticed (s s' : Studio S) : Prop where
  audience : s'.audience = s.audience
  desk : s'.desk = s.desk

instance : Std.Refl (Unnoticed (S := S)) := ⟨fun _ => ⟨rfl, rfl⟩⟩

instance : IsTrans (Studio S) Unnoticed :=
  ⟨fun _ _ _ h h' => ⟨h'.audience.trans h.audience, h'.desk.trans h.desk⟩⟩

theorem unnoticed_of_silent {α : Type} {script : Script S α} (silent : script.Gives fun _ => False) :
    Act.Along Unnoticed (script.run c) := by
  refine Script.along_of_gives ?_ (fun h => h.elim) silent
  exact {
    changed := fun _ => .modify fun _ => ⟨rfl, rfl⟩
    noted := fun _ => .modify fun s => ⟨audience_marked rfl s, rfl⟩
    reported := fun _ => .of_step fun s a s' h => by
      cases h
      exact .inr ⟨rfl, rfl⟩
    returned := .modify fun s => ⟨audience_marked rfl s, rfl⟩ }

/-- A studio that was put together with listeners of its own and no recent files remembers. -/
theorem remembers_of_assemble (create : Act.Along Unnoticed (c.create 1))
    (output : ∀ {shows}, c.output = some shows → Act.Along Unnoticed (shows prompt))
    {registry : Task Host Registry} {host : Host} {settings : Settings} {stage : S}
    (joined : assemble c registry (blank host settings [] stage) = some (.ok (), s))
    (fresh : settings.recentFiles = .arr []) (settles : s.host.files.Settles) : s.Remembers := by
  obtain ⟨host', q, s₂, begun, rfl⟩ := assemble_eq_ok joined
  have begins : Begins Unnoticed c 1 := {
    session := fun _ _ => ⟨rfl, rfl⟩
    counted := fun _ => ⟨rfl, rfl⟩
    marked := fun h s => ⟨audience_marked h s, rfl⟩
    logged := fun _ _ => ⟨rfl, rfl⟩
    create := create
    output := output }
  have unnoticed := (begins.along _ _).post begun
  obtain ⟨bus, heard⟩ := Prod.mk.inj unnoticed.audience
  obtain ⟨recent, heard⟩ := Prod.mk.inj heard
  have told : s₂.filesTold = [] := filesTold_of_heard heard
  refine ⟨settles, ⟨[], ?_, List.not_mem_nil⟩, ?_, fun d p hp => ?_⟩
  · show s₂.bus ++ [Listener.recentFiles] = _
    rw [bus]
    rfl
  · have all : (s₂.marked (.rearranged (.subscribed .recentFiles))).filesTold = [] := by
      rw [filesTold_marked, told]
      rfl
    show s₂.settings.recentFiles =
      .strings (recentOf (s₂.marked (.rearranged (.subscribed .recentFiles))).filesTold)
    rw [recent, all]
    exact fresh
  · replace hp : (s₂.desk.document d).path = some p := hp
    rw [unnoticed.desk] at hp
    cases hp

/-- In a studio that was put together with listeners of its own and no recent files, the recent files are
those that the listeners were told were opened or saved, the latest first and each once, and no more than
ten, after every run that leaves the keeper its place among the listeners. A listener that comes twice is
told twice, which matters when others open files in between. This needs that a resolved path stays
resolved. -/
theorem recent_files_kept {α : Type} {k : Cast S} {patience depth : Nat}
    (gives : k.Gives fun command => command.sparesKeeper = true)
    (create : (k.create 1).Gives fun _ => False)
    (output : ∀ {shows}, k.output = some shows → (shows prompt).Gives fun _ => False)
    {registry : Task Host Registry} {host : Host} {settings : Settings} {stage : S}
    (joined : assemble (k.collaborators patience depth) registry (blank host settings [] stage) =
      some (.ok (), s))
    (fresh : settings.recentFiles = .arr []) (settles : s.host.files.Settles)
    {script : Script S α} (spares : script.Gives fun command => command.sparesKeeper = true)
    {q : Except Failure α} (run : script.run (k.collaborators patience depth) s = some (q, s')) :
    s'.settings.recentFiles = .strings (recentOf s'.filesTold) ∧
      (recentOf s'.filesTold).Nodup ∧ (recentOf s'.filesTold).length ≤ 10 := by
  have start : s.Remembers :=
    remembers_of_assemble (Cast.create_along fun _ => unnoticed_of_silent create)
      (Cast.output_along fun h _ => unnoticed_of_silent (output h)) joined fresh settles
  have acts := Cast.remembering gives patience depth
  have along : Act.Along Remembering (script.run (k.collaborators patience depth)) :=
    Script.run_along (Remembering.moves k patience) (command_remembering acts k patience) spares
  obtain ⟨-, remembers⟩ := along.post run start
  exact ⟨remembers.recent, recentOf_nodup _, length_recentOf _⟩

end Studio

/-! ## Two listeners -/

/-- Opens files of the root directory, one after another. -/
def Script.openAll : List String → Script Unit Unit
  | [] => .done ()
  | name :: names => .call (.studio (.openDocument (.ok ⟨.root, [name]⟩))) fun _ => openAll names

/-- Opens files after a listener came. -/
def Script.openHeard (names : List String) : Script Unit Unit :=
  .call (.studio (.subscribe (.outside 0))) fun _ => .openAll names

/-- A cast in which a listener that is told of an opened file opens another one. -/
def Cast.curious : Cast Unit :=
  Cast.hearing .documentOpened (.call (.studio (.openDocument (.ok ⟨.root, ["b"]⟩))) fun _ => .done true)

/-- A cast in which a listener that is told of an opened file removes all listeners. -/
def Cast.dismissive : Cast Unit :=
  Cast.hearing .documentOpened (.call (.studio .clearBus) fun _ => .done true)

namespace Studio

/-- Two files without text. -/
def twoFiles : Host := { files := { tree := ⟨[("a", .file []), ("b", .file [])]⟩ } }

theorem linkFree_twoFiles : twoFiles.files.LinkFree where
  tree := Folder.linkFree_iff.2 fun n e he => by
    have found : e = .file [] := by
      simp only [twoFiles, Folder.find?] at he
      split at he
      · exact (Option.some.inj he).symm
      · split at he
        · exact (Option.some.inj he).symm
        · cases he
    rw [found]
    trivial
  here _ hn := by cases hn

/-- A studio is put together over two files. -/
def amongTwo (k : Cast Unit) : Option (Except Failure Unit × Studio Unit) :=
  assemble (k.collaborators 1 3) (pure {}) (blank twoFiles Settings.standard [] ())

/-- The other file is opened while the listeners are told of the first, and comes to stand before it. -/
theorem recent_files_kept_curious : ∃ s s', amongTwo Cast.curious = some (.ok (), s) ∧
    (Script.openHeard ["a"]).run (Cast.curious.collaborators 1 3) s = some (.ok (), s') ∧
    s'.settings.recentFiles = .strings ["/b", "/a"] := by
  have seen : ((amongTwo Cast.curious).bind fun joined =>
      ((Script.openHeard ["a"]).run (Cast.curious.collaborators 1 3) joined.2).map fun opened =>
        (opened.1.toOption, opened.2.filesTold)) = some (some (), ["/a", "/b"]) := by
    decide +kernel
  obtain ⟨s, joined, files⟩ : ∃ s, amongTwo Cast.curious = some (.ok (), s) ∧
      s.host.files = twoFiles.files := ⟨_, rfl, rfl⟩
  rw [joined, Option.bind_some, Option.map_eq_some_iff] at seen
  obtain ⟨⟨q, s'⟩, run, seen⟩ := seen
  obtain ⟨answer, told⟩ := Prod.mk.inj seen
  cases q <;> cases answer
  have settles : s.host.files.Settles := files ▸ linkFree_twoFiles.settled
  have spares : ∀ path, (Command.studio (.openDocument (.ok path)) :
      Command DocId CompilerId).sparesKeeper = true := fun _ => rfl
  have gives : Cast.curious.Gives fun command => command.sparesKeeper = true := by
    unfold Cast.curious
    exact Cast.gives_hearing ⟨spares _, fun _ => trivial⟩
  have spared : (Script.openHeard ["a"]).Gives fun command => command.sparesKeeper = true :=
    ⟨rfl, fun _ => ⟨spares _, fun _ => trivial⟩⟩
  obtain ⟨recent, -, -⟩ := recent_files_kept gives trivial (fun h => nomatch h) joined rfl settles
    spared run
  rw [told] at recent
  exact ⟨s, s', joined, run, recent⟩

/-- A listener that removes all listeners removes the keeper too, and what is opened afterwards is not
among the recent files. -/
theorem recent_files_lost : ∃ s s', amongTwo Cast.dismissive = some (.ok (), s) ∧
    (Script.openHeard ["a", "b"]).run (Cast.dismissive.collaborators 1 3) s = some (.ok (), s') ∧
    s'.settings.recentFiles ≠ .strings (recentOf s'.filesTold) := by
  have seen : ((amongTwo Cast.dismissive).bind fun joined =>
      ((Script.openHeard ["a", "b"]).run (Cast.dismissive.collaborators 1 3) joined.2).map
        fun opened => (opened.1.toOption, opened.2.filesTold,
          (Settings.items? opened.2.settings.recentFiles).map List.length)) =
      some (some (), ["/a", "/b"], some 1) := by
    decide +kernel
  obtain ⟨s, joined⟩ : ∃ s, amongTwo Cast.dismissive = some (.ok (), s) := ⟨_, rfl⟩
  rw [joined, Option.bind_some, Option.map_eq_some_iff] at seen
  obtain ⟨⟨q, s'⟩, run, seen⟩ := seen
  obtain ⟨answer, seen⟩ := Prod.mk.inj seen
  obtain ⟨told, short⟩ := Prod.mk.inj seen
  cases q <;> cases answer
  refine ⟨s, s', joined, run, fun kept => ?_⟩
  rw [kept, told] at short
  exact absurd short (by decide +kernel)

end Studio

end JavaStudio
