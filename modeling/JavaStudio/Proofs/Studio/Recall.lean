import JavaStudio.Proofs.Interactions.History
import JavaStudio.Proofs.Studio.Submit

/-!
# Recalling lines

A session goes through its history when a view recalls a line, adds to it when a line is submitted, and
puts its cursor past the newest line when it starts over. Interpreters, views and listeners are called
in between and may do the same.

* `Mindful.command`: a session moves its history only (`Moved`), as long as whom it calls does.
* `Recalls`: what recalling comes to. The view is told where nothing can be recalled, and the answer is
  false if telling it does not fail.
* `Resets`: what starting over comes to. Without an interpreter the history stays as it is.
* `history_recalled`: what the history of a session is, whatever was submitted and recalled before, and
  what can be done with it.
* `recall_raises`: the view can fail, and so can the making of an interpreter.
-/

namespace JavaStudio.Studio

open History (Move)

variable {S : Type} {c : Collaborators S} {s s' s₁ : Studio S} {allowed : Move → Prop}

/-! ## Moves -/

/-- The history of the session was moved by allowed moves, if at all. -/
def Moved (allowed : Move → Prop) (s s' : Studio S) : Prop :=
  ∃ moves : List Move, (∀ m ∈ moves, allowed m) ∧
    s'.session.history = moves.foldl Move.after s.session.history

theorem Moved.of_same (h : s'.session.history = s.session.history) : Moved allowed s s' :=
  ⟨[], nofun, h⟩

theorem Moved.of_move {m : Move} (hm : allowed m)
    (h : s'.session.history = m.after s.session.history) : Moved allowed s s' :=
  ⟨[m], fun _ hx => List.mem_singleton.1 hx ▸ hm, h⟩

instance : Std.Refl (Moved (S := S) allowed) := ⟨fun _ => .of_same rfl⟩

instance : IsTrans (Studio S) (Moved allowed) where
  trans := by
    intro _ _ _ ⟨moves, hm, h⟩ ⟨more, hm', h'⟩
    refine ⟨moves ++ more, List.forall_mem_append.2 ⟨hm, hm'⟩, ?_⟩
    rw [h', h, List.foldl_append]

theorem Moved.update {f : Studio S → Studio S}
    (h : ∀ s, (f s).session.history = s.session.history) :
    Act.Along (Moved allowed) (modify f : Act (Studio S) Unit) :=
  .modify fun s => .of_same (h s)

theorem Moved.report (row : LogRecord) :
    Act.Along (Moved allowed) (report row : Act (Studio S) Unit) := by
  refine .of_step fun s a s' run => ?_
  cases run
  exact .inr (.of_same rfl)

/-- Whom a session calls moves its history by allowed moves only. -/
structure Mindful (allowed : Move → Prop) (c : Collaborators S) : Prop where
  create : ∀ n, Act.Along (Moved allowed) (c.create n)
  addClasspath : ∀ n path, Act.Along (Moved allowed) (c.addClasspath n path)
  interpret : ∀ n source, Act.Along (Moved allowed) (c.interpret n source)
  output : ∀ {shows}, c.output = some shows → ∀ chunk, Act.Along (Moved allowed) (shows chunk)
  recallFailed : ∀ view, Act.Along (Moved allowed) (c.recallFailed view)
  handler : ∀ {n h}, c.handler n ⟨.interactionsReset, none⟩ = some h → Act.Along (Moved allowed) h

/-! ## Starting over -/

/-- Makes the next interpreter with the entries on its classpath. -/
def outfit (c : Collaborators S) (entries : List ClasspathEntry) : Act (Studio S) Nat := do
  let n ← createInterpreter c
  addEntries c n entries
  return n

/-- Shows the prompt of a session that started over and tells the listeners. -/
def beginAgain (c : Collaborators S) : Act (Studio S) Unit := do
  showPrompt c
  announce c ⟨.interactionsReset, none⟩

theorem resetSession_eq (c : Collaborators S) (entries : List ClasspathEntry) :
    resetSession c entries =
      outfit c entries >>= fun n => onSession (restarted n) >>= fun _ => beginAgain c := by
  rw [outfit, Act.bind_assoc]
  simp only [Act.bind_assoc]
  rfl

namespace Mindful

variable (hc : Mindful allowed c)
include hc

theorem interacts : Interacts (Moved allowed) c :=
  { hc with
    session := fun same => .modify fun s => .of_same (same s.session)
    counted := Moved.update fun _ => rfl
    recorded := fun _ _ _ => Moved.update fun _ => rfl
    report := Moved.report }

theorem outfit (entries : List ClasspathEntry) : Act.Along (Moved allowed) (outfit c entries) :=
  hc.interacts.createInterpreter.bind fun n => (hc.interacts.addEntries n entries).bind fun _ =>
    .pure _

theorem announce : Act.Along (Moved allowed) (announce c ⟨.interactionsReset, none⟩) := by
  have within : Within (Moved allowed) c ⟨.interactionsReset, none⟩ :=
    .of_outside Moved.report (.pure _) hc.handler
  exact .bind .get fun s => .bind (Moved.update fun _ => rfl) fun _ => within.deliverAll s.bus

theorem beginAgain : Act.Along (Moved allowed) (beginAgain c) :=
  hc.interacts.showPrompt.bind fun _ => hc.announce

end Mindful

/-! ## Submitting and recalling -/

theorem Moved.onHistory {α : Type} {x : Task History α} {m : Move} (hm : allowed m)
    (h : ∀ h, (x h).2 = m.after h) : Act.Along (Moved allowed) (onHistory x : Act (Studio S) α) := by
  refine .of_step fun s a s' run => ?_
  cases run
  exact .inr (.of_move hm (h _))

/-- The command is about the session. -/
def ofSession {δ κ : Type} : Command δ κ → Bool
  | .studio (.submit _) | .studio (.setPending _) | .studio (.recallEntry _ _) => true
  | .studio .resetInteractions | .studio (.resetSession _) => true
  | _ => false

/-- A command about the session moves its history only. -/
theorem Mindful.command (hc : Mindful (fun _ => True) c) {command : Command DocId CompilerId}
    (h : ofSession command = true) : Act.Along (Moved fun _ => True) (command.run c) := by
  have restarts : ∀ n, Act.Along (Moved fun _ => True)
      (onSession (restarted n) : Act (Studio S) Unit) :=
    fun n => .modify fun s => .of_move (m := .moveEnd) trivial rfl
  cases command with
  | studio command =>
    cases command with
    | submit given =>
      have adds : ∀ line, Act.Along (Moved fun _ => True)
          (onHistory (History.add line) : Act (Studio S) Unit) :=
        fun line => Moved.onHistory (m := .add line) trivial fun _ => rfl
      exact quietly_along (hc.interacts.submit adds given)
    | setPending t => exact quietly_along (.modify fun _ => .of_same rfl)
    | recallEntry way view =>
      have steps : Act.Along (Moved fun _ => True) (onHistory way.step : Act (Studio S) Text) := by
        cases way with
        | back => exact Moved.onHistory (m := .previous) trivial fun _ => rfl
        | forth => exact Moved.onHistory (m := .next) trivial fun _ => rfl
      exact (hc.interacts.recallEntry steps view).bind fun _ => .pure _
    | resetInteractions =>
      exact quietly_along (hc.interacts.resetInteractions restarts hc.announce)
    | resetSession entries =>
      exact quietly_along (hc.interacts.resetSession restarts hc.announce entries)
    | _ => cases h
  | _ => cases h

/-! ## What recalling and starting over come to -/

/-- What recalling comes to. A line that is there becomes the pending one. Where none is there the view is
told, in the studio as it was, and the answer is false if that does not fail. -/
structure Recalls (c : Collaborators S) (s : Studio S) : Prop where
  found : ∀ {way line h}, Way.step way s.session.history = (.ok line, h) → ∀ view,
    recallEntry c way view s =
      some (.ok true, { s with session := { s.session with history := h, pending := line } })
  missing : ∀ {way f h}, Way.step way s.session.history = (.error f, h) → ∀ view,
    recallEntry c way view s = (c.recallFailed view >>= fun _ => pure false) s

/-- What starting over comes to. Without an interpreter that has the entries on its classpath it fails
before the history is moved. With one it keeps the lines and puts the cursor past the newest, and then
it shows the prompt and tells the listeners. -/
structure Resets (allowed : Move → Prop) (c : Collaborators S) (entries : List ClasspathEntry)
    (s : Studio S) : Prop where
  refused : ∀ {f s₁}, outfit c entries s = some (.error f, s₁) →
    resetSession c entries s = some (.error f, s₁) ∧ Moved allowed s s₁
  resumed : ∀ {n s₁}, outfit c entries s = some (.ok n, s₁) → Moved allowed s s₁ ∧
    ∃ s₂, resetSession c entries s = beginAgain c s₂ ∧
      s₂.session.history.entries = s₁.session.history.entries ∧
      s₂.session.history.cursor = s₁.session.history.entries.length ∧
      s₂.session.history.limit = s₁.session.history.limit ∧ s₂.session.pending = [] ∧
      ∀ {r s'}, beginAgain c s₂ = some (r, s') → Moved allowed s₂ s'

theorem recalls (c : Collaborators S) (s : Studio S) : Recalls c s where
  found {way line h} step view := by
    have possible := (possible_iff way _).2 ⟨line, h, step⟩
    rw [Studio.recallEntry, Act.get_bind, if_pos possible, Act.bind_of_ok (onHistory_eq step)]
    rfl
  missing {way f h} step view := by
    have impossible : ¬ way.possible s.session.history = true := by
      intro possible
      obtain ⟨line, h', found⟩ := (possible_iff way _).1 possible
      rw [step] at found
      cases found
    rw [Studio.recallEntry, Act.get_bind, if_neg impossible]

theorem resets (hc : Mindful allowed c) (entries : List ClasspathEntry) (s : Studio S) :
    Resets allowed c entries s where
  refused outfitted := by
    rw [resetSession_eq, Act.bind_of_error outfitted]
    exact ⟨rfl, (hc.outfit entries).post outfitted⟩
  resumed {n s₁} outfitted := by
    refine ⟨(hc.outfit entries).post outfitted,
      { s₁ with session := restarted n s₁.session }, ?_, rfl, rfl, rfl, rfl, hc.beginAgain.post⟩
    rw [resetSession_eq, Act.bind_of_ok outfitted]
    rfl

/-- After lines were submitted and recalled in any order, the history of a session holds the newest
lines, as many as it has room for, and can be gone through from its cursor. Recalling goes that way and
makes the line the pending one, or tells the view and changes nothing. Starting over keeps the lines and
puts the cursor past the newest, once there is an interpreter for it. What comes of a command about the
session is such a history again. -/
theorem history_recalled (limit : Int) (moves : List Move) :
    History.Keeps limit (History.added moves) (History.played limit moves) ∧
    (History.played limit moves).entries.length ≤ History.room limit ∧
    History.Navigable (History.played limit moves) ∧
    Failure.noPreviousEntry.name = "IndexError" ∧ Failure.noNextEntry.name = "IndexError" ∧
    ∀ (c : Collaborators S) (s : Studio S), s.session.history = History.played limit moves →
      Recalls c s ∧
      (∀ allowed, Mindful allowed c → ∀ entries, Resets allowed c entries s) ∧
      (Mindful (fun _ => True) c → ∀ command, ofSession command = true → ∀ r s',
        Command.run c command s = some (r, s') →
        ∃ more, s'.session.history = History.played limit (moves ++ more)) := by
  have kept := History.keeps_played limit moves
  have bounded : (History.played limit moves).entries.length ≤ History.room limit := by
    rw [kept.length]
    exact Nat.min_le_left _ _
  refine ⟨kept, bounded, History.navigable kept.cursor, rfl, rfl, fun c s played => ?_⟩
  refine ⟨recalls c s, fun allowed hc entries => resets hc entries s, ?_⟩
  intro hc command sessional r s' run
  obtain ⟨more, -, moved⟩ := (hc.command sessional).post run
  refine ⟨more, ?_⟩
  rw [moved, played, History.played, History.played, List.foldl_append]

/-! ## Casts -/

theorem Acts.mindful (acts : Acts (Moved allowed) c) : Mindful allowed c where
  create := acts.create
  addClasspath := acts.addClasspath
  interpret := acts.interpret
  output h := acts.output h
  recallFailed := acts.recallFailed
  handler h := acts.handler h

/-- A cast that gives no commands but those about the session. -/
theorem mindful_cast {k : Cast S} (gives : k.Gives fun command => ofSession command = true)
    (patience depth : Nat) : Mindful (fun _ => True) (k.collaborators patience depth) := by
  have plays : Script.Plays (Moved (S := S) fun _ => True) := {
    changed := fun _ => Moved.update fun _ => rfl
    noted := fun _ => Moved.update fun _ => rfl
    reported := Moved.report
    returned := Moved.update fun _ => rfl }
  exact (Cast.acts plays gives (fun acts _ sessional => acts.mindful.command sessional) depth).mindful

/-- A studio whose session has a history that moves lead to. -/
def remembering (limit : Int) (moves : List Move) : Studio Unit :=
  { atRoot with session := { atRoot.session with history := History.played limit moves } }

/-- Of three lines the last two are kept, and the last one is recalled. -/
theorem history_recalled_third : ∃ s' more,
    recallEntry (Cast.idle.collaborators 1 1) .back 0
      (remembering 2 [.add ['a'], .add ['b'], .add ['c']]) = some (.ok true, s') ∧
    s'.session.pending = ['c'] ∧ s'.session.history =
      History.played 2 ([.add ['a'], .add ['b'], .add ['c']] ++ more) := by
  obtain ⟨-, -, -, -, -, session⟩ :=
    history_recalled (S := Unit) 2 [.add ['a'], .add ['b'], .add ['c']]
  obtain ⟨recalls, -, after⟩ := session (Cast.idle.collaborators 1 1)
    (remembering 2 [.add ['a'], .add ['b'], .add ['c']]) rfl
  have step : Way.back.step (History.played 2 [.add ['a'], .add ['b'], .add ['c']]) =
      (.ok ['c'], (History.played 2 [.add ['a'], .add ['b'], .add ['c']]).withCursor 1) := rfl
  have found := recalls.found step 0
  have mindful := mindful_cast (Cast.gives_idle _) 1 1
  obtain ⟨more, moved⟩ := after mindful (.studio (.recallEntry .back 0)) rfl (.ok (.flag true)) _
    (Act.bind_of_ok found _)
  exact ⟨_, more, found, rfl, moved⟩

/-- No interpreter can be made, and the view fails when it is told that nothing can be recalled. -/
def sulking : Cast Unit :=
  { Cast.idle with
    create := fun _ => .fail (.runtime "factory failed")
    recallFailed := fun _ => .fail (.runtime "on_failure raised") }

/-- Where nothing can be recalled there may be no answer, and a session that cannot start over leaves the
cursor where it was. -/
theorem recall_raises :
    recallEntry (sulking.collaborators 1 1) .back 0 (remembering 500 []) =
      some (.error (.runtime "on_failure raised"), remembering 500 []) ∧
    ∃ s', resetSession (sulking.collaborators 1 1) [] (remembering 500 [.add ['a'], .previous]) =
        some (.error (.runtime "factory failed"), s') ∧
      s'.session.history.entries = [['a']] ∧ s'.session.history.cursor = 0 :=
  ⟨rfl, _, rfl, rfl, rfl⟩

end JavaStudio.Studio
