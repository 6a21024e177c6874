import JavaStudio.Proofs.Studio.Surroundings
import JavaStudio.Studio.Cast

/-!
# Runs of a studio

A run is a script that is played with a cast. `Script.run_steps`: every run is a chain of steps,
however deep the calls of its collaborators are nested. `Script.Gives` and `Cast.Gives` restrict the
commands that are given; `Cast.terms` are the terms on which a cast plays. `Cast.follows` says the same
of any relation that covers the steps and that the commands keep to.
-/

namespace JavaStudio

open Studio

variable {S α : Type}

/-! ## The commands that are given -/

/-- A command calls on the files without a document. -/
def Command.touchesFiles {δ κ : Type} : Command δ κ → Bool
  | .studio (.storeFile _ _) | .studio (.makeDirectory _) | .studio (.deleteFile _) => true
  | _ => false

/-- The path by which a command chooses a file, if it does. -/
def Command.picked? {δ κ : Type} : Command δ κ → Option Path
  | .document _ (.save (.ok p)) | .document _ (.saveAs (.ok p)) | .studio (.openDocument (.ok p))
  | .studio (.documentForFile p) => some p
  | _ => none

/-- A command has to do with compiles: it compiles, has to do with what is under way in the
background, starts over, or tells the listeners of such things. -/
def Command.isAloud {δ κ : Type} : Command δ κ → Bool
  | .document _ .compile | .document _ .startCompile | .document _ (.compileAside _)
  | .document _ (.entrust _) => true
  | .studio (.settle _) | .studio (.drain _) | .studio (.compileWithActive _ _)
  | .studio .resetConsole | .studio .resetInteractions | .studio (.resetSession _) => true
  | .announce kind _ => kind.ofCompile
  | _ => false

/-- A command tells the listeners that a document was made, opened or closed, whether it was or not. -/
def Command.forges {δ κ : Type} : Command δ κ → Bool
  | .announce kind _ => kind.ofLife
  | _ => false

/-- A command asks the listeners what they are only told: that a file was opened or saved. -/
def Command.polls {δ κ : Type} : Command δ κ → Bool
  | .ask kind _ => kind.ofFile
  | _ => false

/-- How a command changes the subscriptions, if it does. -/
def Command.rearrangement? {δ κ : Type} : Command δ κ → Option Rearrangement
  | .studio (.subscribe l) => some (.subscribed l)
  | .studio (.unsubscribe l) => some (.unsubscribed l)
  | .studio .clearBus => some .cleared
  | _ => none

/-- All commands that a script may come to give have a property. -/
def Script.Gives (p : Command DocId CompilerId → Prop) : Script S α → Prop
  | done _ | fail _ => True
  | look next => ∀ s, (next s).Gives p
  | change _ next => next.Gives p
  | note _ next => next.Gives p
  | report _ next => next.Gives p
  | call command next => p command ∧ ∀ r, (next r).Gives p

/-- All commands that the collaborators of a cast may come to give have a property. -/
structure Cast.Gives (k : Cast S) (p : Command DocId CompilerId → Prop) : Prop where
  handler : ∀ {n e script}, k.handler n e = some script → script.Gives p
  choose : ∀ n, (k.choose n).Gives p
  afterRead : k.afterRead.Gives p
  create : ∀ n, (k.create n).Gives p
  addClasspath : ∀ n path, (k.addClasspath n path).Gives p
  interpret : ∀ n source, (k.interpret n source).Gives p
  output : ∀ {f}, k.output = some f → ∀ chunk, (f chunk).Gives p
  recallFailed : ∀ view, (k.recallFailed view).Gives p
  exit : ∀ code, (k.exit code).Gives p
  compile : ∀ id root files, (k.compile id root files).Gives p

theorem Script.gives_of_forall {p : Command DocId CompilerId → Prop} (hp : ∀ command, p command)
    (script : Script S α) : script.Gives p := by
  induction script with
  | done _ => exact trivial
  | fail _ => exact trivial
  | look next ih => exact fun s => ih s
  | change _ next ih => exact ih
  | note _ next ih => exact ih
  | report _ next ih => exact ih
  | call command next ih => exact ⟨hp command, fun r => ih r⟩

theorem Cast.gives_of_forall {p : Command DocId CompilerId → Prop} (hp : ∀ command, p command)
    (k : Cast S) : k.Gives p where
  handler _ := Script.gives_of_forall hp _
  choose _ := Script.gives_of_forall hp _
  afterRead := Script.gives_of_forall hp _
  create _ := Script.gives_of_forall hp _
  addClasspath _ _ := Script.gives_of_forall hp _
  interpret _ _ := Script.gives_of_forall hp _
  output _ _ := Script.gives_of_forall hp _
  recallFailed _ := Script.gives_of_forall hp _
  exit _ := Script.gives_of_forall hp _
  compile _ _ _ := Script.gives_of_forall hp _

/-- All answers that a script may come to give have a property. -/
def Script.Answers (p : α → Prop) : Script S α → Prop
  | done a => p a
  | fail _ => True
  | look next => ∀ s, (next s).Answers p
  | change _ next => next.Answers p
  | note _ next => next.Answers p
  | report _ next => next.Answers p
  | call _ next => ∀ r, (next r).Answers p

theorem Script.answers_of_forall {p : α → Prop} (hp : ∀ a, p a) (script : Script S α) :
    script.Answers p := by
  induction script with
  | done a => exact hp a
  | fail _ => exact trivial
  | look next ih => exact fun s => ih s
  | change _ next ih => exact ih
  | note _ next ih => exact ih
  | report _ next ih => exact ih
  | call _ next ih => exact fun r => ih r

/-- Where all paths may be chosen, no view chooses any other. -/
theorem Cast.views_any (k : Cast S) (n : Nat) : (k.choose n).Answers fun _ => True :=
  Script.answers_of_forall (fun _ => trivial) (k.choose n)

/-- What a script answers when it is played is one of its answers. -/
theorem Script.answers_run {c : Collaborators S} {p : α → Prop} {script : Script S α}
    (answers : script.Answers p) {s s' : Studio S} {a : α}
    (run : script.run c s = some (.ok a, s')) : p a := by
  induction script generalizing s with
  | done b =>
    cases run
    exact answers
  | fail f => cases run
  | look next ih => exact ih s (answers s) run
  | change f next ih => exact ih answers run
  | note row next ih => exact ih answers run
  | report row next ih => exact ih answers run
  | call command next ih =>
    obtain ⟨q, s₁, -, rest⟩ := Act.attempt_bind_eq_some.1 run
    exact ih q (answers q) rest

/-- Steps of `r` are all that a script needs between its commands. -/
structure Script.Plays (r : Studio S → Studio S → Prop) : Prop where
  changed : ∀ f : S → S, Act.Along r (modify fun s => { s with stage := f s.stage })
  noted : ∀ row, Act.Along r (Studio.record (.noted row) : Act (Studio S) Unit)
  reported : ∀ row, Act.Along r (Studio.report row : Act (Studio S) Unit)
  returned : Act.Along r (Studio.mark .returned : Act (Studio S) Unit)

/-- A script takes steps of `r` when all commands do that it may come to give. -/
theorem Script.along_of_gives {r : Studio S → Studio S → Prop} {c : Collaborators S}
    {p : Command DocId CompilerId → Prop} (plays : Script.Plays r)
    (calls : ∀ {command}, p command → Act.Along r (command.run c)) {script : Script S α}
    (gives : script.Gives p) : Act.Along r (script.run c) := by
  induction script with
  | done a => exact .pure a
  | fail f => exact .throw f
  | look next ih => exact fun s => ih s (gives s) |>.alongFrom s
  | change f next ih => exact (plays.changed f).bind fun _ => ih gives
  | note row next ih => exact (plays.noted row).bind fun _ => ih gives
  | report row next ih => exact (plays.reported row).bind fun _ => ih gives
  | call command next ih =>
    exact (calls gives.1).attempt.bind fun q => plays.returned.bind fun _ => ih q (gives.2 q)

/-- A script ends when all commands do that it may come to give. -/
theorem Script.ends_of_gives {c : Collaborators S} {p : Command DocId CompilerId → Prop}
    (calls : ∀ {command}, p command → Act.Ends (command.run c)) {script : Script S α}
    (gives : script.Gives p) : Act.Ends (script.run c) := by
  induction script with
  | done a => exact .pure a
  | fail f => exact .throw f
  | look next ih => exact fun s => ih s (gives s) s
  | change f next ih => exact (Act.Ends.modify _).bind fun _ => ih gives
  | note row next ih => exact (Act.Ends.modify _).bind fun _ => ih gives
  | report row next ih => exact (report_ends row).bind fun _ => ih gives
  | call command next ih =>
    exact (calls gives.1).attempt.bind fun q => (Act.Ends.modify _).bind fun _ => ih q (gives.2 q)

namespace Studio

variable {t : Terms S} {aloud : Prop} {r : Studio S → Studio S → Prop} {c : Collaborators S}

/-- The terms allow a command. -/
def Terms.allows (t : Terms S) (command : Command DocId CompilerId) : Prop :=
  (command.touchesFiles = true → t.others) ∧ ∀ p, command.picked? = some p → t.picks p

/-! ## Commands -/

theorem insertAt_edit {b b' : Buffer} {offset : Json} {fragment : Text}
    (h : b.insertAt offset fragment = .ok b') : Edit b b' := by
  unfold Buffer.insertAt at h
  rcases hp : Place.ofJson b.text.length offset with f | place <;> rw [hp] at h
  · cases h
  · rcases hcut : place.cut with f | k <;> simp only [bind, Except.bind, hcut] at h
    · cases h
    · cases h
      exact .inl rfl

theorem setCursorTo_edit {b b' : Buffer} {offset : Json} (h : b.setCursorTo offset = .ok b') :
    Edit b b' := by
  unfold Buffer.setCursorTo at h
  rcases hp : Place.ofJson b.text.length offset with f | place <;> rw [hp] at h <;> cases h
  exact .inr ⟨rfl, rfl⟩

theorem gotoLineOf_edit {b b' : Buffer} {line : Json} (h : b.gotoLineOf line = .ok b') :
    Edit b b' := by
  unfold Buffer.gotoLineOf at h
  rcases hp : Place.lineOf line with f | n <;> rw [hp] at h <;> cases h
  exact .inr ⟨rfl, rfl⟩

theorem bufferOf_along (d : DocId) : Act.Along r (bufferOf d : Act (Studio S) Buffer) :=
  .bind .get fun _ => .pure _

section

variable (hr : Moves t aloud r)
include hr

theorem changeBuffer_along {d : DocId} {change : Buffer → Except Failure Buffer}
    (edits : ∀ {b b'}, change b = .ok b' → Edit b b') :
    Act.Along r (changeBuffer d change : Act (Studio S) Unit) := by
  intro s
  refine (bufferOf_along d).from_bind fun b s₁ hb => ?_
  cases hb
  refine (Act.Along.ofExcept _).from_bind fun b' s₂ hb' => ?_
  simp only [Act.ofExcept_apply, Option.some.injEq, Prod.mk.injEq] at hb'
  obtain ⟨hchange, rfl⟩ := hb'
  intro a s' h
  cases h
  exact .single
    (hr.quiet (.edited (d := d) (f := fun _ => b') (edits hchange) rfl rfl rfl) (.inr rfl) rfl
      rfl)

theorem onFiles_touched {s : Studio S} {call : Task Files Unit} (allowed : t.others)
    (touches : ∀ fs : Files, fs.Touched (call fs).2) :
    Act.AlongFrom r s (onFiles call : Act (Studio S) Unit) := by
  intro a s' h
  cases h
  exact .single (hr.quiet (.touched allowed (touches s.host.files) rfl rfl) (.inr rfl) rfl rfl)

end

section

variable (hc : Serves t aloud r c)
include hc

theorem documentCommand_along {d : DocId} {command : DocumentCommand}
    (allowed : t.allows (.document d command))
    (loud : (Command.document d command : Command DocId CompilerId).isAloud = true → aloud) :
    Act.Along r (command.run c d) := by
  cases command with
  | close => exact (closeDocument_along hc.tends d).bind fun _ => .pure _
  | canAbandon => exact (canAbandon_along hc.tends d).bind fun _ => .pure _
  | requestSave => exact quietly_along (requestSave_along hc.tends d)
  | save selector =>
    have picked : ∀ p, selector = .ok p → t.picks p := fun p same => allowed.2 p (by rw [same]; rfl)
    exact (save_along hc.tends picked).bind fun _ => .pure _
  | saveAs selector =>
    have picked : ∀ p, selector = .ok p → t.picks p := fun p same => allowed.2 p (by rw [same]; rfl)
    exact (saveAs_along hc.tends picked).bind fun _ => .pure _
  | setText text => exact quietly_along (onBuffer_along hc.moves fun _ => .inl rfl)
  | insert offset text => exact quietly_along (changeBuffer_along hc.moves insertAt_edit)
  | setCursor offset => exact quietly_along (changeBuffer_along hc.moves setCursorTo_edit)
  | gotoLine line =>
    exact (changeBuffer_along hc.moves gotoLineOf_edit).bind fun _ =>
      (bufferOf_along d).bind fun _ => .pure _
  | balance => exact (bufferOf_along d).bind fun _ => (Act.Along.ofExcept _).bind fun _ => .pure _
  | setIndent width =>
    exact quietly_along ((Act.Along.ofExcept _).bind fun _ =>
      onBuffer_along hc.moves fun _ => .inr ⟨rfl, rfl⟩)
  | package => exact (bufferOf_along d).bind fun _ => (Act.Along.ofExcept _).bind fun _ => .pure _
  | path => exact .bind .get fun _ => (Act.Along.ofExcept _).bind fun _ => .pure _
  | sourceRoot => exact (sourceRoot_along d).bind fun _ => .pure _
  | compile => exact (compile_along (hc.loud (loud rfl)) d).bind fun _ => .pure _
  | startCompile => exact (startCompile_along (hc.loud (loud rfl)) d).bind fun _ => .pure _
  | compileAside pool =>
    exact (compileAndSettle_along (hc.loud (loud rfl)) d pool).bind fun _ => .pure _
  | entrust pool => exact (compileAside_along (hc.loud (loud rfl)) d pool).bind fun _ => .pure _

theorem studioCommand_along {command : StudioCommand} (allowed : t.allows (.studio command))
    (loud : (Command.studio command : Command DocId CompilerId).isAloud = true → aloud)
    (rearranges : ∀ {change}, (Command.studio command : Command DocId CompilerId).rearrangement? =
      some change → Act.Along r (rearrange change : Act (Studio S) Unit)) :
    Act.Along r (command.run c) := by
  cases command with
  | new => exact (newDocument_along hc.tends).bind fun _ => .pure _
  | openDocument selector =>
    have picked : ∀ p, selector = .ok p → t.picks p := fun p same => allowed.2 p (by rw [same]; rfl)
    exact (openDocument_along hc.tends picked).bind fun _ => .pure _
  | documentForFile path =>
    exact (documentForFile_along hc.tends (allowed.2 path rfl)).bind fun _ => .pure _
  | find path => exact (findByPath_along path).bind fun _ => .pure _
  | closeAll => exact (closeAll_along hc.tends).bind fun _ => .pure _
  | quit departure => exact (quit_along hc departure).bind fun _ => .pure _
  | setIndent width => exact quietly_along (setIndent_along hc.moves width)
  | sourceRoots => exact (Act.Along.asks _).bind fun _ => .pure _
  | sourceRootSet => exact (Act.Along.asks _).bind fun _ => .pure _
  | attachCompiler => exact quietly_along (attachCompiler_along hc.moves)
  | settle future => exact quietly_along (settleFuture_along (hc.loud (loud rfl)) future)
  | drain timeout => exact (drain_along (hc.loud (loud rfl)) timeout).bind fun _ => .pure _
  | offer => exact (offer_along hc.moves).bind fun _ => .pure _
  | active => exact (readActive_along hc.moves).bind fun _ => .pure _
  | firstIsUp => exact (firstIsUp_along hc.moves).bind fun _ => .pure _
  | activateFirst => exact quietly_along (activateFirst_along hc.moves)
  | select name => exact (select_along hc.moves name).bind fun _ => .pure _
  | compileWithActive root files =>
    exact (compileWithActive_along (hc.loud (loud rfl)) root files).bind fun _ => .pure _
  | appendConsole text => exact quietly_along (appendConsole_along hc.moves text)
  | resetConsole => exact quietly_along (resetConsole_along (hc.loud (loud rfl)))
  | submit line => exact quietly_along (submit_along hc line)
  | setPending text => exact quietly_along (setPending_along hc.moves text)
  | resetInteractions => exact quietly_along (resetInteractions_along (hc.loud (loud rfl)))
  | resetSession entries => exact quietly_along (resetSession_along (hc.loud (loud rfl)) entries)
  | recallEntry way view => exact (recallEntry_along hc way view).bind fun _ => .pure _
  | subscribe _ => exact quietly_along (rearranges rfl)
  | unsubscribe _ => exact quietly_along (rearranges rfl)
  | clearBus => exact quietly_along (rearranges rfl)
  | loadFile path => exact (askFiles_along _).bind fun _ => .pure _
  | storeFile path content =>
    exact quietly_along fun _ =>
      onFiles_touched hc.moves (allowed.1 rfl) fun _ => .stored path content _
  | makeDirectory name =>
    exact quietly_along fun _ => onFiles_touched hc.moves (allowed.1 rfl) fun _ => .made name _
  | deleteFile name =>
    exact quietly_along fun _ => onFiles_touched hc.moves (allowed.1 rfl) fun _ => .deleted name _

theorem command_along {command : Command DocId CompilerId} (allowed : t.allows command)
    (loud : command.isAloud = true → aloud)
    (forges : command.forges = true → ∀ e, e.kind.ofLife = true → Act.Along r (announce c e))
    (polls : command.polls = true → ∀ e, Act.Along r (ask c e))
    (rearranges : ∀ {change}, command.rearrangement? = some change →
      Act.Along r (rearrange change : Act (Studio S) Unit)) :
    Act.Along r (command.run c) := by
  cases command with
  | studio command => exact studioCommand_along hc allowed loud rearranges
  | document d command => exact documentCommand_along hc allowed loud
  | announce kind d =>
    apply quietly_along
    cases life : kind.ofLife with
    | true => exact forges life _ life
    | false =>
      refine hc.announces ?_ life
      cases hk : kind.ofCompile with
      | false => exact .inr hk
      | true => exact .inl (loud hk)
  | ask kind d =>
    have asks : Act.Along r (ask c (kind.about d)) := by
      cases hk : kind.ofFile with
      | false => exact hc.tends.asks hk
      | true => exact polls hk _
    exact asks.bind fun _ => .pure _
  | activate k => exact quietly_along (activate_along hc.moves _)
  | register k => exact quietly_along (register_along hc.moves k)

end

/-- A command to collaborators that keep to the terms. -/
theorem Follows.command_along (hc : Follows t aloud r c) {command : Command DocId CompilerId}
    (allowed : t.allows command) (loud : command.isAloud = true → aloud)
    (tells : command.forges = true → Tells r) : Act.Along r (command.run c) := by
  refine Studio.command_along hc.serves allowed loud (fun forges e life => ?_) (fun _ => hc.asks)
    fun _ => rearrange_along hc.covers _
  intro s q s' told
  exact .head (tells forges e s life) (announce_told hc told)

/-- All calls of collaborators take steps of a relation. -/
structure Acts (r : Studio S → Studio S → Prop) (c : Collaborators S) : Prop where
  handler : ∀ {n e h}, c.handler n e = some h → Act.Along r h
  choose : ∀ n, Act.Along r (c.choose n)
  afterRead : Act.Along r c.afterRead
  create : ∀ n, Act.Along r (c.create n)
  addClasspath : ∀ n p, Act.Along r (c.addClasspath n p)
  interpret : ∀ n source, Act.Along r (c.interpret n source)
  output : ∀ {f}, c.output = some f → ∀ chunk, Act.Along r (f chunk)
  recallFailed : ∀ view, Act.Along r (c.recallFailed view)
  exit : ∀ code, Act.Along r (c.exit code)
  compile : ∀ k root files, Act.Along r (c.compile k root files)

end Studio

variable {t : Terms S} {aloud : Prop} {r : Studio S → Studio S → Prop}
  {p : Command DocId CompilerId → Prop}

/-! ## Scripts and casts -/

/-- A relation with the steps of a studio has those that scripts need. -/
theorem Studio.Moves.plays (hr : Moves t aloud r) : Script.Plays r where
  changed _ := update_along hr fun _ => rfl
  noted _ := record_along hr rfl (.inr rfl) rfl
  reported := report_along hr
  returned := mark_along hr (fun _ => rfl) (.inr fun _ => rfl) (fun _ => rfl) fun _ => rfl

/-- A script takes steps of a relation that has those of a studio when its commands do. -/
theorem Script.run_along {c : Collaborators S} (hr : Moves t aloud r)
    (calls : ∀ {command}, p command → Act.Along r (command.run c)) {script : Script S α}
    (gives : script.Gives p) : Act.Along r (script.run c) :=
  Script.along_of_gives hr.plays calls gives

/-- A script that does nothing at all. -/
def Script.IsIdle (script : Script S Unit) : Prop := script = .done ()

/-- The terms on which a cast plays. -/
def Cast.terms (k : Cast S) (patience : Nat) (others between : Prop)
    (picks : Path → Prop := fun _ => True) : Terms S where
  crew c := ∃ depth, c = k.collaborators patience depth
  others := others
  between := between
  picks := picks

/-- Where others may touch the files and all paths may be chosen, every command is allowed. -/
theorem Cast.terms_allows (k : Cast S) (patience : Nat) (between : Prop)
    (command : Command DocId CompilerId) : (k.terms patience True between).allows command :=
  ⟨fun _ => trivial, fun _ _ => trivial⟩

/-- The collaborators of a cast take steps of a relation when the commands that they may give do, whoever
is called in the course of them. -/
theorem Cast.acts {k : Cast S} {patience : Nat} (plays : Script.Plays r) (gives : k.Gives p)
    (calls : ∀ {depth}, Acts r (k.collaborators patience depth) →
      ∀ {command}, p command → Act.Along r (command.run (k.collaborators patience depth)))
    (depth : Nat) : Acts r (k.collaborators patience depth) := by
  -- the scripts of one level give their commands to the collaborators of the level below
  induction depth with
  | zero => exact {
      handler := fun hh => by
        obtain ⟨script, -, rfl⟩ := Option.map_eq_some_iff.1 hh
        exact .forever
      choose := fun _ => .forever
      afterRead := .forever
      create := fun _ => .forever
      addClasspath := fun _ _ => .forever
      interpret := fun _ _ => .forever
      output := fun hf _ => by
        obtain ⟨f', -, rfl⟩ := Option.map_eq_some_iff.1 hf
        exact .forever
      recallFailed := fun _ => .forever
      exit := fun _ => .forever
      compile := fun _ _ _ => .forever }
  | succ depth ih =>
    have played : ∀ {β : Type} {script : Script S β}, script.Gives p →
        Act.Along r (script.run (k.collaborators patience depth)) :=
      Script.along_of_gives plays (calls ih)
    exact {
      handler := fun hh => by
        obtain ⟨script, hscript, rfl⟩ := Option.map_eq_some_iff.1 hh
        exact played (gives.handler hscript)
      choose := fun n => played (gives.choose n)
      afterRead := played gives.afterRead
      create := fun n => played (gives.create n)
      addClasspath := fun n p => played (gives.addClasspath n p)
      interpret := fun n source => played (gives.interpret n source)
      output := fun hf chunk => by
        obtain ⟨f', hf', rfl⟩ := Option.map_eq_some_iff.1 hf
        exact played (gives.output hf' chunk)
      recallFailed := fun view => played (gives.recallFailed view)
      exit := fun code => played (gives.exit code)
      compile := fun id root files => played (gives.compile id root files) }

section

variable {k : Cast S} {patience depth : Nat}

/-- Interpreters are made along a relation if that is so whomever their script calls. -/
theorem Cast.create_along {n : Nat} (h : ∀ c, Act.Along r ((k.create n).run c)) :
    Act.Along r ((k.collaborators patience depth).create n) := by
  cases depth with
  | zero => exact .forever
  | succ depth => exact h _

/-- The same of the view of the transcript. -/
theorem Cast.output_along {chunk : Text}
    (h : ∀ {shows}, k.output = some shows → ∀ c, Act.Along r ((shows chunk).run c))
    {shows : Text → Act (Studio S) Unit}
    (hs : (k.collaborators patience depth).output = some shows) : Act.Along r (shows chunk) := by
  cases depth with
  | zero =>
    obtain ⟨_, -, rfl⟩ := Option.map_eq_some_iff.1 hs
    exact .forever
  | succ depth =>
    obtain ⟨_, hshows, rfl⟩ := Option.map_eq_some_iff.1 hs
    exact h hshows _

end

/-- Nothing happens between reading and making if the cast does nothing then. -/
theorem Cast.afterRead_idle {k : Cast S} (idle : k.afterRead.IsIdle) {patience depth : Nat}
    {s s' : Studio S} {q : Except Failure Unit}
    (run : (k.collaborators patience depth).afterRead s = some (q, s')) : s' = s := by
  cases depth with
  | zero => cases run
  | succ depth =>
    replace run : k.afterRead.run (k.collaborators patience depth) s = some (q, s') := run
    rw [idle] at run
    cases run
    rfl

/-- Views choose the paths that their scripts answer. -/
theorem Cast.choose_picks {k : Cast S} {picks : Path → Prop}
    (views : ∀ n, (k.choose n).Answers picks) {patience depth n : Nat} {s s' : Studio S} {p : Path}
    (run : (k.collaborators patience depth).choose n s = some (.ok p, s')) : picks p := by
  cases depth with
  | zero => cases run
  | succ depth => exact Script.answers_run (views n) run

/-- The same, of collaborators that keep to the terms on which the cast plays. -/
theorem Cast.follows {k : Cast S} {patience : Nat} (hr : Covers t aloud r)
    (member : ∀ depth, t.crew (k.collaborators patience depth)) (gives : k.Gives p)
    (views : ∀ n, (k.choose n).Answers t.picks)
    (idle : ¬ t.between → k.afterRead.IsIdle)
    (calls : ∀ {depth}, Follows t aloud r (k.collaborators patience depth) →
      ∀ {command}, p command → Act.Along r (command.run (k.collaborators patience depth)))
    (depth : Nat) : Follows t aloud r (k.collaborators patience depth) := by
  have follows : ∀ {depth}, Acts r (k.collaborators patience depth) →
      Follows t aloud r (k.collaborators patience depth) := fun {depth} acts =>
    { acts with
      covers := hr
      member := member depth
      picks := Cast.choose_picks views
      idle := fun hb _ _ _ run => Cast.afterRead_idle (idle hb) run }
  exact follows (Cast.acts hr.moves.plays gives (fun acts => calls (follows acts)) depth)

/-- Commands take steps, whatever they are. -/
theorem command_steps {c : Collaborators S} (follows : Follows t True (Step t) c)
    {command : Command DocId CompilerId} (allowed : t.allows command) :
    Act.Along (Step t) (command.run c) :=
  follows.command_along allowed (fun _ => trivial) fun _ => Step.tells

section

variable {k : Cast S} {patience : Nat} {others between : Prop} {picks : Path → Prop}

/-- Every cast takes steps, as far as its terms allow what it does. -/
theorem Cast.steps (gives : k.Gives (k.terms patience others between picks).allows)
    (views : ∀ n, (k.choose n).Answers picks) (idle : ¬ between → k.afterRead.IsIdle)
    (depth : Nat) :
    Follows (k.terms patience others between picks) True
      (Step (k.terms patience others between picks)) (k.collaborators patience depth) := by
  have member : ∀ depth,
      (k.terms patience others between picks).crew (k.collaborators patience depth) :=
    fun depth => ⟨depth, rfl⟩
  exact Cast.follows Step.covers member gives views idle command_steps depth

/-- A run of a script with a cast is a chain of steps. -/
theorem Script.run_steps {depth : Nat}
    (gives : k.Gives (k.terms patience others between picks).allows)
    (views : ∀ n, (k.choose n).Answers picks) (idle : ¬ between → k.afterRead.IsIdle)
    {script : Script S α} (hs : script.Gives (k.terms patience others between picks).allows)
    {s s' : Studio S} {r : Except Failure α}
    (run : script.run (k.collaborators patience depth) s = some (r, s')) :
    Relation.ReflTransGen (Step (k.terms patience others between picks)) s s' :=
  Script.run_along Step.covers.moves (command_steps (Cast.steps gives views idle depth)) hs run

end

/-- Every cast takes steps where others may touch the files and something may happen meanwhile. -/
theorem Cast.follows_steps (k : Cast S) (patience depth : Nat) :
    Follows (k.terms patience True True) True (Step (k.terms patience True True))
      (k.collaborators patience depth) :=
  Cast.steps (Cast.gives_of_forall (k.terms_allows patience True) k) k.views_any
    (fun h => absurd trivial h) depth

/-- A run of any script with any cast is a chain of steps on those terms. -/
theorem Script.run_free (k : Cast S) (patience : Nat) {depth : Nat} (script : Script S α)
    {s s' : Studio S} {r : Except Failure α}
    (run : script.run (k.collaborators patience depth) s = some (r, s')) :
    Relation.ReflTransGen (Step (k.terms patience True True)) s s' :=
  Script.run_along Step.covers.moves (command_steps (k.follows_steps patience depth))
    (Script.gives_of_forall (k.terms_allows patience True) script) run

/-! ## A small run -/

/-- A cast in which nobody does anything. -/
def Cast.idle : Cast Unit where
  handler _ _ := none
  listenerName _ := ""
  choose _ := .fail (.cancelled [])
  refuses _ _ := none
  afterRead := .done ()
  create _ := .done ()
  addClasspath _ _ := .done ()
  interpret _ _ := .done .nothing
  signature _ := []
  output := none
  recallFailed _ := .done ()
  exit _ := .done ()
  compile _ _ _ := .done []
  isUp _ _ := false
  nameOf _ _ := ""

theorem Cast.gives_idle (p : Command DocId CompilerId → Prop) : Cast.idle.Gives p where
  handler h := nomatch h
  choose _ := trivial
  afterRead := trivial
  create _ := trivial
  addClasspath _ _ := trivial
  interpret _ _ := trivial
  output h := nomatch h
  recallFailed _ := trivial
  exit _ := trivial
  compile _ _ _ := trivial

/-- A cast in which the listeners answer one kind of event by a script. -/
def Cast.hearing (kind : EventKind) (script : Script Unit Bool) : Cast Unit :=
  { Cast.idle with handler := fun _ e => if e.kind = kind then some script else none }

theorem Cast.gives_hearing {p : Command DocId CompilerId → Prop} {kind : EventKind}
    {script : Script Unit Bool} (h : script.Gives p) : (Cast.hearing kind script).Gives p :=
  { Cast.gives_idle p with
    handler := fun {n e script'} hh => by
      simp only [Cast.hearing, Option.ite_none_right_eq_some, Option.some.injEq] at hh
      rw [← hh.2]
      exact h }

/-- A studio at the root of a tree without files. -/
def Studio.atRoot : Studio Unit := blank { files := { tree := ⟨[]⟩ } } Settings.standard [] ()

/-- A studio at the root of a tree with some entries, with a listener and a document that has
unsaved changes. -/
def Studio.unsavedAmong (entries : Folder) : Studio Unit :=
  { atRoot with
    host := { files := { tree := ⟨entries⟩ } }
    bus := [.outside 0]
    desk := ({} : Desk).addUntitled { text := ['x'], modified := true } }

/-- Makes a document, gives it a text and saves it. -/
def Script.saveOne : Script Unit Unit :=
  .call (.studio .new) fun _ => .call (.document 0 (.setText ['x'])) fun _ =>
    .call (.document 0 (.saveAs (.ok ⟨.root, ["a"]⟩))) fun _ => .done ()

end JavaStudio
