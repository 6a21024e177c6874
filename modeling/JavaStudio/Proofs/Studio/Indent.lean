import JavaStudio.Proofs.Studio.Runs
import JavaStudio.Proofs.Studio.Submit

/-!
# Indents

Setting the indent changes the setting and the registered documents, but not the indent of new buffers,
which is that of the time when the studio was joined. `indents_joined` says what follows for any chain of
operations on documents with changes of the indent in between, each known by its width and by the number
of documents made before it (`Widening`): the setting is the last width, and a registered document has it
if it was made before that last change, and else the width with which the studio began.
-/

namespace JavaStudio

open Studio

/-! ## Setting the indent of documents -/

namespace Desk

variable {k : Desk} {indent : Json}

/-- The desk with the indent of some documents set. -/
def setIndents (ds : List DocId) (indent : Json) (k : Desk) : Desk :=
  ds.foldl (fun k d => k.changeBuffer d (·.setIndent indent)) k

theorem setIndents_length (ds : List DocId) (k : Desk) :
    (k.setIndents ds indent).documents.length = k.documents.length := by
  induction ds generalizing k with
  | nil => rfl
  | cons d ds ih => exact (ih _).trans (length_change _)

theorem setIndents_registered (ds : List DocId) (k : Desk) :
    (k.setIndents ds indent).registered = k.registered := by
  induction ds generalizing k with
  | nil => rfl
  | cons d ds ih => exact ih _

theorem setIndents_document (ds : List DocId) (k : Desk) {e : DocId} (made : e < k.documents.length) :
    ((k.setIndents ds indent).document e).buffer.indent =
      if e ∈ ds then indent else (k.document e).buffer.indent := by
  induction ds generalizing k with
  | nil => rfl
  | cons d ds ih =>
    have made' : e < (k.changeBuffer d (·.setIndent indent)).documents.length := by
      rwa [changeBuffer, length_change]
    have first : ((k.changeBuffer d (·.setIndent indent)).document e).buffer.indent =
        if d = e then indent else (k.document e).buffer.indent := by
      rw [changeBuffer, document_change]
      by_cases hd : d = e <;> simp [hd, made, Buffer.setIndent]
    have step : k.setIndents (d :: ds) indent =
        (k.changeBuffer d (·.setIndent indent)).setIndents ds indent := rfl
    rw [step, ih _ made', first]
    by_cases hd : d = e
    · simp [hd]
    · simp [hd, Ne.symm hd]

end Desk

namespace Studio

variable {S : Type} {c : Collaborators S} {s s' s₁ : Studio S}

theorem setIndent_eq_some {v : Int} {q : Except Failure Unit}
    (run : setIndent (.int v) s = some (q, s')) : q = .ok () ∧
      s'.settings =
        (if s.wiring.keepsIndent then { s.settings with indentWidth := .int v } else s.settings) ∧
      s'.wiring = s.wiring ∧ s'.bus = s.bus ∧
      s'.desk = s.desk.setIndents s.desk.registered (.int (max 0 v)) := by
  rcases Act.bind_eq_some.1 run with ⟨_, s₁, kept, run⟩ | ⟨f, kept, -⟩
  · have same : s₁.settings =
        (if s.wiring.keepsIndent then { s.settings with indentWidth := .int v } else s.settings) ∧
        s₁.wiring = s.wiring ∧ s₁.bus = s.bus ∧ s₁.desk = s.desk := by
      cases kept
      dsimp only
      split <;> exact ⟨rfl, rfl, rfl, rfl⟩
    obtain ⟨settings, wiring, bus, desk⟩ := same
    have indent : Buffer.indentFor (.int v) = .ok (.int (max 0 v)) := by
      simp only [Buffer.indentFor, Number.atLeast_int]
    rw [Act.get_bind, indent] at run
    split at run
    · rename_i none
      cases run
      rw [desk, List.isEmpty_iff] at none
      rw [none]
      exact ⟨rfl, settings, wiring, bus, desk⟩
    · cases run
      refine ⟨rfl, settings, wiring, bus, ?_⟩
      rw [← desk]
      rfl
  · cases kept

/-! ## Chains -/

/-- The indent is set to a width when so many documents were made. -/
def Widening (e : Int × Nat) (s s' : Studio S) : Prop :=
  setIndent (.int e.1) s = some (.ok (), s') ∧ e.2 = s.desk.documents.length

/-- No indent is changed: documents may be added, with the indent of new buffers, or taken away. -/
structure Steady (s s' : Studio S) : Prop where
  wiring : s'.wiring = s.wiring
  width : s'.settings.indentWidth = s.settings.indentWidth
  length : s.desk.documents.length ≤ s'.desk.documents.length
  old : ∀ d, d < s.desk.documents.length →
    (s'.desk.document d).buffer.indent = (s.desk.document d).buffer.indent
  fresh : ∀ d, s.desk.documents.length ≤ d → d < s'.desk.documents.length →
    (s'.desk.document d).buffer.indent = s.wiring.indent
  registered : ∀ d ∈ s'.desk.registered, d ∈ s.desk.registered ∨
    s.desk.documents.length ≤ d ∧ d < s'.desk.documents.length

/-- Operations on documents with changes of the indent. -/
abbrev Indenting : Studio S → Studio S → Prop := Linked Steady Widening

/-- Collaborators that act on documents and change the indent at most. -/
structure Careful (c : Collaborators S) : Prop where
  choose : ∀ n, Act.Along Indenting (c.choose n)
  afterRead : Act.Along Indenting c.afterRead
  handler : ∀ {n e h}, c.handler n e = some h → Act.Along Indenting h

namespace Steady

/-- Nothing is done to the documents or the settings. -/
theorem of_same (desk : s'.desk = s.desk) (wiring : s'.wiring = s.wiring)
    (width : s'.settings.indentWidth = s.settings.indentWidth) : Steady s s' where
  wiring := wiring
  width := width
  length := Nat.le_of_eq (by rw [desk])
  old _ _ := by rw [desk]
  fresh d hd hd' := absurd hd' (by rw [desk]; exact Nat.not_lt.2 hd)
  registered d hd := .inl (by rwa [desk] at hd)

/-- A document is added with the indent of new buffers. -/
theorem of_append {doc : Document} {ix : PathIndex} {n : Nat}
    (indent : doc.buffer.indent = s.wiring.indent) : Steady s { s with
      desk := ⟨s.desk.documents ++ [doc], s.desk.registered ++ [s.desk.nextId], ix, n⟩ } where
  wiring := rfl
  width := rfl
  length := by simp
  old d hd := by
    simp only [Desk.document_append, if_neg (Nat.ne_of_lt hd)]
  fresh d hd hd' := by
    have last : d = s.desk.documents.length := by
      simp only [List.length_append, List.length_singleton] at hd'
      omega
    simp only [Desk.document_append, if_pos last, indent]
  registered d hd := by
    simp only [List.mem_append, List.mem_singleton] at hd
    rcases hd with hd | rfl
    · exact .inl hd
    · exact .inr ⟨Nat.le_refl _, by simp [Desk.nextId]⟩

/-- A document is saved. -/
theorem of_saved {d : DocId} {p : Path} (desk : s'.desk = s.desk.saved d p)
    (wiring : s'.wiring = s.wiring) (width : s'.settings.indentWidth = s.settings.indentWidth) :
    Steady s s' where
  wiring := wiring
  width := width
  length := Nat.le_of_eq (by rw [desk, Desk.saved_length])
  old e _ := by
    rw [desk, Desk.saved_document]
    split <;> rfl
  fresh e he he' := by
    rw [desk, Desk.saved_length] at he'
    exact absurd he' (Nat.not_lt.2 he)
  registered e he := by
    rw [desk, Desk.saved_registered] at he
    exact .inl he

/-- A document is closed. -/
theorem of_remove (d : DocId) : Steady s { s with desk := s.desk.remove d } where
  wiring := rfl
  width := rfl
  length := Nat.le_refl _
  old _ _ := rfl
  fresh _ hd hd' := absurd hd' (Nat.not_lt.2 hd)
  registered _ he := .inl (List.mem_of_mem_erase he)

end Steady

/-- The indent of new buffers stays. -/
theorem Indenting.wiring (h : Indenting s s') : s'.wiring = s.wiring := by
  obtain ⟨widths, chain⟩ := h
  induction chain with
  | start => rfl
  | aside _ steady ih => rw [steady.wiring, ih]
  | step _ widening ih => rw [(setIndent_eq_some widening.1).2.2.1, ih]

/-! ## Operations -/

section

variable (hc : Careful c)
include hc

theorem Careful.within (e : Event) : Within Indenting c e := by
  refine .of_outside (fun row => ?_) (.of_step fun s a s' run => .inr (.of_aside ?_)) hc.handler
  · exact .modify fun s => .of_aside (.of_same rfl rfl rfl)
  · obtain ⟨recent, rfl⟩ := keepRecent_eq_some run
    exact .of_same rfl rfl rfl

theorem announce_indenting (e : Event) : Act.Along Indenting (announce c e) := by
  have mark : Act.Along Indenting (mark (.announced e) : Act (Studio S) Unit) :=
    .modify fun s => .of_aside (.of_same rfl rfl rfl)
  exact .bind .get fun s => mark.bind fun _ => (hc.within e).deliverAll s.bus

theorem ask_indenting (e : Event) : Act.Along Indenting (ask c e) := by
  have mark : Act.Along Indenting (mark (.asked e) : Act (Studio S) Unit) :=
    .modify fun s => .of_aside (.of_same rfl rfl rfl)
  exact .bind .get fun s => mark.bind fun _ => (hc.within e).askAll s.bus

/-- Operations on documents change no indent. -/
theorem Careful.tends : Tends (fun _ => True) Indenting c where
  choose := hc.choose
  chooses _ := trivial
  afterRead := hc.afterRead
  asks _ := ask_indenting hc _
  requests _ := announce_indenting hc _
  created told := .head (.of_aside (.of_append rfl)) (announce_indenting hc _ told)
  opened {chosen target b s₁ s₂ s' q} _ _ read after _ told := by
    have between : Indenting s₁ s₂ := hc.afterRead.post after
    have indent : b.markSaved.indent = s₂.wiring.indent := by
      rw [between.wiring]
      unfold Buffer.read at read
      split at read <;> cases read
      rfl
    exact (hc.afterRead after).trans (.head (.of_aside (.of_append indent)) (announce_indenting hc _ told))
  saved {chosen target d found fs s s' q} _ _ _ _ _ told := by
    have kept : Steady s { s with
        host := { s.host with files := fs }
        desk := s.desk.saved d target } := .of_saved rfl rfl rfl
    exact .head (.of_aside kept) (announce_indenting hc _ told)
  closed {d _ _ _ _} _ _ told := .head (.of_aside (.of_remove d)) (announce_indenting hc _ told)

end

end Studio

/-! ## Commands -/

/-- The commands that make, open, save and close documents and set the indent of all. -/
def Command.furnishes {δ κ : Type} : Command δ κ → Bool
  | .studio .new | .studio (.openDocument _) | .studio (.documentForFile _)
  | .studio (.setIndent (.num (.int _))) => true
  | .document _ .close | .document _ (.save _) | .document _ (.saveAs _) => true
  | _ => false

namespace Studio

variable {S : Type} {c : Collaborators S} {s s' : Studio S}

theorem widening (v : Int) (s : Studio S) :
    ∃ s', setIndent (.int v) s = some (.ok (), s') ∧ Widening (v, s.desk.documents.length) s s' := by
  have ends : Act.Ends (setIndent (.int v) : Act (Studio S) Unit) :=
    (Act.Ends.modify _).bind fun _ => .bind .get fun s => .ite (.pure _)
      ((Act.Ends.ofExcept _).bind fun _ => .modify _)
  obtain ⟨q, s', run⟩ := ends s
  obtain ⟨rfl, -⟩ := setIndent_eq_some run
  exact ⟨s', run, run, rfl⟩

theorem command_indenting (hc : Careful c) {command : Command DocId CompilerId}
    (furnishes : command.furnishes = true) : Act.Along Indenting (command.run c) := by
  unfold Command.furnishes at furnishes
  split at furnishes
  · exact (newDocument_along hc.tends).bind fun _ => .pure _
  · exact (openDocument_along hc.tends fun _ _ => trivial).bind fun _ => .pure _
  · exact (documentForFile_along hc.tends trivial).bind fun _ => .pure _
  · rename_i v
    refine quietly_along fun s q s' run => ?_
    obtain ⟨rfl, -⟩ := setIndent_eq_some run
    exact .single (.of_step (e := (v, s.desk.documents.length)) ⟨run, rfl⟩)
  · exact (closeDocument_along hc.tends _).bind fun _ => .pure _
  · exact (save_along hc.tends fun _ _ => trivial).bind fun _ => .pure _
  · exact (saveAs_along hc.tends fun _ _ => trivial).bind fun _ => .pure _
  · cases furnishes

end Studio

/-- A cast that gives such commands only is careful. -/
theorem Cast.careful_of_gives {S : Type} {k : Cast S}
    (gives : k.Gives fun command => command.furnishes = true) (patience depth : Nat) :
    Careful (k.collaborators patience depth) := by
  have plays : Script.Plays (S := S) Indenting := {
    changed := fun _ => .modify fun _ => .of_aside (.of_same rfl rfl rfl)
    noted := fun _ => .modify fun _ => .of_aside (.of_same rfl rfl rfl)
    reported := fun _ => .modify fun _ => .of_aside (.of_same rfl rfl rfl)
    returned := .modify fun _ => .of_aside (.of_same rfl rfl rfl) }
  have careful : ∀ {depth}, Acts Indenting (k.collaborators patience depth) →
      Careful (k.collaborators patience depth) := fun acts => { acts with }
  exact careful (Cast.acts plays gives (fun acts => command_indenting (careful acts)) depth)

namespace Studio

variable {S : Type} {c : Collaborators S} {s s' s₀ : Studio S} {w : Int} {widths : List (Int × Nat)}

/-! ## What the indents are -/

/-- The indent of a registered document after some changes, if the studio began with some width. -/
def indentOf (w : Int) (widths : List (Int × Nat)) (d : DocId) : Int :=
  match widths.getLast? with
  | none => w
  | some (v, made) => if d < made then max 0 v else w

/-- The last width that was set. -/
def lastWidth (w : Int) (widths : List (Int × Nat)) : Int := (widths.getLast?.map (·.1)).getD w

structure Furnished (w : Int) (widths : List (Int × Nat)) (s : Studio S) : Prop where
  wiring : s.wiring = joinedWiring (.int w)
  width : s.settings.indentWidth = .int (lastWidth w widths)
  made : ∀ d ∈ s.desk.registered, d < s.desk.documents.length
  earlier : ∀ v made, widths.getLast? = some (v, made) → made ≤ s.desk.documents.length
  indent : ∀ d ∈ s.desk.registered, (s.desk.document d).buffer.indent = .int (indentOf w widths d)

namespace Furnished

theorem aside (h : Furnished w widths s) (steady : Steady s s') : Furnished w widths s' where
  wiring := steady.wiring.trans h.wiring
  width := steady.width.trans h.width
  made d hd := by
    rcases steady.registered d hd with hd | ⟨-, hd⟩
    · exact Nat.lt_of_lt_of_le (h.made d hd) steady.length
    · exact hd
  earlier v made hlast := Nat.le_trans (h.earlier v made hlast) steady.length
  indent d hd := by
    rcases steady.registered d hd with hd | ⟨late, hd⟩
    · rw [steady.old d (h.made d hd), h.indent d hd]
    · have fresh : indentOf w widths d = w := by
        unfold indentOf
        split
        · rfl
        · rename_i v made hlast
          have later : made ≤ d := Nat.le_trans (h.earlier v made hlast) late
          exact if_neg (Nat.not_lt.2 later)
      rw [steady.fresh d late hd, h.wiring, fresh]
      rfl

theorem widen (h : Furnished w widths s) {e : Int × Nat} (widening : Widening e s s') :
    Furnished w (widths ++ [e]) s' := by
  obtain ⟨v, made⟩ := e
  obtain ⟨run, rfl⟩ := widening
  obtain ⟨-, settings, wiring, -, desk⟩ := setIndent_eq_some run
  have keeps : s.wiring.keepsIndent = true := by
    rw [h.wiring]
    rfl
  have length : s'.desk.documents.length = s.desk.documents.length := by
    rw [desk, Desk.setIndents_length]
  have registered : s'.desk.registered = s.desk.registered := by
    rw [desk, Desk.setIndents_registered]
  have last : (widths ++ [(v, s.desk.documents.length)]).getLast? =
      some (v, s.desk.documents.length) := List.getLast?_concat
  refine ⟨wiring.trans h.wiring, ?_, fun d hd => ?_, fun v' made' hlast => ?_, fun d hd => ?_⟩
  · rw [settings, if_pos keeps, lastWidth, last]
    rfl
  · rw [registered] at hd
    rw [length]
    exact h.made d hd
  · cases last.symm.trans hlast
    exact Nat.le_of_eq length.symm
  · rw [registered] at hd
    have before := h.made d hd
    rw [desk, Desk.setIndents_document _ _ before, if_pos hd, indentOf, last]
    simp only [before, if_true]

theorem run (h : Furnished w [] s) (chain : Labelled Steady Widening s widths s') :
    Furnished w widths s' := by
  induction chain with
  | start => exact h
  | aside _ steady ih => exact ih.aside steady
  | step _ widening ih => exact ih.widen widening

end Furnished

/-! ## Joined studios -/

/-- The documents and the settings are as they were. -/
structure SameDesk (s s' : Studio S) : Prop where
  desk : s'.desk = s.desk
  settings : s'.settings = s.settings

/-- Interpreters are made and prompts are shown without regard to documents and settings. -/
structure Aloof (c : Collaborators S) : Prop where
  create : ∀ n, Act.Along SameDesk (c.create n)
  output : ∀ {f}, c.output = some f → ∀ chunk, Act.Along SameDesk (f chunk)

instance : Std.Refl (SameDesk (S := S)) := ⟨fun _ => ⟨rfl, rfl⟩⟩

instance : IsTrans (Studio S) SameDesk :=
  ⟨fun _ _ _ h h' => ⟨h'.desk.trans h.desk, h'.settings.trans h.settings⟩⟩

theorem Aloof.begins (hc : Aloof c) (n : Nat) : Begins SameDesk c n :=
  { create := hc.create n
    output := fun h => hc.output h prompt
    session := fun _ _ => ⟨rfl, rfl⟩
    counted := fun _ => ⟨rfl, rfl⟩
    marked := fun _ _ => ⟨rfl, rfl⟩
    logged := fun _ _ => ⟨rfl, rfl⟩ }

theorem Furnished.joined (hc : Aloof c) {registry : Task Host Registry}
    (width : s₀.settings.indentWidth = .int w) (bare : s₀.desk.registered = [])
    (run : assemble c registry s₀ = some (.ok (), s)) : Furnished w [] s := by
  obtain ⟨_, _, s₂, begun, rfl⟩ := assemble_eq_ok run
  have same := ((hc.begins _).along _ _).post begun
  have none : s₂.desk.registered = [] := by rw [same.desk, bare]
  refine ⟨by rw [width], ?_, fun d hd => ?_, nofun, fun d hd => ?_⟩
  · show s₂.settings.indentWidth = _
    rw [same.settings, width]
    rfl
  · exact absurd hd (by simp [none])
  · exact absurd hd (by simp [none])

theorem aloof_idle : Aloof (Cast.idle.collaborators 1 1) where
  create _ := .pure _
  output h := nomatch h

/-- Where only the keeper of the recent files listens, a new document is all that comes of making one. -/
theorem newDocument_unheard (c : Collaborators S) (unheard : s.bus = [.recentFiles]) : ∃ s',
    newDocument c s = some (.ok s.desk.nextId, s') ∧ Labelled Steady Widening s [] s' ∧
      s'.bus = [.recentFiles] ∧ s'.desk = s.desk.addUntitled s.newBuffer := by
  have run : newDocument c s = some (.ok s.desk.nextId,
      { s with desk := s.desk.addUntitled s.newBuffer }.marked
        (.announced ⟨.documentCreated, some s.desk.nextId⟩
          { s with desk := s.desk.addUntitled s.newBuffer }.scene)) := by
    obtain ⟨_, _, bus, _, _, _, _, _, _, _, _, _, _, _⟩ := s
    cases unheard
    rfl
  have added : Steady s { s with desk := s.desk.addUntitled s.newBuffer } := .of_append rfl
  exact ⟨_, run, (Labelled.start.aside added).aside (.of_same rfl rfl rfl), unheard, rfl⟩

theorem assemble_idle : ∃ s, assemble (Cast.idle.collaborators 1 1) (pure {}) atRoot =
    some (.ok (), s) ∧ s.bus = [.recentFiles] ∧ s.desk = {} :=
  ⟨_, rfl, rfl, rfl⟩

/-- In a studio that was joined with some indent, after any operations on documents and changes of the
indent, the setting is the width that was set last. A document that was made before that has this indent,
and a later one has the indent with which the studio was joined. Commands for such operations go on with
the chain, also where listeners and views give others, and setting the indent always succeeds. -/
theorem indents_joined (aloof : Aloof c) {registry : Task Host Registry}
    (width : s₀.settings.indentWidth = .int w) (bare : s₀.desk.registered = [])
    (joined : assemble c registry s₀ = some (.ok (), s))
    (chain : Labelled Steady Widening s widths s') :
    s'.settings.indentWidth = .int (lastWidth w widths) ∧
      (∀ d ∈ s'.desk.registered,
        (s'.desk.document d).buffer.indent = .int (indentOf w widths d)) ∧
      (∀ (k : Cast S) patience depth command q s'',
        (k.Gives fun command => command.furnishes = true) → command.furnishes = true →
        k.perform patience depth command s' = some (q, s'') → Indenting s' s'') ∧
      ∀ v, ∃ s'', setIndent (.int v) s' = some (.ok (), s'') ∧
        Labelled Steady Widening s (widths ++ [(v, s'.desk.documents.length)]) s'' := by
  have furnished := (Furnished.joined aloof width bare joined).run chain
  refine ⟨furnished.width, furnished.indent, ?_, fun v => ?_⟩
  · intro k patience depth command q s'' gives furnishes run
    exact (command_indenting (Cast.careful_of_gives gives patience depth) furnishes).post run
  · obtain ⟨s'', run, widened⟩ := widening v s'
    exact ⟨s'', run, chain.step widened⟩

/-- A document from before the indent was set has it, one from after has the indent from the start. -/
theorem indents_joined_idle : ∃ s s₁ s₂ s₃,
    assemble (Cast.idle.collaborators 1 1) (pure {}) atRoot = some (.ok (), s) ∧
      newDocument (Cast.idle.collaborators 1 1) s = some (.ok 0, s₁) ∧
      setIndent (.int 8) s₁ = some (.ok (), s₂) ∧
      newDocument (Cast.idle.collaborators 1 1) s₂ = some (.ok 1, s₃) ∧
      s₃.desk.registered = [0, 1] ∧
      s₃.settings.indentWidth = .int 8 ∧
      (s₃.desk.document 0).buffer.indent = .int 8 ∧
      (s₃.desk.document 1).buffer.indent = .int 2 := by
  obtain ⟨s, joined, bus, bare⟩ := assemble_idle
  obtain ⟨s₁, first, plain, bus₁, desk₁⟩ := newDocument_unheard (Cast.idle.collaborators 1 1) bus
  obtain ⟨s₂, wide, widened⟩ := widening 8 s₁
  obtain ⟨-, -, -, bus₂, desk₂⟩ := setIndent_eq_some wide
  obtain ⟨s₃, second, plain', -, desk₃⟩ :=
    newDocument_unheard (Cast.idle.collaborators 1 1) (bus₂.trans bus₁)
  rw [bare] at first desk₁
  have next : s₂.desk.nextId = 1 := by
    rw [desk₂, Desk.nextId, Desk.setIndents_length, desk₁]
    rfl
  have registered : s₃.desk.registered = [0, 1] := by
    rw [desk₃, Desk.addUntitled, next, desk₂, Desk.setIndents_registered, desk₁]
    rfl
  rw [next] at second
  have chain : Labelled Steady Widening s [(8, 1)] s₃ := by
    rw [desk₁] at widened
    exact (plain.step widened).trans plain'
  obtain ⟨width, indent, -, -⟩ := indents_joined aloof_idle (w := 2) rfl rfl joined chain
  exact ⟨s, s₁, s₂, s₃, joined, first, wide, second, registered, width,
    indent 0 (by simp [registered]), indent 1 (by simp [registered])⟩

/-- A document that is made after the indent was set has the indent from before. -/
theorem indent_left_behind : ∃ s s₁ s₂,
    assemble (Cast.idle.collaborators 1 1) (pure {}) atRoot = some (.ok (), s) ∧
      setIndent (.int 8) s = some (.ok (), s₁) ∧
      newDocument (Cast.idle.collaborators 1 1) s₁ = some (.ok 0, s₂) ∧
      s₂.desk.registered = [0] ∧
      s₂.settings.indentWidth = .int 8 ∧
      (s₂.desk.document 0).buffer.indent = .int 2 :=
  ⟨_, _, _, rfl, rfl, rfl, rfl, rfl, rfl⟩

end Studio

end JavaStudio
