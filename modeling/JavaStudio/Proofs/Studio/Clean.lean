import JavaStudio.Proofs.Files.Distinct
import JavaStudio.Proofs.Studio.Scenes

/-!
# Clean documents are saved

A registered document with a path is kept in the file that the path spells, and while the document
is not modified that file holds its text (`OnFile`). Writing another document leaves the file alone,
since no two registered documents have the same path and different paths name different files
(`Files.Distinct`).

* `clean_is_saved`: in every scene of a run in which only documents are written, reading the file of
  a registered document without unsaved changes gives its text, up to line ends and marks at its
  head.
-/

namespace JavaStudio

/-- The content of a source file holds a text on a machine, up to line ends and marks at its head. -/
def Source.Holds (m : Machine) (content : Bytes) (text : Text) : Prop :=
  ∃ t, textOf m none content = .ok t ∧ plain t = plain text

theorem Source.holds_encode (m : Machine) (text : Text) :
    Holds m (Utf8.encode (Text.unixNewlines text)) text :=
  ⟨_, textOf_encode m _, plain_of_textOf_encode (textOf_encode m _)⟩

/-- A write leaves the files at all other places alone. -/
theorem Source.Replaced.file_elsewhere {fs fs' : Files} {target : Path} {l place : Location}
    {content content' : Bytes} (replaced : Replaced fs fs' target place content)
    (he : fs.tree.get? l = some (.file content')) (hne : l ≠ place) :
    fs'.tree.get? l = some (.file content') := by
  have beside : ¬ place <+: l := by
    rintro ⟨k, rfl⟩
    have hk : k ≠ [] := fun hk => hne (by rw [hk, List.append_nil])
    obtain ⟨f, hf⟩ := Tree.isDirectory_of_append hk he
    exact replaced.replaceable f hf
  have same := Tree.get?_put_other beside fs.tree (.file content)
  rw [he] at same
  rw [replaced.files]
  rcases he' : (fs.tree.put place (.file content)).get? l with _ | e <;> rw [he'] at same
  · cases same
  · rw [Entry.bare_eq_file.1 (Option.some.inj same)]

/-- A buffer that was read from a file has the text of the file and is not modified. -/
theorem Buffer.read_eq_ok {b b' : Buffer} {fs : Files} {p : Path} (h : b.read fs p = .ok b') :
    ∃ l content, fs.spot .target p = .ok (.entry l (.file content)) ∧
      Source.textOf fs.machine none content = .ok b'.text := by
  unfold Buffer.read Source.read Files.readBytes Files.stat at h
  rcases hs : fs.spot .target p with f | ⟨l, content | _ | _⟩ | ⟨d, n⟩ <;> rw [hs] at h <;>
    simp only at h
  · cases h
  · refine ⟨l, content, rfl, ?_⟩
    rcases ht : Source.textOf fs.machine none content with f | t <;> rw [ht] at h <;> cases h
    rfl
  · cases h
  · cases h
  · cases h

namespace Studio

variable {S α : Type} {fs fs' : Files} {b b' : Buffer} {l place : Location} {p target : Path}
  {content : Bytes}

/-! ## Buffers on file -/

/-- A file stands at a location that can be spelled, and it holds the text of a buffer unless the
buffer is modified. -/
structure OnFile (fs : Files) (b : Buffer) (l : Location) : Prop where
  proper : ProperPlace l
  short : (Path.toString ⟨.root, l⟩).utf8ByteSize < Files.pathLimit
  stands : ∃ content, fs.tree.get? l = some (.file content) ∧
    (b.modified = false → Source.Holds fs.machine content b.text)

namespace OnFile

theorem edit (h : OnFile fs b l) (edit : Edit b b') : OnFile fs b' l where
  proper := h.proper
  short := h.short
  stands := by
    obtain ⟨content, he, holds⟩ := h.stands
    refine ⟨content, he, fun clean => ?_⟩
    rcases edit with dirty | ⟨text, modified⟩
    · rw [clean] at dirty
      cases dirty
    · rw [text]
      exact holds (by rw [← modified, clean])

/-- A write elsewhere leaves the file alone. -/
theorem elsewhere (h : OnFile fs b l) (replaced : Source.Replaced fs fs' target place content)
    (hne : l ≠ place) : OnFile fs' b l where
  proper := h.proper
  short := h.short
  stands := by
    obtain ⟨content', he, holds⟩ := h.stands
    exact ⟨content', replaced.file_elsewhere he hne, replaced.machine ▸ holds⟩

/-- Reading the file gives the text of a buffer that is not modified. -/
theorem read (h : OnFile fs b l) (clean : b.modified = false) :
    ∃ t, Source.read fs ⟨.root, l⟩ none = .ok t ∧ Source.plain t = Source.plain b.text := by
  obtain ⟨content, he, holds⟩ := h.stands
  obtain ⟨t, ht, hplain⟩ := holds clean
  refine ⟨t, ?_, hplain⟩
  unfold Source.read
  rw [Files.readBytes_straight h.proper h.short he]
  exact ht

end OnFile

/-! ## The desk and the files -/

/-- Every registered document with a path is kept in the file that the path spells. -/
def KeptOnFile (k : Desk) (fs : Files) : Prop :=
  ∀ d ∈ k.registered, ∀ p, (k.document d).path = some p →
    ∃ l, p = ⟨.root, l⟩ ∧ OnFile fs (k.document d).buffer l

namespace KeptOnFile

variable {k : Desk} {d : DocId}

theorem addUntitled (h : KeptOnFile k fs) (b : Buffer) : KeptOnFile (k.addUntitled b) fs := by
  intro e he p hp
  rw [Desk.addUntitled, Desk.document_append] at hp ⊢
  split at hp
  · cases hp
  · rename_i hne
    rw [if_neg hne]
    refine h e ((List.mem_append.1 he).resolve_right fun hnew => hne ?_) p hp
    exact List.mem_singleton.1 hnew

theorem addOpened (h : KeptOnFile k fs) (hb : OnFile fs b l) :
    KeptOnFile (k.addOpened ⟨.root, l⟩ b) fs := by
  intro e he p hp
  rw [Desk.addOpened, Desk.document_append] at hp ⊢
  split at hp
  · rename_i hnew
    cases hp
    rw [if_pos hnew]
    exact ⟨l, rfl, hb⟩
  · rename_i hne
    rw [if_neg hne]
    refine h e ((List.mem_append.1 he).resolve_right fun hnew => hne ?_) p hp
    exact List.mem_singleton.1 hnew

theorem remove (h : KeptOnFile k fs) (d : DocId) : KeptOnFile (k.remove d) fs :=
  fun e he p hp => h e (List.mem_of_mem_erase he) p hp

theorem changeBuffer (h : KeptOnFile k fs) {f : Buffer → Buffer}
    (edit : Edit (k.document d).buffer (f (k.document d).buffer)) :
    KeptOnFile (k.changeBuffer d f) fs := by
  intro e he p hp
  rw [Desk.path_changeBuffer] at hp
  obtain ⟨l, rfl, onFile⟩ := h e he p hp
  refine ⟨l, rfl, ?_⟩
  rw [Desk.changeBuffer, Desk.document_change]
  split
  · rename_i hd
    rw [← hd.1] at onFile ⊢
    exact onFile.edit edit
  · exact onFile

/-- A document was saved to a file that no other registered document has. -/
theorem saved (h : KeptOnFile k fs) (inStep : k.InStep)
    (own : ∀ e ∈ k.registered, (k.document e).path = some ⟨.root, place⟩ → e = d)
    (proper : ProperPlace place)
    (short : (Path.toString ⟨.root, place⟩).utf8ByteSize < Files.pathLimit)
    (replaced : Source.Replaced fs fs' ⟨.root, place⟩ place
      (Utf8.encode (Text.unixNewlines (k.document d).buffer.text))) :
    KeptOnFile (k.saved d ⟨.root, place⟩) fs' := by
  intro e he p hp
  rw [Desk.saved_registered] at he
  rw [Desk.saved_document] at hp ⊢
  split at hp
  · rename_i hd
    cases hp
    rw [if_pos hd, ← hd.1]
    exact ⟨place, rfl, proper, short, _, replaced.get?, fun _ => Source.holds_encode _ _⟩
  · rename_i hd
    rw [if_neg hd]
    obtain ⟨l, rfl, onFile⟩ := h e he p hp
    refine ⟨l, rfl, onFile.elsewhere replaced ?_⟩
    rintro rfl
    exact hd ⟨(own e he hp).symm, inStep.lt_length he⟩

end KeptOnFile

/-! ## Paths that spell files -/

/-- The path spells the location of a file. -/
def Houses (fs : Files) (p : Path) : Prop :=
  ∃ l content, p = ⟨.root, l⟩ ∧ ProperPlace l ∧ fs.tree.get? l = some (.file content)

theorem Houses.locate (h : Houses fs p) : fs.locate p = .ok p := by
  obtain ⟨l, content, rfl, proper, he⟩ := h
  exact Files.locate_straight proper he nofun

theorem Houses.replaced (h : Houses fs p) (replaced : Source.Replaced fs fs' target place content) :
    Houses fs' p := by
  obtain ⟨l, content', rfl, proper, he⟩ := h
  by_cases same : l = place
  · subst same
    exact ⟨l, content, rfl, proper, replaced.get?⟩
  · exact ⟨l, content', rfl, proper, replaced.file_elsewhere he same⟩

/-- The path of every document, registered or not, spells the location of a file. -/
def Housed (k : Desk) (fs : Files) : Prop := ∀ d p, (k.document d).path = some p → Houses fs p

/-! ## Steps and runs -/

section

variable {k : Cast S} {patience : Nat} {picks : Path → Prop} {s s' : Studio S} {start : Files}

/-- A document is saved to the resolved form of a path in use, or to a path that is resolved already. -/
theorem Housed.saves_to {desk : Desk} {d : DocId} {chosen : Path} (housed : Housed desk fs)
    (picked : picks chosen ∨ (desk.document d).path = some chosen)
    (located : fs.locate chosen = .ok target) : picks chosen ∨ chosen = target := by
  refine picked.imp_right fun own => ?_
  have settled := (housed d chosen own).locate
  rw [located] at settled
  exact (Except.ok.inj settled).symm

/-- A step in which nobody calls on the files without a document saves one or leaves the files alone. -/
theorem Step.sequel (h : Step (k.terms patience False False picks) s s')
    (housed : Housed s.desk s.host.files) : s.host.files.Sequel picks s'.host.files := by
  cases h with
  | aside _ files _ => rw [files]
  | noted _ _ files _ => rw [files]
  | touched allowed _ _ _ => exact allowed.elim
  | created _ files _ => rw [files]
  | opened _ _ _ _ _ _ files _ => rw [files]
  | @saved d chosen target _ refused picked located _ _ written _ _ =>
    have saves := Files.Saves.written refused (s.desk.document d).buffer
      (housed.saves_to picked located) located
    rw [written] at saves
    exact .single saves
  | closed _ _ _ files _ => rw [files]
  | edited _ _ files _ => rw [files]

section

variable (distinct : start.Distinct picks) (sequel : start.Sequel picks s.host.files)
  (named : s.host.files.WellNamed) (houses : Housed s.desk s.host.files)
include distinct sequel named houses

theorem Step.housed (h : Step (k.terms patience False False picks) s s') :
    Housed s'.desk s'.host.files := by
  have after : start.Sequel picks s'.host.files := sequel.trans (h.sequel houses)
  intro e p hp
  cases h with
  | aside desk files _ => rw [desk] at hp; rw [files]; exact houses e p hp
  | noted _ desk files _ => rw [desk] at hp; rw [files]; exact houses e p hp
  | touched allowed _ _ _ => exact allowed.elim
  | created desk files _ =>
    rw [desk] at hp
    rw [files]
    exact houses e p (Desk.path_addUntitled hp)
  | opened picked located read same _ desk files _ =>
    rw [desk] at hp
    rw [files]
    rw [same not_false] at located read
    obtain ⟨l, content, spot, -⟩ := Buffer.read_eq_ok read
    obtain ⟨rfl, proper, stands⟩ := distinct.of_read sequel named picked located spot
    rcases Desk.path_addOpened hp with old | rfl
    · exact houses e p old
    · exact ⟨l, content, rfl, proper, stands⟩
  | saved picked located _ _ written desk _ =>
    obtain ⟨place, replaced⟩ := Buffer.writeUnder_ok written
    obtain ⟨rfl, proper⟩ := distinct.of_write sequel after named (houses.saves_to picked located)
      located replaced
    rw [desk] at hp
    rcases Desk.path_saved hp with old | rfl
    · exact (houses e p old).replaced replaced
    · exact ⟨place, _, rfl, proper, replaced.get?⟩
  | closed _ _ desk files _ => rw [desk] at hp; rw [files]; exact houses e p hp
  | edited _ desk files _ =>
    rw [desk, Desk.path_changeBuffer] at hp
    rw [files]
    exact houses e p hp

theorem Step.keptOnFile (h : Step (k.terms patience False False picks) s s')
    (inStep : s.desk.InStep) (kept : KeptOnFile s.desk s.host.files) :
    KeptOnFile s'.desk s'.host.files := by
  have after : start.Sequel picks s'.host.files := sequel.trans (h.sequel houses)
  cases h with
  | aside desk files _ => rw [desk, files]; exact kept
  | noted _ desk files _ => rw [desk, files]; exact kept
  | touched allowed _ _ _ => exact allowed.elim
  | created desk files _ => rw [desk, files]; exact kept.addUntitled _
  | opened picked located read same _ desk files _ =>
    rw [desk, files]
    rw [same not_false] at located read
    obtain ⟨l, content, spot, text⟩ := Buffer.read_eq_ok read
    obtain ⟨rfl, proper, stands⟩ := distinct.of_read sequel named picked located spot
    exact kept.addOpened ⟨proper, (Files.spot_eq_ok.1 spot).2.1, content, stands,
      fun _ => ⟨_, text, rfl⟩⟩
  | saved picked located look own written desk _ =>
    obtain ⟨place, replaced⟩ := Buffer.writeUnder_ok written
    obtain ⟨rfl, proper⟩ := distinct.of_write sequel after named (houses.saves_to picked located)
      located replaced
    obtain ⟨_, spot, -⟩ := replaced.leads
    have alone := inStep.findAt_of_find (fun e _ hpath => (houses e _ hpath).locate) look own
    rw [desk]
    refine kept.saved inStep (fun e he hpath => ?_) proper (Files.spot_eq_ok.1 spot).2.1 replaced
    rw [inStep.findAt_eq_some.2 ⟨he, hpath⟩] at alone
    rcases alone with hnone | hsome
    · cases hnone
    · exact Option.some.inj hsome
  | closed _ _ desk files _ => rw [desk, files]; exact kept.remove _
  | edited edit desk files _ => rw [desk, files]; exact kept.changeBuffer edit

end

end

/-- In a scene, reading the file of a registered document without unsaved changes gives its text, up
to line ends and marks at its head. -/
def CleanIsSaved (scene : Scene) : Prop :=
  ∀ d ∈ scene.desk.registered, ∀ p, (scene.desk.document d).path = some p →
    (scene.desk.document d).buffer.modified = false →
    ∃ t, Source.read scene.files p none = .ok t ∧
      Source.plain t = Source.plain (scene.desk.document d).buffer.text

/-- A command calls on the files for a document only, and if it chooses a file, then by one of some
paths. -/
def OnDocuments (picks : Path → Prop) (command : Command DocId CompilerId) : Prop :=
  ¬ command.touchesFiles ∧ ∀ p, command.picked? = some p → picks p

/-- Every scene of a run that starts with an empty desk, in which nobody calls on the files without
a document, files are chosen by some paths, and nothing comes between the reading of a file and the
making of its document. -/
theorem clean_is_saved (k : Cast S) (patience depth : Nat) (script : Script S α)
    (picks : Path → Prop) {s s' : Studio S} {r : Except Failure α} (empty : s.desk = {})
    (unwritten : s.journal = []) (named : s.host.files.WellNamed)
    (distinct : s.host.files.Distinct picks) (cast : k.Gives (OnDocuments picks))
    (views : ∀ n, (k.choose n).Answers picks) (idle : k.afterRead.IsIdle)
    (play : script.Gives (OnDocuments picks))
    (run : script.run (k.collaborators patience depth) s = some (r, s')) :
    ∀ scene ∈ s'.scenes, CleanIsSaved scene := by
  have steps : Relation.ReflTransGen (Step (k.terms patience False False picks)) s s' :=
    Script.run_steps cast views (fun _ => idle) play run
  have unset : ∀ d, (s.desk.document d).path = none := fun d => by rw [empty]; rfl
  -- a write leaves the files of other documents alone only while no two of them share a path
  have kept : ∀ scene ∈ s'.scenes, s.host.files.Sequel picks scene.files ∧ scene.desk.InStep ∧
      Housed scene.desk scene.files ∧ KeptOnFile scene.desk scene.files := by
    refine scenes_hold (scenes_of_fresh unwritten ⟨.refl, ?_, ?_, ?_⟩) (fun s₁ s₂ step h => ?_) steps
    · show s.desk.InStep
      rw [empty]
      exact .empty
    · exact fun d p hp => nomatch (unset d).symm.trans hp
    · exact fun d _ p hp => nomatch (unset d).symm.trans hp
    · obtain ⟨sequel, inStep, housed, kept⟩ := h
      have settled : ∀ p q, s₁.host.files.locate p = .ok q → ∀ d ∈ s₁.desk.registered,
          (s₁.desk.document d).path = some q → s₁.host.files.locate q = .ok q :=
        fun _ q _ d _ hpath => (housed d q hpath).locate
      have named' : s₁.host.files.WellNamed := named.sequel sequel
      exact ⟨sequel.trans (step.sequel housed), step.inStep settled inStep,
        step.housed distinct sequel named' housed,
        step.keptOnFile distinct sequel named' housed inStep kept⟩
  intro scene hmem d hd p hp clean
  obtain ⟨-, -, -, onFile⟩ := kept scene hmem
  obtain ⟨l, rfl, onFile⟩ := onFile d hd p hp
  exact onFile.read clean

/-- Makes a document, gives it a text and saves it by a path that goes through a link. -/
def Script.saveLinked : Script Unit Unit :=
  .call (.studio .new) fun _ => .call (.document 0 (.setText ['x'])) fun _ =>
    .call (.document 0 (.saveAs (.ok ⟨.root, ["l", "a"]⟩))) fun _ => .done ()

/-- The document gets the resolved path, by which its file is read. -/
theorem clean_is_saved_saveLinked : ∃ r s', Script.saveLinked.run (Cast.idle.collaborators 1 1)
      (blank { files := Files.forked } Settings.standard [] ()) = some (r, s') ∧
    s'.desk.registered = [0] ∧ (s'.desk.document 0).path = some ⟨.root, ["d", "a"]⟩ ∧
    (s'.desk.document 0).buffer.modified = false ∧ ∀ scene ∈ s'.scenes, CleanIsSaved scene := by
  have ends : ((Script.saveLinked.run (Cast.idle.collaborators 1 1)
      (blank { files := Files.forked } Settings.standard [] ())).any fun (_, s') =>
        s'.desk.registered = [0] ∧ (s'.desk.document 0).path = some ⟨.root, ["d", "a"]⟩ ∧
          (s'.desk.document 0).buffer.modified = false) = true := by decide +kernel
  obtain ⟨⟨r, s'⟩, run, known⟩ := (Option.any_eq_true _ _).1 ends
  obtain ⟨registered, path, clean⟩ := of_decide_eq_true known
  have through : ∀ p, (some ⟨.root, ["l", "a"]⟩ : Option Path) = some p → p = ⟨.root, ["l", "a"]⟩ :=
    fun p hp => (Option.some.inj hp).symm
  exact ⟨r, s', run, registered, path, clean, clean_is_saved Cast.idle 1 1 Script.saveLinked _ rfl rfl
    Files.wellNamed_forked Files.untangled_forked.distinct (Cast.gives_idle _) (fun _ => trivial) rfl
    ⟨⟨nofun, nofun⟩, fun _ => ⟨⟨nofun, nofun⟩, fun _ => ⟨⟨nofun, through⟩, fun _ => trivial⟩⟩⟩ run⟩

end Studio

end JavaStudio
