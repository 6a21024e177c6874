import JavaStudio.Proofs.Act
import JavaStudio.Proofs.Files.Calls
import JavaStudio.Proofs.Source.ReadBack
import JavaStudio.Source.Buffer

/-!
# Writing a source file

A write makes a scratch file beside its target, fills it and moves it over the target. Wherever it
fails, the files are exactly what they were before (`writeUnder_cases`): the scratch file was made
at a free place, every later step finds it there, and taking it away undoes its making. When it
succeeds, one file has changed, and that at the place to which the target leads (`Replaced`).
-/

namespace JavaStudio

namespace Source

variable {fs fs' : Files} {dir target scratch : Path} {name encoding newline : String} {w : Wide}
  {refused : Refusals} {d place : Location} {n : String} {content : Bytes}

/-- The files after a content was put in place of a target, at the place to which the target leads.
-/
structure Replaced (fs fs' : Files) (target : Path) (place : Location) (content : Bytes) :
    Prop where
  leads : ∃ s, fs.spot .entry target = .ok s ∧ s.location = place
  named : Files.endsInDots target = false
  replaceable : ∀ f, fs.tree.get? place ≠ some (.directory f)
  files : fs' = { fs with tree := fs.tree.put place (.file content) }

theorem Replaced.machine (h : Replaced fs fs' target place content) : fs'.machine = fs.machine := by
  rw [h.files]

/-- What was replaced has a name in a directory. -/
theorem Replaced.parent (h : Replaced fs fs' target place content) :
    ∃ d n, place = d ++ [n] ∧ fs.tree.IsDirectory d := by
  obtain ⟨s, hs, rfl⟩ := h.leads
  exact Files.parent_of_spot hs h.replaceable

theorem Replaced.get? (h : Replaced fs fs' target place content) :
    fs'.tree.get? place = some (.file content) := by
  obtain ⟨d, n, rfl, hd⟩ := h.parent
  rw [h.files]
  exact Tree.get?_put_same hd.choose_spec _

/-! ## The scratch file -/

theorem scratchName_ne_empty (name : String) (k : Nat) : scratchName name k ≠ "" := by
  intro h
  have length := congrArg String.length h
  simp [scratchName, String.length_append] at length

theorem scratchName_ne (name : String) (k : Nat) : scratchName name k ≠ name := by
  intro h
  have length := congrArg String.length h
  simp only [scratchName, String.length_append] at length
  have dot : ".".length = 1 := rfl
  omega

theorem makeScratch_cases {tries k : Nat} {r : Except Failure Path}
    (h : makeScratch dir name tries k fs = (r, fs')) :
    (∃ f, r = .error f ∧ fs' = fs) ∨
      ∃ j d n, r = .ok (dir.child (scratchName name j)) ∧
        fs.spot .entry (dir.child (scratchName name j)) = .ok (.vacant d n) ∧
        fs' = { fs with tree := fs.tree.put (d ++ [n]) (.file []) } := by
  induction tries generalizing k with
  | zero =>
    cases h
    exact .inl ⟨_, rfl, rfl⟩
  | succ tries ih =>
    rcases Task.bind_eq.1 h with ⟨q, fs₁, hq, hrest⟩ | ⟨f, hq, rfl⟩
    · obtain ⟨q', hq', hmade⟩ := Task.attempt_eq.1 hq
      cases hq'
      rcases Files.createFile_cases hmade with ⟨f, rfl, rfl⟩ | ⟨d, n, rfl, free, rfl⟩
      · cases f with
        | file fault path =>
          cases fault with
          | alreadyExists => exact ih hrest
          | _ => cases hrest; exact .inl ⟨_, rfl, rfl⟩
        | _ => cases hrest; exact .inl ⟨_, rfl, rfl⟩
      · cases hrest
        exact .inr ⟨k, d, n, rfl, free, rfl⟩
    · obtain ⟨q', hq', -⟩ := Task.attempt_eq.1 hq
      cases hq'

/-- Taking the scratch file away undoes its making. -/
theorem dropScratch_made (free : fs.spot .entry (dir.child name) = .ok (.vacant d n))
    (hname : name ≠ "") (content : Bytes) :
    dropScratch (dir.child name) { fs with tree := fs.tree.put (d ++ [n]) (.file content) } =
      (.ok (), fs) := by
  refine Task.tryCatch_eq.2 (.inl ⟨(), ?_, rfl⟩)
  rw [Files.remove_of_file (Files.spot_of_made free hname content .entry)]
  simp only [Tree.erase_put (Files.vacant_stands free).2]

/-- The target of a write leads where it did before its scratch file was made. -/
theorem spot_beside_scratch (free : fs.spot .entry (dir.child name) = .ok (.vacant d n))
    (hname : name ≠ "") (apart : name ≠ target.name) (named : Files.endsInDots target = false)
    {s : Spot} (hs : ({ fs with tree := fs.tree.put (d ++ [n]) (.file content) } : Files).spot
      .entry target = .ok s) :
    s.location ≠ d ++ [n] ∧ ∃ s', fs.spot .entry target = .ok s' ∧ s'.location = s.location := by
  obtain ⟨hd, hn⟩ := Files.vacant_stands free
  obtain ⟨hnull, hshort, leads⟩ := Files.spot_eq_ok.1 hs
  have filled := Files.spot_of_made free hname content .entry
  have differ : s.location ≠ d ++ [n] := by
    intro hplace
    have there := Tree.get?_put_same (n := n) hd.choose_spec (.file content)
    -- Both paths would lead to the scratch file, and then have the same last name.
    cases s with
    | vacant d' n' =>
      have none := (leads.vacant_stands (Tree.isDirectory_nil _) rfl).2.1
      rw [show d' ++ [n'] = d ++ [n] from hplace, there] at none
      cases none
    | entry place e =>
      obtain rfl : place = d ++ [n] := hplace
      have stands := leads.stands rfl
      rw [there, Option.some.injEq] at stands
      subst stands
      have last := leads.getLast? rfl
      rw [(Files.spot_eq_ok.1 filled).2.2.getLast? rfl, Files.namesTo_child,
        List.getLast?_concat] at last
      have parts : target.parts ≠ [] := by
        intro hnil
        rw [Files.endsInDots, hnil] at named
        cases named
      have targetName : (Files.namesTo { fs with tree := fs.tree.put (d ++ [n]) (.file content) }
          target).getLast? = some target.name := by
        unfold Files.namesTo Path.name
        split
        · rw [List.getLast?_eq_some_getLast parts, Option.getD_some]
        · rw [List.getLast?_append, List.getLast?_eq_some_getLast parts, Option.some_or,
            Option.getD_some]
      rw [targetName, Option.some.injEq] at last
      exact apart last
  refine ⟨differ, ?_⟩
  have apart' := (Tree.Apart.put hd (fun e he => by rw [hn] at he; cases he) content).symm
  obtain ⟨s', leads', hs'⟩ := leads.elsewhere apart' rfl differ
  exact ⟨s', Files.spot_eq_ok.2 ⟨hnull, hshort, leads'⟩, hs'⟩

/-! ## The write -/

/-- Whatever is done with a scratch file that was made at a free place, either it is still there or
it has taken the place of the target. -/
theorem fillAndMove_cases {r : Except Failure Unit}
    (free : fs.spot .entry (dir.child name) = .ok (.vacant d n)) (hname : name ≠ "")
    (apart : name ≠ target.name)
    (h : fillAndMove refused target (dir.child name) w encoding newline
      { fs with tree := fs.tree.put (d ++ [n]) (.file []) } = (r, fs')) :
    (∃ f content, r = .error f ∧ fs' = { fs with tree := fs.tree.put (d ++ [n]) (.file content) }) ∨
      ∃ content place, r = .ok () ∧ contentOf fs.machine encoding newline w = .ok content ∧
        Replaced fs fs' target place content := by
  obtain ⟨hd, hn⟩ := Files.vacant_stands free
  unfold fillAndMove at h
  rw [Task.get_bind] at h
  rcases (Task.bind_eq.1 h).symm with ⟨f, hcontent, rfl⟩ | ⟨content, fs₁, hcontent, h⟩
  · obtain ⟨-, rfl⟩ := Prod.mk.inj hcontent
    exact .inl ⟨f, [], rfl, rfl⟩
  obtain ⟨encoded, rfl⟩ := Prod.mk.inj hcontent
  rcases (Task.bind_eq.1 h).symm with ⟨f, hfill, rfl⟩ | ⟨_, fs₁, hfill, h⟩
  · obtain ⟨-, rfl⟩ := Prod.mk.inj hfill
    exact .inl ⟨f, [], rfl, rfl⟩
  obtain ⟨-, rfl⟩ := Prod.mk.inj hfill
  have written := Files.writeBytes_of_file (Files.spot_of_made free hname [] .writing) content
  rw [Task.bind_of_ok written] at h
  simp only [Tree.put_put] at h
  rcases (Task.bind_eq.1 h).symm with ⟨f, hmove, rfl⟩ | ⟨_, fs₁, hmove, h⟩
  · obtain ⟨-, rfl⟩ := Prod.mk.inj hmove
    exact .inl ⟨f, content, rfl, rfl⟩
  obtain ⟨-, rfl⟩ := Prod.mk.inj hmove
  rcases Files.replace_cases (Files.spot_of_made free hname content .entry) nofun h with
    ⟨f, rfl, rfl⟩ | ⟨s, rfl, hs, named, replaceable, rfl⟩
  · exact .inl ⟨f, content, rfl, rfl⟩
  · obtain ⟨differ, s', hs', same⟩ := spot_beside_scratch free hname apart named hs
    refine .inr ⟨content, s.location, rfl, encoded, ⟨s', hs', same⟩, named, fun f hf => ?_, ?_⟩
    · have apart' := Tree.Apart.put hd (fun e he => by rw [hn] at he; cases he) content
      obtain ⟨f', hf'⟩ := apart'.directory hf
      exact replaceable f' hf'
    · simp only [Tree.erase_put hn]

/-- A write fails and leaves the files exactly as they were, or it puts the content in place of the
target. -/
theorem writeUnder_cases {r : Except Failure Path}
    (h : writeUnder refused target w encoding newline fs = (r, fs')) :
    (∃ f, r = .error f ∧ fs' = fs) ∨
      ∃ content place, r = .ok target ∧ contentOf fs.machine encoding newline w = .ok content ∧
        Replaced fs fs' target place content := by
  unfold writeUnder at h
  by_cases policy : newlines.contains newline = true
  case neg =>
    rw [if_neg policy] at h
    cases h
    exact .inl ⟨_, rfl, rfl⟩
  rw [if_pos policy, Task.get_bind] at h
  rcases (Task.bind_eq.1 h).symm with ⟨f, hmaking, rfl⟩ | ⟨_, fs₁, hmaking, h⟩
  · obtain ⟨-, rfl⟩ := Prod.mk.inj hmaking
    exact .inl ⟨f, rfl, rfl⟩
  obtain ⟨-, rfl⟩ := Prod.mk.inj hmaking
  rcases (Task.bind_eq.1 h).symm with ⟨f, hscratch, rfl⟩ | ⟨scratch, fs₁, hscratch, h⟩
  · rcases makeScratch_cases hscratch with ⟨f', -, rfl⟩ | ⟨j, d, n, hok, -, -⟩
    · exact .inl ⟨f, rfl, rfl⟩
    · cases hok
  rcases makeScratch_cases hscratch with ⟨f', hok, -⟩ | ⟨j, d, n, hok, free, rfl⟩
  · cases hok
  cases hok
  have hname := scratchName_ne_empty target.name j
  have apart := scratchName_ne target.name j
  rcases Task.bind_eq.1 h with ⟨_, fs₁, hdone, h⟩ | ⟨f, hdone, rfl⟩
  · cases h
    rcases Task.tryCatch_eq.1 hdone with ⟨_, hrun, -⟩ | ⟨e, fs₂, -, hdrop⟩
    · rcases fillAndMove_cases free hname apart hrun with
        ⟨f, _, hok, -⟩ | ⟨content, place, -, hc, hr⟩
      · cases hok
      · exact .inr ⟨content, place, rfl, hc, hr⟩
    · rcases Task.bind_eq.1 hdrop with ⟨_, _, -, hthrow⟩ | ⟨_, -, hok⟩
      · cases hthrow
      · cases hok
  · rcases Task.tryCatch_eq.1 hdone with ⟨_, -, hok⟩ | ⟨e, fs₂, hrun, hdrop⟩
    · cases hok
    · rcases fillAndMove_cases free hname apart hrun with ⟨f', content, hf', rfl⟩ | ⟨_, _, hok, -⟩
      · rcases Task.bind_eq.1 hdrop with ⟨_, fs₃, hdropped, hthrow⟩ | ⟨_, hdropped, -⟩
        · rw [dropScratch_made free hname content] at hdropped
          cases hdropped
          cases hthrow
          exact .inl ⟨_, rfl, rfl⟩
        · rw [dropScratch_made free hname content] at hdropped
          cases hdropped
      · cases hok

end Source

/-! ## The text of a buffer -/

namespace Buffer

variable {fs fs' : Files} {p : Path} {b : Buffer} {refused : Refusals}

/-- A buffer that could not be written leaves the files exactly as they were. -/
theorem writeUnder_error {f : Failure} (h : b.writeUnder refused p fs = (.error f, fs')) :
    fs' = fs := by
  rcases Task.bind_eq.1 h with ⟨_, fs₁, -, hok⟩ | ⟨e, hw, -⟩
  · cases hok
  · rcases Source.writeUnder_cases hw with ⟨_, -, rfl⟩ | ⟨_, _, hok, -⟩
    · rfl
    · cases hok

/-- A buffer that was written has its text, with line feeds, in place of the target. -/
theorem writeUnder_ok {u : Unit} (h : b.writeUnder refused p fs = (.ok u, fs')) :
    ∃ place, Source.Replaced fs fs' p place (Utf8.encode (Text.unixNewlines b.text)) := by
  rcases Task.bind_eq.1 h with ⟨_, fs₁, hw, hok⟩ | ⟨e, -, hok⟩
  · cases hok
    rcases Source.writeUnder_cases hw with ⟨_, hok, -⟩ | ⟨content, place, -, hcontent, replaced⟩
    · cases hok
    · rw [Source.contentOf_standard, Except.ok.injEq] at hcontent
      exact ⟨place, hcontent ▸ replaced⟩
  · cases hok

end Buffer

end JavaStudio
