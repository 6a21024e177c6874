import JavaStudio.Proofs.Files.Frame
import JavaStudio.Proofs.Settings.Save
import JavaStudio.Proofs.Source.Write

/-!
# What a save touches

A save makes the directories of its path, writes a scratch file beside it and moves that over it. The
scratch file has a fixed name, so what stands there is lost: the file is given another content, and the
entry is moved away. It is not taken away when a later step fails.

* `saveUnder_touches`: on a system that may refuse any of these steps, all that a save touches, and how
  little that is where the scratch name is free.
-/

namespace JavaStudio.Store

variable {refused : Refusals} {written : Nat} {p scratch : Path} {s : Settings} {h h' : Host}
  {content : Bytes} {fs made filled after : Files} {r : Except Failure Unit} {place : Location}

/-- A system that refuses nothing saves settings as `save` does. -/
theorem saveUnder_none (written : Nat) (p : Path) (s : Settings) :
    saveUnder (fun _ => none) written p s = save p s := rfl

/-- What has become of the files at the end of a save, once directories were made. -/
inductive Outcome (p : Path) (s : Settings) (made : Files) : Except Failure Unit → Files → Prop
  /-- The save failed before it wrote anything. -/
  | early (e : Failure) : Outcome p s made (.error e) made
  /-- The save failed with the scratch file written, all of it or a part. -/
  | late (e : Failure) {scratch : Path} {place : Location} {content : Bytes} {filled : Files} :
      p.withSuffix? ".tmp" = some scratch → made.Written filled scratch place content →
      made.tree.SameBut [place] filled.tree → Outcome p s made (.error e) filled
  /-- What has the scratch path was moved over what has the path. -/
  | moved {scratch : Path} {place source : Location} {content : Bytes} {filled : Files} {e : Entry}
      {goal : Spot} :
      p.withSuffix? ".tmp" = some scratch → contentOf s = .ok content →
      made.Written filled scratch place content →
      filled.spot .entry scratch = .ok (.entry source e) → (∀ f, e ≠ .directory f) →
      filled.spot .entry p = .ok goal → Files.endsInDots p = false →
      filled.tree.Solid goal.location →
      made.tree.SameBut [place, source, goal.location]
        ((filled.tree.erase source).put goal.location e) →
      Outcome p s made (.ok ())
        { filled with tree := (filled.tree.erase source).put goal.location e }

/-! ## A save ends in one of three ways -/

theorem check_cases {use : FileUse} (run : Task.ofExcept (refused.check use) fs = (r, after)) :
    after = fs ∧ (r = .ok () ∨ ∃ e, r = .error e) := by
  obtain ⟨hr, rfl⟩ := Prod.mk.inj run
  refine ⟨rfl, ?_⟩
  rcases r with e | _
  · exact .inr ⟨e, rfl⟩
  · exact .inl rfl

/-- The scratch file is left as it was, filled or, where the system refuses to, filled in part. -/
theorem fill_cases (run : fill refused written p scratch content fs = (r, after)) :
    (∃ e, r = .error e ∧ (after = fs ∨ ∃ place part, fs.Written after scratch place part)) ∨
      r = .ok () ∧ ∃ place, fs.Written after scratch place content := by
  rcases (Task.bind_eq.1 run).symm with ⟨e, checked, rfl⟩ | ⟨_, fs₁, checked, rest⟩
  · exact .inl ⟨e, rfl, .inl (check_cases checked).1⟩
  obtain ⟨same, -⟩ := check_cases checked
  subst same
  cases system : refused (.filling p) with
  | none =>
    rw [system] at rest
    rcases Files.writeBytes_cases rest with ⟨e, rfl, rfl⟩ | ⟨rfl, place, filled⟩
    · exact .inl ⟨e, rfl, .inl rfl⟩
    · exact .inr ⟨rfl, place, filled⟩
  | some fault =>
    rw [system] at rest
    rcases Task.bind_eq.1 rest with ⟨_, fs₂, writes, refusal⟩ | ⟨e, writes, rfl⟩
    · obtain ⟨_, ok, -⟩ | ⟨-, place, filled⟩ := Files.writeBytes_cases writes
      · cases ok
      · cases refusal
        exact .inl ⟨_, rfl, .inr ⟨place, _, filled⟩⟩
    · obtain ⟨_, -, same⟩ | ⟨ok, -⟩ := Files.writeBytes_cases writes
      · exact .inl ⟨e, rfl, .inl same⟩
      · cases ok

/-- A save makes directories and then ends in one of three ways. -/
theorem saveUnder_cases (run : saveUnder refused written p s h = (r, h')) :
    ∃ made after, h' = { h with files := after } ∧ Files.Raised p.parent h.files made ∧
      Outcome p s made r after := by
  obtain ⟨after, steps, rfl⟩ := onFiles_eq.1 run
  rw [Task.get_bind] at steps
  rcases (Task.bind_eq.1 steps).symm with ⟨e, copied, rfl⟩ | ⟨_, fs₁, copied, steps⟩
  · obtain ⟨-, same⟩ := Prod.mk.inj copied
    exact ⟨_, after, rfl, .none, same ▸ .early e⟩
  obtain ⟨-, same⟩ := Prod.mk.inj copied
  rw [← same] at steps
  rcases (Task.bind_eq.1 steps).symm with ⟨e, directory, rfl⟩ | ⟨_, made, directory, steps⟩
  · exact ⟨_, _, rfl, Files.ensureDirectories_raised directory, .early e⟩
  refine ⟨made, after, rfl, Files.ensureDirectories_raised directory, ?_⟩
  rcases suffixed : p.withSuffix? ".tmp" with _ | scratch <;> rw [suffixed] at steps
  · cases steps
    exact .early _
  rcases (Task.bind_eq.1 steps).symm with ⟨e, encoded, rfl⟩ | ⟨content, fs₁, encoded, steps⟩
  · obtain ⟨-, same⟩ := Prod.mk.inj encoded
    exact same ▸ .early e
  obtain ⟨encoded, same⟩ := Prod.mk.inj encoded
  rw [← same] at steps
  rcases (Task.bind_eq.1 steps).symm with ⟨e, fills, rfl⟩ | ⟨_, filled, fills, steps⟩
  · obtain ⟨e', -, same | ⟨place, part, written⟩⟩ | ⟨ok, -⟩ := fill_cases fills
    · exact same ▸ .early e
    · exact .late e suffixed written written.sameBut
    · cases ok
  obtain ⟨_, failed, -⟩ | ⟨-, place, written⟩ := fill_cases fills
  · cases failed
  rcases (Task.bind_eq.1 steps).symm with ⟨e, checked, rfl⟩ | ⟨_, fs₂, checked, steps⟩
  · obtain ⟨same, -⟩ := check_cases checked
    exact same ▸ .late e suffixed written written.sameBut
  obtain ⟨same, -⟩ := check_cases checked
  rw [same] at steps
  obtain ⟨source, e, found, plain⟩ := written.entry
  obtain ⟨f, rfl, rfl⟩ | ⟨goal, rfl, leads, named, solid, rfl⟩ :=
    Files.replace_cases found plain steps
  · exact .late f suffixed written written.sameBut
  · have stands : filled.tree.get? source = some e := (Files.spot_eq_ok.1 found).2.2.stands rfl
    have solid' : filled.tree.Solid source := by
      intro f hf
      rw [stands, Option.some.injEq] at hf
      exact plain f hf
    have moved := Tree.sameBut_move plain (Files.parent_of_spot found solid')
      (Files.parent_of_spot leads solid) solid' solid
    exact .moved suffixed encoded written found plain leads named solid
      (written.sameBut.trans moved)

/-! ## Where the scratch name is free -/

/-- A file that is made at the free scratch name is found there. -/
theorem spot_scratch {d : Location} {n : String} (suffixed : p.withSuffix? ".tmp" = some scratch)
    (free : made.spot .entry scratch = .ok (.vacant d n)) (content : Bytes) :
    ({ made with tree := made.tree.put (d ++ [n]) (.file content) } : Files).spot .entry scratch =
      .ok (.entry (d ++ [n]) (.file content)) := by
  obtain ⟨-, name, hname, rfl⟩ := scratch_eq suffixed
  exact Files.spot_of_made free hname content .entry

/-- What was written at a free scratch name and moved has taken the place of what has the path. -/
theorem replaced_of_moved {d : Location} {n : String} {goal : Spot}
    (suffixed : p.withSuffix? ".tmp" = some scratch)
    (free : made.spot .entry scratch = .ok (.vacant d n))
    (leads : ({ made with tree := made.tree.put (d ++ [n]) (.file content) } : Files).spot .entry p =
      .ok goal)
    (named : Files.endsInDots p = false)
    (solid : (made.tree.put (d ++ [n]) (.file content)).Solid goal.location) :
    Source.Replaced made { made with tree := made.tree.put goal.location (.file content) } p
      goal.location content := by
  obtain ⟨hd, hn⟩ := Files.vacant_stands free
  have filled := spot_scratch suffixed free content
  have apart := Tree.Apart.put hd (fun e he => by rw [hn] at he; cases he) content
  have replaceable : ∀ f, made.tree.get? goal.location ≠ some (.directory f) := by
    intro f hf
    obtain ⟨f', hf'⟩ := apart.directory hf
    exact solid f' hf'
  obtain ⟨hparts, name, hname, rfl⟩ := scratch_eq suffixed
  by_cases own : name = p.name
  · -- the path has the suffix of scratch files itself, and the file is moved onto itself
    rw [own, Path.child_parent_name hparts] at free filled
    cases filled.symm.trans leads
    exact ⟨⟨_, free, rfl⟩, named, replaceable, rfl⟩
  · obtain ⟨-, s', leads', same⟩ := Source.spot_beside_scratch free hname own named leads
    exact ⟨⟨s', leads', same⟩, named, replaceable, rfl⟩

/-- Where the scratch name is free, a save that succeeds changes the settings file alone, and one that
fails leaves at most the scratch file behind. -/
theorem Outcome.of_free {d : Location} {n : String} (outcome : Outcome p s made r after)
    (suffixed : p.withSuffix? ".tmp" = some scratch)
    (free : made.spot .entry scratch = .ok (.vacant d n)) :
    (∀ e, r = .error e → after = made ∨
      ∃ content, after = { made with tree := made.tree.put (d ++ [n]) (.file content) }) ∧
    (r = .ok () → ∃ place content, contentOf s = .ok content ∧
      Source.Replaced made after p place content) := by
  cases outcome with
  | early e => exact ⟨fun _ _ => .inl rfl, nofun⟩
  | @late e scratch' place content filled suffixed' written _ =>
    cases suffixed.symm.trans suffixed'
    obtain rfl := written.of_vacant free
    exact ⟨fun _ _ => .inr ⟨content, written.files⟩, nofun⟩
  | @moved scratch' place source content filled e goal suffixed' encoded written found plain leads
      named solid _ =>
    cases suffixed.symm.trans suffixed'
    obtain rfl := written.of_vacant free
    have files := written.files
    subst files
    -- the file that was written is what is moved, so that the scratch name is free again
    cases (spot_scratch suffixed free content).symm.trans found
    have replaced := replaced_of_moved suffixed free leads named solid
    have hn := (Files.vacant_stands free).2
    refine ⟨nofun, fun _ => ⟨goal.location, content, encoded, ?_⟩⟩
    rw [Tree.erase_put hn]
    exact replaced

/-- On a system that may refuse any step of writing a file, a save makes directories above its path and
then ends in one of three ways. Where the scratch name is free, it changes the settings file alone if it
succeeds and leaves at most the scratch file behind if it fails. -/
theorem saveUnder_touches (refused : Refusals) (written : Nat) (p : Path) (s : Settings) (h : Host) :
    ∃ made after, (saveUnder refused written p s h).2 = { h with files := after } ∧
      Files.Raised p.parent h.files made ∧ h.files.tree.Grown made.tree ∧
      Outcome p s made (saveUnder refused written p s h).1 after ∧
      ∀ scratch d n, p.withSuffix? ".tmp" = some scratch →
        made.spot .entry scratch = .ok (.vacant d n) →
        (∀ e, (saveUnder refused written p s h).1 = .error e → after = made ∨
          ∃ content, after = { made with tree := made.tree.put (d ++ [n]) (.file content) }) ∧
        ((saveUnder refused written p s h).1 = .ok () → ∃ place content,
          contentOf s = .ok content ∧ Source.Replaced made after p place content) := by
  have run : saveUnder refused written p s h =
      ((saveUnder refused written p s h).1, (saveUnder refused written p s h).2) := rfl
  obtain ⟨made, after, files, raised, outcome⟩ := saveUnder_cases run
  exact ⟨made, after, files, raised, raised.grown, outcome,
    fun scratch d n suffixed free => outcome.of_free suffixed free⟩

/-- A file of the scratch name is lost when a save succeeds, and the scratch file is left behind when
its move fails. -/
theorem save_leaves_scratch :
    (∃ h', save ⟨.root, ["settings.json"]⟩ Settings.standard
        (rooted [("settings.tmp", .file [110, 111])]) = (.ok (), h') ∧
      h'.files.holds ⟨.root, ["settings.tmp"]⟩ = .ok false) ∧
    ∃ e h', save ⟨.root, ["settings.json"]⟩ Settings.standard
        (rooted [("settings.json", .directory [])]) = (.error e, h') ∧
      h'.files.holds ⟨.root, ["settings.tmp"]⟩ = .ok true := by
  exact ⟨⟨_, rfl, by decide +kernel⟩, _, _, rfl, by decide +kernel⟩

end JavaStudio.Store
