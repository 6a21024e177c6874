import JavaStudio.Proofs.Files.Frame
import JavaStudio.Proofs.Source.RoundTrip
import JavaStudio.Proofs.Source.Scratch

/-!
# Writing in one step

A write that returns has put the encoded text in place of its target and has touched nothing else; one
that fails, wherever it does, has touched nothing at all. What makes it fail is named in `Hindered`, and
where it is sure to return in `Feasible`.

* `writeUnder_atomic`: all of this for every tree of files, every encoding of the machine, every text and
  every system that may refuse a step.
-/

namespace JavaStudio

variable {c : Char} {t : Text} {newline : String}

/-! ## The characters of a body -/

namespace Text

theorem mem_unixNewlines (h : c ∈ t) (feed : c ≠ '\n') (ret : c ≠ '\r') : c ∈ unixNewlines t := by
  fun_induction unixNewlines t with
  | case1 => cases h
  | case2 t ih =>
    simp only [List.mem_cons, feed, ret, false_or] at h
    exact List.mem_cons_of_mem _ (ih h)
  | case3 d t _ ih =>
    rcases List.mem_cons.1 h with rfl | h
    · rw [if_neg ret]
      exact List.mem_cons_self
    · exact List.mem_cons_of_mem _ (ih h)

theorem mem_withNewline {line : Text} (h : c ∈ t) (feed : c ≠ '\n') : c ∈ withNewline line t := by
  induction t with
  | nil => cases h
  | cons d t ih =>
    rw [withNewline]
    rcases List.mem_cons.1 h with rfl | h
    · rw [if_neg feed]
      exact List.mem_cons_self
    · exact List.mem_append_right _ (ih h)

end Text

theorem Encoding.encode?_of_mem {e : Encoding} {bs : Bytes} (h : e.encode? t = some bs) (mem : c ∈ t) :
    e.encode? [c] ≠ none := by
  have below : ∀ {limit}, encodeBelow limit t = some bs → encodeBelow limit [c] ≠ none := by
    intro limit h
    unfold encodeBelow at h ⊢
    split at h
    · rename_i all
      rw [if_pos (by simpa using List.all_eq_true.1 all c mem)]
      nofun
    · cases h
  cases e with
  | latin1 => exact below h
  | ascii => exact below h
  | _ => nofun

namespace Source

variable {fs fs' : Files} {target : Path} {encoding : String} {refused : Refusals} {content : Bytes}
  {e : Encoding} {place : Location}

theorem mem_body (h : c ∈ t) (feed : c ≠ '\n') (ret : c ≠ '\r') : c ∈ body newline t := by
  rw [body_eq]
  exact Text.mem_withNewline (Text.mem_unixNewlines h feed ret) feed

/-! ## What stands in the way of a write -/

/-- No write to the target can succeed: the policy or the encoding is none, the parent is no directory,
the target is one, or the encoding lacks something of the text. In an encoding of the table that is half
of a surrogate pair or any one character. -/
inductive Hindered (fs : Files) (target : Path) (w : Wide) (encoding newline : String) : Prop
  | newline : newline ∉ newlines → Hindered fs target w encoding newline
  | parent : fs.holdsDirectory target.parent = .ok false → Hindered fs target w encoding newline
  | directory {place : Location} {f : Folder} :
      fs.spot .entry target = .ok (.entry place (.directory f)) →
      Hindered fs target w encoding newline
  | name {f : Failure} : checkName encoding = .error f → Hindered fs target w encoding newline
  | encoding {f : Failure} : codecNamed fs.machine encoding = .error f →
      Hindered fs target w encoding newline
  | text {codec : Codec} {f : Failure} : codecNamed fs.machine encoding = .ok codec →
      codec.encode (w.map (body newline)) = .error f → Hindered fs target w encoding newline
  | half {e : Encoding} {t : Text} {h : Half} {rest : Wide} : Encoding.ofName? encoding = some e →
      w = .torn t h rest → Hindered fs target w encoding newline
  | character {e : Encoding} {t : Text} {c : Char} : Encoding.ofName? encoding = some e →
      w = .text t → c ∈ t → e.encode? [c] = none → Hindered fs target w encoding newline

/-- The system, the files and the text allow a write to the target. -/
structure Feasible (refused : Refusals) (fs : Files) (target : Path) (w : Wide)
    (encoding newline : String) : Prop where
  allowed : Allowed refused target
  policy : newline ∈ newlines
  encodes : ∃ content, contentOf fs.machine encoding newline w = .ok content
  leads : ∃ s, fs.spot .entry target = .ok s ∧ fs.tree.Solid s.location
  named : Files.endsInDots target = false
  scratch : ∀ i ≤ fs.tree.entries.length, ∃ s,
    fs.spot .entry ((scratchDirectory fs target).child (scratchName target.name i)) = .ok s

/-- Every encoding of the table has line ends, so that it lacks no character of a text which it does
not lack in the text with other line ends. -/
theorem encode?_of_mem_body (encoded : e.encode? (body newline t) = some content) (mem : c ∈ t) :
    e.encode? [c] ≠ none := by
  by_cases feed : c = '\n'
  · subst feed
    cases e <;> nofun
  by_cases ret : c = '\r'
  · subst ret
    cases e <;> nofun
  exact Encoding.encode?_of_mem encoded (mem_body mem feed ret)

theorem not_hindered {w : Wide} (replaced : Replaced fs fs' target place content)
    (policy : newline ∈ newlines) (encoded : contentOf fs.machine encoding newline w = .ok content) :
    ¬ Hindered fs target w encoding newline := by
  obtain ⟨checked, codec, named, bytes⟩ := contentOf_eq_ok.1 encoded
  have tabled : ∀ {e}, Encoding.ofName? encoding = some e →
      ∃ t, w.map (body newline) = .text t ∧ e.encode? t = some content := by
    intro e known
    rw [codecNamed_of_ofName? known] at named
    cases named
    exact codec_encode_eq_ok.1 bytes
  obtain ⟨s, leads, rfl⟩ := replaced.leads
  intro hindered
  cases hindered with
  | newline bad => exact bad policy
  | parent missing => exact Files.holdsDirectory_parent leads replaced.named replaced.replaceable missing
  | directory found =>
    rw [found, Except.ok.injEq] at leads
    subst leads
    exact replaced.replaceable _ ((Files.spot_eq_ok.1 found).2.2.stands rfl)
  | name bad => cases checked.symm.trans bad
  | encoding unknown => cases named.symm.trans unknown
  | text known lacking =>
    cases named.symm.trans known
    cases bytes.symm.trans lacking
  | half known torn =>
    subst torn
    obtain ⟨_, whole, -⟩ := tabled known
    cases whole
  | character known whole mem lacking =>
    subst whole
    obtain ⟨_, same, chars⟩ := tabled known
    cases same
    exact encode?_of_mem_body chars mem lacking

/-! ## The write -/

/-- A write that returns has put the text, with its line ends as asked for and encoded, in place of the
entry of its target, and every other entry is as it was. One that fails leaves all as it was, and so
does every write that something stands in the way of. A feasible write returns. -/
theorem writeUnder_atomic (refused : Refusals) (fs : Files) (target : Path) (w : Wide)
    (encoding newline : String) :
    (∀ q fs', writeUnder refused target w encoding newline fs = (.ok q, fs') →
      q = target ∧ newline ∈ newlines ∧ ∃ codec content s, codecNamed fs.machine encoding = .ok codec ∧
        codec.encode (w.map (body newline)) = .ok content ∧ fs.spot .entry target = .ok s ∧
        fs'.tree.get? s.location = some (.file content) ∧ fs.tree.SameBut [s.location] fs'.tree ∧
        fs'.here = fs.here ∧ fs'.home = fs.home ∧ fs'.machine = fs.machine) ∧
    (∀ f fs', writeUnder refused target w encoding newline fs = (.error f, fs') → fs' = fs) ∧
    (Hindered fs target w encoding newline →
      ∃ f, writeUnder refused target w encoding newline fs = (.error f, fs)) ∧
    (Feasible refused fs target w encoding newline →
      ∃ fs', writeUnder refused target w encoding newline fs = (.ok target, fs')) := by
  refine ⟨fun q fs' run => ?_, fun f fs' run => ?_, fun hindered => ?_, fun free => ?_⟩
  · have policy := newline_mem_of_writeUnder run
    obtain ⟨_, failed, -⟩ | ⟨content, place, same, encoded, replaced⟩ := writeUnder_cases run
    · cases failed
    cases same
    obtain ⟨-, codec, named, bytes⟩ := contentOf_eq_ok.1 encoded
    have filled := replaced.get?
    obtain ⟨d, n, rfl, hd⟩ := replaced.parent
    obtain ⟨⟨s, leads, place⟩, -, solid, rfl⟩ := replaced
    have others := Tree.sameBut_put (e := .file content) hd solid nofun
    rw [← place] at filled others ⊢
    exact ⟨rfl, policy, codec, content, s, named, bytes, leads, filled, others, rfl, rfl, rfl⟩
  · obtain ⟨_, -, kept⟩ | ⟨_, _, returned, -⟩ := writeUnder_cases run
    · exact kept
    · cases returned
  · rcases run : writeUnder refused target w encoding newline fs with ⟨r, fs'⟩
    obtain ⟨f, rfl, rfl⟩ | ⟨content, place, rfl, encoded, replaced⟩ := writeUnder_cases run
    · exact ⟨f, rfl⟩
    · exact absurd hindered (not_hindered replaced (newline_mem_of_writeUnder run) encoded)
  · obtain ⟨content, encoded⟩ := free.encodes
    obtain ⟨s, leads, solid⟩ := free.leads
    exact writeUnder_returns free.allowed free.policy encoded leads free.named solid free.scratch

/-- A machine with a file and a link at the name of the first scratch file, whose locale has code page
1252. -/
def besideLink : Files :=
  { tree := ⟨[("a", .file []), (".a.00000000.tmp", .link "b")]⟩, machine := western }

/-- A euro sign of the locale is written, and the file stays as it is where a text has a character that
is not in the encoding or half of a surrogate pair. -/
theorem writeUnder_atomic_beside :
    (∃ fs', writeUnder (fun _ => none) ⟨.root, ["a"]⟩ (.text ['€']) "cp1252" "\n" besideLink =
        (.ok ⟨.root, ["a"]⟩, fs') ∧
      fs'.tree.get? ["a"] = some (.file [0x80]) ∧ besideLink.tree.SameBut [["a"]] fs'.tree) ∧
    (∃ f, writeUnder (fun _ => none) ⟨.root, ["a"]⟩ (.text ['x', 'ä']) "ascii" "\n" besideLink =
      (.error f, besideLink)) ∧
    ∃ f, writeUnder (fun _ => none) ⟨.root, ["a"]⟩ (.torn ['x'] 0 (.text [])) "utf-8" "\n" besideLink =
      (.error f, besideLink) := by
  have encoded : windowsEncode (.text ['€']) = .ok [0x80] := by decide +kernel
  have free : Feasible (fun _ => none) besideLink ⟨.root, ["a"]⟩ (.text ['€']) "cp1252" "\n" :=
    { allowed := fun _ _ => rfl
      policy := by decide
      encodes := ⟨_, contentOf_eq_ok.2 ⟨rfl, _, rfl, encoded⟩⟩
      leads := ⟨_, rfl, fun _ => nofun⟩
      named := by decide
      scratch := fun i hi => match i, hi with
        | 0, _ => ⟨_, rfl⟩
        | 1, _ => ⟨_, rfl⟩
        | 2, _ => ⟨_, rfl⟩ }
  refine ⟨?_, (writeUnder_atomic _ _ _ _ _ _).2.2.1 ?_, (writeUnder_atomic _ _ _ _ _ _).2.2.1 ?_⟩
  · obtain ⟨fs', run⟩ := (writeUnder_atomic _ _ _ _ _ _).2.2.2 free
    obtain ⟨-, -, codec, content, s, named, bytes, leads, filled, others, -⟩ :=
      (writeUnder_atomic _ _ _ _ _ _).1 _ _ run
    cases named
    cases encoded.symm.trans bytes
    cases leads
    exact ⟨fs', run, filled, others⟩
  · exact .character (e := .ascii) (c := 'ä') rfl rfl (by decide) rfl
  · exact .half (e := .utf8) rfl rfl

end Source

end JavaStudio
