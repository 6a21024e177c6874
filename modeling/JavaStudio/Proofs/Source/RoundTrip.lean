import JavaStudio.Proofs.Files.Found
import JavaStudio.Proofs.Files.Names
import JavaStudio.Proofs.Source.Detection
import JavaStudio.Proofs.Source.Write

/-!
# What was written is read

A source file that was written in an encoding is read back in it, and without its name wherever
the content shows the encoding: then the text is the one that was written, up to the spelling of its
line ends. In the file itself every line end is the one that was asked for.

* `contentOf_textOf`: the content of a file holds the text, whatever the encoding.
* `textOf_of_encode?`: what three of the encodings write shows which it is.
* `written_is_read_back`: the same for a file, if its path is direct.
* `written_astray`: a file that was written and cannot be read under its path.
-/

namespace JavaStudio

/-! ## Line ends -/

namespace Text

variable {newline t : Text}

/-- The carriage returns and line feeds of a text belong to the line ends between its lines. -/
def BrokenBy (newline t : Text) : Prop :=
  ∃ lines : List Text, (∀ l ∈ lines, '\r' ∉ l ∧ '\n' ∉ l) ∧ t = join newline lines

theorem splitAt_ne_nil (cut : Char → Bool) (t : Text) : splitAt cut t ≠ [] := by
  rcases t with _ | ⟨c, t⟩
  · exact List.cons_ne_nil _ _
  · rw [splitAt]
    split
    · exact List.cons_ne_nil _ _
    · split <;> exact List.cons_ne_nil _ _

theorem join_cons_of_ne_nil {ls : List Text} (h : ls ≠ []) (l : Text) :
    join newline (l :: ls) = l ++ newline ++ join newline ls := by
  cases ls with
  | nil => exact absurd rfl h
  | cons l' ls => rfl

theorem join_cons_cons (c : Char) (l : Text) (ls : List Text) :
    join newline ((c :: l) :: ls) = c :: join newline (l :: ls) := by
  cases ls <;> rfl

theorem withNewline_eq_join (newline t : Text) :
    withNewline newline t = join newline (splitAt (· == '\n') t) := by
  induction t with
  | nil => rfl
  | cons c t ih =>
    rw [withNewline, splitAt]
    by_cases hc : c = '\n'
    · rw [if_pos hc, if_pos (by simp [hc]), join_cons_of_ne_nil (splitAt_ne_nil _ t), ih]
      rfl
    · rw [if_neg hc, if_neg (by simp [hc]), ih]
      rcases hs : splitAt (· == '\n') t with _ | ⟨l, ls⟩
      · exact absurd hs (splitAt_ne_nil _ t)
      · exact (join_cons_cons c l ls).symm

theorem brokenBy_withNewline (h : '\r' ∉ t) : BrokenBy newline (withNewline newline t) := by
  refine ⟨splitAt (· == '\n') t, fun l hl => ⟨fun hr => ?_, fun hn => ?_⟩,
    withNewline_eq_join newline t⟩
  · exact h (of_mem_splitAt t l hl _ hr).1
  · have uncut := (of_mem_splitAt t l hl _ hn).2
    cases uncut

theorem withNewline_lineFeed (t : Text) : withNewline ['\n'] t = t := by
  induction t with
  | nil => rfl
  | cons c t ih =>
    rw [withNewline, ih]
    by_cases hc : c = '\n'
    · rw [if_pos hc, hc]
      rfl
    · rw [if_neg hc]
      rfl

theorem unixNewlines_withNewline (h : '\r' ∉ t) :
    unixNewlines (withNewline ['\r', '\n'] t) = t := by
  induction t with
  | nil => rfl
  | cons c t ih =>
    simp only [List.mem_cons, not_or] at h
    rw [withNewline]
    by_cases hc : c = '\n'
    · rw [if_pos hc, List.cons_append, List.singleton_append, unixNewlines, ih h.2, hc]
    · rw [if_neg hc, List.singleton_append, unixNewlines, ih h.2, if_neg (Ne.symm h.1)]
      exact fun _ hr _ => h.1 hr.symm

end Text

namespace Source

open Encoding

variable {fs fs' : Files} {p q : Path} {name newline : String} {e : Encoding} {t : Text}
  {bs : Bytes} {refused : Refusals} {m : Machine} {w : Wide}

theorem body_eq (newline : String) (t : Text) :
    body newline t = Text.withNewline newline.toList (Text.unixNewlines t) := by
  unfold body
  split
  · rename_i hn
    rw [hn]
    exact (Text.withNewline_lineFeed _).symm
  · rfl

theorem unixNewlines_body (h : newline ∈ newlines) (t : Text) :
    Text.unixNewlines (body newline t) = Text.unixNewlines t := by
  have unix := Text.return_not_mem_unixNewlines t
  simp only [newlines, List.mem_cons, List.not_mem_nil, or_false] at h
  rcases h with rfl | rfl
  · exact Text.unixNewlines_of_not_mem unix
  · exact Text.unixNewlines_withNewline unix

/-- The line ends of a text can be spelled in any way before its mark is dropped. -/
theorem unixNewlines_dropMark_body (h : newline ∈ newlines) (unmarked : t.head? ≠ some markChar) :
    Text.unixNewlines (dropMark (body newline t)) = Text.unixNewlines t := by
  have whole : dropMark t = t := by
    rcases t with _ | ⟨c, t⟩
    · rfl
    · exact if_neg fun hc => unmarked (by rw [hc, List.head?_cons])
  rw [unixNewlines_dropMark, unixNewlines_body h, ← unixNewlines_dropMark, whole]

/-! ## The content of a file -/

theorem encode?_of_contentOf (named : ofName? name = some e)
    (h : contentOf m name newline (.text t) = .ok bs) :
    checkName name = .ok () ∧ e.encode? (body newline t) = some bs := by
  have checked := (contentOf_eq_ok.1 h).1
  rw [contentOf_named named checked, Wide.map] at h
  obtain ⟨_, same, encoded⟩ := codec_encode_eq_ok.1 h
  cases same
  exact ⟨checked, encoded⟩

theorem decode_named (named : ofName? name = some e) (checked : checkName name = .ok ())
    (h : e.decode? bs = some t) : decode m (some name) bs = .ok t := by
  have hname : name ≠ "" := by
    rintro rfl
    cases named
  have spelled : decode m (some name) bs = decodeAs m name bs := by
    unfold decode
    split
    · contradiction
    · rename_i heq
      cases heq
      exact absurd rfl hname
    · rename_i heq
      cases heq
      rfl
  rw [spelled, decodeAs_named named checked, decode_of_decode? h]

/-- The content of a file holds the text that was written, in every encoding. -/
theorem contentOf_textOf (named : ofName? name = some e)
    (h : contentOf m name newline (.text t) = .ok bs) :
    textOf m (some name) bs = .ok (Text.unixNewlines (dropMark (body newline t))) := by
  obtain ⟨checked, encoded⟩ := encode?_of_contentOf named h
  rw [textOf, decode_named named checked (decode?_of_encode? encoded)]
  rfl

theorem textOf_of_decode (h : decode m none bs = .ok t) :
    textOf m none bs = .ok (Text.unixNewlines (dropMark t)) := by
  rw [textOf, h]
  rfl

/-- What three of the encodings write shows which it is. -/
theorem textOf_of_encode? (m : Machine) (he : e ∈ [Encoding.utf8, .utf8Marked, .utf16])
    (unmarked : Text.unixNewlines (dropMark t) = Text.unixNewlines t) (h : e.encode? t = some bs) :
    textOf m none bs = .ok (Text.unixNewlines t) := by
  simp only [List.mem_cons, List.not_mem_nil, or_false] at he
  rcases he with rfl | rfl | rfl <;> cases h
  · rw [textOf_encode, unixNewlines_dropMark, unmarked, ← unixNewlines_dropMark, unmarked]
  · have decoded : decode m none (mark8 ++ Utf8.encode t) = .ok t := by
      rw [decode_mark8]
      exact decode_of_decode? (Utf8.decode?_encode t)
    rw [textOf_of_decode decoded, unmarked]
  · have decoded := decode?_markLittle (Utf16.encode .little t)
    rw [Utf16.decode?_encode, Option.map_some] at decoded
    exact textOf_of_decode ((decode_markLittle m _).trans (decode_of_decode? decoded))

/-! ## The file -/

/-- A write that succeeds was asked for line ends that there are. -/
theorem newline_mem_of_writeUnder (h : writeUnder refused p w name newline fs = (.ok q, fs')) :
    newline ∈ newlines := by
  unfold writeUnder at h
  split at h
  · rename_i supported
    exact List.contains_iff_mem.1 supported
  · cases h

/-- A source file that was written is read as the text that was written, up to the spelling of its
line ends: in its encoding, and without the name of one where it shows that. All line ends of the
file are those that were asked for. -/
theorem written_is_read_back (named : ofName? name = some e) (unmarked : t.head? ≠ some markChar)
    (written : writeUnder refused p (.text t) name newline fs = (.ok q, fs')) (direct : fs.Direct p) :
    read fs' p (some name) = .ok (Text.unixNewlines t) ∧
      (e ∈ [Encoding.utf8, .utf8Marked, .utf16] → read fs' p none = .ok (Text.unixNewlines t)) ∧
      ∃ content decoded, fs'.readBytes p = .ok content ∧ e.decode content = .ok decoded ∧
        Text.BrokenBy newline.toList decoded := by
  have supported := newline_mem_of_writeUnder written
  rcases writeUnder_cases written with ⟨_, failed, -⟩ | ⟨content, place, -, encoded, replaced⟩
  · cases failed
  obtain ⟨⟨s, leads, rfl⟩, -, solid, rfl⟩ := replaced
  have stored := Files.readBytes_put leads solid direct content
  have whole := unixNewlines_dropMark_body supported unmarked
  have chars := (encode?_of_contentOf named encoded).2
  refine ⟨?_, fun he => ?_, content, body newline t, stored, ?_, ?_⟩
  · rw [read, stored]
    exact (contentOf_textOf named encoded).trans (by rw [whole])
  · rw [read, stored, ← unixNewlines_body supported t]
    exact textOf_of_encode? _ he (by rw [whole, unixNewlines_body supported]) chars
  · exact decode_of_decode? (decode?_of_encode? chars)
  · rw [body_eq]
    exact Text.brokenBy_withNewline (Text.return_not_mem_unixNewlines t)

/-- A text with both kinds of line ends is written in UTF-16 where there is no file yet. -/
theorem written_is_read_back_utf16 : ∃ fs',
    writeUnder (fun _ => none) ⟨.root, ["a"]⟩ (.text ['x', '\r', 'y', '\n']) "utf-16" "\r\n" { tree := ⟨[]⟩ } =
      (.ok ⟨.root, ["a"]⟩, fs') ∧
    read fs' ⟨.root, ["a"]⟩ (some "utf-16") = .ok ['x', '\n', 'y', '\n'] ∧
    read fs' ⟨.root, ["a"]⟩ none = .ok ['x', '\n', 'y', '\n'] := by
  have run : ∃ fs', writeUnder (fun _ => none) ⟨.root, ["a"]⟩ (.text ['x', '\r', 'y', '\n']) "utf-16" "\r\n"
      { tree := ⟨[]⟩ } = (.ok ⟨.root, ["a"]⟩, fs') := ⟨_, rfl⟩
  obtain ⟨fs', run⟩ := run
  have direct : Files.Direct { tree := ⟨[]⟩ } ⟨.root, ["a"]⟩ :=
    Files.direct_of_unlinked fun _ _ h => by cases h
  obtain ⟨named, shown, -⟩ := written_is_read_back (e := .utf16) rfl (by decide) run direct
  exact ⟨fs', run, named, shown (by decide)⟩

/-- A path that goes through a link to the same link: the text takes the place of the link, and the
path leads nowhere any more. -/
theorem written_astray : ∃ fs',
    writeUnder (fun _ => none) ⟨.here, ["l", "l"]⟩ (.text ['x']) "utf-8" "\n" { tree := ⟨[("l", .link ".")]⟩ } =
      (.ok ⟨.here, ["l", "l"]⟩, fs') ∧
    read fs' ⟨.here, ["l", "l"]⟩ (some "utf-8") = .error (.file .notDirectory "l/l") ∧
    read fs' ⟨.here, ["l"]⟩ (some "utf-8") = .ok ['x'] :=
  ⟨_, rfl, rfl, rfl⟩

end Source

end JavaStudio
