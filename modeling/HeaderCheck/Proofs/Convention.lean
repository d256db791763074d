/-
# A fix keeps the convention of its text

The convention of a text is read off its first line feed, and a fix may put
one in front of that.  What it puts there is written in the convention of the
text, so all that can go wrong is a carriage return just before a line feed
that was written bare (`LineEnding.detect_mark`).  Neither a comment that
something follows nor an opening that something follows ends in a carriage
return, and in front of the first line feed of a header stands its opening
mark.

That leaves one kind of text: an interpreter line that was never ended and
whose last character is a carriage return (`Text.IsReturnEnded`).  The line
feed that an inserted header starts with joins it, and the text that was read
as bare is read in the other convention from then on.  Any other text keeps
its convention through all passes, since no text has an open interpreter line
any more when it has been changed.
-/
import HeaderCheck.Proofs.Pairing

namespace HeaderCheck

/-- The text is an interpreter line without a line feed, behind a byte-order
mark or not, and ends in a carriage return. -/
def Text.IsReturnEnded (t : Text) : Prop :=
  ∃ line, '\n' ∉ line ∧ t.splitMark.2 = '#' :: '!' :: line ++ ['\r']

namespace LineEnding

/-- The first line break of a text tells the convention it is written in, if
no carriage return stands before it. -/
theorem detect_mark (ending : LineEnding) {s : Text} (hs : '\n' ∉ s)
    (hlast : s.getLast? ≠ some '\r') (t : Text) : detect (s ++ (ending.mark ++ t)) = ending := by
  cases ending with
  | crlf => exact detect_eq_crlf hs t
  | lf =>
      rcases List.eq_nil_or_concat s with rfl | ⟨a, c, rfl⟩
      · rfl
      · rw [List.concat_eq_append] at hs hlast ⊢
        have hc : c ≠ '\r' := by simpa using hlast
        have hfeed : c ≠ '\n' := fun h => hs (by simp [h])
        rw [List.append_assoc, detect_append_of_not_mem (fun h => hs (List.mem_append_left _ h))
          (by simpa using hfeed)]
        show detect (c :: '\n' :: t) = lf
        rw [detect.eq_4 _ _ hfeed fun _ h => absurd h hc]
        rfl

end LineEnding

/-! ## Texts that end in a carriage return -/

namespace Text

variable {front rest : Text}

/-- The opening of such a text is the whole of it. -/
theorem IsReturnEnded.opening_eq {t : Text} (h : t.IsReturnEnded) :
    t.opening = t ∧ t.hasOpenLine = true ∧ t.getLast? = some '\r' := by
  obtain ⟨line, hn, hline⟩ := h
  have hn' : '\n' ∉ line ++ ['\r'] := by simpa using hn
  have hsplit : t.splitMark.2.splitInterpreter.1 = t.splitMark.2 := by
    rw [hline, List.cons_append, List.cons_append, splitInterpreter, splitLine_unended hn']
  refine ⟨?_, ?_, ?_⟩
  · rw [opening, hsplit, splitMark_append]
  · rw [hasOpenLine, hline, List.getLast?_concat]
    rfl
  · rw [← t.splitMark_append, hline, ← List.append_assoc, List.getLast?_concat]

theorem IsReturnEnded.feed_not_mem {t : Text} (h : t.IsReturnEnded) : '\n' ∉ t := by
  obtain ⟨line, hn, hline⟩ := h
  rw [← t.splitMark_append, hline]
  have hm := isMark_splitMark t
  generalize t.splitMark.1 = mark at hm
  cases hm <;> simp [hn, byteOrderMark]

/-- They are the texts whose opening stops in the middle of a line, behind a
carriage return. -/
theorem isReturnEnded_iff (h : IsFront front rest) :
    (front ++ rest).IsReturnEnded ↔ front.hasOpenLine = true ∧ front.getLast? = some '\r' := by
  constructor
  · intro hr
    obtain ⟨hopen, hl, hlast⟩ := hr.opening_eq
    rw [h.opening_eq] at hopen
    rw [← hopen] at hl hlast
    exact ⟨hl, hlast⟩
  · rintro ⟨hl, hlast⟩
    obtain ⟨mark, line, rfl, hm, hi⟩ := h
    obtain ⟨hne, -, rfl⟩ := (hasOpenLine_iff hm hi).mp hl
    rw [List.append_nil] at hm ⊢
    cases hi with
    | absent => exact absurd rfl hne
    | ended =>
        rw [← List.append_assoc, List.getLast?_concat] at hlast
        exact absurd hlast (by decide)
    | @unended line hn =>
        rw [List.getLast?_append_of_ne_nil _ hne] at hlast
        obtain ⟨start, hstart⟩ := List.getLast?_eq_some_iff.mp hlast
        -- the mark of the line is two characters, neither of which is the last one
        obtain ⟨body, rfl⟩ : ∃ body, line = body ++ ['\r'] := by
          rcases List.eq_nil_or_concat line with rfl | ⟨body, c, rfl⟩
          · simp at hlast
          · rw [List.concat_eq_append] at hlast ⊢
            rw [← List.cons_append, ← List.cons_append, List.getLast?_concat] at hlast
            exact ⟨body, by rw [Option.some.inj hlast]⟩
        refine ⟨body, fun hb => hn (List.mem_append_left _ hb), ?_⟩
        rw [splitMark_eq hm]
        rfl

end Text

/-! ## The edits of a pass -/

section Edits

variable {r : Rule} {a : Anatomy} {front rest t u template : Text}

/-- A comment that lacks line breaks gets at least one. -/
theorem Anatomy.exists_rest_spaced (hs : ¬ a.Spaced) :
    ∃ w, a.spaced.rest = (LineEnding.detect a.text).mark ++ w := by
  have hle : a.breaks ≤ breaksAfterHeader := Text.leadingBreaks_le _ _
  have hne : a.breaks ≠ breaksAfterHeader := fun e => hs (Or.inr e)
  obtain ⟨n, hn⟩ : ∃ n, breaksAfterHeader - a.breaks = n + 1 :=
    ⟨breaksAfterHeader - a.breaks - 1, by omega⟩
  refine ⟨(LineEnding.detect a.text).mark.times n ++ a.rest, ?_⟩
  rw [spaced, hn, Text.times_succ, List.append_assoc]

/-- Line breaks put behind a comment are the first ones of a text or they
are not; either way its convention stays. -/
theorem Anatomy.detect_spaced (h : a.Sound) (hs : ¬ a.Spaced) :
    LineEnding.detect a.spaced.text = LineEnding.detect a.text := by
  have hrest : a.rest ≠ [] := fun hnil => hs (Or.inl (by rw [hnil]; rfl))
  have hlast : (a.front ++ a.gap ++ a.comment.text).getLast? ≠ some '\r' := by
    obtain ⟨w, hw⟩ := a.comment.text_eq_cons
    rw [List.getLast?_append_of_ne_nil _ (by simp [hw])]
    exact h.fits.getLast?_text.resolve_left hrest
  have hnew := a.spaced.text_eq
  by_cases hfeed : '\n' ∈ a.front ++ a.gap ++ a.comment.text
  · rw [hnew, a.text_eq, LineEnding.detect_append_of_mem hfeed]
    exact LineEnding.detect_append_of_mem hfeed _
  · obtain ⟨w, hw⟩ := exists_rest_spaced hs
    rw [hnew, hw]
    exact LineEnding.detect_mark _ hfeed hlast _

/-- In front of the first line feed of an inserted header stands its opening
mark, if it does not start with one. -/
theorem detect_inserted_closed (hl : front.hasOpenLine = false) :
    LineEnding.detect (inserted front rest template).text = LineEnding.detect (front ++ rest) := by
  obtain ⟨w, hw⟩ := header_text_append template (LineEnding.detect (front ++ rest))
    ((LineEnding.detect (front ++ rest)).mark.times breaksAfterHeader ++ rest)
  have hnew : (inserted front rest template).text =
      front ++ '/' :: '*' :: ((LineEnding.detect (front ++ rest)).mark ++ w) := by
    rw [← hw]
    simp [Anatomy.text, inserted, insertionLead, hl]
  rw [hnew, LineEnding.detect_replace]

/-- A header behind an open line starts with a bare line feed. -/
theorem detect_inserted_open (hb : Bare front rest) (hl : front.hasOpenLine = true) :
    LineEnding.detect (inserted front rest template).text = LineEnding.detect (front ++ rest) ↔
      front.getLast? ≠ some '\r' := by
  obtain ⟨rfl, hn, -⟩ := hb.front.endLine hl
  have hlf : LineEnding.detect (front ++ []) = .lf := by
    rw [List.append_nil]
    exact LineEnding.detect_of_not_mem hn
  obtain ⟨w, hnew⟩ : ∃ w, (inserted front [] template).text = front ++ ('\n' :: w) := by
    simp only [Anatomy.text, inserted, insertionLead, hl, hlf, if_true, List.append_assoc]
    exact ⟨_, rfl⟩
  rw [hlf, hnew]
  constructor
  · intro hdetect hlast
    obtain ⟨start, rfl⟩ := List.getLast?_eq_some_iff.mp hlast
    rw [List.append_assoc] at hdetect
    have hcrlf := LineEnding.detect_eq_crlf (fun h => hn (List.mem_append_left _ h)) w
    exact LineEnding.noConfusion (hcrlf.symm.trans hdetect)
  · intro hlast
    exact LineEnding.detect_mark .lf hn hlast w

/-- The edit that a pass makes keeps the convention, but for a text that ends
in a carriage return. -/
theorem detect_pass (h : r.pass t = .changed u) :
    LineEnding.detect u = LineEnding.detect t ↔ ¬ t.IsReturnEnded := by
  have hsound : ∀ a : Anatomy, a.Sound → ¬ a.text.IsReturnEnded := by
    intro a ha hr
    have hl := ((Text.isReturnEnded_iff ha.front).mp hr).1
    rw [ha.hasOpenLine_front] at hl
    exact Bool.noConfusion hl
  rcases cases_of_pass h with ⟨a, ha, hs, rfl, rfl⟩ | ⟨a, τ, ha, -, rfl, rfl⟩ |
    ⟨front, rest, τ, hb, -, rfl, rfl⟩
  · exact iff_of_true (Anatomy.detect_spaced ha hs) (hsound a ha)
  · exact iff_of_true (a.detect_withHeader τ) (hsound a ha)
  · rw [Text.isReturnEnded_iff hb.front]
    cases hl : front.hasOpenLine with
    | true =>
        rw [detect_inserted_open hb hl]
        simp
    | false => simp [detect_inserted_closed hl]

/-- A text that a pass has changed has a line feed. -/
theorem feed_mem_pass (h : r.pass t = .changed u) : '\n' ∈ u := by
  have hmark : ∀ ending : LineEnding, '\n' ∈ ending.mark := by
    intro ending
    cases ending <;> decide
  have hheader : ∀ (τ : Text) (ending : LineEnding) (w : Text),
      '\n' ∈ (header τ ending).text ++ w := by
    intro τ ending w
    obtain ⟨v, hv⟩ := header_text_append τ ending w
    rw [hv]
    simp [hmark]
  rcases cases_of_pass h with ⟨a, -, hs, -, rfl⟩ | ⟨a, τ, -, -, -, rfl⟩ |
    ⟨front, rest, τ, -, -, -, rfl⟩
  · obtain ⟨w, hw⟩ := Anatomy.exists_rest_spaced hs
    rw [Anatomy.text_eq, hw]
    simp [hmark]
  · exact List.mem_append_right _ (List.mem_append_right _ (hheader τ _ _))
  · exact List.mem_append_right _ (List.mem_append_right _ (hheader τ _ _))

/-- Passes keep the convention from the first one on. -/
theorem detect_repeatPass (n : Nat) (h : ¬ t.IsReturnEnded) :
    LineEnding.detect (r.repeatPass n t) = LineEnding.detect t := by
  induction n generalizing t with
  | zero => rfl
  | succ n ih =>
      rw [Rule.repeatPass]
      cases hpass : r.pass t with
      | clean => rfl
      | stuck => rfl
      | changed u =>
          have hu : ¬ u.IsReturnEnded := fun hr => hr.feed_not_mem (feed_mem_pass hpass)
          exact (ih hu).trans ((detect_pass hpass).mpr h)

/-- **A fix keeps the convention of its text, unless that is an interpreter
line that ends in a carriage return.**  There it does not; and from any other
text all passes write in one convention. -/
theorem fix_keeps_convention (r : Rule) (t : Text) :
    (∀ d f, r.check t = some d → d.fix = some f →
      ∃ u, f.edit? t = some u ∧
        (LineEnding.detect u = LineEnding.detect t ↔ ¬ t.IsReturnEnded)) ∧
    (¬ t.IsReturnEnded → ∀ n, LineEnding.detect (r.repeatPass n t) = LineEnding.detect t) := by
  refine ⟨fun d f hd hf => ?_, fun h n => detect_repeatPass n h⟩
  obtain ⟨u, he, -⟩ := (applies_of_check hd hf).edit
  exact ⟨u, he, detect_pass (pass_eq_changed_iff.mpr ⟨d, f, hd, hf, he⟩)⟩

/-- The line feed that the header of an interpreter line starts with makes a
pair of the carriage return before it. -/
theorem not_keepsConvention_interpreter :
    ¬ ∀ (r : Rule) (t : Text) (d : Diagnostic) (f : Fix) (u : Text),
      r.check t = some d → d.fix = some f → f.edit? t = some u →
        LineEnding.detect u = LineEnding.detect t := by
  intro h
  have hkept := h (yearRule "2017".toList "(c) 2017".toList) "#!/bin/sh\r".toList
    (.at .missingHeader 10 (some ⟨10, 10, "\n/*\n * (c) 2017\n */\n\n".toList⟩))
    ⟨10, 10, "\n/*\n * (c) 2017\n */\n\n".toList⟩
    "#!/bin/sh\r\n/*\n * (c) 2017\n */\n\n".toList (by decide) rfl (by decide)
  exact absurd hkept (by decide)

end Edits

end HeaderCheck
