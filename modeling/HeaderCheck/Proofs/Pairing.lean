/-
# A text keeps its carriage returns

In the convention with carriage returns every line feed is one half of a
pair.  What a fix writes into a text of this convention is paired, whatever
line endings its template has: the replacement is the conversion of the one
for bare line feeds, and a converted text is paired (`isPaired_crlf`).

That the fixed text is paired as well depends on the places where it is cut.
A cut before a line feed takes a pair apart, and no fix makes one: in front
of every cut stands the end of a comment, the end of an opening or nothing,
and none of them is a carriage return (`Anatomy.Sound.head?_rest`,
`Bare.head?_rest`).  So a pass keeps both that there is a line feed and that
all of them are paired (`isCrlf_pass`), and with that the next pass writes
in the same convention.
-/
import HeaderCheck.Proofs.Convergence
import HeaderCheck.Proofs.Conversion
import HeaderCheck.Proofs.Cuts

namespace HeaderCheck

namespace Text

/-! ## Paired line feeds -/

/-- Every line feed follows a carriage return. -/
def IsPaired (t : Text) : Prop :=
  ∀ before after, t = before ++ '\n' :: after → before.getLast? = some '\r'

variable {a b c new s t : Text}

theorem isPaired_of_not_mem (h : '\n' ∉ t) : t.IsPaired := by
  rintro before after rfl
  exact absurd (List.mem_append_right before List.mem_cons_self) h

theorem IsPaired.append (hs : s.IsPaired) (ht : t.IsPaired) : (s ++ t).IsPaired := by
  intro before after h
  rcases List.append_eq_append_iff.mp h with ⟨x, rfl, hx⟩ | ⟨x, rfl, hx⟩
  · -- the line feed lies in `t`, behind `x`
    have hlast : x.getLast? = some '\r' := ht x after hx
    rw [List.getLast?_append, hlast, Option.some_or]
  · cases x with
    | nil => exact absurd (ht [] after hx.symm) (by simp)
    | cons d x =>
        obtain ⟨rfl, -⟩ := List.cons.inj hx
        exact hs before x rfl

theorem IsPaired.left (h : (s ++ t).IsPaired) : s.IsPaired := by
  rintro before after rfl
  exact h before (after ++ t) (by simp)

/-- A part of a paired text is paired if it does not begin with the second
half of a pair. -/
theorem IsPaired.right (h : (s ++ t).IsPaired) (ht : t.head? ≠ some '\n') : t.IsPaired := by
  rintro before after rfl
  have hlast := h (s ++ before) after (by rw [List.append_assoc])
  cases before with
  | nil => exact absurd rfl ht
  | cons d before => rwa [List.getLast?_append_of_ne_nil _ (List.cons_ne_nil d before)] at hlast

/-- A cut behind anything but a carriage return takes no pair apart. -/
theorem IsPaired.head?_ne (h : (s ++ t).IsPaired) (hs : s.getLast? ≠ some '\r') :
    t.head? ≠ some '\n' := by
  intro ht
  obtain ⟨u, rfl⟩ := List.head?_eq_some_iff.mp ht
  exact hs (h s u rfl)

theorem isPaired_crlf (t : Text) : t.crlf.IsPaired := by
  induction t with
  | nil => exact isPaired_of_not_mem List.not_mem_nil
  | cons d t ih =>
      by_cases hd : d = '\n'
      · subst hd
        have hpair : IsPaired ['\r', '\n'] := by
          rintro (_ | ⟨x, _ | ⟨y, before⟩⟩) after h
          · simp at h
          · obtain ⟨rfl, -⟩ := List.cons.inj h
            rfl
          · simp at h
        exact hpair.append ih
      · have hone : IsPaired [d] := isPaired_of_not_mem (by simpa using Ne.symm hd)
        rw [crlf_cons_ne hd]
        exact hone.append ih

/-- A text whose lines end in pairs. -/
structure IsCrlf (t : Text) : Prop where
  feed : '\n' ∈ t
  paired : t.IsPaired

/-- An edit keeps to the pairs if it writes pairs and takes none apart, and
writes one if it takes something away. -/
theorem IsCrlf.edit (h : (a ++ b ++ c).IsCrlf) (hc : c.head? ≠ some '\n') (hp : new.IsPaired)
    (hn : '\n' ∈ new ∨ b = []) : (a ++ new ++ c).IsCrlf where
  feed := feed_mem_edit h.feed hn
  paired := (h.paired.left.left.append hp).append (h.paired.right hc)

end Text

namespace LineEnding

/-- The first line feed tells the convention. -/
theorem detect_eq_crlf {before : Text} (h : '\n' ∉ before) (after : Text) :
    detect (before ++ '\r' :: '\n' :: after) = crlf := by
  rw [detect_append_of_not_mem h (by simp)]
  rfl

theorem detect_of_isCrlf {t : Text} (h : t.IsCrlf) : detect t = crlf := by
  obtain ⟨line, rest, rfl, hline⟩ := List.eq_append_cons_of_mem h.feed
  obtain ⟨before, rfl⟩ := List.getLast?_eq_some_iff.mp (h.paired line rest rfl)
  rw [List.append_assoc]
  exact detect_eq_crlf (fun hn => hline (List.mem_append_left _ hn)) rest

end LineEnding

/-! ## What a fix writes -/

theorem isPaired_times (n : Nat) : (LineEnding.crlf.mark.times n).IsPaired := by
  rw [← LineEnding.crlf_times]
  exact Text.isPaired_crlf _

/-- The rendered header has the line endings of its convention only,
whichever the template has. -/
theorem isPaired_renderBlock (template : Text) (n : Nat) :
    (renderBlock template .crlf n).IsPaired := by
  rw [← renderBlock_crlf]
  exact Text.isPaired_crlf _

theorem isPaired_insertionLead {front rest : Text}
    (h : LineEnding.detect (front ++ rest) = .crlf) : (insertionLead front rest).IsPaired := by
  rw [insertionLead, h]
  split
  · exact Text.isPaired_crlf ['\n']
  · exact Text.isPaired_of_not_mem List.not_mem_nil

section Fixes

variable {r : Rule} {a : Anatomy} {front rest t : Text}

theorem isPaired_replacement (ht : LineEnding.detect t = .crlf) {d : Diagnostic} {f : Fix}
    (hd : r.check t = some d) (hf : d.fix = some f) : f.replacement.IsPaired := by
  cases reports_of_check hd with
  | @unspaced a =>
      obtain rfl := Option.some.inj hf
      show ((LineEnding.detect a.text).mark.times _).IsPaired
      rw [ht]
      exact isPaired_times _
  | @mismatched a =>
      obtain ⟨τ, -, rfl⟩ := Option.map_eq_some_iff.mp hf
      show (renderBlock τ (LineEnding.detect a.text) 0).IsPaired
      rw [ht]
      exact isPaired_renderBlock τ 0
  | @missing front rest =>
      obtain ⟨τ, -, rfl⟩ := Option.map_eq_some_iff.mp hf
      show (insertionLead front rest ++
        renderBlock τ (LineEnding.detect (front ++ rest)) breaksAfterHeader).IsPaired
      rw [ht]
      exact (isPaired_insertionLead ht).append (isPaired_renderBlock τ breaksAfterHeader)

/-! ## Where a fix cuts -/

/-- No comment that something follows ends in a carriage return. -/
theorem Written.Fits.getLast?_text {w : Written} (h : w.Fits rest) :
    rest = [] ∨ w.text.getLast? ≠ some '\r' := by
  cases w with
  | line b =>
      refine Or.inr fun hlast => ?_
      have hmem : '\r' ∈ (Written.line b).text := List.mem_of_getLast? hlast
      have hb : '\r' ∈ b := by simpa [text, opener, body, closer] using hmem
      exact absurd (h.1 '\r' hb) (by decide)
  | closed b =>
      refine Or.inr ?_
      have htext : (Written.closed b).text = (['/', '*'] ++ b ++ ['*']) ++ ['/'] := by
        simp [text, opener, body, closer, closingMark]
      rw [htext, List.getLast?_concat]
      decide
  | unclosed b => exact Or.inl h.2

theorem Anatomy.Sound.head?_rest (h : a.Sound) (ht : a.text.IsPaired) :
    a.rest.head? ≠ some '\n' := by
  rcases h.fits.getLast?_text with hrest | hlast
  · simp [hrest]
  · rw [a.text_eq, List.append_assoc] at ht
    obtain ⟨u, hu⟩ := a.comment.text_eq_cons
    have hne : a.comment.text ≠ [] := by simp [hu]
    refine (ht.right ?_).head?_ne hlast
    rw [hu]
    simp

/-- Nor does an opening that something follows. -/
theorem Text.IsFront.getLast?_front (h : IsFront front rest) :
    rest = [] ∨ front.getLast? ≠ some '\r' := by
  obtain ⟨mark, line, rfl, hm, hi⟩ := h
  cases hi with
  | absent =>
      refine Or.inr ?_
      cases hm <;> simp [byteOrderMark]
  | ended =>
      refine Or.inr ?_
      rw [← List.append_assoc, List.getLast?_concat]
      decide
  | unended => exact Or.inl rfl

theorem Bare.head?_rest (h : Bare front rest) (ht : (front ++ rest).IsPaired) :
    rest.head? ≠ some '\n' := by
  rcases h.front.getLast?_front with rfl | hlast
  · simp
  · exact ht.head?_ne hlast

/-! ## The passes -/

namespace Anatomy

theorem isCrlf_spaced (h : a.Sound) (ht : a.text.IsCrlf) : a.spaced.text.IsCrlf := by
  have htext := ht
  rw [a.text_eq, ← List.append_nil (a.front ++ a.gap ++ a.comment.text)] at htext
  rw [text_eq, spaced, LineEnding.detect_of_isCrlf ht, ← List.append_assoc]
  exact htext.edit (h.head?_rest ht.paired) (isPaired_times _) (Or.inr rfl)

theorem isCrlf_withHeader (h : a.Sound) (ht : a.text.IsCrlf) (template : Text) :
    (a.withHeader template).text.IsCrlf := by
  have htext := ht
  have hnew : (header template .crlf).text.IsPaired := by
    rw [← renderBlock_zero]
    exact isPaired_renderBlock template 0
  have hfeed : '\n' ∈ (header template .crlf).text := by
    obtain ⟨u, hu⟩ := header_text_append template .crlf []
    rw [List.append_nil] at hu
    rw [hu]
    simp [LineEnding.mark]
  rw [a.text_eq] at htext
  rw [text_eq, withHeader, LineEnding.detect_of_isCrlf ht]
  exact htext.edit (h.head?_rest ht.paired) hnew (Or.inl hfeed)

end Anatomy

theorem Bare.isCrlf_inserted (hb : Bare front rest) (ht : (front ++ rest).IsCrlf)
    (template : Text) : (inserted front rest template).text.IsCrlf := by
  have hdetect := LineEnding.detect_of_isCrlf ht
  have htext : (inserted front rest template).text =
      front ++ (insertionLead front rest ++ renderBlock template .crlf breaksAfterHeader) ++
        rest := by
    simp only [Anatomy.text, inserted, hdetect, renderBlock_eq, List.append_assoc,
      List.nil_append]
  have hnew := (isPaired_insertionLead hdetect).append
    (isPaired_renderBlock template breaksAfterHeader)
  rw [← List.append_nil front] at ht
  rw [htext]
  exact ht.edit (hb.head?_rest (by simpa using ht.paired)) hnew (Or.inr rfl)

/-- A pass over a text whose lines end in pairs leaves one. -/
theorem isCrlf_pass (ht : t.IsCrlf) {u : Text} (h : r.pass t = .changed u) : u.IsCrlf := by
  cases edits_of_pass h with
  | spaced ha => exact Anatomy.isCrlf_spaced ha ht
  | @replaced _ τ ha => exact Anatomy.isCrlf_withHeader ha ht τ
  | @inserted _ _ τ hb => exact hb.isCrlf_inserted ht τ

theorem isCrlf_repeatPass (n : Nat) (ht : t.IsCrlf) : (r.repeatPass n t).IsCrlf := by
  induction n generalizing t with
  | zero => exact ht
  | succ n ih =>
      rw [Rule.repeatPass]
      cases hpass : r.pass t with
      | clean => exact ht
      | stuck => exact ht
      | changed u => exact ih (isCrlf_pass ht hpass)

/-- **A text with carriage returns keeps them.**  If the first line feed
follows a carriage return, so does every one that a fix writes; and if all
of them do, they all do in the fixed text, after any number of passes. -/
theorem fixes_keep_returns (r : Rule) (t : Text) :
    (∀ before after, '\n' ∉ before → t = before ++ '\r' :: '\n' :: after →
      ∀ d f, r.check t = some d → d.fix = some f → f.replacement.IsPaired) ∧
    ('\n' ∈ t → t.IsPaired →
      (∀ d f, r.check t = some d → d.fix = some f →
        ∃ u, f.edit? t = some u ∧ '\n' ∈ u ∧ u.IsPaired) ∧
      (∀ n, '\n' ∈ r.repeatPass n t ∧ (r.repeatPass n t).IsPaired) ∧
      ∀ x, r.fixed? t = some x → '\n' ∈ x ∧ x.IsPaired) := by
  constructor
  · rintro before after hbefore rfl d f hd hf
    exact isPaired_replacement (LineEnding.detect_eq_crlf hbefore after) hd hf
  · intro hn hp
    have ht : t.IsCrlf := ⟨hn, hp⟩
    refine ⟨fun d f hd hf => ?_, fun n => ?_, fun x hx => ?_⟩
    · obtain ⟨u, he, -⟩ := (applies_of_check hd hf).edit
      have hpass : r.pass t = .changed u := pass_eq_changed_iff.mpr ⟨d, f, hd, hf, he⟩
      obtain ⟨hfeed, hpaired⟩ := isCrlf_pass ht hpass
      exact ⟨u, he, hfeed, hpaired⟩
    · obtain ⟨hfeed, hpaired⟩ := isCrlf_repeatPass (r := r) n ht
      exact ⟨hfeed, hpaired⟩
    · obtain ⟨-, rfl⟩ := fixed?_eq_some_iff.mp hx
      obtain ⟨hfeed, hpaired⟩ := isCrlf_repeatPass (r := r) Rule.maxPasses ht
      exact ⟨hfeed, hpaired⟩

/-- A line comment that is replaced, by a template of the other
convention. -/
example :
    (yearRule "2017".toList "(c) 2017\nMIT".toList).fixed? "// MIT\r\nfoo();".toList =
      some "/*\r\n * (c) 2017\r\n * MIT\r\n */\r\n\r\nfoo();".toList := by
  decide

end Fixes

end HeaderCheck
