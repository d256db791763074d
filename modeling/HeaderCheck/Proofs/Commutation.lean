/-
# Fixing in either line ending

A text with bare line feeds can be converted to the other convention, and
the check takes no notice: it finds the same thing at the same place, and
fixing the converted text is converting the fixed one (`fixed?_crlf`).

The proof is a simulation.  One check of both texts finds diagnostics that
correspond (`Diagnostic.Converts`), by the equations for the check at an
anatomy and at the converted one; corresponding fixes leave a text and its
conversion (`Fix.Converts.edit?`); and a pass keeps what the next check
needs of the text (`isLf_pass`).  That is, that it has a line feed, so that
the two texts really are of different conventions, and that it has no
carriage return.  The second is why the template may not contain one.
-/
import HeaderCheck.Proofs.Convergence
import HeaderCheck.Proofs.Conversion

namespace HeaderCheck

/-! ## One check of both texts -/

/-- The same part of a text is replaced, by the conversion of the same
replacement. -/
inductive Fix.Converts (t : Text) : Fix → Fix → Prop
  | parts {a b c new : Text} : t = a ++ b ++ c →
      Converts t ⟨Text.width a, Text.width (a ++ b), new⟩
        ⟨Text.width a.crlf, Text.width (a ++ b).crlf, new.crlf⟩

/-- The same is found at the same place of a text, with a fix if the other
has one. -/
inductive Diagnostic.Converts (t : Text) : Diagnostic → Diagnostic → Prop
  | same {finding : Finding} {before after : Text} {f g : Option Fix} :
      t = before ++ after → Option.Rel (Fix.Converts t) f g →
      Converts t (.at finding (Text.width before) f) (.at finding (Text.width before.crlf) g)

theorem Fix.Converts.insertion {t before after new : Text} (ht : t = before ++ after) :
    Fix.Converts t (.insertion (Text.width before) new)
      (.insertion (Text.width before.crlf) new.crlf) := by
  have hparts := @Fix.Converts.parts t before [] after new
  simp only [List.append_nil] at hparts
  exact hparts ht

/-- Corresponding fixes leave a text and its conversion. -/
theorem Fix.Converts.edit? {t : Text} {f g : Fix} (h : Fix.Converts t f g) :
    g.edit? t.crlf = (f.edit? t).map Text.crlf := by
  cases h with
  | @parts a b c new ht =>
      have he := Text.edit?_width a.crlf b.crlf c.crlf new.crlf
      rw [ht, Text.edit?_width, Option.map_some]
      simp only [Text.crlf_append] at he ⊢
      exact he

/-- A text whose lines end in bare line feeds. -/
structure Text.IsLf (t : Text) : Prop where
  feed : '\n' ∈ t
  noReturn : '\r' ∉ t

namespace Anatomy

variable {a : Anatomy}

theorem breaks_crlf (h : '\r' ∉ a.rest) : a.crlf.breaks = a.breaks :=
  Text.leadingBreaks_crlf h breaksAfterHeader

theorem spaced_crlf (h : '\r' ∉ a.rest) : a.crlf.Spaced ↔ a.Spaced := by
  have hblank : a.crlf.rest.isBlank = a.rest.isBlank := Text.isBlank_crlf a.rest
  rw [Spaced, Spaced, breaks_crlf h, hblank]

theorem span_start_crlf : a.crlf.span.start = Text.width (a.front ++ a.gap).crlf := by
  rw [span_start, Text.crlf_append]
  rfl

theorem span_stop_crlf :
    a.crlf.span.stop = Text.width (a.front ++ a.gap ++ a.comment.text).crlf := by
  rw [span_stop, Text.crlf_append, Text.crlf_append, ← Written.text_crlf]
  rfl

theorem noReturn_rest (h : '\r' ∉ a.text) : '\r' ∉ a.rest := by
  rw [text_eq] at h
  exact fun hc => h (List.mem_append_right _ hc)

theorem noReturn_body (h : '\r' ∉ a.text) : '\r' ∉ a.comment.body := by
  rw [text_eq, Written.text] at h
  simp only [List.mem_append, not_or] at h
  exact h.1.2.1.2

/-- The fixes behind and in place of a comment convert. -/
theorem spacing_crlf (h : a.text.IsLf) : Fix.Converts a.text a.spacing a.crlf.spacing := by
  rw [spacing, spacing, text_crlf, LineEnding.detect_crlf h.noReturn h.feed,
    LineEnding.detect_of_no_return h.noReturn, breaks_crlf (noReturn_rest h.noReturn),
    ← LineEnding.crlf_times, span_stop, span_stop_crlf]
  exact .insertion a.text_eq

theorem replaceComment_crlf (h : a.text.IsLf) (template : Text) :
    Fix.Converts a.text (replaceComment a.text a.span template)
      (replaceComment a.crlf.text a.crlf.span template) := by
  rw [replaceComment, replaceComment, text_crlf, LineEnding.detect_crlf h.noReturn h.feed,
    LineEnding.detect_of_no_return h.noReturn, ← renderBlock_crlf, span_start, span_stop,
    span_start_crlf, span_stop_crlf]
  exact .parts a.text_eq

end Anatomy

section Check

variable {r : Rule} {t : Text}

/-- A check of a text with a comment finds the same in both conventions. -/
theorem Anatomy.Sound.check_crlf {a : Anatomy} (ha : a.Sound)
    (hp : ∀ u, '\r' ∉ u → r.pattern.accepts u.crlf = r.pattern.accepts u) (ht : a.text.IsLf) :
    Option.Rel (Diagnostic.Converts a.text) (r.check a.text) (r.check a.text.crlf) := by
  have ha' : a.crlf.Sound := ha.crlf
  have hbody : r.pattern.accepts a.crlf.comment.body = r.pattern.accepts a.comment.body := by
    show r.pattern.accepts a.comment.crlf.body = _
    rw [Written.body_crlf, hp _ (noReturn_body ht.noReturn)]
  rw [← a.text_crlf]
  cases hacc : r.pattern.accepts a.comment.body with
  | true =>
      rw [check_valid ha hacc, check_valid ha' (hbody.trans hacc)]
      have hspaced := spaced_crlf (noReturn_rest ht.noReturn)
      by_cases hs : r.blankLine = true ∧ ¬ a.Spaced
      · rw [if_pos hs, if_pos ⟨hs.1, mt hspaced.mp hs.2⟩, a.span_stop, span_stop_crlf]
        exact .some (.same a.text_eq (.some (spacing_crlf ht)))
      · rw [if_neg hs, if_neg fun hc => hs ⟨hc.1, mt hspaced.mpr hc.2⟩]
        exact .none
  | false =>
      rw [check_mismatched ha hacc, check_mismatched ha' (hbody.trans hacc)]
      refine .some (.same rfl ?_)
      cases r.template with
      | none => exact .none
      | some τ => exact .some (replaceComment_crlf ht τ)

/-- A check of a text without a comment inserts the same in both
conventions: no front stops in the middle of a line in either. -/
theorem Bare.check_crlf {front rest : Text} (hb : Bare front rest) (ht : (front ++ rest).IsLf) :
    Option.Rel (Diagnostic.Converts (front ++ rest)) (r.check (front ++ rest))
      (r.check (front ++ rest).crlf) := by
  have hb' := hb.crlf
  have hopen : front.hasOpenLine = false := hb.front.hasOpenLine_of_feed ht.feed
  have hopen' : front.crlf.hasOpenLine = false := by
    refine hb'.front.hasOpenLine_of_feed ?_
    rw [← Text.crlf_append]
    exact Text.feed_mem_crlf ht.feed
  rw [check_bare hb, Text.crlf_append, check_bare hb', ← Text.crlf_append,
    LineEnding.detect_of_no_return ht.noReturn, LineEnding.detect_crlf ht.noReturn ht.feed, hopen,
    hopen']
  refine .some (.same rfl ?_)
  cases r.template with
  | none => exact .none
  | some τ =>
      refine .some ?_
      simp only [Bool.false_eq_true, if_false, List.nil_append, ← renderBlock_crlf]
      exact .insertion rfl

/-- A check finds the same in both conventions. -/
theorem check_crlf (hp : ∀ u, '\r' ∉ u → r.pattern.accepts u.crlf = r.pattern.accepts u)
    (ht : t.IsLf) : Option.Rel (Diagnostic.Converts t) (r.check t) (r.check t.crlf) := by
  rcases exists_anatomy t with ⟨a, ha, rfl⟩ | ⟨front, rest, hb, rfl⟩
  · exact ha.check_crlf hp ht
  · exact hb.check_crlf ht

/-! ## All passes over both texts -/

/-- The outcome of a pass, converted. -/
def Rule.Pass.crlf : Rule.Pass → Rule.Pass
  | clean => clean
  | stuck => stuck
  | changed u => changed u.crlf

/-- One pass over the converted text is one over the text. -/
theorem pass_crlf (hp : ∀ u, '\r' ∉ u → r.pattern.accepts u.crlf = r.pattern.accepts u)
    (ht : t.IsLf) : r.pass t.crlf = (r.pass t).crlf := by
  have hcheck := check_crlf hp ht
  rw [Rule.pass, Rule.pass]
  generalize r.check t = found at hcheck ⊢
  generalize r.check t.crlf = found' at hcheck ⊢
  cases hcheck with
  | none => rfl
  | some hd =>
      cases hd with
      | @same _ _ _ f g _ hfix =>
          cases hfix with
          | none => rfl
          | @some f g hfg =>
              simp only [Diagnostic.at, Option.bind_some, hfg.edit?]
              cases f.edit? t <;> rfl

theorem not_mem_headerLines {ls : List Text} (h : ∀ l ∈ ls, '\r' ∉ l) :
    '\r' ∉ headerLines .lf ls := by
  induction ls with
  | nil => decide
  | cons l ls ih =>
      have hstar : '\r' ∉ " * ".toList := by decide
      have hl : '\r' ∉ l := h l List.mem_cons_self
      have hls : '\r' ∉ headerLines .lf ls := ih fun k hk => h k (List.mem_cons_of_mem l hk)
      rw [headerLines]
      simp only [LineEnding.mark, List.mem_append, List.mem_singleton, not_or]
      exact ⟨by decide, hstar, hl, hls⟩

theorem isLf_header {template : Text} (h : '\r' ∉ template) :
    (header template .lf).text.IsLf where
  feed := by
    obtain ⟨u, hu⟩ := header_text_append template .lf []
    rw [List.append_nil] at hu
    rw [hu]
    simp [LineEnding.mark]
  noReturn := by
    have hlines : '\r' ∉ headerLines .lf template.lines :=
      not_mem_headerLines fun _ hl hc => h ((Text.infix_of_mem_lines hl).subset hc)
    have hclose : '\r' ∉ closingMark := by decide
    show '\r' ∉ '/' :: '*' :: (headerLines .lf template.lines ++ closingMark)
    simp only [List.mem_cons, List.mem_append, not_or]
    exact ⟨by decide, by decide, hlines, hclose⟩

theorem not_mem_times_lf (n : Nat) : '\r' ∉ LineEnding.lf.mark.times n := by
  induction n with
  | zero => exact List.not_mem_nil
  | succ n ih =>
      rw [Text.times_succ, List.mem_append, not_or]
      exact ⟨by decide, ih⟩

/-- What is put into a text has bare line feeds only, and brings one if it
takes something away. -/
theorem Text.IsLf.edit {a b c new : Text} (h : (a ++ b ++ c).IsLf) (hr : '\r' ∉ new)
    (hn : '\n' ∈ new ∨ b = []) : (a ++ new ++ c).IsLf where
  feed := feed_mem_edit h.feed hn
  noReturn := by
    have hno := h.noReturn
    simp only [List.mem_append, not_or] at hno ⊢
    exact ⟨⟨hno.1.1, hr⟩, hno.2⟩

theorem Anatomy.isLf_spaced {a : Anatomy} (h : a.text.IsLf) : a.spaced.text.IsLf := by
  have htext := h
  rw [a.text_eq, ← List.append_nil (a.front ++ a.gap ++ a.comment.text)] at htext
  rw [text_eq, spaced, LineEnding.detect_of_no_return h.noReturn, ← List.append_assoc]
  exact htext.edit (not_mem_times_lf _) (Or.inr rfl)

theorem Anatomy.isLf_withHeader {a : Anatomy} {template : Text} (h : a.text.IsLf)
    (hr : '\r' ∉ template) : (a.withHeader template).text.IsLf := by
  have htext := h
  have hnew : (header template .lf).text.IsLf := isLf_header hr
  rw [a.text_eq] at htext
  rw [text_eq, withHeader, LineEnding.detect_of_no_return h.noReturn]
  exact htext.edit hnew.noReturn (Or.inl hnew.feed)

theorem Bare.isLf_inserted {front rest template : Text} (hb : Bare front rest)
    (h : (front ++ rest).IsLf) (hr : '\r' ∉ template) :
    (inserted front rest template).text.IsLf := by
  have hopen : front.hasOpenLine = false := hb.front.hasOpenLine_of_feed h.feed
  have htext : (inserted front rest template).text =
      front ++ ((header template .lf).text ++ LineEnding.lf.mark.times breaksAfterHeader) ++
        rest := by
    simp only [Anatomy.text, inserted, insertionLead, hopen,
      LineEnding.detect_of_no_return h.noReturn, Bool.false_eq_true, if_false, List.append_nil,
      List.nil_append, List.append_assoc]
  rw [htext]
  rw [← List.append_nil front] at h
  refine h.edit ?_ (Or.inr rfl)
  rw [List.mem_append, not_or]
  exact ⟨(isLf_header hr).noReturn, not_mem_times_lf _⟩

/-- A pass keeps to the line ending of the text. -/
theorem isLf_pass (hr : ∀ τ ∈ r.template, '\r' ∉ τ) (ht : t.IsLf) {u : Text}
    (h : r.pass t = .changed u) : u.IsLf := by
  cases edits_of_pass h with
  | spaced ha => exact Anatomy.isLf_spaced ht
  | replaced ha hτ => exact Anatomy.isLf_withHeader ht (hr _ hτ)
  | inserted hb hτ => exact hb.isLf_inserted ht (hr _ hτ)

theorem repeatPass_crlf (hp : ∀ u, '\r' ∉ u → r.pattern.accepts u.crlf = r.pattern.accepts u)
    (hr : ∀ τ ∈ r.template, '\r' ∉ τ) (n : Nat) (ht : t.IsLf) :
    r.repeatPass n t.crlf = (r.repeatPass n t).crlf := by
  induction n generalizing t with
  | zero => rfl
  | succ n ih =>
      rw [Rule.repeatPass, Rule.repeatPass, pass_crlf hp ht]
      cases hpass : r.pass t with
      | clean => rfl
      | stuck => rfl
      | changed u => exact ih (isLf_pass hr ht hpass)

/-- **Fixing commutes with line-ending conversion.** -/
theorem fixed?_crlf (hn : '\n' ∈ t) (ht : '\r' ∉ t) (hr : ∀ τ ∈ r.template, '\r' ∉ τ)
    (hp : ∀ u, '\r' ∉ u → r.pattern.accepts u.crlf = r.pattern.accepts u) :
    Option.Rel (Diagnostic.Converts t) (r.check t) (r.check t.crlf) ∧
      r.fixed? t.crlf = (r.fixed? t).map Text.crlf := by
  have hlf : t.IsLf := ⟨hn, ht⟩
  refine ⟨check_crlf hp hlf, ?_⟩
  rw [Rule.fixed?, Rule.fixed?, pass_crlf hp hlf, repeatPass_crlf hp hr _ hlf]
  cases r.pass t <;> rfl

/-- A line comment behind an interpreter line, in both conventions: the
first pass replaces it, and the second adds the blank line. -/
theorem fixed?_crlf_lineComment :
    let r := yearRule "2017".toList "(c) 2017".toList
    let t : Text := "#!/bin/sh\n// MIT\nfoo();".toList
    '\n' ∈ t ∧ '\r' ∉ t ∧ (∀ τ ∈ r.template, '\r' ∉ τ) ∧
      (∀ u, '\r' ∉ u → r.pattern.accepts u.crlf = r.pattern.accepts u) ∧
      r.fixed? t = some "#!/bin/sh\n/*\n * (c) 2017\n */\n\nfoo();".toList ∧
      Option.Rel (Diagnostic.Converts t) (r.check t) (r.check t.crlf) ∧
      r.fixed? t.crlf = (r.fixed? t).map Text.crlf := by
  intro r t
  have hn : '\n' ∈ t := by decide
  have ht : '\r' ∉ t := by decide
  have hr : ∀ τ ∈ r.template, '\r' ∉ τ := by
    rintro τ ⟨⟩
    decide
  have hp : ∀ u, '\r' ∉ u → r.pattern.accepts u.crlf = r.pattern.accepts u := by
    intro u _
    show Text.includes "2017".toList u.crlf = Text.includes "2017".toList u
    rw [Bool.eq_iff_iff, Text.includes_eq_true_iff, Text.includes_eq_true_iff,
      Text.infix_crlf_iff (by simp [isLineBreak])]
  exact ⟨hn, ht, hr, hp, by decide, fixed?_crlf hn ht hr hp⟩

end Check

end HeaderCheck
