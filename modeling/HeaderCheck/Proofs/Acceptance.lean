/-
# Templates that satisfy their own pattern

A fix leaves nothing to report exactly if the pattern accepts the body of the
header that it writes.  That the pattern accepts the template is not enough,
since the template is not that body: each of its lines stands behind a mark
and a star and before a line ending, without a carriage return of its own
(`exists_of_mem_lines`).  An anchor sees the difference, and so does a match
that runs over a line ending.

Nothing else does.  A blank and a line ending belong to no word, so a pattern
without anchors that accepts a line of the template accepts every header for
that template.
-/
import HeaderCheck.Pattern.Compile
import HeaderCheck.Proofs.Convergence
import HeaderCheck.Proofs.Search

namespace HeaderCheck

open Regex (SameSide)

/-! ## Lines in their header -/

/-- The pattern is an expression without anchors. -/
def Pattern.Unanchored (p : Pattern) : Prop :=
  ∃ e, Regex.Expr.ofPattern p.source = .ok e ∧ p.accepts = e.search ∧ e.unanchored = true

/-- The characters around the lines of a header belong to no word. -/
theorem sameSide_none {c : Char} (h : c = ' ' ∨ c = '\r' ∨ c = '\n') : SameSide none (some c) := by
  rcases h with rfl | rfl | rfl <;> intro u <;> cases u <;> decide +kernel

theorem sameSide_head?_headerLines (ending : LineEnding) (ls : List Text) :
    SameSide none (headerLines ending ls).head? := by
  have hhead : ∃ c, (headerLines ending ls).head? = some c ∧ (c = '\r' ∨ c = '\n') := by
    cases ls <;> cases ending <;> simp [headerLines, LineEnding.mark]
  obtain ⟨c, hc, hbreak⟩ := hhead
  rw [hc]
  exact sameSide_none (Or.inr hbreak)

/-- A line of a header stands behind a blank and before a line ending. -/
theorem exists_of_mem_lines {l : Text} {ls : List Text} (ending : LineEnding) (h : l ∈ ls) :
    ∃ x y, headerLines ending ls = x ++ (l ++ y) ∧
      x.getLast? = some ' ' ∧ SameSide none y.head? := by
  induction ls with
  | nil => cases h
  | cons k ls ih =>
      rcases List.mem_cons.mp h with rfl | h
      · refine ⟨ending.mark ++ " * ".toList, headerLines ending ls, ?_, ?_,
          sameSide_head?_headerLines ending ls⟩
        · rw [headerLines, List.append_assoc]
        · rw [List.getLast?_append]
          rfl
      · obtain ⟨x, y, heq, hx, hy⟩ := ih h
        refine ⟨ending.mark ++ (" * ".toList ++ (k ++ x)), y, ?_, ?_, hy⟩
        · simp only [headerLines, heq, List.append_assoc]
        · simp only [List.getLast?_append, hx, Option.some_or]

/-- So a pattern without anchors finds in a header what it finds in one of
its lines. -/
theorem Pattern.Unanchored.accepts_headerBody {p : Pattern} (h : p.Unanchored) {τ l : Text}
    (hl : l ∈ τ.lines) (hacc : p.accepts l = true) (ending : LineEnding) :
    p.accepts (headerBody τ ending) = true := by
  obtain ⟨e, -, hsearch, he⟩ := h
  obtain ⟨x, y, heq, hx, hy⟩ := exists_of_mem_lines ending hl
  rw [headerBody, heq, hsearch]
  rw [hsearch] at hacc
  refine Regex.Expr.search_between he ?_ hy hacc
  rw [hx]
  exact sameSide_none (Or.inl rfl)

/-! ## The header that a fix writes -/

section Fix

variable {r : Rule} {t τ : Text} {d : Diagnostic}

/-- A rule that asks for no blank line accepts what its pattern accepts. -/
theorem Anatomy.Sound.check_eq_none_iff {a : Anatomy} (h : a.Sound) (hb : r.blankLine = false) :
    r.check a.text = none ↔ r.pattern.accepts a.comment.body = true := by
  cases hp : r.pattern.accepts a.comment.body with
  | true => simp [check_valid h hp, hb]
  | false => simp [check_mismatched h hp]

/-- All that such a rule can report is a missing header. -/
theorem finding_of_check (hb : r.blankLine = false) (hd : r.check t = some d) :
    d.finding = .missingHeader := by
  cases reports_of_check hd with
  | unspaced _ _ _ hblank => exact absurd (hb.symm.trans hblank) Bool.false_ne_true
  | mismatched => rfl
  | missing => rfl

/-- **A fix leaves nothing to report exactly if the pattern accepts the header
that it writes.**  A pattern without anchors does if it accepts a line of the
template, and so if it accepts a template of one line. -/
theorem fix_clean_iff (hτ : r.template = some τ) (hc : Text.includes closingMark τ = false)
    (hb : r.blankLine = false) (hd : r.check t = some d) :
    ∃ f u, d.fix = some f ∧ f.edit? t = some u ∧
      (r.check u = none ↔
        (renderBlock τ (LineEnding.detect t) 0).blockInner?.any r.pattern.accepts = true) ∧
      (r.pattern.Unanchored → (∃ l ∈ τ.lines, r.pattern.accepts l = true) → r.check u = none) ∧
      (r.pattern.Unanchored → '\n' ∉ τ → τ.getLast? ≠ some '\r' → r.pattern.accepts τ = true →
        r.check u = none) := by
  obtain ⟨f, a, hf, he, ha, hcomment, -⟩ :=
    exists_header_of_check hτ hc hd (finding_of_check hb hd)
  have hclean := ha.check_eq_none_iff hb
  rw [hcomment] at hclean
  have hline : r.pattern.Unanchored → (∃ l ∈ τ.lines, r.pattern.accepts l = true) →
      r.check a.text = none := by
    rintro hp ⟨l, hl, hacc⟩
    exact hclean.mpr (hp.accepts_headerBody hl hacc _)
  refine ⟨f, a.text, hf, he, ?_, hline, ?_⟩
  · rw [blockInner?_renderBlock _ hc, Option.any_some]
    exact hclean
  · intro hp hfeed hreturn hacc
    refine hline hp ⟨τ, ?_, hacc⟩
    rw [Text.lines_eq_singleton hfeed hreturn]
    exact List.mem_singleton_self τ

end Fix

/-! ### A word and its place -/

/-- The three letters of a licence, and then a test. -/
def licenceBefore (test : Regex.Test) : Regex.Expr :=
  .seq (.char (.char 'M')) (.seq (.char (.char 'I')) (.seq (.char (.char 'T')) (.test test)))

/-- A rule that looks for them. -/
def licenceRule (source : String) (test : Regex.Test) (template : Text) : Rule :=
  { pattern := ⟨source.toList, (licenceBefore test).search⟩
    template := some template
    blankLine := false }

/-- The word stands at the end of a line of the template, and a line ending
follows it in the header. -/
theorem fix_clean_iff_endOfLine :
    let τ : Text := "Licence: MIT\r\n(c) 2017".toList
    let r := licenceRule "MIT\\b" (.wordEdge true) τ
    let t := "// BSD\r\nfoo();".toList
    let f : Fix := ⟨0, 6, "/*\r\n * Licence: MIT\r\n * (c) 2017\r\n */".toList⟩
    Text.includes closingMark τ = false ∧
      r.check t = some (.at .missingHeader 0 (some f)) ∧ r.pattern.Unanchored ∧
      (∃ l ∈ τ.lines, r.pattern.accepts l = true) ∧
      ∃ u, f.edit? t = some u ∧ r.check u = none := by
  intro τ r t f
  have hc : Text.includes closingMark τ = false := by decide
  have hd : r.check t = some (.at .missingHeader 0 (some f)) := by decide
  have hp : r.pattern.Unanchored := ⟨_, rfl, rfl, rfl⟩
  have hl : ∃ l ∈ τ.lines, r.pattern.accepts l = true :=
    ⟨"Licence: MIT".toList, by decide, by decide⟩
  obtain ⟨g, u, hg, he, -, hline, -⟩ := fix_clean_iff rfl hc rfl hd
  obtain rfl := Option.some.inj hg
  exact ⟨hc, hd, hp, hl, u, he, hline hp hl⟩

/-- If the pattern accepts the template, then a fix leaves nothing to
report. -/
def Rule.TrustsTemplate (r : Rule) (t : Text) : Prop :=
  ∀ τ d f u, r.template = some τ → Text.includes closingMark τ = false →
    r.pattern.accepts τ = true → r.blankLine = false →
    r.check t = some d → d.fix = some f → f.edit? t = some u → r.check u = none

/-- The end of the template is not the end of the header. -/
theorem not_trustsTemplate_anchored :
    let r := licenceRule "MIT$" .textEnd "MIT".toList
    Pattern.compile r.pattern.source = .ok r.pattern ∧ ¬ r.TrustsTemplate "foo();".toList := by
  intro r
  refine ⟨rfl, fun h => ?_⟩
  have hd : r.check "foo();".toList = some (.at .missingHeader 0
      (some (.insertion 0 "/*\n * MIT\n */\n\n".toList))) := by decide
  have hu := h "MIT".toList _ _ "/*\n * MIT\n */\n\nfoo();".toList rfl (by decide) (by decide) rfl
    hd rfl rfl
  exact absurd hu (by decide)

end HeaderCheck
