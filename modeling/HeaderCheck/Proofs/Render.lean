/-
# The rendered header is one comment

A rendered template is a closed block comment followed by line endings, and
its body holds no closing mark unless the template does
(`not_closes_headerBody`): the star-bordered layout puts a blank before
each line of the template and a line ending after it, and neither can be
half of a mark.  So the scanner reads back the whole header and nothing
else, wherever a fix has put it.
-/
import HeaderCheck.Proofs.Ending
import HeaderCheck.Proofs.Pieces
import HeaderCheck.Proofs.Written

namespace HeaderCheck

/-- The lines between the opening mark of a header and its closing one. -/
def headerLines (ending : LineEnding) : List Text → Text
  | [] => ending.mark ++ [' ']
  | l :: ls => ending.mark ++ (" * ".toList ++ (l ++ headerLines ending ls))

/-- The inner text of the header for a template. -/
def headerBody (template : Text) (ending : LineEnding) : Text :=
  headerLines ending template.lines

/-- The header for a template, as the comment it is written as. -/
def header (template : Text) (ending : LineEnding) : Written :=
  .closed (headerBody template ending)

/-! ## The header as a comment -/

theorem intercalate_headerLines (ending : LineEnding) (first : Text) (ls : List Text) :
    ending.mark.intercalate (first :: ls.map (" * ".toList ++ ·) ++ [" */".toList]) =
      first ++ (headerLines ending ls ++ closingMark) := by
  induction ls generalizing first with
  | nil =>
      show ending.mark.intercalate [first, " */".toList] = _
      rw [List.intercalate_cons_cons, List.intercalate_singleton, headerLines]
      simp [closingMark]
  | cons l ls ih =>
      show ending.mark.intercalate
        (first :: (" * ".toList ++ l) :: ls.map (" * ".toList ++ ·) ++ [" */".toList]) = _
      rw [List.cons_append, List.cons_append, List.intercalate_cons_cons, ← List.cons_append, ih,
        headerLines]
      simp only [List.append_assoc]

theorem renderBlock_eq (template : Text) (ending : LineEnding) (trailing : Nat) :
    renderBlock template ending trailing =
      (header template ending).text ++ ending.mark.times trailing := by
  rw [renderBlock, blockLines, intercalate_headerLines]
  rfl

theorem renderBlock_zero (template : Text) (ending : LineEnding) :
    renderBlock template ending 0 = (header template ending).text := by
  rw [renderBlock_eq, Text.times_zero, List.append_nil]

/-- The first line break of a header is one of its convention. -/
theorem header_text_append (template : Text) (ending : LineEnding) (rest : Text) :
    ∃ t, (header template ending).text ++ rest = '/' :: '*' :: (ending.mark ++ t) := by
  have hbody : ∃ t, headerBody template ending = ending.mark ++ t := by
    rw [headerBody]
    cases template.lines with
    | nil => exact ⟨_, rfl⟩
    | cons l ls => exact ⟨_, rfl⟩
  obtain ⟨t, ht⟩ := hbody
  refine ⟨t ++ closingMark ++ rest, ?_⟩
  show '/' :: '*' :: (headerBody template ending ++ closingMark ++ rest) = _
  rw [ht]
  simp only [List.append_assoc]

/-! ## No closing mark inside -/

theorem head?_headerLines_ne_slash (ending : LineEnding) (ls : List Text) :
    (headerLines ending ls).head? ≠ some '/' := by
  cases ls with
  | nil => exact LineEnding.head?_mark_ne_slash ending _
  | cons l ls => exact LineEnding.head?_mark_ne_slash ending _

theorem not_closes_headerLines (ending : LineEnding) {ls : List Text}
    (h : ∀ l ∈ ls, ¬ closingMark <:+: l) : ¬ closingMark <:+: headerLines ending ls := by
  induction ls with
  | nil => cases ending <;> decide
  | cons l ls ih =>
      have hl : ¬ closingMark <:+: l := h l List.mem_cons_self
      have hls : ¬ closingMark <:+: headerLines ending ls :=
        ih fun k hk => h k (List.mem_cons_of_mem l hk)
      have hstar : ¬ closingMark <:+: ending.mark ++ " * ".toList := by
        cases ending <;> decide
      have hlast : (ending.mark ++ " * ".toList).getLast? ≠ some '*' := by
        cases ending <;> decide
      have hhead := head?_headerLines_ne_slash ending ls
      rw [headerLines, ← List.append_assoc, Text.closes_append, @Text.closes_append l]
      rintro (hc | (hc | hc | ⟨-, hc⟩) | ⟨hc, -⟩)
      · exact hstar hc
      · exact hl hc
      · exact hls hc
      · exact hhead hc
      · exact hlast hc

/-- The body of a header is free of closing marks if its template is. -/
theorem not_closes_headerBody {template : Text} (h : ¬ closingMark <:+: template)
    (ending : LineEnding) : ¬ closingMark <:+: headerBody template ending :=
  not_closes_headerLines ending fun _ hl hc => h (hc.trans (Text.infix_of_mem_lines hl))

/-- So whatever follows, the header is read as far as it was written. -/
theorem header_fits {template : Text} (h : Text.includes closingMark template = false)
    (ending : LineEnding) (rest : Text) : (header template ending).Fits rest :=
  not_closes_headerBody (Text.not_infix_of_includes h) ending

/-- The inner text of a block comment, given as a text of its own. -/
def Text.blockInner? (t : Text) : Option Text :=
  Comment.inner? ⟨.block, 0, Text.width t⟩ t

/-- The inner text of the header for a template, as a check will read it. -/
theorem blockInner?_renderBlock {template : Text} (ending : LineEnding)
    (hc : Text.includes closingMark template = false) :
    (renderBlock template ending 0).blockInner? = some (headerBody template ending) := by
  have hin := (header template ending).inner?_span [] (header_fits hc ending [])
  rw [List.nil_append, List.append_nil] at hin
  rw [Text.width_nil, Written.span, Nat.zero_add] at hin
  rw [renderBlock_zero]
  exact hin

end HeaderCheck
