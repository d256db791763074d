/-
# The scanner and the grammar of headers

Every text has exactly one layout: a byte-order mark, an interpreter line,
a gap and the rest, where the gap is as long as it can be
(`Layout.splits_of`, `Layout.Splits.unique`).  The place of a header is the
offset behind the first two, and what the scanner finds from there depends
on the rest alone.

`scan_iff_layout` states the whole of it.  Both directions matter: that the
scanner finds the comments of the grammar, and that it finds no other.  The
second one is where the suffix test of `inner?` is settled, since that
function does not know whether the scanner saw a closing mark; it agrees
because an unclosed body cannot end with one.

A range alone does not tell the forms apart: a closed block that ends with the
text has the range of an unclosed one (`not_scansApart_closed`).
-/
import HeaderCheck.Proofs.Opening
import HeaderCheck.Proofs.Written

namespace HeaderCheck

/-! ## The comment behind a gap -/

section Locate

variable {front gap tail rest : Text}

theorem locate?_gap (hg : ∀ c ∈ gap, isGap c = true) (ht : ∀ c ∈ tail.head?, isGap c = false) :
    Comment.locate? (front ++ (gap ++ tail)) (Text.width front) =
      some ((Text.opensWith? tail).map fun (kind, size) =>
        { kind, start := Text.width front + Text.width gap
          stop := Text.width front + Text.width gap + size }) := by
  rw [Comment.locate?, Text.from?_width, Option.map_some, Text.takeWhile_eq_of_boundary hg ht,
    Text.dropWhile_eq_of_boundary hg ht]

/-- The scanner finds a comment where it is written. -/
theorem locate?_written {w : Written} (hg : ∀ c ∈ gap, isGap c = true) (hw : w.Fits rest) :
    Comment.locate? (front ++ (gap ++ (w.text ++ rest))) (Text.width front) =
      some (some (w.span (Text.width front + Text.width gap))) := by
  have ht : ∀ c ∈ (w.text ++ rest).head?, isGap c = false := by
    obtain ⟨t, ht⟩ := w.text_eq_cons
    rw [ht]
    rintro c ⟨⟩
    decide
  rw [locate?_gap hg ht, Text.opensWith?_text hw]
  rfl

end Locate

/-- The scanner finds a comment with a given range and inner text. -/
def Text.Finds (t : Text) (c : Comment) (inner : Text) : Prop :=
  Comment.locate? t t.headerStart = some (some c) ∧ c.inner? t = some inner

instance (t : Text) (c : Comment) (inner : Text) : Decidable (t.Finds c inner) :=
  inferInstanceAs (Decidable (_ ∧ _))

/-! ## Layouts -/

/-- A text taken apart in the order in which the scanner reads it. -/
structure Layout where
  mark : Text
  interpreter : Text
  gap : Text
  tail : Text

namespace Layout

/-- The offset behind the gap. -/
def start (l : Layout) : Nat :=
  Text.width l.mark + Text.width l.interpreter + Text.width l.gap

/-- The parts make up the text, and each is what its name says. -/
structure Splits (l : Layout) (t : Text) : Prop where
  whole : t = l.mark ++ (l.interpreter ++ (l.gap ++ l.tail))
  mark : Text.IsMark l.mark (l.interpreter ++ (l.gap ++ l.tail))
  interpreter : Text.IsInterpreter l.interpreter (l.gap ++ l.tail)
  blank : ∀ c ∈ l.gap, isGap c = true
  longest : ∀ c ∈ l.tail.head?, isGap c = false

/-- The layout that the functions of the library compute. -/
def of (t : Text) : Layout :=
  { mark := t.splitMark.1
    interpreter := t.splitMark.2.splitInterpreter.1
    gap := t.afterOpening.takeWhile isGap
    tail := t.afterOpening.dropWhile isGap }

theorem splits_of (t : Text) : (of t).Splits t where
  whole := by
    simp only [of, List.takeWhile_append_dropWhile, Text.afterOpening, Text.splitInterpreter_append,
      Text.splitMark_append]
  mark := by
    simp only [of, List.takeWhile_append_dropWhile, Text.afterOpening, Text.splitInterpreter_append]
    exact Text.isMark_splitMark t
  interpreter := by
    simp only [of, List.takeWhile_append_dropWhile]
    exact Text.isInterpreter_splitInterpreter t.splitMark.2
  blank := fun _ hc => List.mem_takeWhile_imp hc
  longest := Text.dropWhile_boundary isGap t.afterOpening

namespace Splits

variable {l : Layout} {t : Text}

theorem unique (h : l.Splits t) : l = of t := by
  obtain ⟨mark, interpreter, gap, tail⟩ := l
  obtain ⟨rfl, hm, hi, hg, hl⟩ := h
  simp only [of, Text.splitMark_eq hm, Text.splitInterpreter_eq hi, Text.afterOpening_eq hm hi,
    Text.takeWhile_eq_of_boundary hg hl, Text.dropWhile_eq_of_boundary hg hl]

theorem headerStart_eq (h : l.Splits t) :
    t.headerStart = Text.width l.mark + Text.width l.interpreter := by
  rw [Text.headerStart, h.whole, Text.opening_eq h.mark h.interpreter, Text.width_append]

/-- The text, split at the place of its header. -/
theorem eq_front (h : l.Splits t) : t = (l.mark ++ l.interpreter) ++ (l.gap ++ l.tail) := by
  rw [List.append_assoc]
  exact h.whole

theorem width_eq (h : l.Splits t) : Text.width t = l.start + Text.width l.tail := by
  rw [h.whole, start]
  simp only [Text.width_append, Nat.add_assoc]

theorem locate?_eq (h : l.Splits t) :
    Comment.locate? t t.headerStart =
      some ((Text.opensWith? l.tail).map fun (kind, size) =>
        { kind, start := l.start, stop := l.start + size }) := by
  have hloc := @locate?_gap (l.mark ++ l.interpreter) _ _ h.blank h.longest
  rw [← h.eq_front, Text.width_append, ← h.headerStart_eq] at hloc
  rw [hloc, start, ← h.headerStart_eq]

/-- The comment that a layout shows is found, and its body read. -/
theorem finds (h : l.Splits t) {w : Written} {rest : Text} (ht : l.tail = w.text ++ rest)
    (hw : w.Fits rest) : t.Finds (w.span l.start) w.body := by
  constructor
  · have hloc := @locate?_written (l.mark ++ l.interpreter) _ _ _ h.blank hw
    rw [← ht, ← h.eq_front, Text.width_append, ← h.headerStart_eq] at hloc
    rw [hloc, start, ← h.headerStart_eq]
  · have hin := w.inner?_span (l.mark ++ l.interpreter ++ l.gap) hw
    rw [Text.width_append, Text.width_append] at hin
    rw [h.eq_front, ht, ← List.append_assoc, ← List.append_assoc]
    exact hin

end Splits

end Layout

/-- A comment is known by its span and its body. -/
theorem Written.eq_of_span {v w : Written} {start : Nat} (hs : v.span start = w.span start)
    (hb : v.body = w.body) : v = w := by
  have hk : v.kind = w.kind := congrArg Comment.kind hs
  have hstop : start + Text.width v.text = start + Text.width w.text := congrArg Comment.stop hs
  cases v <;> cases w <;> cases hb <;>
    simp [Written.kind, width_text_line, width_text_closed, width_text_unclosed] at hk hstop ⊢

namespace Layout.Splits

variable {l : Layout} {t : Text}

/-- Whatever the scanner finds is a comment of the layout. -/
theorem exists_of_finds (h : l.Splits t) {c : Comment} {body : Text} (hf : t.Finds c body) :
    ∃ (w : Written) (rest : Text), l.tail = w.text ++ rest ∧ w.Fits rest ∧
      c = w.span l.start ∧ body = w.body := by
  obtain ⟨hl, hb⟩ := hf
  obtain ⟨p, hp, -⟩ := Option.map_eq_some_iff.mp (Option.some.inj (h.locate?_eq ▸ hl))
  obtain ⟨w, rest, ht, hw⟩ := Text.exists_written hp
  obtain ⟨hlw, hbw⟩ := h.finds ht hw
  have hc : c = w.span l.start := Option.some.inj (Option.some.inj (hl.symm.trans hlw))
  refine ⟨w, rest, ht, hw, hc, ?_⟩
  rw [← hc, hb] at hbw
  exact Option.some.inj hbw

/-- The scanner finds a comment exactly where the layout shows it. -/
theorem finds_iff (h : l.Splits t) (w : Written) :
    t.Finds (w.span l.start) w.body ↔ ∃ rest, l.tail = w.text ++ rest ∧ w.Fits rest := by
  constructor
  · intro hf
    obtain ⟨v, rest, ht, hv, hs, hb⟩ := h.exists_of_finds hf
    obtain rfl := Written.eq_of_span hs hb
    exact ⟨rest, ht, hv⟩
  · rintro ⟨rest, ht, hw⟩
    exact h.finds ht hw

/-- The scanner finds nothing exactly where the layout shows no comment. -/
theorem locate?_none_iff (h : l.Splits t) :
    Comment.locate? t t.headerStart = some none ↔
      ∀ (w : Written) (rest : Text), l.tail = w.text ++ rest → ¬ w.Fits rest := by
  rw [h.locate?_eq, Option.some.injEq, Option.map_eq_none_iff]
  constructor
  · intro hn w rest ht hw
    rw [ht, Text.opensWith?_text hw] at hn
    exact absurd hn (by simp)
  · intro hno
    cases hp : Text.opensWith? l.tail with
    | none => rfl
    | some p =>
        obtain ⟨w, rest, ht, hw⟩ := Text.exists_written hp
        exact absurd hw (hno w rest ht)

end Layout.Splits

/-! ## The grammar -/

namespace Layout

/-- The tail is a line comment with a given body, up to the end of its
line. -/
def ShowsLine (l : Layout) (body : Text) : Prop :=
  ∃ rest, l.tail = '/' :: '/' :: (body ++ rest) ∧ '\r' ∉ body ∧ '\n' ∉ body ∧
    (rest = [] ∨ rest.head? = some '\r' ∨ rest.head? = some '\n')

/-- The tail begins with a block comment that is closed after a given
body. -/
def ShowsClosed (l : Layout) (body : Text) : Prop :=
  ∃ rest, l.tail = '/' :: '*' :: (body ++ closingMark ++ rest) ∧ ¬ closingMark <:+: body

/-- The tail is a block comment that is never closed. -/
def ShowsUnclosed (l : Layout) (body : Text) : Prop :=
  l.tail = '/' :: '*' :: body ∧ ¬ closingMark <:+: body

theorem showsLine_iff {l : Layout} {body : Text} :
    l.ShowsLine body ↔ ∃ rest, l.tail = (Written.line body).text ++ rest ∧
      (Written.line body).Fits rest := by
  have htext : ∀ rest, (Written.line body).text ++ rest = '/' :: '/' :: (body ++ rest) := by
    intro rest
    simp [Written.text, Written.opener, Written.body, Written.closer]
  have hin : (∀ c ∈ body, isLineBreak c = false) ↔ '\r' ∉ body ∧ '\n' ∉ body := by
    constructor
    · intro h
      exact ⟨fun hc => absurd (h _ hc) (by decide), fun hc => absurd (h _ hc) (by decide)⟩
    · rintro ⟨hr, hn⟩ c hc
      have hcr : c ≠ '\r' := fun e => hr (e ▸ hc)
      have hcn : c ≠ '\n' := fun e => hn (e ▸ hc)
      simp [isLineBreak, hcr, hcn]
  have hafter : ∀ rest : Text, (∀ c ∈ rest.head?, isLineBreak c = true) ↔
      (rest = [] ∨ rest.head? = some '\r' ∨ rest.head? = some '\n') := by
    intro rest
    cases rest with
    | nil => simp
    | cons c rest => simp [isLineBreak]
  simp only [ShowsLine, htext, Written.Fits, hin, hafter, and_assoc]

theorem showsClosed_iff {l : Layout} {body : Text} :
    l.ShowsClosed body ↔ ∃ rest, l.tail = (Written.closed body).text ++ rest ∧
      (Written.closed body).Fits rest :=
  Iff.rfl

theorem showsUnclosed_iff {l : Layout} {body : Text} :
    l.ShowsUnclosed body ↔ ∃ rest, l.tail = (Written.unclosed body).text ++ rest ∧
      (Written.unclosed body).Fits rest := by
  have htext : (Written.unclosed body).text = '/' :: '*' :: body := by
    simp [Written.text, Written.opener, Written.body, Written.closer]
  constructor
  · rintro ⟨ht, hb⟩
    exact ⟨[], by rw [ht, htext, List.append_nil], hb, rfl⟩
  · rintro ⟨rest, ht, hb, rfl⟩
    exact ⟨by rw [ht, htext, List.append_nil], hb⟩

end Layout

/-! ### The three forms -/

namespace Layout.Splits

variable {l : Layout} {t : Text}

theorem finds_line_iff (h : l.Splits t) (body : Text) :
    t.Finds ⟨.line, l.start, l.start + 2 + Text.width body⟩ body ↔ l.ShowsLine body := by
  rw [showsLine_iff, ← h.finds_iff, Written.span, Written.width_text_line, ← Nat.add_assoc]
  exact Iff.rfl

theorem finds_closed_iff (h : l.Splits t) (body : Text) :
    t.Finds ⟨.block, l.start, l.start + 4 + Text.width body⟩ body ↔ l.ShowsClosed body := by
  rw [showsClosed_iff, ← h.finds_iff, Written.span, Written.width_text_closed, ← Nat.add_assoc]
  exact Iff.rfl

/-- A block that ends with the text is one that was never closed, or one
whose closing mark ends the text. -/
theorem finds_unclosed_iff (h : l.Splits t) (body : Text) :
    t.Finds ⟨.block, l.start, Text.width t⟩ body ↔
      l.ShowsUnclosed body ∨
        (l.ShowsClosed body ∧ Text.width t = l.start + 4 + Text.width body) := by
  constructor
  · intro hf
    obtain ⟨w, rest, ht, hw, hc, rfl⟩ := h.exists_of_finds hf
    cases w with
    | line b =>
        have hkind : CommentKind.block = .line := congrArg Comment.kind hc
        exact CommentKind.noConfusion hkind
    | closed b =>
        refine Or.inr ⟨showsClosed_iff.mpr ⟨rest, ht, hw⟩, ?_⟩
        have hstop : Text.width t = l.start + Text.width (Written.closed b).text :=
          congrArg Comment.stop hc
        rw [hstop, Written.width_text_closed, ← Nat.add_assoc]
        rfl
    | unclosed b => exact Or.inl (showsUnclosed_iff.mpr ⟨rest, ht, hw⟩)
  · rintro (hs | ⟨hs, hw⟩)
    · have hwidth : Text.width t = l.start + Text.width (Written.unclosed body).text := by
        obtain ⟨rest, ht, -, rfl⟩ := showsUnclosed_iff.mp hs
        rw [h.width_eq, ht, List.append_nil]
      rw [hwidth]
      exact (h.finds_iff (.unclosed body)).mpr (showsUnclosed_iff.mp hs)
    · rw [hw]
      exact (h.finds_closed_iff body).mpr hs

/-- Nothing is found exactly where none of the three forms is shown. -/
theorem finds_none_iff (h : l.Splits t) :
    Comment.locate? t t.headerStart = some none ↔
      ∀ body, ¬ l.ShowsLine body ∧ ¬ l.ShowsClosed body ∧ ¬ l.ShowsUnclosed body := by
  rw [h.locate?_none_iff]
  constructor
  · intro hno body
    refine ⟨fun hs => ?_, fun hs => ?_, fun hs => ?_⟩
    · obtain ⟨rest, ht, hw⟩ := showsLine_iff.mp hs
      exact hno _ rest ht hw
    · obtain ⟨rest, ht, hw⟩ := showsClosed_iff.mp hs
      exact hno _ rest ht hw
    · obtain ⟨rest, ht, hw⟩ := showsUnclosed_iff.mp hs
      exact hno _ rest ht hw
  · intro hno w rest ht hw
    obtain ⟨hline, hclosed, hunclosed⟩ := hno w.body
    cases w with
    | line b => exact hline (showsLine_iff.mpr ⟨rest, ht, hw⟩)
    | closed b => exact hclosed (showsClosed_iff.mpr ⟨rest, ht, hw⟩)
    | unclosed b => exact hunclosed (showsUnclosed_iff.mpr ⟨rest, ht, hw⟩)

end Layout.Splits

/-- **The scanner accepts exactly the grammar of headers.**  The range of an
unclosed block ends with the text, and so may that of a closed one: the
third equivalence names both cases, and the second one tells them apart. -/
theorem scan_iff_layout (t : Text) :
    ∃ l : Layout, l.Splits t ∧ (∀ m : Layout, m.Splits t → m = l) ∧
      t.headerStart = Text.width l.mark + Text.width l.interpreter ∧
      (∀ body, t.Finds ⟨.line, l.start, l.start + 2 + Text.width body⟩ body ↔
        l.ShowsLine body) ∧
      (∀ body, t.Finds ⟨.block, l.start, l.start + 4 + Text.width body⟩ body ↔
        l.ShowsClosed body) ∧
      (∀ body, t.Finds ⟨.block, l.start, Text.width t⟩ body ↔
        l.ShowsUnclosed body ∨
          (l.ShowsClosed body ∧ Text.width t = l.start + 4 + Text.width body)) ∧
      (Comment.locate? t t.headerStart = some none ↔
        ∀ body, ¬ l.ShowsLine body ∧ ¬ l.ShowsClosed body ∧ ¬ l.ShowsUnclosed body) := by
  have h := Layout.splits_of t
  exact ⟨Layout.of t, h, fun _ hm => hm.unique, h.headerStart_eq, h.finds_line_iff,
    h.finds_closed_iff, h.finds_unclosed_iff, h.finds_none_iff⟩

/-- The grammar with one form for each kind of range: a block that ends with the
text was never closed. -/
def ScansApart (t : Text) : Prop :=
  ∃ l : Layout, l.Splits t ∧ (∀ m : Layout, m.Splits t → m = l) ∧
    t.headerStart = Text.width l.mark + Text.width l.interpreter ∧
    (∀ body, t.Finds ⟨.line, l.start, l.start + 2 + Text.width body⟩ body ↔
      l.ShowsLine body) ∧
    (∀ body, t.Finds ⟨.block, l.start, l.start + 4 + Text.width body⟩ body ↔
      l.ShowsClosed body) ∧
    (∀ body, t.Finds ⟨.block, l.start, Text.width t⟩ body ↔ l.ShowsUnclosed body) ∧
    (Comment.locate? t t.headerStart = some none ↔
      ∀ body, ¬ l.ShowsLine body ∧ ¬ l.ShowsClosed body ∧ ¬ l.ShowsUnclosed body)

/-- A closed header that is the whole text has the range of one that was never
closed. -/
theorem not_scansApart_closed : ¬ ScansApart "/**/".toList := by
  rintro ⟨l, hl, -, -, -, -, hunclosed, -⟩
  have hof : l = Layout.of "/**/".toList := hl.unique
  have hfinds : Text.Finds "/**/".toList ⟨.block, l.start, Text.width "/**/".toList⟩ [] := by
    rw [hof]
    decide
  obtain ⟨htail, -⟩ := (hunclosed []).mp hfinds
  rw [hof] at htail
  exact absurd htail (by decide)

/-- An opening mark does not close itself. -/
example : Text.Finds "#!/bin/sh\n /*/ x".toList ⟨.block, 11, 16⟩ "/ x".toList := by
  decide

end HeaderCheck
