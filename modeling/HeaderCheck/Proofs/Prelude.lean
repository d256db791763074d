/-
# What stands in front of a text

A byte-order mark and an interpreter line are transparent to the check: put
in front of a text, they move what it finds by their width and change
nothing else (`check_prelude`).  The two runs are over different texts, so
the statement needs its conditions.  The text must not go on with what the
prelude could have taken as its own: a second mark, or a second interpreter
line behind one.  And the prelude must not decide the line ending against
the text.

The proof makes no second scan either.  The prelude becomes part of the
front of the text's anatomy (`IsFront.behind`), where the stages of the
check see its width only, and one bit of it: whether the front stops in the
middle of a line.  A prelude never does so by itself, and it does not hide
that the text behind it does.
-/
import HeaderCheck.Proofs.Convergence
import HeaderCheck.Proofs.Cuts

namespace HeaderCheck

/-! ## Moving what a check finds -/

/-- The same comment, a number of bytes further behind. -/
def Comment.shift (c : Comment) (n : Nat) : Comment :=
  { c with start := c.start + n, stop := c.stop + n }

/-- The same edit, a number of bytes further behind. -/
def Fix.shift (f : Fix) (n : Nat) : Fix :=
  { f with start := f.start + n, stop := f.stop + n }

/-- The same finding, reported and fixed a number of bytes further
behind. -/
def Diagnostic.shift (d : Diagnostic) (n : Nat) : Diagnostic :=
  { d with start := d.start + n, stop := d.stop + n, fix := d.fix.map (·.shift n) }

/-- A moved edit of a text with something put in front of it edits the
text. -/
theorem edit?_shift {t : Text} {f : Fix} (h : t.IsRange f.start f.stop) (before : Text) :
    ∃ u, f.edit? t = some u ∧
      (f.shift (Text.width before)).edit? (before ++ t) = some (before ++ u) := by
  obtain ⟨start, stop, new⟩ := f
  obtain ⟨a, b, c, rfl, rfl, rfl⟩ := h.exists_parts
  refine ⟨a ++ new ++ c, Text.edit?_width a b c new, ?_⟩
  have he := Text.edit?_width (before ++ a) b c new
  simp only [List.append_assoc, Text.width_append] at he ⊢
  rw [Fix.shift, Nat.add_comm (Text.width a), Nat.add_comm (Text.width a + Text.width b)]
  exact he

/-! ## Preludes -/

/-- A byte-order mark and an ended interpreter line, each of them
optional. -/
structure Prelude where
  marked : Bool
  line : Option Text
  unbroken : ∀ l ∈ line, '\n' ∉ l

namespace Prelude

def mark (p : Prelude) : Text :=
  if p.marked then [byteOrderMark] else []

def interpreter (p : Prelude) : Text :=
  match p.line with
  | none => []
  | some l => '#' :: '!' :: l ++ ['\n']

def text (p : Prelude) : Text :=
  p.mark ++ p.interpreter

theorem interpreter_of_none {p : Prelude} (h : p.line = none) : p.interpreter = [] := by
  rw [interpreter, h]

theorem interpreter_of_some {p : Prelude} {l : Text} (h : p.line = some l) :
    p.interpreter = '#' :: '!' :: l ++ ['\n'] := by
  rw [interpreter, h]

theorem isMark_mark (p : Prelude) {rest : Text} (h : rest.head? ≠ some byteOrderMark) :
    Text.IsMark p.mark rest := by
  rw [mark]
  cases p.marked with
  | true => exact .present
  | false => exact .absent h

/-- A text may follow a prelude if it does not go on with it. -/
structure Admits (p : Prelude) (t : Text) : Prop where
  unmarked : t.head? ≠ some byteOrderMark
  uninterpreted : p.line.isSome = true → ¬ ['#', '!'] <+: t

end Prelude

section Front

variable {p : Prelude} {front rest : Text}

/-- The front of a text without a mark is an interpreter line, or empty. -/
theorem Text.IsFront.isInterpreter (h : IsFront front rest)
    (hm : (front ++ rest).head? ≠ some byteOrderMark) : IsInterpreter front rest := by
  obtain ⟨mark, line, rfl, hmark, hline⟩ := h
  cases hmark with
  | present => exact absurd rfl hm
  | absent => exact hline

theorem Text.IsInterpreter.eq_nil (h : IsInterpreter front rest)
    (hi : ¬ ['#', '!'] <+: front ++ rest) : front = [] := by
  cases h with
  | absent => rfl
  | ended => exact absurd ⟨_, rfl⟩ hi
  | unended => exact absurd ⟨_, rfl⟩ hi

/-- The interpreter line of a text with a prelude in front of it is that of
the prelude or that of the text. -/
theorem Prelude.Admits.isInterpreter (h : p.Admits (front ++ rest))
    (hfront : Text.IsFront front rest) : Text.IsInterpreter (p.interpreter ++ front) rest := by
  have hline := hfront.isInterpreter h.unmarked
  cases hp : p.line with
  | none =>
      rw [interpreter_of_none hp]
      exact hline
  | some l =>
      obtain rfl := hline.eq_nil (h.uninterpreted (by rw [hp]; rfl))
      rw [interpreter_of_some hp, List.append_nil]
      exact .ended (p.unbroken l hp)

/-- No mark comes behind the one of the prelude. -/
theorem Prelude.Admits.isMark (h : p.Admits (front ++ rest)) :
    Text.IsMark p.mark (p.interpreter ++ front ++ rest) := by
  refine p.isMark_mark ?_
  cases hp : p.line with
  | none =>
      rw [interpreter_of_none hp]
      exact h.unmarked
  | some l =>
      rw [interpreter_of_some hp]
      simp [byteOrderMark]

theorem Text.IsFront.behind (hfront : IsFront front rest) (h : p.Admits (front ++ rest)) :
    IsFront (p.text ++ front) rest :=
  ⟨p.mark, p.interpreter ++ front, List.append_assoc .., h.isMark, h.isInterpreter hfront⟩

/-- A prelude does not stop in the middle of a line, and does not hide that
the text behind it does. -/
theorem hasOpenLine_behind (hfront : Text.IsFront front rest) (h : p.Admits (front ++ rest)) :
    (p.text ++ front).hasOpenLine = front.hasOpenLine := by
  have hline := hfront.isInterpreter h.unmarked
  have hopen := Text.hasOpenLine_iff (.absent h.unmarked) hline
  rw [List.nil_append] at hopen
  rw [Bool.eq_iff_iff, hopen, Prelude.text, List.append_assoc,
    Text.hasOpenLine_iff h.isMark (h.isInterpreter hfront)]
  cases hp : p.line with
  | none => rw [Prelude.interpreter_of_none hp, List.nil_append]
  | some l =>
      obtain rfl := hline.eq_nil (h.uninterpreted (by rw [hp]; rfl))
      simp [Prelude.interpreter_of_some hp]

end Front

/-! ## The check behind a prelude -/

namespace Anatomy

/-- The text with a prelude in front of it. -/
def behind (p : Prelude) (a : Anatomy) : Anatomy :=
  { a with front := p.text ++ a.front }

variable {p : Prelude} {a : Anatomy}

theorem text_behind : (a.behind p).text = p.text ++ a.text :=
  List.append_assoc ..

theorem span_behind : (a.behind p).span = a.span.shift (Text.width p.text) := by
  simp only [span, Written.span, Comment.shift, behind, Text.width_append, Comment.mk.injEq,
    true_and]
  omega

theorem Sound.behind (ha : a.Sound) (h : p.Admits a.text) : (a.behind p).Sound where
  front := ha.front.behind h
  blank := ha.blank
  fits := ha.fits

/-- Behind a prelude that leaves the line ending alone, the fixes are the
same, further behind. -/
theorem spacing_behind (hd : LineEnding.detect (a.behind p).text = LineEnding.detect a.text) :
    (a.behind p).spacing = a.spacing.shift (Text.width p.text) := by
  rw [spacing, hd, span_behind]
  rfl

theorem replaceComment_behind (hd : LineEnding.detect (a.behind p).text = LineEnding.detect a.text)
    (template : Text) :
    replaceComment (a.behind p).text (a.behind p).span template =
      (replaceComment a.text a.span template).shift (Text.width p.text) := by
  rw [replaceComment, hd, span_behind]
  rfl

end Anatomy

theorem Bare.behind {p : Prelude} {front rest : Text} (hb : Bare front rest)
    (h : p.Admits (front ++ rest)) : Bare (p.text ++ front) rest where
  front := hb.front.behind h
  commentless := hb.commentless

theorem Anatomy.Sound.check_behind {p : Prelude} {a : Anatomy} (ha : a.Sound) (r : Rule)
    (h : p.Admits a.text) (hd : LineEnding.detect (p.text ++ a.text) = LineEnding.detect a.text) :
    r.check (p.text ++ a.text) = (r.check a.text).map (·.shift (Text.width p.text)) := by
  have ha' : (a.behind p).Sound := ha.behind h
  rw [← text_behind] at hd ⊢
  cases hp : r.pattern.accepts a.comment.body with
  | true =>
      rw [check_valid ha hp, check_valid ha' hp]
      by_cases hs : r.blankLine = true ∧ ¬ a.Spaced
      · have hs' : r.blankLine = true ∧ ¬ (a.behind p).Spaced := hs
        rw [if_pos hs, if_pos hs', spacing_behind hd, span_behind]
        rfl
      · have hs' : ¬ (r.blankLine = true ∧ ¬ (a.behind p).Spaced) := hs
        rw [if_neg hs, if_neg hs', Option.map_none]
  | false =>
      rw [check_mismatched ha hp, check_mismatched ha' hp]
      have hwidth : Text.width (a.behind p).front = Text.width a.front + Text.width p.text := by
        rw [Anatomy.behind, Text.width_append, Nat.add_comm]
      simp only [hwidth, replaceComment_behind hd, Diagnostic.at, Diagnostic.shift,
        Option.map_some, Option.map_map, Function.comp_def]

theorem Bare.check_behind {p : Prelude} {front rest : Text} (hb : Bare front rest) (r : Rule)
    (h : p.Admits (front ++ rest))
    (hd : LineEnding.detect (p.text ++ (front ++ rest)) = LineEnding.detect (front ++ rest)) :
    r.check (p.text ++ (front ++ rest)) =
      (r.check (front ++ rest)).map (·.shift (Text.width p.text)) := by
  have hb' : Bare (p.text ++ front) rest := hb.behind h
  rw [← List.append_assoc] at hd ⊢
  rw [check_bare hb, check_bare hb', hd, hasOpenLine_behind hb.front h]
  simp only [Text.width_append, Nat.add_comm (Text.width p.text), Diagnostic.at,
    Diagnostic.shift, Fix.shift, Fix.insertion, Option.map_some, Option.map_map,
    Function.comp_def]

/-- What a check finds moves with the text. -/
theorem check_behind {p : Prelude} {t : Text} (r : Rule) (h : p.Admits t)
    (hd : LineEnding.detect (p.text ++ t) = LineEnding.detect t) :
    r.check (p.text ++ t) = (r.check t).map (·.shift (Text.width p.text)) := by
  rcases exists_anatomy t with ⟨a, ha, rfl⟩ | ⟨front, rest, hb, rfl⟩
  · exact ha.check_behind r h hd
  · exact hb.check_behind r h hd

/-- **A byte-order mark and an interpreter line are transparent.**  What is
found in a text is found behind them as well, and fixing it there is fixing
it in the text. -/
theorem check_prelude (r : Rule) (p : Prelude) {t : Text} (hm : t.head? ≠ some byteOrderMark)
    (hi : p.line.isSome = true → ¬ ['#', '!'] <+: t)
    (hd : LineEnding.detect (p.text ++ t) = LineEnding.detect t) :
    r.check (p.text ++ t) = (r.check t).map (·.shift (Text.width p.text)) ∧
      ∀ d f, r.check t = some d → d.fix = some f →
        ∃ u, f.edit? t = some u ∧
          (f.shift (Text.width p.text)).edit? (p.text ++ t) = some (p.text ++ u) := by
  refine ⟨check_behind r ⟨hm, hi⟩ hd, fun d f hdiag hfix => ?_⟩
  exact edit?_shift (applies_of_check hdiag hfix).range p.text

/-- A mark and an interpreter line in front of a text, all in the other
convention: the header is put behind both. -/
theorem check_prelude_crlf :
    let r := yearRule "2017".toList "(c) 2017".toList
    let p : Prelude := ⟨true, some "/bin/sh\r".toList, by rintro l ⟨⟩; decide⟩
    let t := "// MIT\r\nfoo();".toList
    t.head? ≠ some byteOrderMark ∧ (p.line.isSome = true → ¬ ['#', '!'] <+: t) ∧
      LineEnding.detect (p.text ++ t) = LineEnding.detect t ∧
      r.check t = some (.at .missingHeader 0
        (some ⟨0, 6, "/*\r\n * (c) 2017\r\n */".toList⟩)) ∧
      r.check (p.text ++ t) = (r.check t).map (·.shift (Text.width p.text)) ∧
      ∀ d f, r.check t = some d → d.fix = some f →
        ∃ u, f.edit? t = some u ∧
          (f.shift (Text.width p.text)).edit? (p.text ++ t) = some (p.text ++ u) := by
  intro r p t
  have hm : t.head? ≠ some byteOrderMark := by decide
  have hi : p.line.isSome = true → ¬ ['#', '!'] <+: t := by decide
  have hd : LineEnding.detect (p.text ++ t) = LineEnding.detect t := by decide
  exact ⟨hm, hi, hd, by decide, check_prelude r p hm hi hd⟩

end HeaderCheck
