/-
# Comments as they are written

The scanner reports a comment as a form and two offsets.  Its written form
is an opening mark, a body and, for a block that was closed, the closing
mark; and what a body may contain depends on the form, since the scanner
stops at the first character that could end the comment.  `Written` is that
grammar, `Written.Fits` the condition on the body and on what follows, and
the two main lemmas say that the scanner reads exactly the comments so
written: `opensWith?_text` one way, `exists_written` the other.

The closing mark is two characters long, so whether a concatenation
contains it depends on its parts and on the seam between them
(`closes_append`).  That is the fact behind every statement here and in the
rendering of templates that a body does not end early.
-/
import HeaderCheck.Comment
import HeaderCheck.Proofs.Slice

namespace HeaderCheck

namespace Text

/-! ## The closing mark -/

theorem closes_cons {c : Char} {t : Text} :
    closingMark <:+: c :: t ↔ (c = '*' ∧ t.head? = some '/') ∨ closingMark <:+: t := by
  rw [List.infix_cons_iff]
  refine or_congr_left ?_
  cases t with
  | nil => simp [closingMark]
  | cons d t => simp [closingMark, eq_comm]

theorem not_closes_nil : ¬ closingMark <:+: [] := by
  simp [closingMark]

/-- A concatenation contains the mark in one of its parts or across the
seam. -/
theorem closes_append {s t : Text} :
    closingMark <:+: s ++ t ↔
      closingMark <:+: s ∨ closingMark <:+: t ∨ (s.getLast? = some '*' ∧ t.head? = some '/') := by
  induction s with
  | nil =>
      rw [List.nil_append, List.getLast?_nil]
      simp only [not_closes_nil, reduceCtorEq, false_and, or_false, false_or]
  | cons c s ih =>
      rw [List.cons_append, closes_cons, ih, closes_cons]
      cases s with
      | nil =>
          simp only [List.nil_append, List.getLast?_singleton, List.head?_nil, reduceCtorEq,
            and_false, Option.some.injEq, not_closes_nil, List.getLast?_nil, false_and, false_or,
            or_false]
          exact or_comm
      | cons d s => simp [or_assoc]

/-- The body of a closed comment is read up to the mark that follows it. -/
theorem splitClosing?_body {body : Text} (rest : Text) (h : ¬ closingMark <:+: body) :
    splitClosing? (body ++ closingMark ++ rest) = some (body, rest) := by
  induction body with
  | nil => rfl
  | cons c body ih =>
      have hbody : ¬ closingMark <:+: body := fun hb => h (closes_cons.mpr (Or.inr hb))
      -- the first character cannot open a mark, neither with the body nor with the mark after it
      have hno : ∀ t, c = '*' → body ++ closingMark ++ rest = '/' :: t → False := by
        rintro t rfl ht
        cases body with
        | nil => simp [closingMark] at ht
        | cons d body =>
            obtain rfl : d = '/' := (List.cons.inj ht).1
            exact h (closes_cons.mpr (Or.inl ⟨rfl, rfl⟩))
      rw [List.cons_append, List.cons_append, splitClosing?.eq_3 _ _ hno, ih hbody]
      rfl

/-- Where the scanner finds a mark, the text before it holds none. -/
theorem eq_of_splitClosing? {t body rest : Text} (h : splitClosing? t = some (body, rest)) :
    t = body ++ closingMark ++ rest ∧ ¬ closingMark <:+: body := by
  fun_induction splitClosing? t generalizing body with
  | case1 => exact absurd h (by simp)
  | case2 t =>
      obtain ⟨rfl, rfl⟩ := Prod.mk.inj (Option.some.inj h)
      exact ⟨rfl, not_closes_nil⟩
  | case3 c t hno ih =>
      obtain ⟨⟨b, r⟩, hs, hp⟩ := Option.map_eq_some_iff.mp h
      obtain ⟨rfl, rfl⟩ := Prod.mk.inj hp
      obtain ⟨rfl, hb⟩ := ih hs
      refine ⟨rfl, fun hc => ?_⟩
      rcases closes_cons.mp hc with ⟨rfl, hd⟩ | hc
      · obtain ⟨b, rfl⟩ : ∃ b', b = '/' :: b' := List.head?_eq_some_iff.mp hd
        exact hno _ rfl rfl
      · exact hb hc

theorem splitClosing?_eq_none_iff {t : Text} :
    splitClosing? t = none ↔ ¬ closingMark <:+: t := by
  fun_induction splitClosing? t with
  | case1 => exact ⟨fun _ => not_closes_nil, fun _ => rfl⟩
  | case2 t => simp [closes_cons]
  | case3 c t hno ih =>
      rw [Option.map_eq_none_iff, ih, closes_cons, not_or]
      refine ⟨fun h => ⟨?_, h⟩, fun h => h.2⟩
      rintro ⟨rfl, hd⟩
      obtain ⟨u, rfl⟩ := List.head?_eq_some_iff.mp hd
      exact hno u rfl rfl

end Text

/-! ## The grammar of comments -/

/-- A comment as it stands in a text. -/
inductive Written where
  | line (body : Text)
  | closed (body : Text)
  | unclosed (body : Text)
deriving DecidableEq, Repr

namespace Written

def kind : Written → CommentKind
  | line _ => .line
  | closed _ => .block
  | unclosed _ => .block

def body : Written → Text
  | line b => b
  | closed b => b
  | unclosed b => b

def opener : Written → Text
  | line _ => ['/', '/']
  | closed _ => ['/', '*']
  | unclosed _ => ['/', '*']

def closer : Written → Text
  | line _ => []
  | closed _ => closingMark
  | unclosed _ => []

def text (w : Written) : Text :=
  w.opener ++ w.body ++ w.closer

/-- The comment extends no further than it is written, and no less far:
its body does not end it, and what follows a comment without a closing mark
does. -/
def Fits (rest : Text) : Written → Prop
  | line b => (∀ c ∈ b, isLineBreak c = false) ∧ ∀ c ∈ rest.head?, isLineBreak c = true
  | closed b => ¬ closingMark <:+: b
  | unclosed b => ¬ closingMark <:+: b ∧ rest = []

/-- The comment that the scanner reports when the written one starts at
an offset. -/
def span (w : Written) (start : Nat) : Comment :=
  { kind := w.kind, start, stop := start + Text.width w.text }

@[simp] theorem width_opener (w : Written) : Text.width w.opener = 2 := by
  cases w <;> rfl

/-- A written comment starts with a slash, whatever its form. -/
theorem text_eq_cons (w : Written) : ∃ t, w.text = '/' :: t := by
  cases w <;> exact ⟨_, rfl⟩

theorem width_text_line (b : Text) : Text.width (line b).text = 2 + Text.width b := by
  simp [text, closer, body]

theorem width_text_closed (b : Text) : Text.width (closed b).text = 4 + Text.width b := by
  have hclose : Text.width closingMark = 2 := rfl
  simp only [text, closer, body, Text.width_append, width_opener, hclose]
  omega

theorem width_text_unclosed (b : Text) : Text.width (unclosed b).text = 2 + Text.width b := by
  simp [text, closer, body]

end Written

/-! ## Reading what is written -/

namespace Text

theorem opensWith?_text {w : Written} {rest : Text} (h : w.Fits rest) :
    opensWith? (w.text ++ rest) = some (w.kind, width w.text) := by
  cases w with
  | line b =>
      show some (CommentKind.line, 2 + width ((b ++ [] ++ rest).takeWhile (!isLineBreak ·))) = _
      have hb : ∀ c ∈ b, (!isLineBreak c) = true := fun c hc => by rw [h.1 c hc]; rfl
      have hr : ∀ c ∈ rest.head?, (!isLineBreak c) = false := fun c hc => by rw [h.2 c hc]; rfl
      rw [List.append_nil, takeWhile_eq_of_boundary hb hr, Written.width_text_line]
      rfl
  | closed b =>
      have ht : (Written.closed b).text ++ rest = '/' :: '*' :: (b ++ closingMark ++ rest) := rfl
      rw [ht, opensWith?, splitClosing?_body rest h, Written.width_text_closed]
      rfl
  | unclosed b =>
      obtain ⟨hb, rfl⟩ := h
      have ht : (Written.unclosed b).text ++ [] = '/' :: '*' :: b := by
        simp [Written.text, Written.opener, Written.body, Written.closer]
      rw [ht, opensWith?, splitClosing?_eq_none_iff.mpr hb, Written.width_text_unclosed]
      rfl

/-- Whatever the scanner takes for a comment is a written one. -/
theorem exists_written {t : Text} {p : CommentKind × Nat} (h : opensWith? t = some p) :
    ∃ (w : Written) (rest : Text), t = w.text ++ rest ∧ w.Fits rest := by
  unfold opensWith? at h
  split at h
  next u =>
    refine ⟨.line (u.takeWhile (!isLineBreak ·)), u.dropWhile (!isLineBreak ·), ?_, ?_, ?_⟩
    · simp [Written.text, Written.opener, Written.body, Written.closer]
    · intro c hc
      simpa using List.mem_takeWhile_imp hc
    · intro c hc
      simpa using dropWhile_boundary (!isLineBreak ·) u c hc
  next u =>
    cases hs : splitClosing? u with
    | none =>
        refine ⟨.unclosed u, [], ?_, splitClosing?_eq_none_iff.mp hs, rfl⟩
        simp [Written.text, Written.opener, Written.body, Written.closer]
    | some q =>
        obtain ⟨rfl, hb⟩ := eq_of_splitClosing? hs
        exact ⟨.closed q.1, q.2, rfl, hb⟩
  next => exact absurd h (by simp)

end Text

namespace Written

/-- The inner text of a comment is the body it was written with. -/
theorem inner?_span {w : Written} {rest : Text} (before : Text) (h : w.Fits rest) :
    (w.span (Text.width before)).inner? (before ++ w.text ++ rest) = some w.body := by
  have hslice : (before ++ w.text ++ rest).slice? (Text.width before + 2)
      (Text.width before + Text.width w.text) = some (w.body ++ w.closer) := by
    have hs := Text.slice?_width (before ++ w.opener) (w.body ++ w.closer) rest
    simpa [text, Nat.add_assoc] using hs
  rw [Comment.inner?, span, hslice, Option.map_some]
  cases w with
  | line b => simp [kind, body, closer]
  | closed b => simp [kind, body, closer, Text.before?_append]
  | unclosed b =>
      have hno : ¬ closingMark <:+ b := fun hs => h.1 hs.isInfix
      simp [kind, body, closer, Text.before?_getD_of_not_suffix hno]

end Written

end HeaderCheck
