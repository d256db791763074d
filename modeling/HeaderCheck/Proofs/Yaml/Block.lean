/-
# Literal blocks read back

A string with a line feed in it is written as a literal block: its lines
behind a margin, under a header that says where the margin ends, if that
could not be told from the first line, and what becomes of the line breaks
at the end.

A string is nothing but line breaks, or it has line breaks before, lines with
line breaks between them, and line breaks behind (`breaks_or_block`).  The
lines in the middle are an `IsBlock`, and the reader goes through it as the
induction does: a line, the line breaks behind it, and the rest
(`readBlockLines_body`).  What the reader then has as line breaks at the end
is one line feed where the string had none, and the mark in the header takes
that off again (`kept_closing`).
-/
import HeaderCheck.Proofs.Yaml.Scalar

namespace HeaderCheck.Yaml

variable {c : Char} {t u : Text}

/-! ## Lines of a block -/

theorem splitBreak?_cons (hp : isPrintable c = true) (hb : isBreak c = true) :
    splitBreak? (c :: t) = some (c, t) := by
  have hne := ne_return_of_isPrintable hp
  rw [splitBreak?]
  · rcases eq_feed_or_isSeparator hp hb with rfl | hs
    · rfl
    · rw [if_pos hs]
  · exact fun _ h _ => hne h

theorem literalBody_append_break {b : Bool} (hb : isBreak c = true) (s : Text) :
    literalBody b (s ++ c :: t) = literalBody b s ++ c :: literalBody true t := by
  induction s generalizing b with
  | nil => simp only [List.nil_append, literalBody, if_pos hb]
  | cons d s ih =>
      simp only [List.cons_append, literalBody, ih]
      split
      · rfl
      · rw [List.append_assoc, List.cons_append]

theorem literalBody_breaks {s : Text} (h : ∀ c ∈ s, isBreak c = true) :
    literalBody true (s ++ t) = s ++ literalBody true t := by
  induction s with
  | nil => rfl
  | cons d s ih =>
      rw [List.cons_append, literalBody, if_pos (h d List.mem_cons_self),
        ih fun c hc => h c (List.mem_cons_of_mem d hc), List.cons_append]

theorem literalBody_line {s : Text} (h : ∀ c ∈ s, isBreak c = false) :
    literalBody false s = s := by
  induction s with
  | nil => rfl
  | cons d s ih =>
      rw [literalBody, h d List.mem_cons_self, ih fun c hc => h c (List.mem_cons_of_mem d hc)]
      rfl

/-! ## Empty lines -/

section EmptyLines

variable {limit : Option Nat} {widest : Nat}

theorem readEmptyLines_breaks {s : Text} {e : EmptyLines} (hp : ∀ c ∈ s, isPrintable c = true)
    (hb : ∀ c ∈ s, isBreak c = true) (h : readEmptyLines limit 0 widest t = .ok e) :
    readEmptyLines limit 0 widest (s ++ t) = .ok { e with breaks := s ++ e.breaks } := by
  induction s with
  | nil => exact h
  | cons c s ih =>
      have hc := hb c List.mem_cons_self
      have hne : c ≠ ' ' ∧ c ≠ '\t' := by
        constructor <;> rintro rfl <;> exact absurd hc (by decide)
      have hread : (if isSeparator c then c else '\n') = c := by
        rcases eq_feed_or_isSeparator (hp c List.mem_cons_self) hc with rfl | hs
        · rfl
        · rw [if_pos hs]
      have hrest := ih (fun d hd => hp d (List.mem_cons_of_mem c hd))
        fun d hd => hb d (List.mem_cons_of_mem c hd)
      rw [List.cons_append, readEmptyLines]
      · simp only [hne.1, hne.2, decide_false, Bool.false_and, Bool.false_eq_true, if_false, hc,
          if_true, hread, hrest]
        rfl
      · exact fun _ h _ => ne_return_of_isPrintable (hp c List.mem_cons_self) h

/-- The margin of a line is read as its indentation, which is known or ends
with the spaces. -/
theorem readEmptyLines_margin (widest : Nat) (hp : isPrintable c = true) (hb : isBreak c = false)
    (hc : limit = some 2 ∨ (limit = none ∧ c ≠ ' ')) :
    readEmptyLines limit 0 widest (margin true ++ c :: t) =
      .ok { breaks := [], widest := max (max widest 1) 2, column := 2, rest := c :: t } := by
  have htab : c ≠ '\t' := by
    rintro rfl
    exact absurd hp (by decide)
  have hend : ∀ w, readEmptyLines limit 2 w (c :: t) =
      .ok { breaks := [], widest := w, column := 2, rest := c :: t } := by
    intro w
    rw [readEmptyLines]
    · rcases hc with rfl | ⟨rfl, hc⟩
      · simp [hb]
      · simp [hb, hc, htab]
    · exact fun _ h _ => ne_return_of_isPrintable hp h
  rw [margin, if_pos rfl, List.cons_append, List.cons_append, List.nil_append]
  rcases hc with rfl | ⟨rfl, hc⟩ <;> simp [readEmptyLines, hend]

theorem readEmptyLines_line (limit : Option Nat) (widest : Nat) (hu : StartsLine u) :
    readEmptyLines limit 0 widest u = .ok { breaks := [], widest, column := 0, rest := u } := by
  cases u with
  | nil => rfl
  | cons c u =>
      have hg := not_isGap_of_isNameChar (hu c rfl)
      have hne : c ≠ ' ' ∧ c ≠ '\t' ∧ c ≠ '\r' := by
        refine ⟨?_, ?_, ?_⟩ <;> rintro rfl <;> exact absurd hg (by decide)
      rw [isGap, Bool.or_eq_false_iff] at hg
      rw [readEmptyLines]
      · simp [hne.1, hne.2.1, hg.2]
      · exact fun _ h _ => hne.2.2 h

end EmptyLines

/-! ## The lines of a block -/

/-- Lines with their line breaks between them, the empty lines among these:
a text that neither starts nor ends with a line break. -/
inductive IsBlock : Text → Prop
  | line {s : Text} : s ≠ [] → (∀ c ∈ s, isBreak c = false) → IsBlock s
  | more {s bs t : Text} : s ≠ [] → (∀ c ∈ s, isBreak c = false) →
      bs ≠ [] → (∀ c ∈ bs, isBreak c = true) → IsBlock t → IsBlock (s ++ (bs ++ t))

namespace IsBlock

theorem head (h : IsBlock t) : ∃ c w, t = c :: w ∧ isBreak c = false := by
  cases h with
  | line hne hs =>
      obtain ⟨c, w, rfl⟩ := List.exists_cons_of_ne_nil hne
      exact ⟨c, w, rfl, hs c List.mem_cons_self⟩
  | more hne hs _ _ _ =>
      obtain ⟨c, w, rfl⟩ := List.exists_cons_of_ne_nil hne
      exact ⟨c, _, rfl, hs c List.mem_cons_self⟩

theorem last (h : IsBlock t) : ∃ w c, t = w ++ [c] ∧ isBreak c = false := by
  induction h with
  | @line s hne hs =>
      obtain ⟨w, c, rfl⟩ := exists_concat hne
      exact ⟨w, c, rfl, hs c (by simp)⟩
  | @more s bs _ _ _ _ _ _ ih =>
      obtain ⟨w, c, rfl, hc⟩ := ih
      exact ⟨s ++ (bs ++ w), c, by simp, hc⟩

theorem cons (hc : isBreak c = false) (h : IsBlock t) : IsBlock (c :: t) := by
  have hcons : ∀ s : Text, (∀ d ∈ s, isBreak d = false) → ∀ d ∈ c :: s, isBreak d = false :=
    fun s hs => List.forall_mem_cons.mpr ⟨hc, hs⟩
  cases h with
  | line _ hs => exact .line (by simp) (hcons _ hs)
  | more _ hs hbs hb ht => exact .more (s := c :: _) (by simp) (hcons _ hs) hbs hb ht

end IsBlock

/-- A text is nothing but line breaks, or lines with line breaks before and
behind them. -/
theorem breaks_or_block (t : Text) :
    (∀ c ∈ t, isBreak c = true) ∨ ∃ lead core trail, t = lead ++ (core ++ trail) ∧ IsBlock core ∧
      (∀ c ∈ lead, isBreak c = true) ∧ ∀ c ∈ trail, isBreak c = true := by
  induction t with
  | nil => exact Or.inl fun c hc => absurd hc List.not_mem_nil
  | cons c t ih =>
      cases hc : isBreak c with
      | true =>
          rcases ih with ht | ⟨lead, core, trail, rfl, hcore, hlead, htrail⟩
          · exact Or.inl (List.forall_mem_cons.mpr ⟨hc, ht⟩)
          · exact Or.inr ⟨c :: lead, core, trail, rfl, hcore,
              List.forall_mem_cons.mpr ⟨hc, hlead⟩, htrail⟩
      | false =>
          have hone : ∀ d ∈ [c], isBreak d = false := by simpa using hc
          rcases ih with ht | ⟨lead, core, trail, rfl, hcore, hlead, htrail⟩
          · exact Or.inr ⟨[], [c], t, rfl, .line (by simp) hone, by simp, ht⟩
          · refine Or.inr ?_
            cases lead with
            | nil => exact ⟨[], c :: core, trail, rfl, hcore.cons hc, by simp, htrail⟩
            | cons b bs =>
                exact ⟨[], c :: (b :: bs ++ core), trail, by simp,
                  .more (s := [c]) (by simp) hone (by simp) hlead hcore, by simp, htrail⟩

theorem readBlockLines_line {line : Text} {e : EmptyLines} {fuel : Nat} {lines : List BlockLine}
    (hline : ∀ d ∈ line, isBreak d = false) (hp : isPrintable c = true) (hb : isBreak c = true)
    (he : readEmptyLines (some 2) 0 0 t = .ok e)
    (hrest : readBlockLines 2 fuel e.column e.rest = .ok (lines, u)) :
    readBlockLines 2 (fuel + 1) 2 (line ++ c :: t) =
      .ok (⟨line, some c, e.breaks⟩ :: lines, u) := by
  have hmore : ∀ d ∈ line, (!isBreak d) = true := fun d hd => by rw [hline d hd]; rfl
  have htake : (line ++ c :: t).takeWhile (!isBreak ·) = line := by
    rw [List.takeWhile_append_of_pos hmore, List.takeWhile_cons_of_neg (by simp [hb]),
      List.append_nil]
  have hdrop : (line ++ c :: t).dropWhile (!isBreak ·) = c :: t := by
    rw [List.dropWhile_append_of_pos hmore, List.dropWhile_cons_of_neg (by simp [hb])]
  rw [readBlockLines, if_neg (by simp), htake, hdrop, splitBreak?_cons hp hb]
  simp only [he, hrest, bind, Except.bind, pure, Except.pure]

/-- What is left of the line breaks at the end of a block. -/
def kept : Chomping → Text → Text
  | .strip, _ => []
  | .clip, breaks => breaks.take 1
  | .keep, breaks => breaks

theorem joinLines_cons (k : Chomping) (ending : Option Char) (b : Bool) (empty : Text)
    (l : BlockLine) (ls : List BlockLine) :
    ∃ b', joinLines false k ending b empty (l :: ls) =
      ending.toList ++ empty ++ l.text ++ joinLines false k l.ending b' l.empty ls :=
  ⟨l.text.head?.any isBlank, by simp [joinLines]⟩

/-- A line of a block is followed by its line breaks and the margin of the
next line. -/
theorem literalBody_more {b : Char} {s bs w : Text} (hs : ∀ c ∈ s, isBreak c = false)
    (hb : isBreak b = true) (hbs : ∀ c ∈ bs, isBreak c = true) (hc : isBreak c = false) :
    literalBody false (s ++ (b :: bs ++ c :: w)) =
      s ++ b :: (bs ++ (margin true ++ c :: literalBody false w)) := by
  have hmargin : literalBody true (c :: w) = margin true ++ c :: literalBody false w := by
    rw [literalBody, hc, if_neg Bool.false_ne_true]
  rw [List.cons_append, literalBody_append_break hb, literalBody_line hs, literalBody_breaks hbs,
    hmargin]

theorem readBlockLines_more {b : Char} {s bs v w : Text} {fuel : Nat} {lines : List BlockLine}
    (hs : ∀ c ∈ s, isBreak c = false) (hpb : ∀ c ∈ b :: bs, isPrintable c = true)
    (hb : ∀ c ∈ b :: bs, isBreak c = true) (hp : isPrintable c = true) (hc : isBreak c = false)
    (hrest : readBlockLines 2 fuel 2 (literalBody false (c :: w) ++ v) = .ok (lines, u)) :
    readBlockLines 2 (fuel + 1) 2 (literalBody false (s ++ (b :: bs ++ c :: w)) ++ v) =
      .ok (⟨s, some b, bs⟩ :: lines, u) := by
  obtain ⟨hpb₁, hpbs⟩ := List.forall_mem_cons.mp hpb
  obtain ⟨hb₁, hbs⟩ := List.forall_mem_cons.mp hb
  have hinset := readEmptyLines_margin 0 (t := literalBody false w ++ v) hp hc
    (Or.inl (Eq.refl (some 2)))
  have he := readEmptyLines_breaks hpbs hbs hinset
  have hinner : literalBody false (c :: w) = c :: literalBody false w := by
    rw [literalBody, hc]
    rfl
  have hbody : literalBody false (s ++ (b :: bs ++ c :: w)) ++ v =
      s ++ b :: (bs ++ (margin true ++ c :: (literalBody false w ++ v))) := by
    rw [literalBody_more hs hb₁ hbs hc]
    simp only [List.append_assoc, List.cons_append]
  rw [hinner, List.cons_append] at hrest
  rw [hbody, readBlockLines_line hs hpb₁ hb₁ he hrest, List.append_nil]

/-- A block is read line by line; its lines join to it, and to what is kept
of the line breaks behind it. -/
theorem readBlockLines_body {trail : Text} {fuel : Nat} (h : IsBlock t)
    (hp : ∀ c ∈ t, isPrintable c = true) (htrail : trail ≠ [])
    (hpt : ∀ c ∈ trail, isPrintable c = true) (hbt : ∀ c ∈ trail, isBreak c = true)
    (hu : StartsLine u) (hfuel : t.length ≤ fuel) :
    ∃ lines, readBlockLines 2 fuel 2 (literalBody false t ++ (trail ++ u)) = .ok (lines, u) ∧
      ∀ k ending b empty, joinLines false k ending b empty lines =
        ending.toList ++ empty ++ t ++ kept k trail := by
  induction h generalizing fuel with
  | @line s hne hs =>
      obtain ⟨b, bs, rfl⟩ := List.exists_cons_of_ne_nil htrail
      obtain ⟨fuel, rfl⟩ := Nat.exists_eq_add_one.mpr
        ((List.length_pos_of_ne_nil hne).trans_le hfuel)
      have he := readEmptyLines_breaks (List.forall_mem_cons.mp hpt).2
        (List.forall_mem_cons.mp hbt).2 (readEmptyLines_line (some 2) 0 hu)
      have hstop : readBlockLines 2 fuel 0 u = .ok ([], u) := by
        cases fuel <;> rfl
      refine ⟨[⟨s, some b, bs⟩], ?_, fun k ending x empty => ?_⟩
      · rw [literalBody_line hs, List.cons_append, readBlockLines_line hs (hpt b List.mem_cons_self)
          (hbt b List.mem_cons_self) he hstop, List.append_nil]
      · obtain ⟨y, hjoin⟩ := joinLines_cons k ending x empty ⟨s, some b, bs⟩ []
        rw [hjoin]
        cases k <;> rfl
  | @more s bs t hne hs hbs hb ht ih =>
      obtain ⟨b, bs, rfl⟩ := List.exists_cons_of_ne_nil hbs
      obtain ⟨c, w, rfl, hc⟩ := ht.head
      obtain ⟨-, hprest⟩ := List.forall_mem_append.mp hp
      obtain ⟨hpb, hpc⟩ := List.forall_mem_append.mp hprest
      have hpos := List.length_pos_of_ne_nil hne
      simp only [List.length_append, List.length_cons] at hfuel
      obtain ⟨fuel, rfl⟩ : ∃ n, fuel = n + 1 := Nat.exists_eq_add_one.mpr (by omega)
      have hlen : (c :: w).length ≤ fuel := by
        rw [List.length_cons]
        omega
      obtain ⟨lines, hlines, hjoin⟩ := ih hpc hlen
      refine ⟨⟨s, some b, bs⟩ :: lines, ?_, fun k ending x empty => ?_⟩
      · exact readBlockLines_more hs hpb hb (hpc c List.mem_cons_self) hc hlines
      · obtain ⟨y, hcons⟩ := joinLines_cons k ending x empty ⟨s, some b, bs⟩ lines
        rw [hcons, hjoin]
        simp

/-! ## The header -/

theorem chompHint_strip (s : Text) (hc : isBreak c = false) : chompHint (s ++ [c]) = ['-'] := by
  rw [chompHint, List.reverse_append]
  cases s.reverse <;> simp [hc]

theorem chompHint_clip {d : Char} (s : Text) (hc : isBreak c = false) (hd : isBreak d = true) :
    chompHint (s ++ [c] ++ [d]) = [] := by
  simp [chompHint, hc, hd]

theorem chompHint_keep {d : Char} {s : Text} (hs : ∀ c ∈ s.getLast?, isBreak c = true)
    (hd : isBreak d = true) : chompHint (s ++ [d]) = ['+'] := by
  rcases List.eq_nil_or_concat s with rfl | ⟨w, c, rfl⟩
  · simp [chompHint, hd]
  · rw [List.concat_eq_append] at hs ⊢
    have hc := hs c (by simp)
    simp [chompHint, hc, hd]

/-- The chomping of a block whose line breaks at the end are `trail`. -/
def chompingOf : Text → Chomping
  | [] => .strip
  | [_] => .clip
  | _ => .keep

/-- The mark of a chomping. -/
def chompMark : Chomping → Text
  | .strip => ['-']
  | .clip => []
  | .keep => ['+']

theorem chompHint_block {trail : Text} (h : IsBlock t) (hbt : ∀ c ∈ trail, isBreak c = true)
    (s : Text) : chompHint (s ++ (t ++ trail)) = chompMark (chompingOf trail) := by
  obtain ⟨w, c, rfl, hc⟩ := h.last
  match trail with
  | [] =>
      rw [List.append_nil, ← List.append_assoc]
      exact chompHint_strip (s ++ w) hc
  | [d] =>
      rw [← List.append_assoc, ← List.append_assoc]
      exact chompHint_clip (s ++ w) hc (hbt d List.mem_cons_self)
  | d :: e :: trail =>
      obtain ⟨r, x, hr⟩ := exists_concat (List.cons_ne_nil e trail)
      have hkeep : chompMark (chompingOf (d :: e :: trail)) = ['+'] := rfl
      have hsplit : s ++ (w ++ [c] ++ d :: (r ++ [x])) = s ++ (w ++ [c] ++ d :: r) ++ [x] := by
        simp
      have hlast : (s ++ (w ++ [c] ++ d :: r)).getLast? = (d :: r).getLast? := by
        simp [List.getLast?_append, List.getLast?_cons]
      rw [hkeep, hr, hsplit]
      rw [hr] at hbt
      refine chompHint_keep (fun y hy => hbt y ?_) (hbt x (by simp))
      rw [hlast] at hy
      have hmem : y ∈ d :: r := List.mem_of_getLast? hy
      exact List.mem_append_left [x] hmem

theorem readBlockHeader_marks (digit : Bool) (k : Chomping) (w : Text) :
    readBlockHeader ((if digit then ['2'] else []) ++ chompMark k ++ '\n' :: w) =
      .ok (k, if digit then some 2 else none, w) := by
  cases digit <;> cases k <;> rfl

/-! ## The block -/

/-- The line feed behind a scalar, unless it has ended its line. -/
def lineEnd (t : Text) : Text :=
  if t.getLast?.any isBreak then [] else ['\n']

theorem literalBody_trail {trail : Text} {b : Bool} (h : ∀ c ∈ trail, isBreak c = true) :
    literalBody b (t ++ trail) = literalBody b t ++ trail := by
  cases trail with
  | nil => simp
  | cons d trail =>
      have hrest := literalBody_breaks (t := []) (List.forall_mem_cons.mp h).2
      rw [List.append_nil, literalBody, List.append_nil] at hrest
      rw [literalBody_append_break (h d List.mem_cons_self), hrest]

/-- A literal block ends with the last character of its text. -/
theorem exists_literalBody_concat (b : Bool) (w : Text) (c : Char) :
    ∃ s, literalBody b (w ++ [c]) = s ++ [c] := by
  induction w generalizing b with
  | nil =>
      rw [List.nil_append, literalBody]
      split
      next => exact ⟨[], rfl⟩
      next => exact ⟨_, rfl⟩
  | cons d w ih =>
      rw [List.cons_append, literalBody]
      split
      next =>
        obtain ⟨s, hs⟩ := ih true
        exact ⟨d :: s, by rw [hs, List.cons_append]⟩
      next =>
        obtain ⟨s, hs⟩ := ih false
        exact ⟨margin b ++ d :: s, by rw [hs, List.append_assoc, List.cons_append]⟩

theorem length_le_literalBody (b : Bool) : t.length ≤ (literalBody b t).length := by
  induction t generalizing b with
  | nil => exact Nat.zero_le _
  | cons c t ih =>
      rw [literalBody]
      split
      · exact Nat.succ_le_succ (ih true)
      · have h := ih false
        simp only [List.length_append, List.length_cons] at h ⊢
        omega

/-- The line breaks that stand behind a block. -/
def closing (trail : Text) : Text :=
  if trail = [] then ['\n'] else trail

theorem closing_ne_nil (trail : Text) : closing trail ≠ [] := by
  rw [closing]
  split
  next => simp
  next h => exact h

theorem forall_mem_closing {trail : Text} {p : Char → Bool} (hfeed : p '\n' = true)
    (h : ∀ c ∈ trail, p c = true) : ∀ c ∈ closing trail, p c = true := by
  rw [closing]
  split
  next => simpa using hfeed
  next => exact h

/-- What is kept of them is what was there. -/
theorem kept_closing (trail : Text) : kept (chompingOf trail) (closing trail) = trail := by
  match trail with
  | [] => rfl
  | [d] => rfl
  | d :: e :: trail => rfl

theorem append_lineEnd (lead : Text) {core trail : Text} (hcore : IsBlock core)
    (htrail : ∀ c ∈ trail, isBreak c = true) :
    trail ++ lineEnd (lead ++ (core ++ trail)) = closing trail := by
  rw [closing]
  split
  next h =>
    obtain ⟨w, c, rfl, hc⟩ := hcore.last
    simp [lineEnd, h, hc]
  next h =>
    obtain ⟨d, hd⟩ : ∃ d, trail.getLast? = some d := ⟨_, List.getLast?_eq_some_getLast h⟩
    have hlast : (lead ++ (core ++ trail)).getLast?.any isBreak = true := by
      rw [List.getLast?_append, List.getLast?_append, hd]
      exact htrail d (List.mem_of_getLast? hd)
    rw [lineEnd, hlast, if_pos rfl, List.append_nil]

theorem literalBody_block {lead core trail : Text} (hcore : IsBlock core)
    (hlead : ∀ c ∈ lead, isBreak c = true) (htrail : ∀ c ∈ trail, isBreak c = true) :
    literalBody true (lead ++ (core ++ trail)) ++ (lineEnd (lead ++ (core ++ trail)) ++ u) =
      lead ++ (margin true ++ (literalBody false core ++ (closing trail ++ u))) := by
  obtain ⟨c, w, hcw, hc⟩ := hcore.head
  have hline : literalBody true core = margin true ++ literalBody false core := by
    rw [hcw, literalBody, literalBody, hc]
    rfl
  rw [literalBody_breaks hlead, literalBody_trail htrail, hline,
    ← append_lineEnd lead hcore htrail]
  simp only [List.append_assoc]

/-- The indentation is given where it could not be told from the first
line. -/
theorem exists_indentHint {lead core : Text} (hcore : IsBlock core)
    (hlead : ∀ c ∈ lead, isBreak c = true) (trail : Text) :
    ∃ digit : Bool, indentHint (lead ++ (core ++ trail)) = (if digit then ['2'] else []) ∧
      ∀ c ∈ core.head?, (if digit then some 2 else none) = some 2 ∨
        ((if digit then some 2 else none) = none ∧ c ≠ ' ') := by
  refine ⟨_, rfl, fun c hc => ?_⟩
  obtain ⟨c', w, rfl, hbreak⟩ := hcore.head
  obtain rfl := Option.some.inj hc
  cases lead with
  | cons b lead => exact Or.inl (by simp [hlead b List.mem_cons_self])
  | nil =>
      by_cases hs : c' = ' '
      · exact Or.inl (by simp [hs, isSpace])
      · exact Or.inr (by simp [hs, isSpace, hbreak])

/-- A block that is nothing but line breaks. -/
theorem readBlock_breaks (hp : ∀ c ∈ t, isPrintable c = true) (hb : ∀ c ∈ t, isBreak c = true)
    (hne : t ≠ []) (hu : StartsLine u) :
    readBlock false 1 (indentHint t ++ chompHint t ++
      '\n' :: (literalBody true t ++ (lineEnd t ++ u))) = .ok (t, u) := by
  have hbody : literalBody true t = t := by
    have h := literalBody_breaks (t := []) hb
    rwa [List.append_nil, literalBody, List.append_nil] at h
  obtain ⟨s, d, hsd⟩ := exists_concat hne
  have hd : isBreak d = true := hb d (by simp [hsd])
  have hend : lineEnd t = [] := by simp [lineEnd, hsd, hd]
  have hhint : indentHint t = if true then ['2'] else [] := by
    obtain ⟨c, w, rfl⟩ := List.exists_cons_of_ne_nil hne
    simp [indentHint, hb c List.mem_cons_self]
  have hchomp : chompHint t = chompMark .keep := by
    rw [hsd]
    refine chompHint_keep (fun c hc => hb c ?_) hd
    rw [hsd]
    exact List.mem_append_left _ (List.mem_of_getLast? hc)
  have he := readEmptyLines_breaks hp hb (readEmptyLines_line (some 2) 0 hu)
  have hstop : readBlockLines 2 u.length 0 u = .ok ([], u) := by
    cases u <;> rfl
  rw [readBlock, hhint, hchomp, readBlockHeader_marks, hbody, hend, List.nil_append]
  simp only [if_true, bind, Except.bind, Option.map_some, Nat.sub_self, Nat.zero_add, he,
    Option.getD_some, hstop, pure, Except.pure, joinLines, Option.toList_none, List.nil_append,
    List.append_nil]

/-- **A literal block is read back**, with the line breaks before, between
and behind its lines. -/
theorem readBlock_text (hp : ∀ c ∈ t, isPrintable c = true) (hne : t ≠ []) (hu : StartsLine u) :
    readBlock false 1 (indentHint t ++ chompHint t ++
      '\n' :: (literalBody true t ++ (lineEnd t ++ u))) = .ok (t, u) := by
  rcases breaks_or_block t with hb | ⟨lead, core, trail, rfl, hcore, hlead, htrail⟩
  · exact readBlock_breaks hp hb hne hu
  obtain ⟨hpl, hprest⟩ := List.forall_mem_append.mp hp
  obtain ⟨hpc, hpt⟩ := List.forall_mem_append.mp hprest
  obtain ⟨c, w, hcw, hc⟩ := hcore.head
  have hcore' : literalBody false core = c :: literalBody false w := by
    rw [hcw, literalBody, hc]
    rfl
  obtain ⟨digit, hdigit, hlimit⟩ := exists_indentHint hcore hlead trail
  have he := readEmptyLines_breaks hpl hlead (readEmptyLines_margin 0
    (t := literalBody false w ++ (closing trail ++ u)) (hpc c (by simp [hcw])) hc
    (hlimit c (by rw [hcw]; rfl)))
  have hfuel : core.length ≤ (literalBody false core ++ (closing trail ++ u)).length := by
    have h := length_le_literalBody (t := core) false
    rw [List.length_append]
    omega
  obtain ⟨lines, hlines, hjoin⟩ := readBlockLines_body hcore hpc (closing_ne_nil trail)
    (forall_mem_closing (by decide) hpt) (forall_mem_closing (by decide) htrail) hu hfuel
  have hgiven : (if digit then some 2 else none).map (1 - 1 + ·) =
      if digit then some 2 else none := by
    cases digit <;> rfl
  have hwidth : (if digit then some 2 else none).getD (max (max (max (max 0 1) 2) 1) 1) = 2 := by
    cases digit <;> rfl
  rw [readBlock, hdigit, chompHint_block hcore htrail, readBlockHeader_marks,
    literalBody_block hcore hlead htrail]
  rw [hcore', List.cons_append] at hlines ⊢
  simp only [bind, Except.bind, hgiven, he, hwidth, hlines, hjoin, kept_closing]
  simp [pure, Except.pure]

end HeaderCheck.Yaml
