/-
# The tokens of a written mapping

A mapping is written line by line: a key, its colon, and a text, a flag, or a
list with one line for each item.  Its tokens are those of the entries in
their order (`tokens_writeMapping`), with the token of the mapping in front
and that of its end behind.

The proof follows the printer.  There is one lemma for each thing that it
writes, and each says the same: from the start of what is written, the layout
reads on to the start of the next line, and has added the tokens.  The only
difference between entries is made by the first one: with its colon the
mapping is opened, in front of the key that had been read before
(`step_colon`).
-/
import HeaderCheck.Proofs.Yaml.Layout

namespace HeaderCheck.Yaml

variable {c : Char} {s t u w : Text}

/-! ## What is written -/

theorem isPrintable_of_mem_margin (b : Bool) : ∀ c ∈ margin b, isPrintable c = true := by
  cases b <;> exact List.all_eq_true.mp (by decide)

theorem isPrintable_of_mem_singleBody {b : Bool} (hp : ∀ c ∈ t, isPrintable c = true) :
    ∀ c ∈ singleBody b t, isPrintable c = true := by
  induction t generalizing b with
  | nil => exact isPrintable_of_mem_margin b
  | cons d t ih =>
      obtain ⟨hd, ht⟩ := List.forall_mem_cons.mp hp
      rw [singleBody]
      split
      next => exact List.forall_mem_cons.mpr ⟨hd, ih ht⟩
      next =>
        refine List.forall_mem_append.mpr
          ⟨List.forall_mem_append.mpr ⟨isPrintable_of_mem_margin b, ?_⟩, ih ht⟩
        split
        next => exact List.all_eq_true.mp (by decide)
        next => simpa using hd

theorem isPrintable_of_mem_literalBody {b : Bool} (hp : ∀ c ∈ t, isPrintable c = true) :
    ∀ c ∈ literalBody b t, isPrintable c = true := by
  induction t generalizing b with
  | nil => exact fun _ h => absurd h List.not_mem_nil
  | cons d t ih =>
      obtain ⟨hd, ht⟩ := List.forall_mem_cons.mp hp
      rw [literalBody]
      split
      next => exact List.forall_mem_cons.mpr ⟨hd, ih ht⟩
      next =>
        exact List.forall_mem_append.mpr
          ⟨isPrintable_of_mem_margin b, List.forall_mem_cons.mpr ⟨hd, ih ht⟩⟩

theorem isPrintable_of_mem_hexDigits (k n : Nat) : ∀ c ∈ hexDigits k n, isPrintable c = true := by
  have hdigit : ∀ d < 16, isPrintable (Nat.digitChar d).toUpper = true := by decide
  induction k generalizing n with
  | zero => exact fun _ h => absurd h List.not_mem_nil
  | succ k ih =>
      rw [hexDigits]
      refine List.forall_mem_append.mpr ⟨ih (n / 16), ?_⟩
      simpa using hdigit (n % 16) (Nat.mod_lt n (by decide))

theorem isPrintable_of_mem_escaped (d : Char) : ∀ c ∈ escaped d, isPrintable c = true := by
  rw [escaped]
  split
  next x hx =>
    unfold shortEscape? at hx
    split at hx
    all_goals cases hx
    all_goals exact List.all_eq_true.mp (by decide)
  next =>
    split
    next =>
      exact List.forall_mem_cons.mpr ⟨by decide, List.forall_mem_cons.mpr
        ⟨by decide, isPrintable_of_mem_hexDigits _ _⟩⟩
    split
    next =>
      exact List.forall_mem_cons.mpr ⟨by decide, List.forall_mem_cons.mpr
        ⟨by decide, isPrintable_of_mem_hexDigits _ _⟩⟩
    next =>
      exact List.forall_mem_cons.mpr ⟨by decide, List.forall_mem_cons.mpr
        ⟨by decide, isPrintable_of_mem_hexDigits _ _⟩⟩

theorem isPrintable_of_mem_doubleBody : ∀ c ∈ doubleBody t, isPrintable c = true := by
  intro c hc
  obtain ⟨d, -, hd⟩ := List.mem_flatMap.mp hc
  split at hd
  next => exact isPrintable_of_mem_escaped d c hd
  next h =>
    obtain rfl := List.mem_singleton.mp hd
    simp only [Bool.or_eq_true, Bool.not_eq_true', not_or, Bool.not_eq_false] at h
    exact h.1.1.1

/-- The style of a text, and what it asks of the text. -/
theorem styleOf_cases (t : Text) :
    (styleOf t = .literal ∧ t ≠ [] ∧ ∀ c ∈ t, isPrintable c = true) ∨
      (styleOf t = .plain ∧ t ≠ [] ∧ isAmbiguous t = false ∧ allowsPlain t = true) ∨
      (styleOf t = .single ∧ '\n' ∉ t ∧ allowsSingle t = true) ∨ styleOf t = .double := by
  rw [styleOf]
  split
  next hfeed =>
    have hmem : '\n' ∈ t := List.contains_iff_mem.mp hfeed
    split
    next h =>
      simp only [allowsLiteral, Bool.and_eq_true, List.all_eq_true] at h
      exact Or.inl ⟨rfl, List.ne_nil_of_mem hmem, h.1.1⟩
    next => exact Or.inr (Or.inr (Or.inr rfl))
  next hfeed =>
    have hno : '\n' ∉ t := fun h => hfeed (List.contains_iff_mem.mpr h)
    split
    next h =>
      rw [Bool.and_eq_true, Bool.not_eq_true'] at h
      refine Or.inr (Or.inl ⟨rfl, ?_, h.1, h.2⟩)
      rintro rfl
      exact absurd h.1 (by decide)
    split
    next h => exact Or.inr (Or.inr (Or.inl ⟨rfl, hno, h⟩))
    next => exact Or.inr (Or.inr (Or.inr rfl))

theorem isPrintable_of_mem_writeText : ∀ c ∈ writeText t, isPrintable c = true := by
  rw [writeText]
  rcases styleOf_cases t with ⟨hs, -, hp⟩ | ⟨hs, -, -, h⟩ | ⟨hs, -, h⟩ | hs
  · have hhint : ∀ c ∈ indentHint t, isPrintable c = true := by
      rw [indentHint]
      split <;> exact List.all_eq_true.mp (by decide)
    have hchomp : ∀ c ∈ chompHint t, isPrintable c = true := by
      rw [chompHint]
      repeat' split
      all_goals exact List.all_eq_true.mp (by decide)
    rw [hs, writeAs]
    exact List.forall_mem_cons.mpr ⟨by decide, List.forall_mem_append.mpr
      ⟨List.forall_mem_append.mpr ⟨hhint, hchomp⟩, List.forall_mem_cons.mpr
        ⟨by decide, isPrintable_of_mem_literalBody hp⟩⟩⟩
  · simp only [allowsPlain, Bool.and_eq_true, List.all_eq_true] at h
    rw [hs]
    exact h.1.1.1.1.1
  · simp only [allowsSingle, Bool.and_eq_true, List.all_eq_true] at h
    rw [hs, writeAs]
    exact List.forall_mem_cons.mpr ⟨by decide, List.forall_mem_append.mpr
      ⟨isPrintable_of_mem_singleBody h.1.1, List.all_eq_true.mp (by decide)⟩⟩
  · rw [hs, writeAs]
    exact List.forall_mem_cons.mpr ⟨by decide, List.forall_mem_append.mpr
      ⟨isPrintable_of_mem_doubleBody, List.all_eq_true.mp (by decide)⟩⟩

/-! ## What tokens it has -/

/-- The token of a text. -/
def textToken (t : Text) : Token :=
  .scalar (styleOf t) t

/-- The tokens of an item. -/
def itemTokens (t : Text) : List Token :=
  [.entry, textToken t]

/-- The tokens of a value. -/
def valueTokens : Value → List Token
  | .text t => [textToken t]
  | .flag b => [.scalar .plain (if b then "true" else "false").toList]
  | .list [] => [.flowSequence, .flowSequenceEnd]
  | .list ts => ts.flatMap itemTokens

/-- An entry of a mapping as it is written. -/
def writeEntry (e : String × Value) : Text :=
  e.1.toList ++ ':' :: writeValue e.2

/-- The tokens of an entry. -/
def entryTokens (e : String × Value) : List Token :=
  .key :: .scalar .plain e.1.toList :: .value :: valueTokens e.2

namespace Layout

variable {l l' : Layout} {m : Mark} {ts : List Token} {columns : List Nat} {key : Option KeyPlace}
  {a : Bool}

/-! ## Keys -/

/-- What a key can be: a word that starts with no dash and is not too
long. -/
structure IsKey (k : Text) : Prop where
  nonempty : k ≠ []
  short : k.length ≤ maxKeyLength
  named : ∀ c ∈ k, isNameChar c = true
  dashless : k.head? ≠ some '-'

instance (k : Text) : Decidable (IsKey k) :=
  decidable_of_iff (k ≠ [] ∧ k.length ≤ maxKeyLength ∧ k.all isNameChar = true ∧
      k.head? ≠ some '-')
    ⟨fun ⟨h₁, h₂, h₃, h₄⟩ => ⟨h₁, h₂, List.all_eq_true.mp h₃, h₄⟩,
      fun ⟨h₁, h₂, h₃, h₄⟩ => ⟨h₁, h₂, List.all_eq_true.mpr h₃, h₄⟩⟩

/-- The tokens so far, with that of the mapping where its first key
stands. -/
def opened (columns : List Nat) (ts : List Token) : List Token :=
  match columns with
  | [] => .blockMapping :: ts
  | _ => ts

/-- Does a key have to stand where the layout is?  Where its collection is
open, one has to. -/
def requiresKey (l : Layout) : Bool :=
  !l.inFlow && l.indent = l.mark.column + 1

theorem saveKey_eq (ha : l.keyAllowed = true) (hkey : ∀ k ∈ l.key, k.required = false) :
    l.saveKey = .ok { l with key := some ⟨l.requiresKey, l.tokens.length, l.mark⟩ } := by
  have hdrop : l.dropKey = .ok { l with key := none } := by
    cases hk : l.key with
    | none => simp [dropKey, hk]
    | some k => simp [dropKey, hk, hkey k hk]
  rw [saveKey, if_pos ha, hdrop]
  rfl

theorem IsKey.no_leadingMark {k : Text} (hk : IsKey k) {c : Char} (hc : c ∈ k) :
    leadingMarks.contains c = false := by
  cases h : leadingMarks.contains c with
  | false => rfl
  | true =>
      have hall : leadingMarks.all (fun d => !isNameChar d) = true := by decide
      have hno := List.all_eq_true.mp hall c (List.contains_iff_mem.mp h)
      rw [hk.named c hc] at hno
      cases hno

/-- The scalar of a key. -/
theorem readNext_key (ts : List Token) (columns : List Nat) {k : Text} (hk : IsKey k)
    (hu : startsGap u = true) (hm : m.column = 0) (hkey : ∀ k ∈ key, k.required = false) :
    ∃ required, (outside (k ++ ':' :: u) m ts columns key true).readNext =
      .ok (outside (':' :: u) ⟨m.line, k.length, m.index + k.length⟩ (.scalar .plain k :: ts)
        columns (some ⟨required, ts.length, m⟩) false) := by
  obtain ⟨c, w, rfl⟩ := List.exists_cons_of_ne_nil hk.nonempty
  have hname := hk.named c List.mem_cons_self
  have hmarks : c ≠ '?' ∧ c ≠ ':' ∧ c ≠ '.' := by
    refine ⟨?_, ?_, ?_⟩ <;> rintro rfl <;> exact absurd hname (by decide)
  have hdash : c ≠ '-' := fun h => hk.dashless (by rw [h]; rfl)
  have hline : ∀ d ∈ c :: w, isPrintable d = true ∧ isBreak d = false := by
    intro d hd
    have hg := not_isGap_of_isNameChar (hk.named d hd)
    rw [isGap, Bool.or_eq_false_iff] at hg
    exact ⟨isPrintable_of_isNameChar (hk.named d hd), hg.2⟩
  have hplain : (outside (c :: w ++ ':' :: u) m ts columns key true).readNext =
      (outside (c :: w ++ ':' :: u) m ts columns key true).readPlainScalar := by
    refine readNext_plain rfl rfl (not_isGap_of_isNameChar hname)
      (hk.no_leadingMark List.mem_cons_self) ?_ fun _ => startsMarker_cons hdash hmarks.2.2
    rintro (h | h | h)
    · exact absurd h hmarks.1
    · exact absurd h hmarks.2.1
    · exact absurd h hdash
  refine ⟨(outside (c :: w ++ ':' :: u) m ts columns key true).requiresKey, ?_⟩
  rw [hplain, readPlainScalar, saveKey_eq rfl hkey]
  simp only [bind, Except.bind, inFlow, List.isEmpty_nil, Bool.not_true, pure, Except.pure,
    readPlain_key hk.named hu]
  rw [moveTo_eq (s := c :: w) rfl]
  simp only [push, Mark.after_line m hline, hm, Nat.zero_add]
  rfl

/-- The colon behind the scalar of a key puts the key in front of it. -/
theorem step_colon {n : Nat} {required : Bool} {x : Token} (hu : startsGap u = true)
    (hm : m.column = 0) (hn : n ≤ maxKeyLength) (hcolumns : columns = [] ∨ columns = [0]) :
    (outside (':' :: u) ⟨m.line, n, m.index + n⟩ (x :: ts) columns
        (some ⟨required, ts.length, m⟩) false).step =
      .ok (some (outside u ⟨m.line, n + 1, m.index + n + 1⟩
        (.value :: x :: .key :: opened columns ts) [0] none false)) := by
  have hskip : (outside (':' :: u) ⟨m.line, n, m.index + n⟩ (x :: ts) columns
      (some ⟨required, ts.length, m⟩) false).skip = _ :=
    skip_word fun c hc => by obtain rfl := Option.some.inj hc; decide
  have hexpire : expire ⟨m.line, n, m.index + n⟩ (some ⟨required, ts.length, m⟩) =
      .ok (some ⟨required, ts.length, m⟩) := by
    rw [expire, if_neg (by simp; omega)]
  have hmargin : ∀ c ∈ columns.head?, c ≤ n := by
    rintro c hc
    rcases hcolumns with rfl | rfl
    · cases hc
    · obtain rfl := Option.some.inj hc
      exact Nat.zero_le n
  have hvalue : (outside (':' :: u) ⟨m.line, n, m.index + n⟩ (x :: ts) columns
      (some ⟨required, ts.length, m⟩) false).readValue =
        .ok (outside u ⟨m.line, n + 1, m.index + n + 1⟩
          (.value :: x :: .key :: opened columns ts) [0] none false) := by
    have h1 : ts.length + 1 - ts.length = 1 := by omega
    have h2 : ts.length + 1 + 1 - ts.length = 2 := by omega
    rcases hcolumns with rfl | rfl
    · simp [readValue, insertAt, openAt, h1, h2, hm, inFlow, indent, readMark, push, moveTo, opened,
        Mark.after, Mark.step, isBreak, isSeparator]
    · simp [readValue, insertAt, openAt, h1, hm, inFlow, indent, readMark, push, moveTo, opened,
        Mark.after, Mark.step, isBreak, isSeparator]
  rw [step_eq (by rw [hskip]; exact expireKeys_eq rfl hexpire) (List.cons_ne_nil _ _) hmargin,
    readNext_value rfl hu, hvalue]
  rfl

/-- The key of an entry. -/
theorem AtLine.reads_key {k : Text} (h : AtLine l (k ++ ':' :: u) ts columns) (hk : IsKey k)
    (hu : startsGap u = true) (hcolumns : columns = [] ∨ columns = [0]) :
    ∃ m', Reads l (outside u m' (.value :: .scalar .plain k :: .key :: opened columns ts) [0]
      none false) := by
  have hmargin : ∀ c ∈ columns.head?, c = 0 := by
    rcases hcolumns with rfl | rfl
    · simp
    · simp
  obtain ⟨m, key, hm, hkey, hstep⟩ := h.step_eq (by simp) hmargin
  obtain ⟨required, hnext⟩ := readNext_key ts columns hk hu hm hkey
  rw [hnext] at hstep
  have hlen := h.length_le
  rw [List.length_append, List.length_cons] at hlen
  have hpos := List.length_pos_iff.mpr hk.nonempty
  refine ⟨_, (Reads.step hstep ?_).trans (Reads.step (step_colon hu hm hk.short hcolumns) ?_)⟩
  · simp only [List.length_cons]
    omega
  · exact Nat.lt_succ_self _

/-! ## The scalar of a text -/

/-- What stands behind a text in its line. -/
def textEnd (t : Text) : Text :=
  if styleOf t = .literal then lineEnd t else ['\n']

theorem step_inLine (m : Mark) (ts : List Token) (a : Bool) (hw : StartsWord w) (hne : w ≠ []) :
    (outside (' ' :: w) m ts [0] none a).step =
      (outside w ⟨m.line, m.column + 1, m.index + 1⟩ ts [0] none a).readNext.map some := by
  have hskip : (outside (' ' :: w) m ts [0] none a).skip =
      outside w ⟨m.line, m.column + 1, m.index + 1⟩ ts [0] none a := by
    refine skip_eq (s := [' ']) rfl ?_
    have hgap := skipGap_word false a (m.column + 1) hw
    simpa [skipGap, inFlow, isBreak, isSeparator] using hgap
  exact step_eq (by rw [hskip]; exact expireKeys_eq rfl rfl) hne fun c hc => by
    obtain rfl := Option.some.inj hc
    exact Nat.zero_le _

/-- Behind the start of a line, no key that is remembered has to stand
there. -/
theorem exists_saveKey (hm : 0 < m.column) (u : Text) (ts : List Token) (a : Bool) :
    ∃ key, (∀ k ∈ key, k.required = false) ∧
      (outside u m ts [0] none a).saveKey = .ok (outside u m ts [0] key a) := by
  cases a with
  | false => exact ⟨none, free_none, rfl⟩
  | true =>
      have hfree : (outside u m ts [0] none true).requiresKey = false := by
        simp [requiresKey, indent]
        omega
      refine ⟨_, fun k hk => ?_, saveKey_eq rfl free_none⟩
      obtain rfl := Option.some.inj hk
      exact hfree

theorem of_startsIndicator_false (h : startsIndicator (c :: w) = false) :
    leadingMarks.contains c = false ∧ (c = '?' ∨ c = ':' ∨ c = '-' → startsGap w = false) := by
  unfold startsIndicator at h
  split at h
  next => cases h
  next => cases h
  next heq => cases heq
  next heq =>
    obtain ⟨rfl, rfl⟩ := List.cons.inj heq
    simp only [Bool.or_eq_false_iff, Bool.and_eq_false_iff, decide_eq_false_iff_not] at h
    refine ⟨h.1, fun hc => h.2.resolve_left fun hno => ?_⟩
    rcases hc with hc | hc | hc
    · exact hno.1.1 hc
    · exact hno.1.2 hc
    · exact hno.2 hc

/-- How a text starts that may be written plain. -/
theorem exists_plain_head (h : allowsPlain t = true) (hne : t ≠ []) :
    ∃ c w, t = c :: w ∧ isPrintable c = true ∧ isGap c = false ∧
      leadingMarks.contains c = false ∧ (c = '?' ∨ c = ':' ∨ c = '-' → startsGap w = false) := by
  simp only [allowsPlain, Bool.and_eq_true, Bool.not_eq_true', List.all_eq_true,
    List.any_eq_false] at h
  obtain ⟨⟨⟨⟨⟨hp, hb⟩, hspace⟩, -⟩, hstart⟩, -⟩ := h
  obtain ⟨c, w, rfl⟩ := List.exists_cons_of_ne_nil hne
  refine ⟨c, w, rfl, hp c List.mem_cons_self, ?_, of_startsIndicator_false hstart⟩
  cases hg : isGap c with
  | false => rfl
  | true =>
      rcases eq_space_or_isBreak (hp c List.mem_cons_self) hg with rfl | hbreak
      · cases hspace
      · exact absurd hbreak (hb c List.mem_cons_self)

/-- A plain value. -/
theorem readNext_plain_value (ts : List Token) (a : Bool) (ht : allowsPlain t = true)
    (hne : t ≠ []) (hu : StartsLine u) (hm : 0 < m.column) :
    ∃ l', (outside (t ++ '\n' :: u) m ts [0] none a).readNext = .ok l' ∧
      AtLine l' u (.scalar .plain t :: ts) [0] ∧ l'.rest = u := by
  have hp : ∀ c ∈ t, isPrintable c = true := by
    simp only [allowsPlain, Bool.and_eq_true, List.all_eq_true] at ht
    exact ht.1.1.1.1.1
  obtain ⟨c, w, rfl, -, hgap, hlead, hmark⟩ := exists_plain_head ht hne
  obtain ⟨key, hkey, hsave⟩ := exists_saveKey hm (c :: w ++ '\n' :: u) ts a
  have hnext : (outside (c :: w ++ '\n' :: u) m ts [0] none a).readNext =
      (outside (c :: w ++ '\n' :: u) m ts [0] none a).readPlainScalar :=
    readNext_plain rfl rfl hgap hlead (fun hc => (startsGap_append (by decide) w).trans (hmark hc))
      fun h0 => absurd h0 (Nat.ne_of_gt hm)
  have hcolumn : (m.after (c :: w ++ ['\n'])).column = 0 :=
    Mark.column_after_break m hp (by decide) (by decide)
  refine ⟨_, hnext.trans ?_, atLine_here hu hcolumn hkey, rfl⟩
  rw [readPlainScalar, hsave]
  simp only [bind, Except.bind, inFlow, List.isEmpty_nil, Bool.not_true, indent, Nat.zero_add,
    readPlain_value ht hu, pure, Except.pure]
  rw [moveTo_eq (s := c :: w ++ ['\n']) (by simp)]
  rfl

/-- A value between quotes. -/
theorem readQuoted_value (ts : List Token) (a : Bool) (style : ScalarStyle) (q : Char)
    {read : Text → Except Fault (List Piece × Text)} {ps : List Piece} {body : Text}
    (hread : read (body ++ '\n' :: u) = .ok (ps, '\n' :: u)) (hu : StartsLine u)
    (hm : 0 < m.column) :
    ∃ l', (outside (q :: (body ++ '\n' :: u)) m ts [0] none a).readQuoted style read = .ok l' ∧
      AtLine l' u (.scalar style (foldPieces false [] ps) :: ts) [0] ∧ l'.rest = '\n' :: u := by
  obtain ⟨key, hkey, hsave⟩ := exists_saveKey hm (q :: (body ++ '\n' :: u)) ts a
  refine ⟨_, ?_, atLine_feed (m := m.after (q :: body)) (a := false) hu hkey, rfl⟩
  rw [readQuoted, readKeyPart, hsave]
  simp only [bind, Except.bind, List.drop_succ_cons, List.drop_zero, hread, pure, Except.pure]
  rw [moveTo_eq (s := q :: body) rfl]
  rfl

/-- What is written of a literal block ends its line. -/
theorem exists_literal_end (hne : t ≠ []) :
    ∃ s b, literalBody true t ++ lineEnd t = s ++ [b] ∧ isBreak b = true := by
  rw [lineEnd]
  split
  next h =>
    obtain ⟨w, b, rfl⟩ := exists_concat hne
    obtain ⟨s, hs⟩ := exists_literalBody_concat true w b
    exact ⟨s, b, by rw [hs, List.append_nil], by simpa using h⟩
  next => exact ⟨_, '\n', rfl, by decide⟩

/-- A literal block. -/
theorem readBlockScalar_value (m : Mark) (ts : List Token) (a : Bool)
    (hs : styleOf t = .literal) (hne : t ≠ []) (hp : ∀ c ∈ t, isPrintable c = true)
    (hu : StartsLine u) :
    ∃ l', (outside (writeText t ++ (lineEnd t ++ u)) m ts [0] none a).readBlockScalar .literal =
        .ok l' ∧
      AtLine l' u (.scalar .literal t :: ts) [0] ∧ l'.rest = u := by
  have hwritten : writeText t =
      '|' :: (indentHint t ++ chompHint t ++ '\n' :: literalBody true t) := by
    rw [writeText, hs]
    rfl
  obtain ⟨s, b, hsb, hb⟩ := exists_literal_end hne
  have hsplit : writeText t ++ lineEnd t =
      '|' :: (indentHint t ++ chompHint t ++ '\n' :: s) ++ [b] := by
    simp only [hwritten, List.cons_append, List.append_assoc, hsb]
  have hprint : ∀ c ∈ '|' :: (indentHint t ++ chompHint t ++ '\n' :: s) ++ [b],
      isPrintable c = true := by
    rw [← hsplit]
    refine List.forall_mem_append.mpr ⟨isPrintable_of_mem_writeText, ?_⟩
    rw [lineEnd]
    split <;> exact List.all_eq_true.mp (by decide)
  have hcolumn : (m.after (writeText t ++ lineEnd t)).column = 0 := by
    rw [hsplit]
    obtain ⟨hpre, hlast⟩ := List.forall_mem_append.mp hprint
    exact Mark.column_after_break m hpre (hlast b List.mem_cons_self) hb
  have hread : readBlock false 1 ((writeText t ++ (lineEnd t ++ u)).drop 1) = .ok (t, u) := by
    rw [hwritten]
    simpa using readBlock_text hp hne hu
  refine ⟨_, ?_, atLine_here hu hcolumn free_none, rfl⟩
  have hdrop : (outside (writeText t ++ (lineEnd t ++ u)) m ts [0] none a).dropKey =
      .ok (outside (writeText t ++ (lineEnd t ++ u)) m ts [0] none a) := rfl
  rw [readBlockScalar, hdrop]
  simp only [bind, Except.bind, indent, Nat.zero_add, reduceCtorEq, decide_false, hread, pure,
    Except.pure]
  rw [moveTo_eq (s := writeText t ++ lineEnd t) (by simp)]
  rfl

theorem startsWord_plain (h : allowsPlain t = true) (hne : t ≠ []) (v : Text) :
    StartsWord (t ++ v) := by
  obtain ⟨c, w, rfl, hp, hgap, hlead, -⟩ := exists_plain_head h hne
  refine startsWord_cons ⟨hgap, ne_of_not_leadingMark hlead (by decide), ?_⟩ _
  rintro rfl
  exact absurd hp (by decide)

theorem startsWord_writeText (t v : Text) : StartsWord (writeText t ++ v) ∧ writeText t ≠ [] := by
  rw [writeText]
  rcases styleOf_cases t with ⟨hs, -, -⟩ | ⟨hs, hne, -, h⟩ | ⟨hs, -, -⟩ | hs
  · rw [hs]
    exact ⟨startsWord_cons (by decide) _, List.cons_ne_nil _ _⟩
  · rw [hs]
    exact ⟨startsWord_plain h hne v, hne⟩
  · rw [hs]
    exact ⟨startsWord_cons (by decide) _, List.cons_ne_nil _ _⟩
  · rw [hs]
    exact ⟨startsWord_cons (by decide) _, List.cons_ne_nil _ _⟩

/-- **The scalar of a text is read back in its style.** -/
theorem readNext_text (ts : List Token) (a : Bool) (t : Text) (hu : StartsLine u)
    (hm : 0 < m.column) :
    ∃ l', (outside (writeText t ++ (textEnd t ++ u)) m ts [0] none a).readNext = .ok l' ∧
      AtLine l' u (.scalar (styleOf t) t :: ts) [0] ∧ l'.rest.length ≤ u.length + 1 := by
  have hle : ∀ {l' : Layout}, l'.rest = u ∨ l'.rest = '\n' :: u →
      l'.rest.length ≤ u.length + 1 := by
    rintro l' (h | h) <;> simp [h]
  rw [textEnd]
  rcases styleOf_cases t with ⟨hs, hne, hp⟩ | ⟨hs, hne, -, h⟩ | ⟨hs, hno, h⟩ | hs
  · obtain ⟨l', hread, hline, hrest⟩ :=
      readBlockScalar_value m ts a hs hne hp hu
    have hbar : writeText t ++ (lineEnd t ++ u) =
        '|' :: (indentHint t ++ chompHint t ++ '\n' :: literalBody true t ++ (lineEnd t ++ u)) := by
      rw [writeText, hs]
      rfl
    rw [hs, if_pos rfl]
    exact ⟨l', (readNext_literal rfl hbar).trans hread, hline, hle (Or.inl hrest)⟩
  · obtain ⟨l', hread, hline, hrest⟩ :=
      readNext_plain_value ts a h hne hu hm
    rw [writeText, hs, if_neg (by decide)]
    exact ⟨l', hread, hline, hle (Or.inl hrest)⟩
  · obtain ⟨ps, hps, hfold⟩ := readSingle_text h hno (v := '\n' :: u) (by simp)
    have hbody : readSingle false (singleBody false t ++ ['\''] ++ '\n' :: u) =
        .ok (ps, '\n' :: u) := by simpa using hps
    obtain ⟨l', hread, hline, hrest⟩ := readQuoted_value ts a .single '\'' hbody hu hm
    rw [hfold] at hline
    rw [writeText, hs, if_neg (by decide)]
    refine ⟨l', ?_, hline, hle (Or.inr hrest)⟩
    rw [readNext_single (w := singleBody false t ++ ['\''] ++ '\n' :: u) (by simp [writeAs])]
    simpa [writeAs] using hread
  · have hbody : readDouble .outside false (doubleBody t ++ ['"'] ++ '\n' :: u) =
        .ok (t.map doublePiece, '\n' :: u) := by simpa using readDouble_body t ('\n' :: u)
    have hfold : foldPieces false [] (t.map doublePiece) = t :=
      foldPieces_doublePieces (List.forall_mem_nil _)
    obtain ⟨l', hread, hline, hrest⟩ := readQuoted_value ts a .double '"' hbody hu hm
    rw [hfold] at hline
    rw [writeText, hs, if_neg (by decide)]
    refine ⟨l', ?_, hline, hle (Or.inr hrest)⟩
    rw [readNext_double (w := doubleBody t ++ ['"'] ++ '\n' :: u) (by simp [writeAs])]
    simpa [writeAs] using hread

/-! ## Values -/

theorem reads_text (m : Mark) (ts : List Token) (a : Bool) (t : Text) (hu : StartsLine u) :
    ∃ l', Reads (outside (' ' :: (writeText t ++ (textEnd t ++ u))) m ts [0] none a) l' ∧
      AtLine l' u (.scalar (styleOf t) t :: ts) [0] := by
  obtain ⟨hword, hne⟩ := startsWord_writeText t (textEnd t ++ u)
  obtain ⟨l', hread, hline, hlen⟩ := readNext_text (m := ⟨m.line, m.column + 1, m.index + 1⟩)
    ts a t hu (Nat.succ_pos _)
  have hstep := step_inLine m ts a hword (by simp [hne])
  rw [hread] at hstep
  have hpos := List.length_pos_iff.mpr hne
  refine ⟨l', Reads.step hstep ?_, hline⟩
  simp only [List.length_cons, List.length_append]
  omega

/-- What is written of a text ends its line, or a line feed does. -/
theorem exists_writeText_concat (t : Text) :
    ∃ s b, writeText t = s ++ [b] ∧ textEnd t = if isBreak b then [] else ['\n'] := by
  rw [writeText, textEnd]
  rcases styleOf_cases t with ⟨hs, hne, -⟩ | ⟨hs, hne, -, h⟩ | ⟨hs, -, -⟩ | hs
  · obtain ⟨w, b, rfl⟩ := exists_concat hne
    obtain ⟨r, hr⟩ := exists_literalBody_concat true w b
    refine ⟨'|' :: (indentHint (w ++ [b]) ++ chompHint (w ++ [b]) ++ '\n' :: r), b, ?_, ?_⟩
    · rw [hs, writeAs, hr]
      simp
    · rw [hs, if_pos rfl, lineEnd, List.getLast?_concat]
      rfl
  · obtain ⟨w, b, rfl⟩ := exists_concat hne
    simp only [allowsPlain, Bool.and_eq_true, Bool.not_eq_true', List.any_eq_false] at h
    have hb : ¬ isBreak b = true := h.1.1.1.1.2 b (by simp)
    rw [hs, if_neg (by decide)]
    exact ⟨w, b, rfl, (if_neg hb).symm⟩
  · rw [hs]
    exact ⟨'\'' :: singleBody false t, '\'', rfl, rfl⟩
  · rw [hs]
    exact ⟨'"' :: doubleBody t, '"', rfl, rfl⟩

theorem endLine_text (s t : Text) :
    endLine (s ++ writeText t) = s ++ (writeText t ++ textEnd t) := by
  obtain ⟨w, b, hw, hend⟩ := exists_writeText_concat t
  rw [endLine, hw, hend, ← List.append_assoc, List.getLast?_concat, Option.any_some]
  split <;> simp

/-! ### Items -/

/-- The dash of an item. -/
theorem AtLine.reads_dash (h : AtLine l ('-' :: ' ' :: w) ts [0]) :
    ∃ m', Reads l (outside (' ' :: w) m' (.entry :: ts) [0] none true) := by
  obtain ⟨m, key, hm, hkey, hstep⟩ := h.step_eq (List.cons_ne_nil _ _) (by simp)
  have hdrop : (outside ('-' :: ' ' :: w) m ts [0] key true).dropKey =
      .ok (outside ('-' :: ' ' :: w) m ts [0] none true) := by
    cases key with
    | none => rfl
    | some k => simp [dropKey, hkey k rfl]
  have hhere : (outside ('-' :: ' ' :: w) m ts [0] key true).openHere .blockSequence =
      outside ('-' :: ' ' :: w) m ts [0] key true := by
    simp [openHere, openAt, indent, hm]
  have hentry : (outside ('-' :: ' ' :: w) m ts [0] key true).readEntry =
      .ok (outside (' ' :: w) (m.after ['-']) (.entry :: ts) [0] none true) := by
    rw [readEntry, hhere, hdrop]
    simp only [inFlow, List.isEmpty_nil, Bool.not_true, Bool.and_false, bind, Except.bind,
      Bool.false_eq_true, if_false, pure, Except.pure, readMark, List.drop_succ_cons,
      List.drop_zero]
    rw [moveTo_eq (s := ['-']) rfl]
    rfl
  rw [readNext_entry rfl rfl, hentry] at hstep
  have hlen := h.length_le
  exact ⟨_, Reads.step hstep (Nat.lt_of_succ_le hlen)⟩

theorem writeItem_eq (t : Text) : writeItem t = '-' :: ' ' :: (writeText t ++ textEnd t) :=
  endLine_text ['-', ' '] t

theorem startsLine_items (ts : List Text) (hu : StartsLine u) :
    StartsLine (ts.flatMap writeItem ++ u) := by
  cases ts with
  | nil => exact hu
  | cons t ts =>
      rw [List.flatMap_cons, writeItem_eq]
      intro c hc
      obtain rfl := Option.some.inj hc
      decide

theorem AtLine.reads_items {items : List Text} (h : AtLine l (items.flatMap writeItem ++ u) ts [0])
    (hu : StartsLine u) :
    ∃ l', Reads l l' ∧ AtLine l' u ((items.flatMap itemTokens).reverse ++ ts) [0] := by
  induction items generalizing l ts with
  | nil => exact ⟨l, .refl l, h⟩
  | cons t items ih =>
      have hrest := startsLine_items items hu
      rw [List.flatMap_cons, writeItem_eq] at h
      simp only [List.append_assoc, List.cons_append] at h
      obtain ⟨m, hdash⟩ := h.reads_dash
      obtain ⟨l₁, htext, hline⟩ := reads_text m (.entry :: ts) true t hrest
      obtain ⟨l₂, hreads, hend⟩ := ih hline
      refine ⟨l₂, (hdash.trans htext).trans hreads, ?_⟩
      rw [List.flatMap_cons, List.reverse_append, List.append_assoc]
      exact hend

/-! ### The value of a key -/

theorem reads_flag (b : Bool) (hu : StartsLine u) :
    ∃ l', Reads (outside (writeValue (.flag b) ++ u) m ts [0] none false) l' ∧
      AtLine l' u ((valueTokens (.flag b)).reverse ++ ts) [0] := by
  obtain ⟨t, ht, hne, hwritten, htokens⟩ : ∃ t : Text, allowsPlain t = true ∧ t ≠ [] ∧
      writeValue (.flag b) = ' ' :: (t ++ ['\n']) ∧ valueTokens (.flag b) = [.scalar .plain t] := by
    cases b with
    | false => exact ⟨"false".toList, by decide, by decide, by decide, rfl⟩
    | true => exact ⟨"true".toList, by decide, by decide, by decide, rfl⟩
  have hword := startsWord_plain ht hne ('\n' :: u)
  obtain ⟨l', hread, hline, hrest⟩ := readNext_plain_value
    (m := ⟨m.line, m.column + 1, m.index + 1⟩) ts false ht hne hu (Nat.succ_pos _)
  have hstep := step_inLine m ts false hword (by simp)
  rw [hread] at hstep
  have hassoc : writeValue (.flag b) ++ u = ' ' :: (t ++ '\n' :: u) := by
    rw [hwritten, List.cons_append, List.append_assoc]
    rfl
  rw [hassoc, htokens]
  refine ⟨l', Reads.step hstep ?_, hline⟩
  rw [hrest]
  simp only [List.length_cons, List.length_append]
  omega

/-- The brackets of an empty list. -/
theorem reads_brackets (hu : StartsLine u) :
    ∃ l', Reads (outside (writeValue (.list []) ++ u) m ts [0] none false) l' ∧
      AtLine l' u ((valueTokens (.list [])).reverse ++ ts) [0] := by
  have hwritten : writeValue (.list []) ++ u = ' ' :: '[' :: ']' :: '\n' :: u := rfl
  obtain ⟨m', hopen⟩ : ∃ m', step (outside (' ' :: '[' :: ']' :: '\n' :: u) m ts [0] none false) =
      .ok (some ⟨']' :: '\n' :: u, m', .flowSequence :: ts, [0], none, [none], true⟩) := by
    rw [step_inLine m ts false (startsWord_cons (by decide) _) (List.cons_ne_nil _ _),
      readNext_open rfl]
    exact ⟨_, rfl⟩
  have hclose : ∀ m', step ⟨']' :: '\n' :: u, m', .flowSequence :: ts, [0], none, [none], true⟩ =
      .ok (some (outside ('\n' :: u) (m'.after [']']) (.flowSequenceEnd :: .flowSequence :: ts)
        [0] none false)) := by
    intro m'
    have hskip : skip ⟨']' :: '\n' :: u, m', .flowSequence :: ts, [0], none, [none], true⟩ = _ :=
      skip_word (startsWord_cons (by decide) _)
    have hexpire : (skip ⟨']' :: '\n' :: u, m', .flowSequence :: ts, [0], none, [none],
        true⟩).expireKeys = .ok _ := congrArg expireKeys hskip
    rw [step_eq hexpire (List.cons_ne_nil _ _) (by simp), readNext_close rfl]
    simp only [closeBracket, dropKey, readMark, bind, Except.bind, Option.any_none, pure,
      Except.pure, Bool.false_eq_true, if_false, List.drop_succ_cons, List.drop_zero]
    rw [moveTo_eq (s := [']']) rfl]
    rfl
  rw [hwritten]
  refine ⟨_, (Reads.step hopen ?_).trans (Reads.step (hclose m') ?_), atLine_feed hu free_none⟩
  · simp
  · simp

theorem writeValue_text (t : Text) : writeValue (.text t) = ' ' :: (writeText t ++ textEnd t) :=
  endLine_text [' '] t

theorem startsGap_writeValue (v : Value) (u : Text) : startsGap (writeValue v ++ u) = true := by
  cases v with
  | text t =>
      rw [writeValue_text]
      rfl
  | flag b => cases b <;> rfl
  | list ts => cases ts <;> rfl

/-- What stands behind the colon of a key is read through the end of its
last line. -/
theorem reads_value (m : Mark) (ts : List Token) (v : Value) (hu : StartsLine u) :
    ∃ l', Reads (outside (writeValue v ++ u) m ts [0] none false) l' ∧
      AtLine l' u ((valueTokens v).reverse ++ ts) [0] := by
  cases v with
  | text t =>
      rw [writeValue_text, List.cons_append, List.append_assoc]
      exact reads_text m ts false t hu
  | flag b => exact reads_flag b hu
  | list items =>
      cases items with
      | nil => exact reads_brackets hu
      | cons t items =>
          have hline : AtLine (outside ('\n' :: ((t :: items).flatMap writeItem ++ u)) m ts [0] none
              false) ((t :: items).flatMap writeItem ++ u) ts [0] :=
            atLine_feed (startsLine_items (t :: items) hu) free_none
          exact hline.reads_items hu

/-! ## Entries -/

theorem AtLine.reads_entry {e : String × Value} (h : AtLine l (writeEntry e ++ u) ts columns)
    (hk : IsKey e.1.toList) (hu : StartsLine u) (hcolumns : columns = [] ∨ columns = [0]) :
    ∃ l', Reads l l' ∧ AtLine l' u ((entryTokens e).reverse ++ opened columns ts) [0] := by
  rw [writeEntry, List.append_assoc, List.cons_append] at h
  obtain ⟨m, hkey⟩ := h.reads_key hk (startsGap_writeValue e.2 u) hcolumns
  obtain ⟨l', hvalue, hline⟩ := reads_value m
    (.value :: .scalar .plain e.1.toList :: .key :: opened columns ts) e.2 hu
  refine ⟨l', hkey.trans hvalue, ?_⟩
  rw [entryTokens]
  simpa using hline

theorem startsLine_entry {e : String × Value} (hk : IsKey e.1.toList) (u : Text) :
    StartsLine (writeEntry e ++ u) := by
  obtain ⟨c, w, hcw⟩ := List.exists_cons_of_ne_nil hk.nonempty
  intro d hd
  rw [writeEntry, hcw] at hd
  obtain rfl := Option.some.inj hd
  exact hk.named c (by simp [hcw])

theorem AtLine.reads_entries {es : List (String × Value)} (hes : ∀ e ∈ es, IsKey e.1.toList)
    (h : AtLine l (es.flatMap writeEntry) ts [0]) :
    ∃ l', Reads l l' ∧ AtLine l' [] ((es.flatMap entryTokens).reverse ++ ts) [0] := by
  induction es generalizing l ts with
  | nil => exact ⟨l, .refl l, h⟩
  | cons e es ih =>
      obtain ⟨he, hes⟩ := List.forall_mem_cons.mp hes
      have hu : StartsLine (es.flatMap writeEntry) := by
        cases es with
        | nil => exact fun c hc => nomatch hc
        | cons e' es => exact startsLine_entry (hes e' List.mem_cons_self) _
      obtain ⟨l₁, hone, hline⟩ := h.reads_entry he hu (Or.inr rfl)
      obtain ⟨l₂, hrest, hend⟩ := ih hes hline
      refine ⟨l₂, hone.trans hrest, ?_⟩
      rw [List.flatMap_cons, List.reverse_append, List.append_assoc]
      exact hend

end Layout

/-! ## Documents -/

open HeaderCheck.Yaml.Layout

theorem isPrintable_of_mem_writeValue (v : Value) : ∀ c ∈ writeValue v, isPrintable c = true := by
  have hline : ∀ s t : Text, (∀ c ∈ s, isPrintable c = true) →
      ∀ c ∈ endLine (s ++ writeText t), isPrintable c = true := by
    intro s t hs
    rw [endLine]
    have hw := List.forall_mem_append.mpr ⟨hs, isPrintable_of_mem_writeText (t := t)⟩
    split
    · exact hw
    · exact List.forall_mem_append.mpr ⟨hw, List.all_eq_true.mp (by decide)⟩
  cases v with
  | text t => exact hline [' '] t (List.all_eq_true.mp (by decide))
  | flag b => cases b <;> exact List.all_eq_true.mp (by decide)
  | list ts =>
      cases ts with
      | nil => exact List.all_eq_true.mp (by decide)
      | cons t ts =>
          refine List.forall_mem_cons.mpr ⟨by decide, fun c hc => ?_⟩
          obtain ⟨x, -, hx⟩ := List.mem_flatMap.mp hc
          exact hline ['-', ' '] x (List.all_eq_true.mp (by decide)) c hx

theorem isPrintable_of_mem_writeEntry {e : String × Value} (hk : IsKey e.1.toList) :
    ∀ c ∈ writeEntry e, isPrintable c = true :=
  List.forall_mem_append.mpr ⟨fun c hc => isPrintable_of_isNameChar (hk.named c hc),
    List.forall_mem_cons.mpr ⟨by decide, isPrintable_of_mem_writeValue e.2⟩⟩

/-- **The tokens of a written mapping** are those of its entries. -/
theorem tokens_writeMapping {e : String × Value} {es : List (String × Value)}
    (hkeys : ∀ e' ∈ e :: es, IsKey e'.1.toList) :
    Token.ofText (writeMapping (e :: es)) =
      .ok (.blockMapping :: (e :: es).flatMap entryTokens ++ [.blockEnd]) := by
  obtain ⟨he, hes⟩ := List.forall_mem_cons.mp hkeys
  have hwritten : writeMapping (e :: es) = writeEntry e ++ es.flatMap writeEntry := rfl
  have hallowed : (writeMapping (e :: es)).all isAllowed = true := by
    rw [List.all_eq_true]
    intro c hc
    obtain ⟨e', he', hc'⟩ := List.mem_flatMap.mp hc
    exact isAllowed_of_isPrintable (isPrintable_of_mem_writeEntry (hkeys e' he') c hc')
  have hu : StartsLine (es.flatMap writeEntry) := by
    cases es with
    | nil => exact fun c hc => nomatch hc
    | cons e' es => exact startsLine_entry (hes e' List.mem_cons_self) _
  have hstart : AtLine (Layout.start (writeMapping (e :: es)))
      (writeEntry e ++ es.flatMap writeEntry) [] [] :=
    atLine_here (startsLine_entry he _) rfl free_none
  obtain ⟨l₁, hone, hline⟩ := hstart.reads_entry he hu (Or.inl rfl)
  obtain ⟨l₂, hrest, hend⟩ := hline.reads_entries hes
  obtain ⟨n, hn, hrun⟩ := hone.trans hrest
  have hfuel : (writeMapping (e :: es)).length = n + ((writeMapping (e :: es)).length - n) := by
    have hle : n + l₂.rest.length ≤ (writeMapping (e :: es)).length := hn
    omega
  rw [Token.ofText, if_pos hallowed, hfuel, hrun, hend.run_eq]
  simp [opened]

end HeaderCheck.Yaml
