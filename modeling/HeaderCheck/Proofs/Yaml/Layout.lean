/-
# Steps of a layout

A document is read mark by mark, and the places where a key may still show
are carried along.  For a document whose keys stand at the left margin there
are two situations that matter.  At the start of a line (`AtLine`) the layout
has skipped whatever ended the line before; a key that was remembered there is
none that had to come, so forgetting it is no error.  Inside of a line it
stands behind a colon or a dash.

A step consumes at least one character, so that the number of characters is
fuel enough: `Reads` is the run from one layout to the other, with that count.
What a step does is decided by the character that comes next, and there is a
lemma for each mark that a written mapping holds (`readNext_value`,
`readNext_entry` and so on); where there is none of the marks, what comes next
is a plain scalar (`readNext_plain`).
-/
import HeaderCheck.Yaml.Layout
import HeaderCheck.Proofs.Yaml.Block

namespace HeaderCheck.Yaml

variable {c : Char} {s u w : Text}

/-! ## Places -/

namespace Mark

variable {m : Mark}

theorem after_cons (m : Mark) (hc : c ≠ '\r') (t : Text) :
    m.after (c :: t) = (m.step c).after t := by
  rw [after]
  exact fun _ h _ => hc h

theorem after_append (m : Mark) (hs : ∀ c ∈ s, isPrintable c = true) (t : Text) :
    m.after (s ++ t) = (m.after s).after t := by
  induction s generalizing m with
  | nil => rfl
  | cons c s ih =>
      obtain ⟨hc, hs⟩ := List.forall_mem_cons.mp hs
      have hne := ne_return_of_isPrintable hc
      rw [List.cons_append, after_cons m hne, after_cons m hne, ih _ hs]

/-- The place behind characters of one line. -/
theorem after_line (m : Mark) (hs : ∀ c ∈ s, isPrintable c = true ∧ isBreak c = false) :
    m.after s = ⟨m.line, m.column + s.length, m.index + s.length⟩ := by
  induction s generalizing m with
  | nil => rfl
  | cons c s ih =>
      obtain ⟨⟨hc, hb⟩, hs⟩ := List.forall_mem_cons.mp hs
      rw [after_cons m (ne_return_of_isPrintable hc), step, hb, if_neg Bool.false_ne_true, ih _ hs,
        List.length_cons, Nat.add_assoc, Nat.add_assoc, Nat.add_comm 1]

theorem column_after_break (m : Mark) (hs : ∀ c ∈ s, isPrintable c = true)
    (hc : isPrintable c = true) (hb : isBreak c = true) : (m.after (s ++ [c])).column = 0 := by
  rw [after_append m hs, after_cons _ (ne_return_of_isPrintable hc), step, hb]
  rfl

end Mark

namespace Layout

variable {l l' : Layout} {m : Mark} {ts : List Token} {columns : List Nat} {key : Option KeyPlace}
  {a : Bool}

theorem moveTo_eq (h : l.rest = s ++ u) :
    l.moveTo u = { l with rest := u, mark := l.mark.after s } := by
  have htake : (s ++ u).take ((s ++ u).length - u.length) = s := by
    rw [List.length_append, Nat.add_sub_cancel, List.take_left]
  rw [moveTo, h, htake]

/-- A layout outside of brackets. -/
abbrev outside (u : Text) (m : Mark) (ts : List Token) (columns : List Nat)
    (key : Option KeyPlace) (a : Bool) : Layout :=
  { rest := u, mark := m, tokens := ts, columns := columns, key := key, outerKeys := [],
    keyAllowed := a }

/-! ## Steps of a run -/

/-- Reading goes from one layout to the other, and each step on the way
consumes a character. -/
def Reads (l l' : Layout) : Prop :=
  ∃ n, n + l'.rest.length ≤ l.rest.length ∧ ∀ fuel, l.run (n + fuel) = l'.run fuel

namespace Reads

theorem refl (l : Layout) : Reads l l :=
  ⟨0, by omega, fun fuel => by rw [Nat.zero_add]⟩

theorem step (h : l.step = .ok (some l')) (hlen : l'.rest.length < l.rest.length) : Reads l l' := by
  refine ⟨1, by omega, fun fuel => ?_⟩
  rw [Nat.add_comm 1 fuel, run, h]
  rfl

theorem trans {l'' : Layout} (h : Reads l l') (h' : Reads l' l'') : Reads l l'' := by
  obtain ⟨n, hn, hrun⟩ := h
  obtain ⟨n', hn', hrun'⟩ := h'
  refine ⟨n + n', by omega, fun fuel => ?_⟩
  rw [Nat.add_assoc, hrun, hrun']

end Reads

/-! ## Skipping -/

/-- What is not skipped comes next: no gap, and no start of a comment. -/
def StartsWord (u : Text) : Prop :=
  ∀ c ∈ u.head?, isGap c = false ∧ c ≠ '#' ∧ c ≠ '\uFEFF'

theorem startsWord_cons (h : isGap c = false ∧ c ≠ '#' ∧ c ≠ '\uFEFF') (w : Text) :
    StartsWord (c :: w) := by
  intro d hd
  obtain rfl := Option.some.inj hd
  exact h

theorem startsWord_of_startsLine (hu : StartsLine u) : StartsWord u := by
  intro c hc
  refine ⟨not_isGap_of_isNameChar (hu c hc), ?_, ?_⟩ <;> rintro rfl <;>
    exact absurd (hu _ hc) (by decide)

theorem skipGap_word (inFlow keyAllowed : Bool) (column : Nat) (hu : StartsWord u) :
    skipGap inFlow keyAllowed false column u = (u, keyAllowed) := by
  cases u with
  | nil => rfl
  | cons c u =>
      obtain ⟨hg, hhash, hbom⟩ := hu c rfl
      simp only [isGap, isBlank, Bool.or_eq_false_iff, decide_eq_false_iff_not] at hg
      obtain ⟨⟨hspace, htab⟩, hbreak⟩ := hg
      rw [skipGap]
      simp [hspace, htab, hbreak, hhash, hbom]

/-- Skipping leads from one text to the other, with keys allowed behind it or
not. -/
theorem skip_eq (h : l.rest = s ++ u)
    (hgap : skipGap l.inFlow l.keyAllowed false l.mark.column l.rest = (u, a)) :
    l.skip = { l with rest := u, mark := l.mark.after s, keyAllowed := a } := by
  rw [skip, hgap]
  simp only [moveTo_eq h]

theorem skip_word (h : StartsWord l.rest) : l.skip = l :=
  skip_eq (s := []) rfl (skipGap_word _ _ _ h)

theorem length_skipGap_le (inFlow keyAllowed comment : Bool) (column : Nat) (t : Text) :
    (skipGap inFlow keyAllowed comment column t).1.length ≤ t.length := by
  induction t generalizing keyAllowed comment column with
  | nil => exact Nat.le_refl _
  | cons c t ih =>
      rw [skipGap]
      have hle : ∀ k x n, (skipGap inFlow k x n t).1.length ≤ (c :: t).length :=
        fun k x n => Nat.le_succ_of_le (ih k x n)
      split
      next => exact hle _ _ _
      split
      next => exact hle _ _ _
      split
      next => exact hle _ _ _
      split
      next => exact hle _ _ _
      split
      next => exact hle _ _ _
      next => exact Nat.le_refl _

theorem length_skip_le (l : Layout) : l.skip.rest.length ≤ l.rest.length := by
  have h := length_skipGap_le l.inFlow l.keyAllowed false l.mark.column l.rest
  rw [skip]
  exact h

/-! ## One step -/

theorem free_none : ∀ k ∈ (none : Option KeyPlace), k.required = false := by
  simp

theorem expire_free (m : Mark) (hkey : ∀ k ∈ key, k.required = false) :
    ∃ key', expire m key = .ok key' ∧ ∀ k ∈ key', k.required = false := by
  cases key with
  | none => exact ⟨none, rfl, free_none⟩
  | some k =>
      rw [expire, hkey k rfl]
      split
      next => exact ⟨none, rfl, free_none⟩
      next => exact ⟨some k, rfl, hkey⟩

theorem expireKeys_eq {key' : Option KeyPlace} (hout : l.outerKeys = [])
    (hkey : expire l.mark l.key = .ok key') : l.expireKeys = .ok { l with key := key' } := by
  rw [expireKeys, hkey, hout]
  cases l
  cases hout
  rfl

/-- No collection is closed whose column is reached. -/
theorem close_eq {n : Nat} (h : ∀ c ∈ l.columns.head?, c < n) : l.close n = l := by
  have hclose : closeTo n l.columns l.tokens = (l.columns, l.tokens) := by
    cases hc : l.columns with
    | nil => rfl
    | cons c cs =>
        have hlt := h c (by rw [hc]; rfl)
        rw [closeTo, if_neg (by omega)]
  rw [close, hclose]
  split <;> rfl

theorem step_eq {l₁ : Layout} (h : l.skip.expireKeys = .ok l₁) (hne : l₁.rest ≠ [])
    (hcolumns : ∀ c ∈ l₁.columns.head?, c ≤ l₁.mark.column) :
    l.step = l₁.readNext.map some := by
  have hclose : l₁.close (l₁.mark.column + 1) = l₁ :=
    close_eq fun c hc => Nat.lt_succ_of_le (hcolumns c hc)
  rw [step, h]
  simp only [bind, Except.bind, List.isEmpty_iff, hne, if_false, hclose]
  cases l₁.readNext <;> rfl

/-! ## At the start of a line -/

/-- What the layout reads next is the start of a line, where no key has to
stand that was seen before. -/
def AtLine (l : Layout) (u : Text) (ts : List Token) (columns : List Nat) : Prop :=
  ∃ m key, m.column = 0 ∧ (∀ k ∈ key, k.required = false) ∧
    l.skip = outside u m ts columns key true

theorem atLine_here (hu : StartsLine u) (hm : m.column = 0) (hkey : ∀ k ∈ key, k.required = false) :
    AtLine (outside u m ts columns key true) u ts columns :=
  ⟨m, key, hm, hkey, skip_word (startsWord_of_startsLine hu)⟩

theorem atLine_feed (hu : StartsLine u) (hkey : ∀ k ∈ key, k.required = false) :
    AtLine (outside ('\n' :: u) m ts columns key a) u ts columns := by
  refine ⟨m.after ['\n'], key, rfl, hkey, skip_eq (s := ['\n']) rfl ?_⟩
  have hgap := skipGap_word false true 0 (startsWord_of_startsLine hu)
  simpa [skipGap, inFlow, isBreak] using hgap

namespace AtLine

theorem length_le (h : AtLine l u ts columns) : u.length ≤ l.rest.length := by
  obtain ⟨m, key, -, -, hskip⟩ := h
  have hle := length_skip_le l
  rwa [hskip] at hle

theorem step_eq (h : AtLine l u ts columns) (hne : u ≠ []) (hcolumns : ∀ c ∈ columns.head?, c = 0) :
    ∃ m key, m.column = 0 ∧ (∀ k ∈ key, k.required = false) ∧
      l.step = (outside u m ts columns key true).readNext.map some := by
  obtain ⟨m, key, hm, hkey, hskip⟩ := h
  obtain ⟨key', hexpire, hkey'⟩ := expire_free m hkey
  refine ⟨m, key', hm, hkey', Layout.step_eq ?_ hne fun c hc => ?_⟩
  · rw [hskip]
    exact expireKeys_eq rfl hexpire
  · rw [hcolumns c hc]
    exact Nat.zero_le _

/-- At the end, the collection that is open at the margin is closed. -/
theorem run_eq (h : AtLine l [] ts [0]) (fuel : Nat) :
    l.run fuel = .ok (ts.reverse ++ [.blockEnd]) := by
  obtain ⟨m, key, hm, hkey, hskip⟩ := h
  obtain ⟨key', hexpire, hkey'⟩ := expire_free m hkey
  have hkeys : l.skip.expireKeys = .ok { l.skip with key := key' } := by
    rw [hskip]
    exact expireKeys_eq rfl hexpire
  have hdrop : key'.any (·.required) = false := by
    cases key' with
    | none => rfl
    | some k => exact hkey' k rfl
  have hfinish : l.finish = .ok (ts.reverse ++ [.blockEnd]) := by
    rw [finish, hkeys, hskip]
    simp [bind, Except.bind, close, inFlow, closeTo, dropKey, hdrop, pure, Except.pure]
  cases fuel with
  | zero => exact hfinish
  | succ fuel =>
      have hstep : l.step = .ok none := by
        rw [Layout.step, hkeys, hskip]
        rfl
      rw [run, hstep]
      exact hfinish

end AtLine

/-! ## Plain scalars -/

theorem ne_of_not_leadingMark {d : Char} (h : leadingMarks.contains c = false)
    (hd : d ∈ leadingMarks) :
    c ≠ d := by
  rintro rfl
  rw [List.contains_iff_mem.mpr hd] at h
  cases h

theorem startsPlain_cons (hgap : isGap c = false) (hlead : leadingMarks.contains c = false)
    (hmark : c = '?' ∨ c = ':' ∨ c = '-' → startsGap w = false) :
    startsPlain false (c :: w) = true := by
  by_cases hc : c = '?' ∨ c = ':' ∨ c = '-'
  · have hw := hmark hc
    rcases hc with rfl | rfl | rfl
    · simp [startsPlain, hw]
    · simp [startsPlain, hw]
    · cases w with
      | nil => cases hw
      | cons d w =>
          rw [startsGap, isGap, Bool.or_eq_false_iff] at hw
          simp [startsPlain, hw.1]
  · have hind : ∀ d ∈ indicators, (d = '?' ∨ d = ':' ∨ d = '-') ∨ d ∈ leadingMarks := by
      have hall : indicators.all (fun d => (d = '?' || d = ':' || d = '-') ||
          leadingMarks.contains d) = true := by decide
      simpa [List.all_eq_true, or_assoc] using hall
    have hno : indicators.contains c = false := by
      cases h : indicators.contains c with
      | false => rfl
      | true =>
          rcases hind c (List.contains_iff_mem.mp h) with hd | hd
          · exact absurd hd hc
          · exact absurd rfl (ne_of_not_leadingMark hlead hd)
    rw [startsPlain, hgap, hno]
    rfl

/-- Reading what is no directive and no marker of a document. -/
theorem readNext_cons (hrest : l.rest = c :: w) (hc : c ≠ '%')
    (hmargin : l.mark.column = 0 → startsMarker (c :: w) = false) :
    l.readNext =
      if c = '[' then l.openBracket .flowSequence
      else if c = '\x7b' then l.openBracket .flowMapping
      else if c = ']' then l.closeBracket .flowSequenceEnd
      else if c = '\x7d' then l.closeBracket .flowMappingEnd
      else if c = ',' then l.readSeparator
      else if c = '-' && startsGap w then l.readEntry
      else if c = '?' && (l.inFlow || startsGap w) then l.readKey
      else if c = ':' && (l.inFlow || startsGap w) then l.readValue
      else if c = '*' then
        l.readKeyPart 1 fun t => (readAnchor t).map fun (name, rest) => (.alias name, rest)
      else if c = '&' then
        l.readKeyPart 1 fun t => (readAnchor t).map fun (name, rest) => (.anchor name, rest)
      else if c = '!' then l.readKeyPart 1 (readTag l.inFlow)
      else if c = '|' && !l.inFlow then l.readBlockScalar .literal
      else if c = '>' && !l.inFlow then l.readBlockScalar .folded
      else if c = '\'' then l.readQuoted .single (readSingle false)
      else if c = '"' then l.readQuoted .double (readDouble .outside false)
      else if startsPlain l.inFlow (c :: w) then l.readPlainScalar
      else .error .noToken := by
  have hmarker : (decide (l.mark.column = 0) && startsMarker (c :: w)) = false := by
    cases h : startsMarker (c :: w) with
    | false => rw [Bool.and_false]
    | true =>
        have hcolumn : l.mark.column ≠ 0 := fun h0 => by
          rw [hmargin h0] at h
          cases h
        rw [decide_eq_false hcolumn, Bool.false_and]
  rw [readNext.eq_def, hrest]
  dsimp only
  split
  next heq => cases heq
  next heq => exact absurd (List.cons.inj heq).1 hc
  next heq =>
    obtain ⟨rfl, rfl⟩ := List.cons.inj heq
    rw [hmarker]
    rfl

theorem readNext_plain (hrest : l.rest = c :: w) (hout : l.outerKeys = []) (hgap : isGap c = false)
    (hlead : leadingMarks.contains c = false)
    (hmark : c = '?' ∨ c = ':' ∨ c = '-' → startsGap w = false)
    (hmargin : l.mark.column = 0 → startsMarker (c :: w) = false) :
    l.readNext = l.readPlainScalar := by
  have hplain := startsPlain_cons hgap hlead hmark
  have hflow : l.inFlow = false := by rw [inFlow, hout]; rfl
  have hne : ∀ d ∈ leadingMarks, ¬ c = d := fun d hd => ne_of_not_leadingMark hlead hd
  have hentry : ∀ d, d = '?' ∨ d = ':' ∨ d = '-' → (decide (c = d) && startsGap w) = false := by
    intro d hd
    by_cases hc : c = d
    · rw [hmark (hc ▸ hd), Bool.and_false]
    · rw [decide_eq_false hc, Bool.false_and]
  rw [readNext_cons hrest (hne '%' (by decide)) hmargin]
  simp only [hne '[' (by decide), hne '\x7b' (by decide), hne ']' (by decide),
    hne '\x7d' (by decide), hne ',' (by decide), hne '*' (by decide), hne '&' (by decide),
    hne '!' (by decide), hne '|' (by decide), hne '>' (by decide), hne '\'' (by decide),
    hne '"' (by decide), hentry '-' (by simp), hentry '?' (by simp), hentry ':' (by simp), hflow,
    hplain, decide_false, Bool.false_and, Bool.false_or, Bool.false_eq_true, if_false, if_true]

/-! ## Marks -/

section Marks

variable (hout : l.outerKeys = [])

theorem readNext_value (hrest : l.rest = ':' :: w) (hw : startsGap w = true) :
    l.readNext = l.readValue := by
  rw [readNext_cons hrest (by decide) fun _ => startsMarker_cons (by decide) (by decide)]
  simp [hw]

theorem readNext_entry (hrest : l.rest = '-' :: w) (hw : startsGap w = true) :
    l.readNext = l.readEntry := by
  have hmarker : startsMarker ('-' :: w) = false := by
    cases w with
    | nil => rfl
    | cons d w =>
        rw [startsMarker]
        · intro _ h
          obtain ⟨rfl, -⟩ := List.cons.inj (List.cons.inj h).2
          have hdash : startsGap ('-' :: w) = false := rfl
          rw [hdash] at hw
          cases hw
        · exact fun _ h => absurd (List.cons.inj h).1 (by decide)
  rw [readNext_cons hrest (by decide) fun _ => hmarker]
  simp [hw]

theorem readNext_open (hrest : l.rest = '[' :: w) : l.readNext = l.openBracket .flowSequence := by
  rw [readNext_cons hrest (by decide) fun _ => startsMarker_cons (by decide) (by decide)]
  simp

theorem readNext_close (hrest : l.rest = ']' :: w) :
    l.readNext = l.closeBracket .flowSequenceEnd := by
  rw [readNext_cons hrest (by decide) fun _ => startsMarker_cons (by decide) (by decide)]
  simp

theorem readNext_single (hrest : l.rest = '\'' :: w) :
    l.readNext = l.readQuoted .single (readSingle false) := by
  rw [readNext_cons hrest (by decide) fun _ => startsMarker_cons (by decide) (by decide)]
  simp

theorem readNext_double (hrest : l.rest = '"' :: w) :
    l.readNext = l.readQuoted .double (readDouble .outside false) := by
  rw [readNext_cons hrest (by decide) fun _ => startsMarker_cons (by decide) (by decide)]
  simp

include hout in
theorem readNext_literal (hrest : l.rest = '|' :: w) :
    l.readNext = l.readBlockScalar .literal := by
  have hflow : l.inFlow = false := by rw [inFlow, hout]; rfl
  rw [readNext_cons hrest (by decide) fun _ => startsMarker_cons (by decide) (by decide)]
  simp [hflow]

end Marks

end Layout

end HeaderCheck.Yaml
