/-
# Scalars on one line read back

A string is written in one of four styles, and each style has its reader.
Here is that three of the readers undo their style, up to what follows the
scalar; the fourth style is the literal block, which has a module of its own.

What makes the styles work is that all that is written is printable: there
are no carriage returns, next-line characters or tabs in it, so a run of gaps
is spaces and line breaks only, and a line break reads as itself.  Between
single quotes, spaces and line breaks do not touch (`Unmixed`).  A run of
line breaks is followed by the margin of the next line, and folding it leaves
the line breaks, so what was read folds to what was written
(`foldPieces_singlePieces`).  Between double quotes whatever could be folded
is escaped.  A plain scalar stops at no character of its own, because the
printer has looked for all that would stop it (`readPlain_text`).
-/
import Mathlib
import HeaderCheck.Yaml.Printer

namespace HeaderCheck.Yaml

variable {c : Char} {t u v run : Text}

/-! ## Printable characters -/

theorem isAllowed_of_isPrintable (h : isPrintable c = true) : isAllowed c = true := by
  simp only [isPrintable, isAllowed, Bool.or_eq_true, Bool.and_eq_true, decide_eq_true_eq] at h ⊢
  rcases h with ((rfl | h) | h) | h
  · decide
  all_goals omega

theorem ne_return_of_isPrintable (h : isPrintable c = true) : c ≠ '\r' := by
  rintro rfl
  exact absurd h (by decide)

theorem eq_feed_or_isSeparator (h : isPrintable c = true) (hb : isBreak c = true) :
    c = '\n' ∨ isSeparator c = true := by
  simp only [isBreak, Bool.or_eq_true, decide_eq_true_eq] at hb
  rcases hb with ((rfl | rfl) | rfl) | hs
  · exact Or.inl rfl
  · exact absurd h (by decide)
  · exact absurd h (by decide)
  · exact Or.inr hs

theorem eq_space_or_isBreak (h : isPrintable c = true) (hg : isGap c = true) :
    c = ' ' ∨ isBreak c = true := by
  simp only [isGap, isBlank, Bool.or_eq_true, decide_eq_true_eq] at hg
  rcases hg with (rfl | rfl) | hb
  · exact Or.inl rfl
  · exact absurd h (by decide)
  · exact Or.inr hb

theorem isGap_of_isBreak (h : isBreak c = true) : isGap c = true := by
  rw [isGap, h, Bool.or_true]

theorem isBreak_of_isSeparator (h : isSeparator c = true) : isBreak c = true := by
  rw [isBreak, h, Bool.or_true]

theorem exists_concat (h : t ≠ []) : ∃ s c, t = s ++ [c] := by
  rcases List.eq_nil_or_concat t with hnil | ⟨s, c, hconcat⟩
  · exact absurd hnil h
  · exact ⟨s, c, by rw [hconcat, List.concat_eq_append]⟩

/-! ## Runs of gaps -/

theorem breaks_of_spaces (h : ∀ c ∈ run, c = ' ') : breaks run = [] := by
  induction run with
  | nil => rfl
  | cons c run ih =>
      obtain rfl := h c List.mem_cons_self
      exact ih fun d hd => h d (List.mem_cons_of_mem ' ' hd)

/-- A run without line breaks stands for itself. -/
theorem foldGap_of_spaces (h : ∀ c ∈ run, c = ' ') : foldGap run = run := by
  rw [foldGap, breaks_of_spaces h]

theorem breaks_of_separators (h : ∀ c ∈ run, isSeparator c = true) (v : Text) :
    breaks (run ++ v) = run ++ breaks v := by
  induction run with
  | nil => rfl
  | cons c run ih =>
      have hc := h c List.mem_cons_self
      have hne : c ≠ '\r' := by
        rintro rfl
        exact absurd hc (by decide)
      rw [List.cons_append, breaks, if_pos hc, ih fun d hd => h d (List.mem_cons_of_mem c hd),
        List.cons_append]
      exact fun _ hr _ => hne hr

/-- Separators stand for themselves, and swallow the margin behind them. -/
theorem foldGap_of_separators (hne : run ≠ []) (h : ∀ c ∈ run, isSeparator c = true) :
    foldGap (run ++ margin true) = run := by
  have hbreaks : breaks (run ++ margin true) = run := by
    rw [breaks_of_separators h]
    exact List.append_nil run
  rw [foldGap, hbreaks]
  obtain ⟨c, run, rfl⟩ := List.exists_cons_of_ne_nil hne
  have hc : c ≠ '\n' := by
    rintro rfl
    exact absurd (h '\n' List.mem_cons_self) (by decide)
  split
  next heq => cases heq
  next heq => exact absurd (List.cons.inj heq).1 hc
  next heq => exact absurd (List.cons.inj heq).1 hc
  next => rfl

theorem foldPieces_gaps (b : Bool) (ps : List Piece) (w : Text) :
    foldPieces b run (w.map .gap ++ ps) = foldPieces b (run ++ w) ps := by
  induction w generalizing run with
  | nil => rw [List.append_nil]; rfl
  | cons c w ih => rw [List.map_cons, List.cons_append, foldPieces, ih, List.append_assoc]; rfl

/-! ## Single quotes -/

theorem pairs_eq_false {first second : Char → Bool} {d : Char}
    (h : pairs first second t = false) (hcd : [c, d] <:+: t) : (first c && second d) = false := by
  obtain ⟨s, w, rfl⟩ := hcd
  induction s with
  | nil =>
      rw [List.nil_append, List.cons_append, List.cons_append, pairs, Bool.or_eq_false_iff] at h
      exact h.1
  | cons x s ih =>
      refine ih ?_
      cases hs : s ++ [c, d] ++ w with
      | nil => simp at hs
      | cons y r =>
          rw [List.cons_append, List.cons_append, hs, pairs, Bool.or_eq_false_iff] at h
          exact h.2

/-- Spaces and line breaks do not touch. -/
def Unmixed (t : Text) : Prop :=
  ∀ c d, [c, d] <:+: t → (isSpace c && isBreak d) = false ∧ (isBreak c && isSpace d) = false

theorem Unmixed.infix (h : Unmixed t) (hu : u <:+: t) : Unmixed u :=
  fun c d hcd => h c d (hcd.trans hu)

/-- A pending run: of line breaks where the line is just begun, of spaces
otherwise. -/
def IsRun (lineStart : Bool) (run : Text) : Prop :=
  if lineStart then run ≠ [] ∧ ∀ c ∈ run, isSeparator c = true else ∀ c ∈ run, c = ' '

namespace IsRun

variable {b : Bool}

theorem nil : IsRun false [] :=
  fun _ h => absurd h List.not_mem_nil

theorem foldGap_margin (h : IsRun b run) : foldGap (run ++ margin b) = run := by
  cases b with
  | false => exact (congrArg foldGap (List.append_nil run)).trans (foldGap_of_spaces h)
  | true => exact foldGap_of_separators h.1 h.2

/-- Behind spaces that a line break would touch, there are none. -/
theorem separator (h : IsRun b run) (hm : Unmixed (run ++ [c])) (hc : isSeparator c = true) :
    IsRun true (run ++ [c]) := by
  refine ⟨by simp, fun d hd => ?_⟩
  rcases List.mem_append.mp hd with hd | hd
  · cases b with
    | true => exact h.2 d hd
    | false =>
        obtain ⟨s, x, rfl⟩ := exists_concat (List.ne_nil_of_mem hd)
        obtain rfl := h x (by simp)
        have htouch := (hm ' ' c ⟨s, [], by simp⟩).1
        rw [isBreak_of_isSeparator hc] at htouch
        cases htouch
  · rw [List.mem_singleton.mp hd]
    exact hc

theorem space (h : IsRun b run) (hm : Unmixed (run ++ [' '])) :
    b = false ∧ IsRun false (run ++ [' ']) := by
  cases b with
  | false =>
      refine ⟨rfl, fun d hd => ?_⟩
      rcases List.mem_append.mp hd with hd | hd
      · exact h d hd
      · exact List.mem_singleton.mp hd
  | true =>
      obtain ⟨s, x, rfl⟩ := exists_concat h.1
      have htouch := (hm x ' ' ⟨s, [], by simp⟩).2
      rw [isBreak_of_isSeparator (h.2 x (by simp))] at htouch
      cases htouch

end IsRun

/-- The pieces of a text between single quotes. -/
def singlePieces (lineStart : Bool) : Text → List Piece
  | [] => (margin lineStart).map .gap
  | c :: t =>
      if isBreak c then .gap c :: singlePieces true t
      else (margin lineStart).map .gap ++
        (if isGap c then .gap c else .char c) :: singlePieces false t

theorem readSingle_cons {b : Bool} (hc : c ≠ '\'')
    (hmarker : (b && startsMarker (c :: t)) = false) :
    readSingle b (c :: t) =
      consPiece (if isGap c then .gap c else .char c) (readSingle (isBreak c) t) := by
  rw [readSingle, hmarker]
  · cases hg : isGap c with
    | true => rfl
    | false =>
        have hbreak : isBreak c = false := by
          rw [isGap, Bool.or_eq_false_iff] at hg
          exact hg.2
        rw [hbreak]
        rfl
  · exact fun _ h _ => hc h
  · exact hc

theorem startsMarker_cons (h1 : c ≠ '-') (h2 : c ≠ '.') : startsMarker (c :: t) = false := by
  rw [startsMarker]
  · exact fun _ h => h1 (List.cons.inj h).1
  · exact fun _ h => h2 (List.cons.inj h).1

theorem readSingle_margin (b : Bool) (w : Text) :
    readSingle b (margin b ++ w) =
      (readSingle false w).map fun (ps, v) => ((margin b).map .gap ++ ps, v) := by
  cases b with
  | false =>
      rw [margin, if_neg Bool.false_ne_true, List.nil_append]
      cases readSingle false w <;> rfl
  | true =>
      have hspace : ∀ (x : Bool) (r : Text), readSingle x (' ' :: r) =
          consPiece (.gap ' ') (readSingle false r) := fun x r =>
        readSingle_cons (by decide) (by
          rw [startsMarker_cons (by decide) (by decide), Bool.and_false])
      rw [margin, if_pos rfl, List.cons_append, List.cons_append, List.nil_append, hspace, hspace]
      cases readSingle false w <;> rfl

theorem readSingle_body (b : Bool) (hv : v.head? ≠ some '\'') :
    readSingle b (singleBody b t ++ '\'' :: v) = .ok (singlePieces b t, v) := by
  induction t generalizing b with
  | nil =>
      have hend : readSingle false ('\'' :: v) = .ok ([], v) := by
        rw [readSingle]
        intro w hw
        exact hv (by rw [hw]; rfl)
      rw [singleBody, readSingle_margin, hend, singlePieces]
      simp [Except.map]
  | cons c t ih =>
      rw [singleBody, singlePieces]
      split
      next hb =>
        have hc : c ≠ '\'' ∧ c ≠ '-' ∧ c ≠ '.' := by
          refine ⟨?_, ?_, ?_⟩ <;> rintro rfl <;> exact absurd hb (by decide)
        have hmarker := startsMarker_cons (t := singleBody true t ++ '\'' :: v) hc.2.1 hc.2.2
        rw [List.cons_append, readSingle_cons hc.1 (by rw [hmarker, Bool.and_false]), hb, ih true,
          if_pos (isGap_of_isBreak hb)]
        rfl
      next hb =>
        have hbreak : isBreak c = false := by simpa using hb
        have hone : readSingle false ((if c = '\'' then ['\'', '\''] else [c]) ++
            (singleBody false t ++ '\'' :: v)) =
            .ok ((if isGap c then .gap c else .char c) :: singlePieces false t, v) := by
          split
          next hq =>
            obtain rfl := hq
            rw [List.cons_append, List.cons_append, List.nil_append, readSingle, ih false]
            rfl
          next hq =>
            rw [List.cons_append, List.nil_append, readSingle_cons hq (Bool.false_and _), hbreak,
              ih false]
            rfl
        rw [List.append_assoc, List.append_assoc, readSingle_margin, hone]
        rfl

/-- What stands between single quotes folds to what was written, behind the
run that is pending. -/
theorem foldPieces_singlePieces {b : Bool} (hrun : IsRun b run)
    (hp : ∀ c ∈ t, isPrintable c = true) (hn : '\n' ∉ t) (hm : Unmixed (run ++ t)) :
    foldPieces false run (singlePieces b t) = run ++ t := by
  induction t generalizing run b with
  | nil =>
      rw [singlePieces, ← List.append_nil (List.map _ _), foldPieces_gaps, foldPieces,
        if_neg Bool.false_ne_true, hrun.foldGap_margin, List.append_nil]
  | cons c t ih =>
      have hpt : ∀ d ∈ t, isPrintable d = true := fun d hd => hp d (List.mem_cons_of_mem c hd)
      have hnt : '\n' ∉ t := fun h => hn (List.mem_cons_of_mem c h)
      have hc := hp c List.mem_cons_self
      have hassoc : run ++ c :: t = run ++ [c] ++ t := by rw [List.append_assoc]; rfl
      have hm' : Unmixed (run ++ [c] ++ t) := hassoc ▸ hm
      have hfront : Unmixed (run ++ [c]) := hm'.infix (List.prefix_append _ t).isInfix
      rw [singlePieces]
      split
      next hbreak =>
        have hsep : isSeparator c = true :=
          (eq_feed_or_isSeparator hc hbreak).resolve_left fun h => hn (h ▸ List.mem_cons_self)
        rw [foldPieces, hassoc]
        exact ih (hrun.separator hfront hsep) hpt hnt hm'
      next hbreak =>
        cases hg : isGap c with
        | true =>
            obtain rfl := (eq_space_or_isBreak hc hg).resolve_right hbreak
            obtain ⟨rfl, hspace⟩ := hrun.space hfront
            have hmap : (margin false).map Piece.gap = [] := rfl
            rw [hmap, List.nil_append, if_pos rfl, foldPieces, hassoc]
            exact ih hspace hpt hnt hm'
        | false =>
            have hrest : Unmixed ([] ++ t) := hm'.infix (List.suffix_append _ t).isInfix
            rw [if_neg Bool.false_ne_true, foldPieces_gaps, foldPieces, if_neg Bool.false_ne_true,
              hrun.foldGap_margin, ih .nil hpt hnt hrest]
            rfl

theorem unmixed_of_pairs (hsb : pairs isSpace isBreak t = false)
    (hbs : pairs isBreak isSpace t = false) : Unmixed t :=
  fun _ _ hcd => ⟨pairs_eq_false hsb hcd, pairs_eq_false hbs hcd⟩

theorem readSingle_text (h : allowsSingle t = true) (hn : '\n' ∉ t) (hv : v.head? ≠ some '\'') :
    ∃ ps, readSingle false (singleBody false t ++ '\'' :: v) = .ok (ps, v) ∧
      foldPieces false [] ps = t := by
  simp only [allowsSingle, Bool.and_eq_true, Bool.not_eq_true', List.all_eq_true] at h
  obtain ⟨⟨hp, hsb⟩, hbs⟩ := h
  exact ⟨_, readSingle_body false hv,
    foldPieces_singlePieces .nil hp hn (unmixed_of_pairs hsb hbs)⟩

/-! ## Double quotes -/

theorem readDouble_cons (e : Escape) (b : Bool) (hc : c ≠ '\r') :
    readDouble e b (c :: t) = match e with
      | .outside =>
          if c = '"' then .ok ([], t)
          else if c = '\\' then readDouble .begun false t
          else if b && startsMarker (c :: t) then .error .quoteInterrupted
          else if isGap c then consPiece (.gap c) (readDouble .outside (isBreak c) t)
          else consPiece (.char c) (readDouble .outside false t)
      | .begun =>
          if isBreak c then consPiece .joint (readDouble .outside true t)
          else match escape? c, escapeDigits? c with
            | some d, _ => consPiece (.char d) (readDouble .outside false t)
            | none, some n => readDouble (.digits n 0) false t
            | none, none => .error .escapeUnknown
      | .digits left value =>
          match hexDigit? c with
          | none => .error .escapeDigits
          | some d =>
              if 1 < left then readDouble (.digits (left - 1) (16 * value + d)) false t
              else match scalarValue? (16 * value + d) with
                | some d => consPiece (.char d) (readDouble .outside false t)
                | none => .error .escapeCharacter := by
  rw [readDouble.eq_def]
  split
  next heq => cases heq
  next heq => exact absurd (List.cons.inj heq).1 hc
  next heq =>
    obtain ⟨rfl, rfl⟩ := List.cons.inj heq
    rfl

/-! ### Escapes -/

theorem shortEscape?_eq_some {d : Char} (h : shortEscape? c = some d) :
    escape? d = some c ∧ isBreak d = false ∧ d ≠ '\r' := by
  unfold shortEscape? at h
  split at h
  all_goals cases h
  all_goals decide

theorem hexDigit?_digitChar {d : Nat} (h : d < 16) :
    hexDigit? (Nat.digitChar d).toUpper = some d ∧ (Nat.digitChar d).toUpper ≠ '\r' := by
  have hall : ∀ d < 16, hexDigit? (Nat.digitChar d).toUpper = some d ∧
      (Nat.digitChar d).toUpper ≠ '\r' := by decide
  exact hall d h

/-- All digits but the last ones are read into the value. -/
theorem readDouble_hexDigits (k j n value : Nat) (hj : 0 < j) :
    readDouble (.digits (k + j) value) false (hexDigits k n ++ t) =
      readDouble (.digits j (16 ^ k * value + n % 16 ^ k)) false t := by
  induction k generalizing j n t with
  | zero =>
      rw [hexDigits, List.nil_append, Nat.zero_add, Nat.pow_zero, Nat.one_mul, Nat.mod_one,
        Nat.add_zero]
  | succ k ih =>
      obtain ⟨hdigit, hne⟩ := hexDigit?_digitChar (Nat.mod_lt n (by decide : 0 < 16))
      have hvalue : 16 * (16 ^ k * value + n / 16 % 16 ^ k) + n % 16 =
          16 ^ (k + 1) * value + n % 16 ^ (k + 1) := by
        have hmod := Nat.mod_mul_right_div_self n 16 (16 ^ k)
        have hlow := Nat.mod_mul_right_mod n 16 (16 ^ k)
        have hsplit := Nat.div_add_mod (n % (16 * 16 ^ k)) 16
        rw [hmod, hlow] at hsplit
        rw [Nat.pow_succ, Nat.mul_comm (16 ^ k) 16, ← hsplit, Nat.mul_add, Nat.mul_assoc,
          Nat.add_assoc]
      rw [hexDigits, List.append_assoc, Nat.add_assoc, Nat.add_comm 1 j,
        ih (j + 1) (n / 16) (Nat.succ_pos j), List.cons_append, List.nil_append,
        readDouble_cons _ _ hne]
      simp only [hdigit]
      rw [if_pos (Nat.succ_lt_succ hj), Nat.add_sub_cancel, hvalue]

theorem scalarValue?_toNat (c : Char) : scalarValue? c.toNat = some c := by
  have hvalid : c.toNat < 0xD800 ∨ (0xDFFF < c.toNat ∧ c.toNat ≤ 0x10FFFF) := by
    rcases c.valid with h | ⟨h, h'⟩
    · exact Or.inl h
    · exact Or.inr ⟨h, Nat.le_of_lt_succ h'⟩
  rw [scalarValue?, if_pos hvalid, Char.ofNat_toNat]

/-- The number of a character is read back from its digits. -/
theorem readDouble_number (k : Nat) (h : c.toNat < 16 ^ (k + 1)) :
    readDouble (.digits (k + 1) 0) false (hexDigits (k + 1) c.toNat ++ t) =
      consPiece (.char c) (readDouble .outside false t) := by
  obtain ⟨hdigit, hne⟩ := hexDigit?_digitChar (Nat.mod_lt c.toNat (by decide : 0 < 16))
  have hupper : c.toNat / 16 < 16 ^ k := by
    rw [Nat.div_lt_iff_lt_mul (by decide), ← Nat.pow_succ]
    exact h
  rw [hexDigits, List.append_assoc, readDouble_hexDigits k 1 (c.toNat / 16) 0 Nat.one_pos,
    List.cons_append, List.nil_append, readDouble_cons _ _ hne]
  simp only [hdigit]
  rw [if_neg (Nat.lt_irrefl 1), Nat.mul_zero, Nat.zero_add, Nat.mod_eq_of_lt hupper,
    Nat.div_add_mod, scalarValue?_toNat]

theorem readDouble_backslash :
    readDouble .outside false ('\\' :: t) = readDouble .begun false t := by
  rw [readDouble_cons _ _ (by decide)]
  rfl

theorem readDouble_escaped (c : Char) (t : Text) :
    readDouble .outside false (escaped c ++ t) =
      consPiece (.char c) (readDouble .outside false t) := by
  have hlong : ∀ (x : Char) (k : Nat), x ≠ '\r' → isBreak x = false → escape? x = none →
      escapeDigits? x = some (k + 1) → c.toNat < 16 ^ (k + 1) →
      readDouble .outside false ('\\' :: x :: hexDigits (k + 1) c.toNat ++ t) =
        consPiece (.char c) (readDouble .outside false t) := by
    intro x k hx hbreak hescape hcount hsmall
    rw [List.cons_append, List.cons_append, readDouble_backslash, readDouble_cons _ _ hx]
    simp only [hbreak, hescape, hcount]
    exact readDouble_number k hsmall
  rw [escaped]
  split
  next d hd =>
    obtain ⟨hescape, hbreak, hne⟩ := shortEscape?_eq_some hd
    rw [List.cons_append, List.cons_append, readDouble_backslash, readDouble_cons _ _ hne]
    simp only [hescape, hbreak]
    rfl
  next =>
    split
    next h => exact hlong 'x' 1 (by decide) (by decide) (by decide) (by decide) (by omega)
    next =>
      split
      next h => exact hlong 'u' 3 (by decide) (by decide) (by decide) (by decide) (by omega)
      next =>
        refine hlong 'U' 7 (by decide) (by decide) (by decide) (by decide) ?_
        rcases c.valid with h | ⟨-, h⟩ <;> exact Nat.lt_trans h (by decide)

/-! ### The text -/

/-- Is a character escaped between double quotes? -/
def isEscaped (c : Char) : Bool :=
  !isPrintable c || isBreak c || c = '"' || c = '\\'

/-- The piece of a character between double quotes. -/
def doublePiece (c : Char) : Piece :=
  if !isEscaped c && isGap c then .gap c else .char c

theorem readDouble_body (t v : Text) :
    readDouble .outside false (doubleBody t ++ '"' :: v) = .ok (t.map doublePiece, v) := by
  induction t with
  | nil =>
      rw [doubleBody, List.flatMap_nil, List.nil_append, readDouble_cons _ _ (by decide)]
      rfl
  | cons c t ih =>
      rw [doubleBody] at ih
      rw [doubleBody, List.flatMap_cons, List.append_assoc, List.map_cons, doublePiece, isEscaped]
      split
      next h =>
        rw [readDouble_escaped, ih, h]
        rfl
      next h =>
        have h' : (!isPrintable c || isBreak c || decide (c = '"') ||
            decide (c = '\\')) = false := by
          simpa using h
        rw [h']
        simp only [Bool.or_eq_false_iff, Bool.not_eq_false', decide_eq_false_iff_not] at h'
        obtain ⟨⟨⟨hp, hbreak⟩, hq⟩, hs⟩ := h'
        rw [List.cons_append, List.nil_append, readDouble_cons _ _ (ne_return_of_isPrintable hp)]
        simp only [if_neg hq, if_neg hs, Bool.false_and, hbreak, ih]
        cases isGap c <;> rfl

theorem foldPieces_doublePieces (hrun : ∀ c ∈ run, c = ' ') :
    foldPieces false run (t.map doublePiece) = run ++ t := by
  induction t generalizing run with
  | nil => rw [List.map_nil, foldPieces, if_neg Bool.false_ne_true, foldGap_of_spaces hrun,
      List.append_nil]
  | cons c t ih =>
      rw [List.map_cons, doublePiece]
      split
      next h =>
        simp only [isEscaped, Bool.and_eq_true, Bool.not_eq_true', Bool.or_eq_false_iff,
          Bool.not_eq_false'] at h
        obtain ⟨⟨⟨⟨hp, hbreak⟩, -⟩, -⟩, hg⟩ := h
        obtain rfl := (eq_space_or_isBreak hp hg).resolve_right (by simp [hbreak])
        rw [foldPieces, ih, List.append_assoc]
        · rfl
        · intro d hd
          rcases List.mem_append.mp hd with hd | hd
          · exact hrun d hd
          · exact List.mem_singleton.mp hd
      next =>
        rw [foldPieces, if_neg Bool.false_ne_true, foldGap_of_spaces hrun,
          ih fun _ h => absurd h List.not_mem_nil, List.nil_append]

/-! ## Plain scalars -/

/-- A run of spaces ends a plain scalar only before a hash. -/
theorem endsBehindGap_spaces (indent : Nat) {column : Nat} (hrun : ∀ c ∈ run, c = ' ')
    (hcolumn : run = [] ∨ 0 < column) (hc : run = [] ∨ c ≠ '#') :
    endsBehindGap false indent run column (c :: t) = false := by
  rcases hcolumn with rfl | hpos
  · rfl
  rcases hc with rfl | hne
  · rfl
  have hbreak : run.any isBreak = false := by
    rw [List.any_eq_false]
    intro d hd
    rw [hrun d hd]
    exact Bool.false_ne_true
  simp [endsBehindGap, hbreak, hne, Nat.ne_of_gt hpos]

theorem not_hash_behind_spaces (hrun : ∀ c ∈ run, c = ' ')
    (hhash : ∀ w, (' ' :: '#' :: w) <:+ run ++ c :: t → False) : run = [] ∨ c ≠ '#' := by
  by_cases hnil : run = []
  · exact Or.inl hnil
  obtain ⟨s, x, hconcat⟩ := exists_concat hnil
  obtain rfl := hrun x (by simp [hconcat])
  refine Or.inr fun h => hhash t ⟨s, ?_⟩
  rw [hconcat, h, List.append_assoc]
  rfl

/-- Outside of brackets a plain scalar ends at a colon before a gap only. -/
theorem endsAtMark_cons (h : c = ':' → startsGap t = false) :
    endsAtMark false (c :: t) = false := by
  by_cases hc : c = ':'
  · simp [endsAtMark, h hc]
  · simp [endsAtMark, hc]

/-- A plain scalar goes on through all that is printable, up to where a
reader that has just begun ends: no colon in it is followed by a gap, and no
hash follows a space. -/
theorem readPlain_text (run : Text) (column : Nat) {indent : Nat} {rest gap : Text}
    (hp : ∀ c ∈ t, isPrintable c = true ∧ isBreak c = false) (hlast : t.getLast? ≠ some ' ')
    (hcolon : ∀ w, (':' :: w) <:+ t → startsGap (w ++ u) = false)
    (hhash : ∀ w, (' ' :: '#' :: w) <:+ run ++ t → False)
    (hrun : ∀ c ∈ run, c = ' ') (hcolumn : run = [] ∨ 0 < column) (ht : t = [] → run = [])
    (hu : ∀ column, readPlain false indent [] column u = .ok ([], rest, gap)) :
    readPlain false indent run column (t ++ u) = .ok (run ++ t, rest, gap) := by
  induction t generalizing run column with
  | nil =>
      rw [ht rfl]
      exact hu column
  | cons c t ih =>
      have hpt : ∀ d ∈ t, isPrintable d = true ∧ isBreak d = false :=
        fun d hd => hp d (List.mem_cons_of_mem c hd)
      have hlast' : t.getLast? ≠ some ' ' := by
        intro h
        refine hlast ?_
        rw [List.getLast?_cons, h]
        rfl
      have hcolon' : ∀ w, (':' :: w) <:+ t → startsGap (w ++ u) = false :=
        fun w hw => hcolon w (hw.trans (List.suffix_cons c t))
      obtain ⟨hc, hbreak⟩ := hp c List.mem_cons_self
      rw [List.cons_append, readPlain]
      cases hg : isGap c with
      | true =>
          obtain rfl := (eq_space_or_isBreak hc hg).resolve_right (by simp [hbreak])
          have hassoc : run ++ ' ' :: t = run ++ [' '] ++ t := by rw [List.append_assoc]; rfl
          rw [if_pos rfl, if_neg (by simp), hassoc]
          refine ih _ _ hpt hlast' hcolon' (fun w hw => hhash w (hassoc ▸ hw)) ?_
            (Or.inr (Nat.succ_pos column)) fun hnil => absurd (by rw [hnil]; rfl) hlast
          intro d hd
          rcases List.mem_append.mp hd with hd | hd
          · exact hrun d hd
          · exact List.mem_singleton.mp hd
      | false =>
          have hgap := endsBehindGap_spaces indent (t := t ++ u) hrun hcolumn
            (not_hash_behind_spaces hrun hhash)
          have hmark : endsAtMark false (c :: (t ++ u)) = false :=
            endsAtMark_cons fun hc' => hcolon t (hc' ▸ List.suffix_rfl)
          have hstep := ih [] (column + 1) hpt hlast' hcolon'
            (fun w hw => hhash w (hw.trans ((List.suffix_cons c t).trans (List.suffix_append _ _))))
            (fun d hd => absurd hd List.not_mem_nil) (Or.inl rfl) fun _ => rfl
          rw [if_neg Bool.false_ne_true, if_neg (by simp [hgap]), if_neg (by simp),
            if_neg (by simp [hmark]), hstep, foldGap_of_spaces hrun]
          rfl

/-! ### The value of a key -/

/-- What follows a line: a line that starts with a word or a dash, or
nothing. -/
def StartsLine (u : Text) : Prop :=
  ∀ c ∈ u.head?, isNameChar c = true

theorem not_isGap_of_isNameChar (h : isNameChar c = true) : isGap c = false := by
  cases hg : isGap c with
  | false => rfl
  | true =>
      simp only [isGap, isBlank, isBreak, isSeparator, Bool.or_eq_true, decide_eq_true_eq] at hg
      rcases hg with (rfl | rfl) | ((rfl | rfl) | rfl) | rfl | rfl <;> exact absurd h (by decide)

theorem startsGap_append (hc : isGap c = true) (w : Text) :
    startsGap (w ++ c :: u) = startsGap w := by
  cases w with
  | nil => exact hc
  | cons d w => rfl

theorem startsGap_of_holdsIndicator {b : Bool} (h : holdsIndicator b t = false) {w : Text}
    (hw : (':' :: w) <:+ t) : startsGap w = false := by
  induction t generalizing b with
  | nil => exact absurd (List.suffix_nil.mp hw) (by simp)
  | cons c t ih =>
      simp only [holdsIndicator, Bool.or_eq_false_iff] at h
      rcases List.suffix_cons_iff.mp hw with heq | hw
      · obtain ⟨rfl, rfl⟩ := List.cons.inj heq
        simpa using h.1.1
      · exact ih h.2 hw

theorem not_hash_of_holdsIndicator {b : Bool} (h : holdsIndicator b t = false) {w : Text}
    (hw : (' ' :: '#' :: w) <:+ t) : False := by
  induction t generalizing b with
  | nil => exact absurd (List.suffix_nil.mp hw) (by simp)
  | cons c t ih =>
      simp only [holdsIndicator, Bool.or_eq_false_iff] at h
      rcases List.suffix_cons_iff.mp hw with heq | hw
      · obtain ⟨rfl, rfl⟩ := List.cons.inj heq
        simp [holdsIndicator, isGap, isBlank] at h
      · exact ih h.2 hw

/-- A plain value is read through the end of its line. -/
theorem readPlain_value (h : allowsPlain t = true) (hu : StartsLine u) (column : Nat) :
    readPlain false 1 [] column (t ++ '\n' :: u) = .ok (t, u, ['\n']) := by
  simp only [allowsPlain, Bool.and_eq_true, Bool.not_eq_true', List.all_eq_true,
    List.any_eq_false] at h
  obtain ⟨⟨⟨⟨⟨hp, hb⟩, -⟩, hlast⟩, -⟩, hholds⟩ := h
  have hend : ∀ column, readPlain false 1 [] column ('\n' :: u) = .ok ([], u, ['\n']) := by
    intro column
    rw [readPlain, if_pos (by decide), if_neg (by simp)]
    cases u with
    | nil => rfl
    | cons c u =>
        have hg := not_isGap_of_isNameChar (hu c rfl)
        rw [readPlain, if_neg (by simp [hg])]
        rfl
  refine readPlain_text [] _ (fun c hc => ⟨hp c hc, by simpa using hb c hc⟩) ?_ ?_
    (fun w hw => not_hash_of_holdsIndicator hholds hw) (fun c hc => absurd hc List.not_mem_nil)
    (Or.inl rfl) (fun _ => rfl) hend
  · intro hspace
    rw [hspace] at hlast
    exact absurd hlast (by decide)
  · intro w hw
    rw [startsGap_append (by decide)]
    exact startsGap_of_holdsIndicator hholds hw

theorem isPrintable_of_isNameChar (h : isNameChar c = true) : isPrintable c = true := by
  simp only [isNameChar, Char.isAlphanum, Char.isAlpha, Char.isUpper, Char.isLower, Char.isDigit,
    Bool.or_eq_true, Bool.and_eq_true, decide_eq_true_eq, ge_iff_le, UInt32.le_iff_toNat_le] at h
  simp only [isPrintable, Bool.or_eq_true, Bool.and_eq_true, decide_eq_true_eq]
  have hval : c.val.toNat = c.toNat := rfl
  rw [hval] at h
  refine Or.inl (Or.inl (Or.inr ?_))
  rcases h with ((h | h) | rfl) | rfl
  · rcases h with ⟨h, h'⟩ | ⟨h, h'⟩ <;> simp at h h' <;> omega
  · simp at h
    omega
  · decide
  · decide

/-- A key is read up to its colon. -/
theorem readPlain_key (h : ∀ c ∈ t, isNameChar c = true) (hu : startsGap u = true)
    (indent column : Nat) :
    readPlain false indent [] column (t ++ ':' :: u) = .ok (t, ':' :: u, []) := by
  have hno : ∀ {x : Char} {w s : Text}, isNameChar x = false → (s ++ x :: w) <:+ t → False := by
    intro x w s hx hw
    have hmem := h x (hw.subset (List.mem_append_right s List.mem_cons_self))
    rw [hx] at hmem
    cases hmem
  refine readPlain_text [] _ (fun c hc => ?_) ?_ (fun w hw => (hno (s := []) (by decide) hw).elim)
    (fun w hw => hno (s := [' ']) (by decide : isNameChar '#' = false) hw)
    (fun c hc => absurd hc List.not_mem_nil) (Or.inl rfl) (fun _ => rfl) fun column => ?_
  · have hg := not_isGap_of_isNameChar (h c hc)
    rw [isGap, Bool.or_eq_false_iff] at hg
    exact ⟨isPrintable_of_isNameChar (h c hc), hg.2⟩
  · intro hlast
    exact absurd (h ' ' (List.mem_of_getLast? hlast)) (by decide)
  · have hend : endsAtMark false (':' :: u) = true := by rw [endsAtMark, hu]; rfl
    have hgap : endsBehindGap false indent [] column (':' :: u) = false := rfl
    rw [readPlain, if_neg (by decide), hgap, hend]
    rfl

end HeaderCheck.Yaml
