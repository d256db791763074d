/-
# Extensions and the files that they select

An extension of the configuration and the extension of a path are compared in
lower case.  What the extension of a path is, is told by its last name: it is
what follows the last dot, if something precedes that
(`nameExtension?_eq_some_iff`).  So it holds neither a dot nor a slash, and no
mapping to lower case brings either in or takes it out (`mem_lowercase_iff`),
since all letters come behind both marks, and their images too.

Validation asks of an extension only that it is not empty and does not start
with a dot.  One without any dot and slash selects every file that is named
with it, in upper or lower case.  One with a dot or a slash in it passes
validation as well, but it is the extension of no path
(`extension_selects`).
-/
import HeaderCheck.Proofs.Components
import HeaderCheck.Proofs.Discovery
import HeaderCheck.Proofs.Valid

namespace HeaderCheck

/-! ## Marks in lower case -/

namespace Unicode

variable {c d : Char} {before t : Text}

/-- The letters of a table, character by character. -/
theorem table_eq {letters : String} {cs : List Char} (h : letters = String.ofList cs) :
    table letters = readNumbers 0 (cs.filter Char.isAlpha) := by
  rw [table, h, String.toList_ofList]

set_option maxRecDepth 4000 in
/-- No letter has a code point below those of the digits, and no letter is
mapped to one. -/
theorem lowerRuns_above :
    ∀ r ∈ lowerRuns, '0'.toNat ≤ r.first ∧ (r.below = true → '0'.toNat + r.distance ≤ r.first) := by
  rw [lowerRuns, table_eq rfl]
  decide +kernel

theorem le_image_of_covers {r : CaseRun} {n : Nat} (hr : r ∈ lowerRuns) (h : r.covers n = true) :
    '0'.toNat ≤ n ∧ '0'.toNat ≤ r.image n := by
  obtain ⟨hfirst, hbelow⟩ := lowerRuns_above r hr
  have hn : r.first ≤ n := by
    simp only [CaseRun.covers, Bool.and_eq_true, decide_eq_true_eq] at h
    exact h.1.1
  refine ⟨Nat.le_trans hfirst hn, ?_⟩
  rw [CaseRun.image]
  split
  next hb =>
    have hle := hbelow hb
    omega
  next => omega

theorem toNat_ofNat (n : Nat) : (Char.ofNat n).toNat = n ∨ Char.ofNat n = '\x00' := by
  rw [Char.ofNat]
  split
  next h => exact Or.inl (by simp [Char.ofNatAux, Char.toNat])
  next => exact Or.inr rfl

/-- A mark below the digits is the image of itself only. -/
theorem mapCase_eq_iff (hd : d ≠ '\x00') (h : d.toNat < '0'.toNat) :
    mapCase lowerRuns c = d ↔ c = d := by
  rw [mapCase]
  split
  next r hr =>
    have hcovers : r.covers c.toNat = true := by simpa using List.find?_some hr
    obtain ⟨hc, himage⟩ := le_image_of_covers (List.mem_of_find?_eq_some hr) hcovers
    refine iff_of_false ?_ ?_
    · rintro rfl
      rcases toNat_ofNat (r.image c.toNat) with heq | heq
      · omega
      · exact hd heq
    · rintro rfl
      omega
  next => rfl

/-- The letters that are mapped by rules of their own come behind such marks. -/
theorem ne_of_toNat_lt {e : Char} (h : d.toNat < '0'.toNat) (he : '0'.toNat ≤ e.toNat) : d ≠ e := by
  rintro rfl
  omega

theorem mem_lowercaseAfter_iff (hd : d ≠ '\x00') (h : d.toNat < '0'.toNat) :
    d ∈ lowercaseAfter before t ↔ d ∈ t := by
  induction t generalizing before with
  | nil => rfl
  | cons c t ih =>
      rw [lowercaseAfter, List.mem_append, List.mem_cons, ih]
      refine or_congr_left ?_
      split
      next hc =>
        subst hc
        refine iff_of_false ?_ (ne_of_toNat_lt h (by decide))
        simp [ne_of_toNat_lt (e := 'i') h (by decide), ne_of_toNat_lt (e := '\u0307') h (by decide)]
      next =>
        split
        next hc =>
          subst hc
          have hsigma : d ≠ lowerSigma before t := by
            rw [lowerSigma]
            split
            · exact ne_of_toNat_lt h (by decide)
            · exact ne_of_toNat_lt h (by decide)
          exact iff_of_false (by simpa using hsigma) (ne_of_toNat_lt h (by decide))
        next => rw [List.mem_singleton, eq_comm, mapCase_eq_iff hd h, eq_comm]

/-- Such marks occur in the lower-case form where they occur in the text. -/
theorem mem_lowercase_iff (hd : d ≠ '\x00') (h : d.toNat < '0'.toNat) :
    d ∈ lowercase t ↔ d ∈ t :=
  mem_lowercaseAfter_iff hd h

theorem lowercase_eq_nil_iff : lowercase t = [] ↔ t = [] := by
  cases t with
  | nil => exact iff_of_true rfl rfl
  | cons c t =>
      refine iff_of_false ?_ (List.cons_ne_nil c t)
      rw [lowercase, lowercaseAfter]
      split
      · simp
      · split <;> simp

/-- Texts that agree in lower case have the same marks. -/
theorem mem_iff_of_lowercase_eq {u : Text} (hd : d ≠ '\x00') (h : d.toNat < '0'.toNat)
    (heq : lowercase t = lowercase u) : d ∈ t ↔ d ∈ u := by
  rw [← mem_lowercase_iff hd h, heq, mem_lowercase_iff hd h]

set_option maxRecDepth 4000 in
theorem lowercase_ts : lowercase "tS".toList = lowercase "Ts".toList := by
  show ['t', 'S'].map (mapCase lowerRuns) = ['T', 's'].map (mapCase lowerRuns)
  rw [lowerRuns, table_eq rfl]
  decide +kernel

end Unicode

/-! ## The extension of a path -/

namespace Path

variable {p : Path} {name x : Text}

theorem nameExtension?_append {stem : Text} (h : '.' ∉ x) :
    nameExtension? (stem ++ '.' :: x) = if stem = [] then none else some x := by
  have hreverse : (stem ++ '.' :: x).reverse = x.reverse ++ '.' :: stem.reverse := by simp
  have hx : ∀ c ∈ x.reverse, decide (c ≠ '.') = true := fun c hc =>
    decide_eq_true fun heq => h (heq ▸ List.mem_reverse.mp hc)
  have hdot : ∀ c ∈ ('.' :: stem.reverse).head?, decide (c ≠ '.') = false := by simp
  rw [nameExtension?, hreverse, Text.dropWhile_eq_of_boundary hx hdot,
    Text.takeWhile_eq_of_boundary hx hdot, List.reverse_reverse]
  cases stem using List.reverseRecOn with
  | nil => rfl
  | append_singleton stem c => simp

/-- The extension of a name is what follows its last dot, if something
precedes that. -/
theorem nameExtension?_eq_some_iff :
    nameExtension? name = some x ↔ ∃ stem, stem ≠ [] ∧ name = stem ++ '.' :: x ∧ '.' ∉ x := by
  constructor
  · intro h
    rcases Text.exists_lastPiece '.' name with hno | ⟨stem, y, rfl, hy⟩
    · have hdrop : name.reverse.dropWhile (· ≠ '.') = [] := by
        rw [List.dropWhile_eq_nil_iff]
        exact fun c hc => decide_eq_true fun heq => hno (heq ▸ List.mem_reverse.mp hc)
      rw [nameExtension?, hdrop] at h
      cases h
    · rw [nameExtension?_append hy] at h
      split at h
      next => cases h
      next hstem =>
        obtain rfl := Option.some.inj h
        exact ⟨stem, hstem, rfl, hy⟩
  · rintro ⟨stem, hstem, rfl, hx⟩
    rw [nameExtension?_append hx, if_neg hstem]

theorem extension?_join (hname : IsPiece name) :
    (p.join name).extension? = nameExtension? name := by
  rw [extension?, fileName?_join hname, Option.bind_some]

/-- An extension holds no mark that parts names or paths. -/
theorem not_mem_of_extension? (h : p.extension? = some x) : '.' ∉ x ∧ '/' ∉ x := by
  obtain ⟨name, hname, hx⟩ := Option.bind_eq_some_iff.mp h
  obtain ⟨stem, -, rfl, hdot⟩ := nameExtension?_eq_some_iff.mp hx
  have hslash := Text.not_mem_splitOn (mem_pieces_of_fileName? hname)
  exact ⟨hdot, fun hmem => hslash (by simp [hmem])⟩

/-- A name with an extension is a piece, since it does not consist of dots. -/
theorem isPiece_extended {stem : Text} (hstem : '/' ∉ stem) (hx : x ≠ []) (hdot : '.' ∉ x)
    (hslash : '/' ∉ x) : IsPiece (stem ++ '.' :: x) := by
  obtain ⟨c, y, rfl⟩ := List.exists_cons_of_ne_nil hx
  have hc : c ∈ stem ++ '.' :: c :: y := by simp
  have hne : c ≠ '.' := fun heq => hdot (heq ▸ List.mem_cons_self)
  refine ⟨by simp, ?_, fun heq => ?_, fun heq => ?_⟩
  · rw [List.mem_append, List.mem_cons]
    rintro (hmem | hmem | hmem)
    · exact hstem hmem
    · cases hmem
    · exact hslash hmem
  · rw [heq] at hc
    exact hne (by simpa using hc)
  · rw [heq] at hc
    exact hne (by simpa using hc)

/-- The extension of a file that is named with one. -/
theorem extension?_extended {stem : Text} (hne : stem ≠ []) (hstem : '/' ∉ stem) (hx : x ≠ [])
    (hdot : '.' ∉ x) (hslash : '/' ∉ x) : (p.join (stem ++ '.' :: x)).extension? = some x := by
  rw [extension?_join (isPiece_extended hstem hx hdot hslash), nameExtension?_append hdot,
    if_neg hne]

end Path

/-! ## What an extension of the configuration selects -/

/-- Every file that is named with an extension, in upper or lower case, is
selected. -/
def Selection.SelectsAll (s : Selection) (e : Text) : Prop :=
  ∀ (d : Path) (stem x : Text), stem ≠ [] → '/' ∉ stem →
    Unicode.lowercase x = Unicode.lowercase e → s.selects (d.join (stem ++ '.' :: x)) = true

namespace Config

variable {c : Config} {s : Selection} {e : Text}

theorem extensions_of_ofConfig (h : Selection.ofConfig c = .ok s) :
    s.extensions = c.foldedExtensions := by
  obtain ⟨globs, -, h⟩ := bind_eq_ok_iff.mp h
  obtain rfl := Except.ok.inj h
  rfl

/-- An extension without dots and slashes selects its files. -/
theorem selectsAll_of_plain (hs : Selection.ofConfig c = .ok s) (he : e ∈ c.extensions)
    (hne : e ≠ []) (hdot : '.' ∉ e) (hslash : '/' ∉ e) : s.SelectsAll e := by
  intro d stem x hstem hpiece hlower
  have hx : x ≠ [] := by
    rw [ne_eq, ← Unicode.lowercase_eq_nil_iff, hlower, Unicode.lowercase_eq_nil_iff]
    exact hne
  have hxdot : '.' ∉ x := by
    rwa [Unicode.mem_iff_of_lowercase_eq (by decide) (by decide) hlower]
  have hxslash : '/' ∉ x := by
    rwa [Unicode.mem_iff_of_lowercase_eq (by decide) (by decide) hlower]
  refine Selection.selects_iff.mpr
    ⟨x, Path.extension?_extended hstem hpiece hx hxdot hxslash, ?_⟩
  rw [extensions_of_ofConfig hs, hlower]
  exact List.mem_map_of_mem he

/-- One with a dot or a slash is the extension of no path. -/
theorem lowercase_ne_of_marked {p : Path} {x : Text} (hmark : '.' ∈ e ∨ '/' ∈ e)
    (hx : p.extension? = some x) : Unicode.lowercase x ≠ Unicode.lowercase e := by
  intro hlower
  obtain ⟨hdot, hslash⟩ := Path.not_mem_of_extension? hx
  rcases hmark with h | h
  · exact hdot ((Unicode.mem_iff_of_lowercase_eq (by decide) (by decide) hlower).mpr h)
  · exact hslash ((Unicode.mem_iff_of_lowercase_eq (by decide) (by decide) hlower).mpr h)

/-- **An extension that passes validation selects all files that are named
with it, in any case, if it has no dot and no slash in it**, and if it has
one it is the extension of no path. -/
theorem extension_selects (h : c.validate = .ok ()) :
    ∃ s, Selection.ofConfig c = .ok s ∧ ∀ e ∈ c.extensions,
      ('.' ∉ e ∧ '/' ∉ e → s.SelectsAll e) ∧
      ('.' ∈ e ∨ '/' ∈ e →
        ∀ p x, Path.extension? p = some x → Unicode.lowercase x ≠ Unicode.lowercase e) := by
  have hv := validate_eq_ok_iff.mp h
  obtain ⟨s, hs⟩ := hv.exists_selection
  refine ⟨s, hs, fun e he => ⟨fun hplain => ?_, fun hmark p x => lowercase_ne_of_marked hmark⟩⟩
  exact selectsAll_of_plain hs he (hv.dotless e he).1 hplain.1 hplain.2

/-- The default configuration with a pattern and some extensions. -/
def withExtensions (extensions : List Text) : Config :=
  { Config.default with pattern := "MIT".toList, extensions }

/-- Of two extensions, the one without a dot in it selects files that are
named with it in another case, and the other one is the extension of none. -/
theorem extension_selects_otherCase :
    let c := withExtensions ["Ts".toList, "d.ts".toList]
    c.validate = .ok () ∧ ∃ s, Selection.ofConfig c = .ok s ∧
      s.selects ((Path.ofString "src").join "app.tS".toList) = true ∧
      ∀ p x, Path.extension? p = some x →
        Unicode.lowercase x ≠ Unicode.lowercase "d.ts".toList := by
  intro c
  have hvalid : c.validate = .ok () := by decide +kernel
  obtain ⟨s, hs, hselects⟩ := extension_selects hvalid
  obtain ⟨hall, -⟩ := hselects "Ts".toList (by decide)
  obtain ⟨-, hnone⟩ := hselects "d.ts".toList (by decide)
  exact ⟨hvalid, s, hs, hall (by decide) _ "app".toList "tS".toList (by decide) (by decide)
    Unicode.lowercase_ts, hnone (by decide)⟩

/-- An extension of two parts passes validation, and a file that is named with
it is not selected. -/
theorem not_selects_twoParts :
    let c := withExtensions ["d.ts".toList]
    c.validate = .ok () ∧ "d.ts".toList ∈ c.extensions ∧ ∃ s, Selection.ofConfig c = .ok s ∧
      s.selects ((Path.ofString "src").join ("app".toList ++ '.' :: "d.ts".toList)) = false := by
  intro c
  have hvalid : c.validate = .ok () := by decide +kernel
  obtain ⟨s, hs⟩ := (validate_eq_ok_iff.mp hvalid).exists_selection
  refine ⟨hvalid, List.mem_cons_self, s, hs, ?_⟩
  rw [← Bool.not_eq_true, Selection.selects_iff]
  rintro ⟨x, hx, hmem⟩
  rw [extensions_of_ofConfig hs, foldedExtensions] at hmem
  obtain ⟨e, he, hlower⟩ := List.mem_map.mp hmem
  obtain rfl := List.mem_singleton.mp he
  exact lowercase_ne_of_marked (by decide) hx hlower.symm

end Config

end HeaderCheck
