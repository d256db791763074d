/-
# Upper and lower case

Two maps between characters: the lower-case form of a letter, and the
simple case folding, under which letters that differ only in case agree.
Both are kept as runs of letters at a common distance from their images —
next to each other, or every second one where the cases alternate.

`lowercase` maps a whole text, since two letters depend on more than
themselves: the dotted capital I becomes two characters, and a capital
sigma at the end of a word takes its final form.
-/
import HeaderCheck.Text.Basic
import HeaderCheck.Unicode.Binary

namespace HeaderCheck.Unicode

/-- A run of `count` code points, `stride` apart from `first` on, whose
images lie `distance` below or above them. -/
structure CaseRun where
  first : Nat
  count : Nat
  stride : Nat
  below : Bool
  distance : Nat
deriving DecidableEq, Repr

namespace CaseRun

/-- The runs that a list of numbers writes: five numbers each, the first
of them counted from the run before. -/
def ofNumbers : (previous : Nat) → List Nat → List CaseRun
  | p, k :: n :: s :: b :: d :: t =>
      { first := p + k, count := n, stride := s, below := b = 1, distance := d } ::
        ofNumbers (p + k) t
  | _, _ => []

/-- Is a code point in the run? -/
def covers (r : CaseRun) (n : Nat) : Bool :=
  r.first ≤ n && (n - r.first) % r.stride = 0 && (n - r.first) / r.stride < r.count

/-- The image of a code point of the run. -/
def image (r : CaseRun) (n : Nat) : Nat :=
  if r.below then n - r.distance else n + r.distance

/-- The code point of the run with a given image. -/
def preimage? (r : CaseRun) (n : Nat) : Option Nat :=
  let m := if r.below then n + r.distance else n - r.distance
  if r.covers m && r.image m = n then some m else none

end CaseRun

/-- The lower-case forms. -/
def lowerRuns : List CaseRun := CaseRun.ofNumbers 0 (table
  "CnBabaBgExxbaBgyhbaBgBoycabBydcabhicabrxcabBubbbErbdcabibbaIcbccabebbaHybb
  babccbaHxcbbabdbbaDbbbbaHubbbaHvbbbabcbbaHxbbbaHzcbbaIdbbbaIbbbbabebbaIdbb
  baIfcbbaIgbdcabgbbaIkbbbabcbbaIkdbbabcbbaIkbbbabccbaIjcccabebbaIlbbbabebba
  bibbacbbbabcbbacbbbabcbbacbjcabtjcabtbbacbccabebbbDtbbbbCebucabBobbbFacjca
  bybbaPZfbbbabcbbbGhbbbaPZcdbbabcbbbHnbbbaCrbbbaCtbfcabLmccabgbbabjbbaEmhbb
  aBmcdbaBlebbaCmccbaCldrbaBgsjbaBgBsbbaijmcabBcbbbCidbbabcbbbhbbbabddbbFadq
  baDcqBgbaBgDcrcabBqBbcabCcbbapbhcabpBwcabDtBmbaBwEIpBmbaKTkBnbbaKTkgbbaKTk
  BBvDcbaCFMuDcgbaiDGyBrbbELsBtdbbELsMlCxcabGcbbbLGxcBwcabEaibbiqgbbiqibbiqi
  bbiqgbbirecbipibbiBgibbiqibbiqibbiqcbbiccbbCwcbbbjmebbDiebbbjmcbbiccbbDwoc
  bbiccbbEicbbbhmcbbEyccbbEwcbbbjLmbbbLDdebbbMKlbbbbMFuhbbaBcBuqbaqBjbbabBFn
  BabaBaCTuBwbaBwDsbbabcbbbPXfbbbbFQsbbbbPWpddcabgbbbPYqbbbbPXlbbbbPYtbbbbPY
  scbbabdbbabjcbbPZzcBycabEdccabhbbabBTYkxcabCmocabGghcabqBfcabCtccabebbbCAG
  ybfcabnbbabcbbbCKOedccabgkcabubbbCKPgbbbbCKPrbbbbCKPnbbbbCKPdbbbbCKPgcbbbC
  KNibbbbCKOgbbbbCKNlbbbaBJsbicabqbbbBwbbbbCKPfbbbbCAIybccabjbbabgccabBfbbab
  BHAiBabaBgBVzBobaBoGuBkbaBoHklbaBnmpbaBnqhbaBnicbaBnCQeBzbaCmEPkBgbaBgBGLc
  BgbaBgBUMqBibaBi")

/-- The simple case foldings. -/
def foldRuns : List CaseRun := CaseRun.ofNumbers 0 (table
  "CnBabaBgEmbbaBDvlxbaBgyhbaBgBoycabBydcabhicabrxcabBubbbErbdcabgbbbKicbbaIc
  bccabebbaHybbbabccbaHxcbbabdbbaDbbbbaHubbbaHvbbbabcbbaHxbbbaHzcbbaIdbbbaIb
  bbbabebbaIdbbbaIfcbbaIgbdcabgbbaIkbbbabcbbaIkdbbabcbbaIkbbbabccbaIjcccabeb
  baIlbbbabebbabibbacbbbabcbbacbbbabcbbacbjcabtjcabtbbacbccabebbbDtbbbbCebuc
  abBobbbFacjcabybbaPZfbbbabcbbbGhbbbaPZcdbbabcbbbHnbbbaCrbbbaCtbfcabJvbbaEm
  BrccabgbbabjbbaEmhbbaBmcdbaBlebbaCmccbaCldrbaBgsjbaBgBfbbabnbbaibbbbBebbbb
  zebbbpbbbbwcmcabybbbCcbbbbBwdbbbCibbbbCmcbbabcbbbhbbbabddbbFadqbaDcqBgbaBg
  DcrcabBqBbcabCcbbapbhcabpBwcabDtBmbaBwEIpBmbaKTkBnbbaKTkgbbaKTkBFfgbbiDGab
  bbJFibbbbJFhbbbbJEybcbbJEwcbbbJExbbbbJEqbbbbJDsbbbaCAEliBrbbELsBtdbbELsMlC
  xcabFzbbbCgdbbbLGxcBwcabEaibbiqgbbiqibbiqibbiqgbbirecbipibbiBgibbiqibbiqib
  biqcbbiccbbCwcbbbjcbbbKPxkebbDiebbbjhbbbKShfcbbiccbbDwjbbbKRrfcbbiccbbEicb
  bbhmcbbEyccbbEwcbbbjLmbbbLDdebbbMKlbbbbMFuhbbaBcBuqbaqBjbbabBFnBabaBaCTuBw
  baBwDsbbabcbbbPXfbbbbFQsbbbbPWpddcabgbbbPYqbbbbPXlbbbbPYtbbbbPYscbbabdbbab
  jcbbPZzcBycabEdccabhbbabBTYkxcabCmocabGghcabqBfcabCtccabebbbCAGybfcabnbbab
  cbbbCKOedccabgkcabubbbCKPgbbbbCKPrbbbbCKPnbbbbCKPdbbbbCKPgcbbbCKNibbbbCKOg
  bbbbCKNlbbbaBJsbicabqbbbBwbbbbCKPfbbbbCAIybccabebbbCKQpbbbabebbabgdcabgbbb
  CKYzzbbabBIhDcbbCFMuBEDpbbabBOmBabaBgBVzBobaBoGuBkbaBoHklbaBnmpbaBnqhbaBni
  cbaBnCQeBzbaCmIawbaBgEHkBgbaBgBGLcBgbaBgBUMqBibaBi")

/-- The image of a character under a map of runs. -/
def mapCase (runs : List CaseRun) (c : Char) : Char :=
  match runs.find? (·.covers c.toNat) with
  | some r => Char.ofNat (r.image c.toNat)
  | none => c

/-- The simple case folding of a character. -/
def foldCase (c : Char) : Char :=
  mapCase foldRuns c

/-- The characters that differ from a given one in case only, that one
included. -/
def caseOrbit (c : Char) : List Char :=
  let f := foldCase c
  c :: f :: (foldRuns.filterMap (·.preimage? f.toNat)).map Char.ofNat

/-! ## Whole texts -/

/-- Does a cased letter come first, after characters that case ignores? -/
def casedFirst (t : Text) : Bool :=
  match t.find? (!BinaryProperty.caseIgnorable.holds ·) with
  | some c => BinaryProperty.cased.holds c
  | none => false

/-- The lower-case form of a capital sigma between what comes before it,
nearest first, and what comes after. -/
def lowerSigma (before after : Text) : Char :=
  if casedFirst before && !casedFirst after then '\u03C2' else '\u03C3'

/-- The lower-case form of a text, when `before` precedes it, nearest
first. -/
def lowercaseAfter (before : Text) : Text → Text
  | [] => []
  | c :: t =>
      let image :=
        if c = '\u0130' then ['i', '\u0307']
        else if c = '\u03A3' then [lowerSigma before t]
        else [mapCase lowerRuns c]
      image ++ lowercaseAfter (c :: before) t

/-- The lower-case form of a text. -/
def lowercase (t : Text) : Text :=
  lowercaseAfter [] t

end HeaderCheck.Unicode
