/-
# The cache of patterns is a memo

A session asks a cache for one pattern after the other.  Its answers are
those of compiling without a cache, faults included, and beside them the
cache tells which answers are one object: those to the same source.

What every cache of a session satisfies is `Coherent`: no source is in it
twice, and each pattern in it is the one that its source compiles to.  One
call takes one of three ways (`compile_cases`), and the invariant and all
else that is said of a session follow from those.  Objects are told apart by
their places, so it also matters that a place once taken keeps its pattern;
the patterns before a call are the first ones behind it (`prefix_session`).
-/
import Mathlib.Data.List.Dedup
import Mathlib.Data.List.Nodup
import HeaderCheck.Config

namespace HeaderCheck

namespace Pattern.Cache

variable {c : Cache} {s : Text} {ss : List Text} {p : Pattern} {n : Nat}

/-- The sources in a cache. -/
def sources (c : Cache) : List Text :=
  c.entries.map (·.source)

/-- No source is there twice, and each pattern is the one of its source. -/
structure Coherent (c : Cache) : Prop where
  once : c.sources.Nodup
  compiled : ∀ p ∈ c.entries, Pattern.compile p.source = .ok p

theorem coherent_empty : Coherent empty :=
  ⟨List.nodup_nil, fun _ h => absurd h List.not_mem_nil⟩

/-! ## One call -/

theorem locate?_eq_some {ps : List Pattern} (h : locate? s ps = some (n, p)) :
    ps[n]? = some p ∧ p.source = s := by
  induction ps generalizing n with
  | nil => cases h
  | cons q ps ih =>
      rw [locate?] at h
      split at h
      next hq =>
        obtain ⟨rfl, rfl⟩ := Prod.mk.inj (Option.some.inj h)
        exact ⟨rfl, hq⟩
      next =>
        obtain ⟨⟨m, r⟩, hr, heq⟩ := Option.map_eq_some_iff.mp h
        obtain ⟨rfl, rfl⟩ := Prod.mk.inj heq
        exact ih hr

theorem locate?_eq_none {ps : List Pattern} (h : locate? s ps = none) :
    s ∉ ps.map (·.source) := by
  induction ps with
  | nil => exact List.not_mem_nil
  | cons q ps ih =>
      rw [locate?] at h
      split at h
      next => cases h
      next hq =>
        rw [List.map_cons, List.mem_cons, not_or]
        exact ⟨Ne.symm hq, ih (Option.map_eq_none_iff.mp h)⟩

/-- A call finds its source, or compiles it and keeps the pattern, or fails
to compile it and leaves the cache as it is. -/
theorem compile_cases (c : Cache) (s : Text) :
    (∃ n p, c.entries[n]? = some p ∧ p.source = s ∧ c.compile s = (.ok (n, p), c)) ∨
      (s ∉ c.sources ∧ ∃ p, Pattern.compile s = .ok p ∧
        c.compile s = (.ok (c.size, p), ⟨c.entries ++ [p]⟩)) ∨
      (s ∉ c.sources ∧ ∃ f, Pattern.compile s = .error f ∧ c.compile s = (.error f, c)) := by
  cases hl : locate? s c.entries with
  | some found =>
      obtain ⟨n, p⟩ := found
      obtain ⟨hn, hp⟩ := locate?_eq_some hl
      exact Or.inl ⟨n, p, hn, hp, by rw [compile, hl]⟩
  | none =>
      refine Or.inr ?_
      have hs := locate?_eq_none hl
      cases hc : Pattern.compile s with
      | ok p => exact Or.inl ⟨hs, p, rfl, by simp only [compile, hl, hc]⟩
      | error f => exact Or.inr ⟨hs, f, rfl, by simp only [compile, hl, hc]⟩

namespace Coherent

/-- The answer of a call is that of compiling, its place aside. -/
theorem answer (h : c.Coherent) (s : Text) :
    (c.compile s).1.map Prod.snd = Pattern.compile s := by
  rcases c.compile_cases s with ⟨n, p, hn, rfl, hrun⟩ | ⟨-, p, hp, hrun⟩ | ⟨-, f, hf, hrun⟩
  · rw [hrun, h.compiled p (List.mem_of_getElem? hn)]
    rfl
  · rw [hrun, hp]
    rfl
  · rw [hrun, hf]
    rfl

/-- What a call answers with is in the cache behind it, at the place that it
tells. -/
theorem entry (h : c.Coherent) (ha : (c.compile s).1 = .ok (n, p)) :
    (c.compile s).2.entries[n]? = some p ∧ p.source = s := by
  have hs : Pattern.compile s = .ok p := by
    rw [← h.answer s, ha]
    rfl
  refine ⟨?_, Pattern.source_of_compile hs⟩
  rcases c.compile_cases s with ⟨m, q, hm, -, hrun⟩ | ⟨-, q, -, hrun⟩ | ⟨-, f, -, hrun⟩
  · rw [hrun] at ha ⊢
    obtain ⟨rfl, rfl⟩ := Prod.mk.inj (Except.ok.inj ha)
    exact hm
  · rw [hrun] at ha ⊢
    obtain ⟨rfl, rfl⟩ := Prod.mk.inj (Except.ok.inj ha)
    exact List.getElem?_concat_length
  · rw [hrun] at ha
    cases ha

theorem step (h : c.Coherent) (s : Text) : (c.compile s).2.Coherent := by
  rcases c.compile_cases s with ⟨n, p, -, -, hrun⟩ | ⟨hs, p, hp, hrun⟩ | ⟨-, f, -, hrun⟩
  · rw [hrun]
    exact h
  · rw [hrun]
    have hsource := Pattern.source_of_compile hp
    constructor
    · have honce := h.once.concat hs
      rw [List.concat_eq_append, ← hsource] at honce
      rw [sources, List.map_append, List.map_singleton]
      exact honce
    · intro q hq
      rcases List.mem_append.mp hq with hq | hq
      · exact h.compiled q hq
      · rw [List.mem_singleton.mp hq, hsource, hp]
  · rw [hrun]
    exact h

end Coherent

/-- Does a source compile? -/
def compiles (s : Text) : Bool :=
  (Pattern.compile s).isOk

/-- A call puts its source into the cache, if that compiles. -/
theorem mem_sources_compile {x : Text} :
    x ∈ (c.compile s).2.sources ↔ x ∈ c.sources ∨ (x = s ∧ compiles s = true) := by
  rcases c.compile_cases s with ⟨n, p, hn, rfl, hrun⟩ | ⟨-, p, hp, hrun⟩ | ⟨-, f, hf, hrun⟩
  · have hmem : p.source ∈ c.sources := List.mem_map_of_mem (List.mem_of_getElem? hn)
    rw [hrun]
    refine ⟨Or.inl, ?_⟩
    rintro (hx | ⟨rfl, -⟩)
    · exact hx
    · exact hmem
  · have hok : compiles s = true := by rw [compiles, hp]; rfl
    rw [hrun, sources, sources, List.map_append, List.map_singleton, source_of_compile hp]
    simp [hok]
  · have hno : compiles s = false := by rw [compiles, hf]; rfl
    rw [hrun]
    simp [hno]

/-- A place that is taken keeps its pattern. -/
theorem prefix_compile (c : Cache) (s : Text) : c.entries <+: (c.compile s).2.entries := by
  rcases c.compile_cases s with ⟨n, p, -, -, hrun⟩ | ⟨-, p, -, hrun⟩ | ⟨-, f, -, hrun⟩
  · exact ⟨[], by rw [hrun, List.append_nil]⟩
  · exact ⟨[p], by rw [hrun]⟩
  · exact ⟨[], by rw [hrun, List.append_nil]⟩

/-! ## A session -/

/-- Calls one after the other: their answers, and the cache behind them. -/
def session (c : Cache) : List Text → List (Except Regex.Fault (Nat × Pattern)) × Cache
  | [] => ([], c)
  | s :: ss =>
      let (answer, c) := c.compile s
      let (answers, c) := session c ss
      (answer :: answers, c)

theorem session_cons (c : Cache) (s : Text) (ss : List Text) :
    c.session (s :: ss) =
      ((c.compile s).1 :: ((c.compile s).2.session ss).1, ((c.compile s).2.session ss).2) :=
  rfl

theorem prefix_session (c : Cache) (ss : List Text) : c.entries <+: (c.session ss).2.entries := by
  induction ss generalizing c with
  | nil => exact List.prefix_rfl
  | cons s ss ih => exact (c.prefix_compile s).trans (ih _)

theorem mem_sources_session {x : Text} :
    x ∈ (c.session ss).2.sources ↔ x ∈ c.sources ∨ (x ∈ ss ∧ compiles x = true) := by
  induction ss generalizing c with
  | nil => simp [session]
  | cons s ss ih =>
      rw [session_cons, ih, mem_sources_compile, List.mem_cons]
      constructor
      · rintro ((hx | ⟨rfl, hok⟩) | ⟨hx, hok⟩)
        · exact Or.inl hx
        · exact Or.inr ⟨Or.inl rfl, hok⟩
        · exact Or.inr ⟨Or.inr hx, hok⟩
      · rintro (hx | ⟨rfl | hx, hok⟩)
        · exact Or.inl (Or.inl hx)
        · exact Or.inl (Or.inr ⟨rfl, hok⟩)
        · exact Or.inr ⟨hx, hok⟩

namespace Coherent

theorem session (h : c.Coherent) (ss : List Text) : (c.session ss).2.Coherent := by
  induction ss generalizing c with
  | nil => exact h
  | cons s ss ih => exact ih (h.step s)

theorem answers (h : c.Coherent) (ss : List Text) :
    (c.session ss).1.map (Except.map Prod.snd) = ss.map Pattern.compile := by
  induction ss generalizing c with
  | nil => rfl
  | cons s ss ih => rw [session_cons, List.map_cons, List.map_cons, h.answer s, ih (h.step s)]

/-- Every answer of a session is in the cache behind it, at the place that
it tells. -/
theorem entries (h : c.Coherent) {i : Nat} (hs : ss[i]? = some s)
    (ha : (c.session ss).1[i]? = some (.ok (n, p))) :
    (c.session ss).2.entries[n]? = some p ∧ p.source = s := by
  induction ss generalizing c i with
  | nil => cases hs
  | cons x ss ih =>
      rw [session_cons] at ha ⊢
      cases i with
      | zero =>
          obtain rfl : x = s := Option.some.inj hs
          obtain ⟨hn, hp⟩ := h.entry (Option.some.inj ha)
          obtain ⟨later, hlater⟩ := prefix_session (c.compile x).2 ss
          rw [← hlater, List.getElem?_append_left (List.getElem?_eq_some_iff.mp hn).1]
          exact ⟨hn, hp⟩
      | succ i => exact ih (h.step x) hs ha

/-- One place is one source. -/
theorem place_eq_iff (h : c.Coherent) {m : Nat} {q : Pattern} (hp : c.entries[m]? = some p)
    (hq : c.entries[n]? = some q) : m = n ↔ p.source = q.source := by
  constructor
  · rintro rfl
    rw [Option.some.inj (hp.symm.trans hq)]
  · intro hs
    have hm : c.sources[m]? = some p.source := by rw [sources, List.getElem?_map, hp]; rfl
    have hn : c.sources[n]? = some q.source := by rw [sources, List.getElem?_map, hq]; rfl
    rw [hs] at hm
    exact (List.getElem?_inj (List.getElem?_eq_some_iff.mp hm).1 h.once).mp (hm.trans hn.symm)

/-- A cache with the distinct members of a list as its sources is as long as
that has distinct members. -/
theorem size_eq (h : c.Coherent) (hmem : ∀ x, x ∈ c.sources ↔ x ∈ ss) :
    c.size = ss.dedup.length := by
  have hperm : c.sources.Perm ss.dedup :=
    (List.perm_ext_iff_of_nodup h.once ss.nodup_dedup).mpr fun x => by rw [hmem, List.mem_dedup]
  rw [size, ← hperm.length_eq, sources, List.length_map]

/-- A call that fails leaves the cache as it is. -/
theorem compile_error {f : Regex.Fault} (h : c.Coherent) (hs : Pattern.compile s = .error f) :
    c.compile s = (.error f, c) := by
  rcases c.compile_cases s with ⟨n, p, hn, rfl, -⟩ | ⟨-, p, hp, -⟩ | ⟨-, g, hg, hrun⟩
  · cases hs.symm.trans (h.compiled p (List.mem_of_getElem? hn))
  · cases hs.symm.trans hp
  · cases hs.symm.trans hg
    exact hrun

/-- A rule whose pattern comes from a cache is the one compiled on its
own. -/
theorem rule_eq (h : c.Coherent) (o : Config) :
    (o.rule c).1 = (Rule.compile o.pattern o.template).map (·.withBlankLine o.blankLine) := by
  have ha := h.answer o.pattern
  cases hrun : (c.compile o.pattern).1 with
  | ok x =>
      rw [hrun] at ha
      simp only [Config.rule, hrun, Rule.compile, Config.compilePattern, ← ha]
      rfl
  | error f =>
      rw [hrun] at ha
      simp only [Config.rule, hrun, Rule.compile, Config.compilePattern, ← ha]
      rfl

end Coherent

/-- **A session cannot be told from compiling each pattern anew, but that
equal sources are answered with one object.**  The objects are told apart by
their places in the cache; it holds as many as distinct sources that compile
were asked for, and a call that fails does not change it.  So a rule made
with the cache behind a session is the one made without it. -/
theorem session_transparent (requests : List Text) :
    let answers := (empty.session requests).1
    let cache := (empty.session requests).2
    answers.map (Except.map Prod.snd) = requests.map Pattern.compile ∧
      (∀ (i : Nat) (s : Text) (n : Nat) (p : Pattern), requests[i]? = some s →
        answers[i]? = some (.ok (n, p)) → p.source = s ∧ cache.entries[n]? = some p) ∧
      (∀ (i j : Nat) (s t : Text) (m n : Nat) (p q : Pattern),
        requests[i]? = some s → requests[j]? = some t →
        answers[i]? = some (.ok (m, p)) → answers[j]? = some (.ok (n, q)) → (m = n ↔ s = t)) ∧
      cache.size = (requests.filter compiles).dedup.length ∧
      (∀ s f, Pattern.compile s = .error f → cache.compile s = (.error f, cache)) ∧
      ∀ o : Config, (o.rule cache).1 =
        (Rule.compile o.pattern o.template).map (·.withBlankLine o.blankLine) := by
  intro answers cache
  have h : cache.Coherent := coherent_empty.session requests
  refine ⟨coherent_empty.answers requests, ?_, ?_, ?_, fun s f => h.compile_error, h.rule_eq⟩
  · intro i s n p hs ha
    exact (coherent_empty.entries hs ha).symm
  · intro i j s t m n p q hs ht hi hj
    obtain ⟨hm, rfl⟩ := coherent_empty.entries hs hi
    obtain ⟨hn, rfl⟩ := coherent_empty.entries ht hj
    exact h.place_eq_iff hm hn
  · refine h.size_eq fun x => ?_
    rw [mem_sources_session, List.mem_filter]
    simp [sources, empty]

/-- A pattern is asked for twice, with another one and one that does not
compile between. -/
example :
    let run := empty.session ["a".toList, "(".toList, "b".toList, "a".toList]
    run.1.map (Except.toOption ∘ Except.map Prod.fst) = [some 0, none, some 1, some 0] ∧
      run.2.size = 2 := by
  cbv

end Pattern.Cache

end HeaderCheck
