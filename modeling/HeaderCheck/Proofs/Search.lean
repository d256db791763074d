/-
# Searching a part of a text

A search looks beyond its match with tests only.  Some tests are anchors:
they ask for an end of the text or of a line.  The others ask for words, and
to them an end of the text is like a character that belongs to no word.

So an expression without anchors that matches some part of a text still does
when more text stands around it, as long as no word runs over the seams
(`search_between`).  The matcher keeps the list of the expressions that may
still match, and what stands around a text only adds to this list: that is
why the run lemma, `searchFrom_append`, compares two lists.
-/
import HeaderCheck.Regex.Expr

namespace HeaderCheck.Regex

/-! ## Anchors -/

/-- Does a test ask for an end of the text or of a line? -/
def Test.isAnchor : Test → Bool
  | textStart | textEnd | lineStart | lineEnd | lineStartAnyBreak | lineEndAnyBreak => true
  | wordEdge _ | noWordEdge _ | wordStart _ | wordEnd _ | noWordBefore _ | noWordAfter _ => false

/-- Is there no anchor in the expression? -/
def Expr.unanchored : Expr → Bool
  | empty => true
  | char _ => true
  | test t => !t.isAnchor
  | seq r s => r.unanchored && s.unanchored
  | alt r s => r.unanchored && s.unanchored
  | rep r _ _ => r.unanchored

/-! ## Places that only an anchor tells apart -/

/-- Two sides of a place are the same to the tests for words. -/
def SameSide (a b : Option Char) : Prop :=
  ∀ unicode, wordAt unicode a = wordAt unicode b

/-- Two places are the same on both of their sides. -/
structure Place.Alike (p q : Place) : Prop where
  before : SameSide p.before q.before
  after : SameSide p.after q.after

theorem SameSide.refl (a : Option Char) : SameSide a a :=
  fun _ => rfl

variable {p q : Place} {c : Char} {r s start : Expr} {live more : List Expr}

theorem Test.succeeds_alike {t : Test} (ht : t.isAnchor = false) (h : p.Alike q) :
    t.succeeds p = t.succeeds q := by
  cases t with
  | wordEdge u | noWordEdge u | wordStart u | wordEnd u | noWordBefore u | noWordAfter u =>
      simp only [succeeds, h.before u, h.after u]
  | _ => cases ht

namespace Expr

theorem accepts_alike (hr : r.unanchored = true) (h : p.Alike q) : r.accepts p = r.accepts q := by
  induction r with
  | empty | char => rfl
  | test t => exact Test.succeeds_alike (by simpa [unanchored] using hr) h
  | seq r s ihr ihs | alt r s ihr ihs =>
      obtain ⟨hr, hs⟩ := Bool.and_eq_true_iff.mp hr
      simp only [accepts, ihr hr, ihs hs]
  | rep r least most ih => simp only [accepts, ih hr]

theorem residuals_alike (hr : r.unanchored = true) (h : p.Alike q) :
    r.residuals p c = r.residuals q c := by
  induction r with
  | empty | char | test => rfl
  | seq r s ihr ihs =>
      obtain ⟨hr, hs⟩ := Bool.and_eq_true_iff.mp hr
      simp only [residuals, accepts_alike hr h, ihr hr, ihs hs]
  | alt r s ihr ihs =>
      obtain ⟨hr, hs⟩ := Bool.and_eq_true_iff.mp hr
      simp only [residuals, ihr hr, ihs hs]
  | rep r least most ih =>
      have hr : r.unanchored = true := hr
      simp only [residuals, accepts_alike hr h, ih hr]

theorem unanchored_andThen (hr : r.unanchored = true) (hs : s.unanchored = true) :
    (r.andThen s).unanchored = true := by
  cases r with
  | empty => exact hs
  | _ => exact Bool.and_eq_true_iff.mpr ⟨hr, hs⟩

theorem unanchored_of_mem_residuals (hr : r.unanchored = true) (hmem : s ∈ r.residuals p c) :
    s.unanchored = true := by
  induction r generalizing s with
  | empty | test => cases hmem
  | char set =>
      rw [residuals] at hmem
      split at hmem
      · obtain rfl := List.mem_singleton.mp hmem
        rfl
      · cases hmem
  | seq r r' ih ih' =>
      obtain ⟨hr, hr'⟩ := Bool.and_eq_true_iff.mp hr
      have hfirst : ∀ x ∈ (r.residuals p c).map (·.andThen r'), x.unanchored = true :=
        List.forall_mem_map.mpr fun x hx => unanchored_andThen (ih hr hx) hr'
      rw [residuals] at hmem
      split at hmem
      · rcases List.mem_append.mp hmem with hmem | hmem
        · exact hfirst s hmem
        · exact ih' hr' hmem
      · exact hfirst s hmem
  | alt r r' ih ih' =>
      obtain ⟨hr, hr'⟩ := Bool.and_eq_true_iff.mp hr
      rcases List.mem_append.mp hmem with hmem | hmem
      · exact ih hr hmem
      · exact ih' hr' hmem
  | rep r least most ih =>
      rw [residuals] at hmem
      split at hmem
      · cases hmem
      · obtain ⟨x, hx, rfl⟩ := List.mem_map.mp hmem
        exact unanchored_andThen (ih hr hx) hr

/-! ## The run over a text -/

theorem mem_foldl_distinct {rs seen : List Expr} :
    r ∈ rs.foldl (fun seen r => if seen.contains r then seen else r :: seen) seen ↔
      r ∈ seen ∨ r ∈ rs := by
  induction rs generalizing seen with
  | nil => simp
  | cons x rs ih =>
      rw [List.foldl_cons, ih, List.mem_cons]
      by_cases hx : x ∈ seen
      · rw [if_pos (List.contains_iff_mem.mpr hx)]
        grind
      · rw [if_neg fun hc => hx (List.contains_iff_mem.mp hc)]
        grind

theorem mem_distinct {rs : List Expr} : r ∈ distinct rs ↔ r ∈ rs := by
  rw [distinct, mem_foldl_distinct]
  simp

/-- The expressions that may match from a place on, after a character. -/
def after (start : Expr) (live : List Expr) (p : Place) (c : Char) : List Expr :=
  distinct ((start :: live).flatMap (·.residuals p c))

theorem mem_after : s ∈ after start live p c ↔ ∃ r ∈ start :: live, s ∈ r.residuals p c := by
  rw [after, mem_distinct, List.mem_flatMap]

variable {a b : Option Char} {t x y : Text}

theorem searchFrom_of_after
    (h : start.searchFrom (some c) (after start live ⟨b, some c⟩ c) t = true) :
    start.searchFrom b live (c :: t) = true :=
  Bool.or_eq_true_iff.mpr (Or.inr h)

theorem alike_append (hb : SameSide a b) (hy : SameSide none y.head?) (t : Text) :
    Place.Alike ⟨a, t.head?⟩ ⟨b, (t ++ y).head?⟩ where
  before := hb
  after := by
    cases t with
    | nil => exact hy
    | cons c t => exact .refl _

theorem after_subset (hall : ∀ r ∈ start :: live, r.unanchored = true) (hsub : live ⊆ more)
    (h : p.Alike q) : after start live p c ⊆ after start more q c := by
  intro s hs
  obtain ⟨r, hr, hs⟩ := mem_after.mp hs
  rw [residuals_alike (hall r hr) h] at hs
  exact mem_after.mpr ⟨r, List.cons_subset_cons start hsub hr, hs⟩

theorem unanchored_of_mem_after (hall : ∀ r ∈ start :: live, r.unanchored = true)
    (hs : s ∈ after start live p c) : s.unanchored = true := by
  obtain ⟨r, hr, hs⟩ := mem_after.mp hs
  exact unanchored_of_mem_residuals (hall r hr) hs

/-- A match that ends at a place also ends at one that is alike. -/
theorem searchFrom_of_accepts {u : Text} (hall : ∀ r ∈ start :: live, r.unanchored = true)
    (hsub : live ⊆ more) (hplace : Place.Alike ⟨a, t.head?⟩ ⟨b, u.head?⟩)
    (h : (start :: live).any (·.accepts ⟨a, t.head?⟩) = true) :
    start.searchFrom b more u = true := by
  obtain ⟨r, hr, hacc⟩ := List.any_eq_true.mp h
  rw [accepts_alike (hall r hr) hplace] at hacc
  have hany : (start :: more).any (·.accepts ⟨b, u.head?⟩) = true :=
    List.any_eq_true.mpr ⟨r, List.cons_subset_cons start hsub hr, hacc⟩
  cases u with
  | nil => exact hany
  | cons c u => exact Bool.or_eq_true_iff.mpr (Or.inl hany)

/-- What is found from a place on is also found with more expressions that
may match, and when the text goes on and no word does. -/
theorem searchFrom_append (hall : ∀ r ∈ start :: live, r.unanchored = true) (hsub : live ⊆ more)
    (hb : SameSide a b) (hy : SameSide none y.head?) (h : start.searchFrom a live t = true) :
    start.searchFrom b more (t ++ y) = true := by
  -- a step leaves both lists longer and the two sides equal, so all of them vary
  induction t generalizing a b live more with
  | nil => exact searchFrom_of_accepts hall hsub (alike_append hb hy []) h
  | cons c t ih =>
      have hplace := alike_append hb hy (c :: t)
      rcases Bool.or_eq_true_iff.mp h with hany | hrest
      · exact searchFrom_of_accepts hall hsub hplace hany
      · have hmore : ∀ r ∈ start :: after start live ⟨a, some c⟩ c, r.unanchored = true :=
          List.forall_mem_cons.mpr
            ⟨hall start List.mem_cons_self, fun s hs => unanchored_of_mem_after hall hs⟩
        exact searchFrom_of_after (ih hmore (after_subset hall hsub hplace) (.refl _) hrest)

/-- What is found in a text from any state of the run is found behind a text
that ends in no word. -/
theorem searchFrom_prepend (hx : SameSide none (x.getLast?.or b))
    (h : ∀ a live, SameSide none a → start.searchFrom a live t = true) :
    start.searchFrom b live (x ++ t) = true := by
  induction x generalizing b live with
  | nil => exact h b live hx
  | cons c x ih =>
      refine searchFrom_of_after (ih ?_)
      rw [List.getLast?_cons] at hx
      cases hl : x.getLast? with
      | none => rwa [hl] at hx
      | some d => rwa [hl] at hx

/-- **An expression without anchors that matches in a text matches wherever
the text stands between others**, unless a word runs over a seam. -/
theorem search_between (hr : r.unanchored = true) (hx : SameSide none x.getLast?)
    (hy : SameSide none y.head?) (h : r.search t = true) : r.search (x ++ (t ++ y)) = true := by
  have hall : ∀ s ∈ [r], s.unanchored = true := List.forall_mem_singleton.mpr hr
  refine searchFrom_prepend (by rwa [Option.or_none]) fun a live ha => ?_
  exact searchFrom_append hall (List.nil_subset live) ha hy h

end Expr

end HeaderCheck.Regex
