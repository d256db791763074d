/-
# The document of a written mapping

The tokens of a written mapping are read as nodes: a scalar for each text, a
sequence for each list, and one mapping around them all.  A list that is
written line by line has no token of its own, so its items are read behind
the colon of its key, up to the next key (`gives_looseItems`).

Reading is a state monad with fuel.  `Gives` is what it comes to here: the
reader takes some tokens off the front, answers with a value, and has seen no
anchor; it composes by the bind of the monad, so that the proofs below follow
the readers line by line.  A reader that is given one more than twice as much
fuel as there are tokens has enough.

With the tokens of the mapping this gives the round trip: what the printer
writes of entries is read as those entries (`ofText_writeMapping`).
-/
import HeaderCheck.Yaml.Node
import HeaderCheck.Proofs.Yaml.Tokens

namespace HeaderCheck.Yaml

/-! ## What nodes it has -/

/-- The node of a text. -/
def textNode (t : Text) : Node :=
  .scalar none none (styleOf t) t

/-- The node of a value. -/
def valueNode : Value → Node
  | .text t => textNode t
  | .flag b => .scalar none none .plain (if b then "true" else "false").toList
  | .list ts => .sequence none (ts.map textNode)

/-- The nodes of an entry. -/
def entryNodes (e : String × Value) : Node × Node :=
  (.scalar none none .plain e.1.toList, valueNode e.2)

namespace Read

variable {α β : Type} {x : Read α} {f : α → Read β} {y : α} {z : β} {t : Token}
  {ts ts' ts'' : List Token} {fuel : Nat}

/-- Reading takes the tokens up to the second list and answers with a value;
no anchor is defined on the way. -/
def Gives (x : Read α) (ts ts' : List Token) (y : α) : Prop :=
  ∀ anchors handles, x.run ⟨ts, anchors, handles⟩ = .ok (y, ⟨ts', anchors, handles⟩)

theorem Gives.bind (hx : x.Gives ts ts' y) (hf : (f y).Gives ts' ts'' z) :
    Gives (x >>= f) ts ts'' z := by
  intro anchors handles
  rw [StateT.run_bind, hx anchors handles]
  exact hf anchors handles

theorem gives_pure (y : α) (ts : List Token) : Gives (pure y) ts ts y :=
  fun _ _ => rfl

theorem gives_peek (ts : List Token) : peek.Gives ts ts ts.head? :=
  fun _ _ => rfl

theorem gives_advance (t : Token) (ts : List Token) : advance.Gives (t :: ts) ts () :=
  fun _ _ => rfl

theorem gives_accept (t : Token) (ts : List Token) : (accept t).Gives (t :: ts) ts true := by
  refine (gives_peek _).bind ?_
  rw [List.head?_cons, if_pos rfl]
  exact (gives_advance t ts).bind (gives_pure true ts)

theorem gives_accept_other (h : ts.head? ≠ some t) : (accept t).Gives ts ts false := by
  refine (gives_peek _).bind ?_
  rw [if_neg h]
  exact gives_pure false ts

theorem gives_ahead (xs : List Token) (t : Token) (ts : List Token) :
    (ahead xs).Gives (t :: ts) (t :: ts) (xs.contains t) :=
  (gives_peek _).bind (gives_pure _ _)

/-- No anchor or tag comes next. -/
def isBare : Token → Bool
  | .anchor _ => false
  | .tag _ _ => false
  | _ => true

theorem gives_properties (h : isBare t = true) :
    properties.Gives (t :: ts) (t :: ts) { anchor := none, tag := none } := by
  have hanchor : anchor?.Gives (t :: ts) (t :: ts) none := by
    refine (gives_peek _).bind ?_
    cases t <;> first | exact gives_pure none _ | cases h
  have htag : tag?.Gives (t :: ts) (t :: ts) none := by
    refine (gives_peek _).bind ?_
    cases t <;> first | exact gives_pure none _ | cases h
  exact hanchor.bind (htag.bind ((gives_pure none _).bind ((gives_pure none _).bind
    (gives_pure _ _))))

theorem gives_number (tag : Option Text) (ts : List Token) :
    (number { anchor := none, tag }).Gives ts ts none :=
  gives_pure none ts

theorem gives_node_scalar (fuel : Nat) (inFlow loose : Bool) (style : ScalarStyle) (value : Text)
    (ts : List Token) :
    (node (fuel + 1) inFlow loose).Gives (.scalar style value :: ts) ts
      (.scalar none none style value) := by
  rw [node]
  refine (gives_peek _).bind ?_
  refine (gives_properties rfl).bind ?_
  refine (gives_peek _).bind ?_
  exact (gives_advance _ _).bind ((gives_number none ts).bind (gives_pure _ ts))

theorem gives_node_brackets (fuel : Nat) (inFlow loose : Bool) (ts : List Token) :
    (node (fuel + 2) inFlow loose).Gives (.flowSequence :: .flowSequenceEnd :: ts) ts
      (.sequence none []) := by
  have hitems : (flowItems (fuel + 1) true).Gives (.flowSequenceEnd :: ts) ts [] := by
    rw [flowItems]
    exact (gives_accept _ ts).bind (gives_pure [] ts)
  rw [node]
  refine (gives_peek _).bind ?_
  refine (gives_properties rfl).bind ?_
  refine (gives_peek _).bind ?_
  exact (gives_number none _).bind ((gives_advance _ _).bind (hitems.bind (gives_pure _ ts)))

theorem gives_node_items {xs : List Node} (h : (looseItems fuel).Gives (.entry :: ts) ts' xs) :
    (node (fuel + 1) false true).Gives (.entry :: ts) ts' (.sequence none xs) := by
  rw [node]
  refine (gives_peek _).bind ?_
  refine (gives_properties rfl).bind ?_
  refine (gives_peek _).bind ?_
  exact (gives_number none _).bind (h.bind (gives_pure _ ts'))

theorem gives_node_mapping {es : List (Node × Node)} (h : (blockEntries fuel).Gives ts ts' es) :
    (node (fuel + 1) false false).Gives (.blockMapping :: ts) ts' (.mapping none es) := by
  rw [node]
  refine (gives_peek _).bind ?_
  refine (gives_properties rfl).bind ?_
  refine (gives_peek _).bind ?_
  exact (gives_number none _).bind ((gives_advance _ _).bind (h.bind (gives_pure _ ts')))

theorem gives_nodeUnless {xs : List Token} {inFlow loose : Bool} {n : Node}
    (ht : xs.contains t = false) (h : (node fuel inFlow loose).Gives (t :: ts) ts' n) :
    (nodeUnless (fuel + 1) xs inFlow loose).Gives (t :: ts) ts' n := by
  rw [nodeUnless]
  refine (gives_ahead xs t ts).bind ?_
  rw [ht]
  exact h

/-! ## The values of keys -/

theorem length_le_itemTokens (items : List Text) :
    2 * items.length ≤ (items.flatMap itemTokens).length := by
  induction items with
  | nil => exact Nat.le_refl 0
  | cons t items ih =>
      rw [List.flatMap_cons, List.length_append, List.length_cons]
      have hlen : (itemTokens t).length = 2 := rfl
      omega

theorem gives_looseItems (fuel : Nat) (items : List Text) (hts : ts.head? ≠ some .entry)
    (hfuel : items.length + 2 ≤ fuel) :
    (looseItems fuel).Gives (items.flatMap itemTokens ++ ts) ts (items.map textNode) := by
  induction items generalizing fuel with
  | nil =>
      obtain ⟨fuel, rfl⟩ : ∃ n, fuel = n + 1 := ⟨fuel - 1, by omega⟩
      rw [looseItems]
      exact (gives_accept_other hts).bind (gives_pure [] ts)
  | cons t items ih =>
      simp only [List.length_cons] at hfuel
      obtain ⟨fuel, rfl⟩ : ∃ n, fuel = n + 3 := ⟨fuel - 3, by omega⟩
      have hitem : (nodeUnless (fuel + 2) [.entry, .key, .value, .blockEnd] false false).Gives
          (textToken t :: (items.flatMap itemTokens ++ ts)) (items.flatMap itemTokens ++ ts)
          (textNode t) :=
        gives_nodeUnless (by simp [textToken]) (gives_node_scalar fuel false false _ t _)
      rw [looseItems, List.flatMap_cons, List.map_cons]
      exact (gives_accept _ _).bind (hitem.bind ((ih _ (by omega)).bind (gives_pure _ ts)))

theorem gives_value (fuel : Nat) (v : Value) (hts : ts.head? ≠ some .entry)
    (hfuel : (valueTokens v).length + 3 ≤ fuel) :
    (nodeUnless fuel [.key, .value, .blockEnd] false true).Gives (valueTokens v ++ ts) ts
      (valueNode v) := by
  obtain ⟨fuel, rfl⟩ : ∃ n, fuel = n + 3 := ⟨fuel - 3, by omega⟩
  cases v with
  | text t =>
      exact gives_nodeUnless (by simp [textToken]) (gives_node_scalar (fuel + 1) false true _ t ts)
  | flag b => exact gives_nodeUnless (by simp) (gives_node_scalar (fuel + 1) false true _ _ ts)
  | list items =>
      cases items with
      | nil => exact gives_nodeUnless (by decide) (gives_node_brackets fuel false true ts)
      | cons t items =>
          have hlen := length_le_itemTokens (t :: items)
          have hpos : 0 < (t :: items).length := Nat.succ_pos _
          have hfuel' : ((t :: items).flatMap itemTokens).length + 3 ≤ fuel + 3 := hfuel
          exact gives_nodeUnless (by decide)
            (gives_node_items (gives_looseItems (fuel + 1) (t :: items) hts (by omega)))

/-! ## The mapping -/

theorem head?_entryTokens (es : List (String × Value)) :
    (es.flatMap entryTokens ++ [Token.blockEnd]).head? ≠ some .entry := by
  cases es with
  | nil => simp
  | cons e es => simp [entryTokens]

theorem gives_entries (fuel : Nat) (es : List (String × Value))
    (hfuel : (es.flatMap entryTokens).length + 4 ≤ fuel) :
    (blockEntries fuel).Gives (es.flatMap entryTokens ++ [.blockEnd]) [] (es.map entryNodes) := by
  induction es generalizing fuel with
  | nil =>
      obtain ⟨fuel, rfl⟩ : ∃ n, fuel = n + 1 := ⟨fuel - 1, by omega⟩
      rw [blockEntries]
      exact (gives_accept_other (by simp)).bind ((gives_accept _ []).bind (gives_pure [] []))
  | cons e es ih =>
      obtain ⟨fuel, rfl⟩ : ∃ n, fuel = n + 3 := ⟨fuel - 3, by omega⟩
      have hlen : (entryTokens e).length = (valueTokens e.2).length + 3 := rfl
      rw [List.flatMap_cons, List.length_append, hlen] at hfuel
      have hkey : (nodeUnless (fuel + 2) [.key, .value, .blockEnd] false true).Gives
          (.scalar .plain e.1.toList :: (.value :: valueTokens e.2 ++
            (es.flatMap entryTokens ++ [.blockEnd])))
          (.value :: valueTokens e.2 ++ (es.flatMap entryTokens ++ [.blockEnd]))
          (.scalar none none .plain e.1.toList) :=
        gives_nodeUnless (by simp) (gives_node_scalar fuel false true _ _ _)
      have hvalue := gives_value (fuel + 2) e.2 (head?_entryTokens es) (by omega)
      have hrest := ih (fuel + 2) (by omega)
      have htokens : (e :: es).flatMap entryTokens ++ [.blockEnd] =
          .key :: .scalar .plain e.1.toList :: (.value :: valueTokens e.2 ++
            (es.flatMap entryTokens ++ [.blockEnd])) := by
        simp [entryTokens]
      rw [blockEntries, htokens, List.map_cons]
      exact (gives_accept _ _).bind (hkey.bind ((gives_accept _ _).bind (hvalue.bind
        (hrest.bind (gives_pure _ [])))))

theorem gives_root {es : List (String × Value)}
    (hfuel : (es.flatMap entryTokens).length + 5 ≤ fuel) :
    (root fuel).Gives (.blockMapping :: es.flatMap entryTokens ++ [.blockEnd]) []
      (some (.mapping none (es.map entryNodes))) := by
  obtain ⟨fuel, rfl⟩ : ∃ n, fuel = n + 1 := ⟨fuel - 1, by omega⟩
  have hentries := gives_entries fuel es (by omega)
  rw [root]
  refine (gives_peek _).bind ?_
  refine (gives_peek _).bind ?_
  exact (gives_node_mapping hentries).bind (gives_pure _ [])

end Read

theorem ofTokens_eq {ts : List Token} {n : Node} (hts : ∀ fuel, 4 * ts.length + 4 = fuel →
    (Read.root fuel).Gives ts [] (some n)) :
    Document.ofTokens ts = .ok { root := some n, anchors := .empty } := by
  have hends : (Read.skipEnds (4 * ts.length + 4)).Gives [] [] () :=
    (Read.gives_accept_other (by simp)).bind (Read.gives_pure () [])
  simp only [Document.ofTokens, hts _ rfl .empty Read.standardHandles,
    hends .empty Read.standardHandles, bind, Except.bind]
  rfl

/-- **A written mapping is read back**: the document holds the entries that
were written, each with its key and its value. -/
theorem ofText_writeMapping {e : String × Value} {es : List (String × Value)}
    (hkeys : ∀ e' ∈ e :: es, Layout.IsKey e'.1.toList) :
    Document.ofText (writeMapping (e :: es)) =
      .ok { root := some (.mapping none ((e :: es).map entryNodes)), anchors := .empty } := by
  rw [Document.ofText, tokens_writeMapping hkeys]
  refine ofTokens_eq fun fuel hfuel => Read.gives_root ?_
  simp only [List.length_cons, List.length_append] at hfuel ⊢
  omega

end HeaderCheck.Yaml
