import ParseTree.Proofs.Outline

/-!
# What holds of every flattened tree

A flattened tree is the layout of an outline (`flatten_toOption`), so what holds of it can be read
off the cells, whatever the tree, the vocabulary and the labels met before.

* **Reading back** — `readBack_flatten`: following the spans from the root on gives the outline
  again, so flattening loses nothing but single-child rules.
* **Well-formedness** — `wellFormed_flatten`: parents, places among siblings and spans agree with
  each other.  `FlatTree.WellFormed` has the facts themselves; that spans do not overlap, that they
  cover all ids but the root's and that no look-up leaves the tree follow from these alone.
-/

namespace ParseTree

/-! ## Reading back -/

namespace FlatTree

/-- The ordered tree below a node, read by following the spans at most `depth` levels down. -/
def readFrom (t : FlatTree) : (depth id : Nat) → Option (Outline Payload)
  | 0, _ => none
  | depth + 1, id => do
    let node ← t.nodes[id]?
    let os ← node.children.keys.mapM (t.readFrom depth)
    return .node node.payload os

/-- The ordered tree that a flattened tree stands for.  No way down from the root is longer than
there are nodes. -/
def readBack (t : FlatTree) : Option (Outline Payload) :=
  t.readFrom t.size t.root

end FlatTree

lemma mapM_of_map_eq {α β : Type} {f : α → Option β} {xs : List α} {ys : List β}
    (h : xs.map f = ys.map some) : xs.mapM f = some ys := by
  induction xs generalizing ys with
  | nil =>
      rw [List.map_nil, eq_comm, List.map_eq_nil_iff] at h
      rw [h]; rfl
  | cons x rest ih =>
      cases ys with
      | nil => simp at h
      | cons y ys =>
          rw [List.map_cons, List.map_cons, List.cons.injEq] at h
          rw [List.mapM_cons, h.1, ih h.2]; rfl

namespace Outline

/-- From the id of a cell, its outline is read. -/
lemma readFrom_flat {o : Outline Payload} {depth id : Nat} {c : Cell Payload}
    (hc : o.cells[id]? = some c) (hdepth : c.outline.size ≤ depth) :
    o.flat.readFrom depth id = some c.outline := by
  induction depth generalizing id c with
  | zero => simp [Outline.size] at hdepth
  | succ depth ih =>
      have hkeys : c.span.keys.map (o.flat.readFrom depth) = c.outline.children.map some := by
        apply Cell.map_keys_span
        intro j child hj
        obtain ⟨next, hnext⟩ := (cells_linked hc).child j child hj
        have hsize := size_lt_of_mem_children (List.mem_of_getElem? hj)
        exact ih hnext (by show child.size ≤ depth; omega)
      have hnode : o.flat.nodes[id]? = some c.node := by rw [getElem?_flat, hc]; rfl
      rw [FlatTree.readFrom, hnode]
      simp only [Cell.node, Option.bind_eq_bind, Option.bind_some, mapM_of_map_eq hkeys,
        Option.pure_def]
      cases c.outline; rfl

/-- Laying an outline out and reading it back gives the outline. -/
lemma readBack_flat (o : Outline Payload) : o.flat.readBack = some o := by
  rw [FlatTree.readBack, size_flat]
  exact readFrom_flat o.getElem?_cells_zero (Nat.le_refl _)

end Outline

/-- **Reading back.**  Flattening succeeds exactly if every rule that stays can be looked up, and
reading the flattened tree back from its root gives what the recursion over the tree gives. -/
theorem readBack_flatten (v : Vocabulary) (base : LineBase) (before : List Tree) (t : Tree) :
    ((Flattener.used v base before).flatten t).1.toOption.map FlatTree.readBack
      = (t.outline v base).map some := by
  rw [flatten_toOption, Option.map_map]
  congr 1
  funext o
  exact o.readBack_flat

/-! ## Well-formedness -/

/-- The parents, places and spans of a flattened tree agree with each other, and no node is one that
flattening would have left out. -/
structure FlatTree.WellFormed (t : FlatTree) : Prop where
  root : t.root = 0 ∧ ∃ node, t.nodes[0]? = some node ∧ node.parent = none ∧ node.index = 0
  /-- Every other node has a parent with a smaller id, in whose span it stands at its place. -/
  parent : ∀ (id : Nat) (node : FlatNode), 0 < id → t.nodes[id]? = some node →
    ∃ p owner, node.parent = some p ∧ p < id ∧ t.nodes[p]? = some owner ∧
      id = owner.children.start + node.index
  /-- Spans do not hold the root and end with the tree at the latest. -/
  span : ∀ (p : Nat) (owner : FlatNode), t.nodes[p]? = some owner →
    owner.children.isEmpty = false → 1 ≤ owner.children.start ∧ owner.children.stop ≤ t.size
  /-- There is one empty span only. -/
  childless : ∀ (p : Nat) (owner : FlatNode), t.nodes[p]? = some owner →
    owner.children.isEmpty = true → owner.children = .empty
  mem_keys_iff : ∀ (p id : Nat) (owner node : FlatNode), t.nodes[p]? = some owner →
    t.nodes[id]? = some node → (id ∈ owner.children.keys ↔ node.parent = some p)
  token : ∀ (id : Nat) (node : FlatNode), t.nodes[id]? = some node →
    node.payload.isToken = true → node.children = .empty
  rule : ∀ (id : Nat) (node : FlatNode), t.nodes[id]? = some node →
    node.payload.isToken = false → node.children.size ≠ 1

/-- Tokens are leaves, and no node has a single child. -/
inductive Outline.Reduced : Outline Payload → Prop
  | node {p : Payload} {os : List (Outline Payload)} (token : p.isToken = true → os = [])
      (length : os.length ≠ 1) (children : ∀ o ∈ os, o.Reduced) : Reduced (.node p os)

namespace Outline.Reduced

variable {o : Outline Payload}

lemma children_of_token (h : o.Reduced) (htoken : o.value.isToken = true) : o.children = [] := by
  cases h with
  | node hleaf _ _ => exact hleaf htoken

lemma length_children_ne_one (h : o.Reduced) : o.children.length ≠ 1 := by
  cases h with
  | node _ hlength _ => exact hlength

lemma of_mem_children (h : o.Reduced) {child : Outline Payload} (hchild : child ∈ o.children) :
    child.Reduced := by
  cases h with
  | node _ _ hchildren => exact hchildren child hchild

/-- In a reduced outline every cell is that of a reduced outline. -/
lemma cell (h : o.Reduced) {id : Nat} {c : Cell Payload} (hc : o.cells[id]? = some c) :
    c.outline.Reduced :=
  cells_induction h (fun _ _ ht hchild => ht.of_mem_children hchild) hc

end Outline.Reduced

section Reduced

variable {v : Vocabulary} {base : LineBase}

/-- A rule that stays becomes a rule. -/
lemma outline_rule_eq_some {label : String} {ts : List Tree} {o : Outline Payload}
    (hts : ts.length ≠ 1) (h : (Tree.rule label ts).outline v base = some o) :
    ∃ rule os, forestOutline v base ts = some os ∧ o = .node (.rule rule) os := by
  rw [outline_rule hts, payload_rule_toOption] at h
  simp only [Option.bind_eq_bind, Option.bind_eq_some_iff, Option.map_eq_some_iff, Option.pure_def,
    Option.some.injEq] at h
  obtain ⟨_, ⟨name, _, kind, _, rfl⟩, os, hos, rfl⟩ := h
  exact ⟨⟨name, kind⟩, os, hos, rfl⟩

/-- If trees side by side are reduced, then so is a rule that stays above them. -/
lemma reduced_outline_rule {label : String} {ts : List Tree} {o : Outline Payload}
    (hts : ts.length ≠ 1) (h : (Tree.rule label ts).outline v base = some o)
    (hforest : ∀ os, forestOutline v base ts = some os →
      os.length = ts.length ∧ ∀ o ∈ os, o.Reduced) : o.Reduced := by
  obtain ⟨rule, os, hos, rfl⟩ := outline_rule_eq_some hts h
  obtain ⟨hlength, hreduced⟩ := hforest os hos
  exact .node (by simp [Payload.isToken]) (by rw [hlength]; exact hts) hreduced

mutual

/-- What a tree is flattened to has no single-child rule. -/
lemma reduced_outline : ∀ {t : Tree} {o : Outline Payload}, t.outline v base = some o → o.Reduced
  | .token t, o, h => by
      rw [Tree.outline, Option.some.injEq] at h
      subst h
      exact .node (fun _ => rfl) (by simp) (by simp)
  | .rule label [only], o, h => by
      rw [Tree.outline] at h
      exact reduced_outline h
  | .rule label [], o, h =>
      reduced_outline_rule (by simp) h fun _ hos => reduced_forestOutline hos
  | .rule label (first :: second :: rest), o, h =>
      reduced_outline_rule (by simp) h fun _ hos => reduced_forestOutline hos

lemma reduced_forestOutline : ∀ {ts : List Tree} {os : List (Outline Payload)},
    forestOutline v base ts = some os → os.length = ts.length ∧ ∀ o ∈ os, o.Reduced
  | [], os, h => by
      rw [forestOutline, Option.some.injEq] at h
      subst h
      exact ⟨rfl, by simp⟩
  | t :: rest, os, h => by
      simp only [forestOutline, Option.bind_eq_bind, Option.bind_eq_some_iff, Option.pure_def,
        Option.some.injEq] at h
      obtain ⟨o, ho, os', hos, rfl⟩ := h
      obtain ⟨hlength, hreduced⟩ := reduced_forestOutline hos
      refine ⟨by simp [hlength], fun o' ho' => ?_⟩
      rcases List.mem_cons.mp ho' with rfl | ho'
      · exact reduced_outline ho
      · exact hreduced o' ho'

end

end Reduced

namespace Outline

variable {o : Outline Payload}

/-- A node of a flattened tree is that of a cell. -/
lemma cell_of_flat {id : Nat} {node : FlatNode} (h : o.flat.nodes[id]? = some node) :
    ∃ c, o.cells[id]? = some c ∧ c.node = node := by
  rwa [getElem?_flat, Option.map_eq_some_iff] at h

lemma flat_of_cell {id : Nat} {c : Cell Payload} (h : o.cells[id]? = some c) :
    o.flat.nodes[id]? = some c.node := by
  rw [getElem?_flat, h]; rfl

/-- The children of a cell stand inside the tree. -/
lemma span_of_cell {p : Nat} {c : Cell Payload} (hc : o.cells[p]? = some c)
    (h : c.span.isEmpty = false) : 1 ≤ c.span.start ∧ c.span.stop ≤ o.flat.size := by
  have hne : c.outline.children ≠ [] := by
    rwa [c.isEmpty_span, List.isEmpty_eq_false_iff] at h
  have hlength : 0 < c.outline.children.length := List.length_pos_iff.mpr hne
  have hlinked := cells_linked hc
  -- the last child has a cell, so its id is one of the tree
  have hlast : c.outline.children.length - 1 < c.outline.children.length := by omega
  obtain ⟨next, hnext⟩ := hlinked.child _ _ (List.getElem?_eq_getElem hlast)
  have hinside := (List.getElem?_eq_some_iff.mp hnext).1
  have hlt := hlinked.lt_first
  rw [length_cells] at hinside
  rw [Cell.span_of_children_ne_nil hne, size_flat]
  exact ⟨by show 1 ≤ c.first; omega, by show c.first + _ ≤ _; omega⟩

/-- An id stands among the children of a cell exactly if its own cell has this parent. -/
lemma mem_keys_span_iff_parent {p id : Nat} {c d : Cell Payload} (hc : o.cells[p]? = some c)
    (hd : o.cells[id]? = some d) : id ∈ c.span.keys ↔ d.parent = some p := by
  rw [Cell.mem_keys_span]
  constructor
  · rintro ⟨j, hj, rfl⟩
    obtain ⟨next, hnext⟩ := (cells_linked hc).child j _ (List.getElem?_eq_getElem hj)
    rw [hd, Option.some.injEq] at hnext
    rw [hnext]
  · intro hparent
    have hid : 0 < id := by
      rcases Nat.eq_zero_or_pos id with rfl | hid
      · rw [getElem?_cells_zero, Option.some.injEq] at hd
        rw [← hd] at hparent
        exact absurd hparent (by simp)
      · exact hid
    obtain ⟨q, owner, hq, howner, hchild, hplace⟩ := cells_owned hd hid
    rw [hparent, Option.some.injEq] at hq
    subst hq
    rw [hc, Option.some.injEq] at howner
    subst howner
    exact ⟨d.index, (List.getElem?_eq_some_iff.mp hchild).1, hplace⟩

/-- The layout of a reduced outline is well-formed. -/
lemma wellFormed_flat (h : o.Reduced) : o.flat.WellFormed where
  root := ⟨rfl, _, flat_of_cell o.getElem?_cells_zero, rfl, rfl⟩
  parent := by
    intro id node hid hnode
    obtain ⟨c, hc, rfl⟩ := cell_of_flat hnode
    obtain ⟨p, owner, hparent, howner, hchild, hplace⟩ := cells_owned hc hid
    have hne : owner.outline.children ≠ [] := List.ne_nil_of_mem (List.mem_of_getElem? hchild)
    have hlt := (cells_linked howner).lt_first
    refine ⟨p, owner.node, hparent, by omega, flat_of_cell howner, ?_⟩
    rw [Cell.node, Cell.span_of_children_ne_nil hne]
    exact hplace
  span := by
    intro p owner howner hspan
    obtain ⟨c, hc, rfl⟩ := cell_of_flat howner
    exact span_of_cell hc hspan
  mem_keys_iff := by
    intro p id owner node howner hnode
    obtain ⟨c, hc, rfl⟩ := cell_of_flat howner
    obtain ⟨d, hd, rfl⟩ := cell_of_flat hnode
    exact mem_keys_span_iff_parent hc hd
  childless := by
    intro p owner howner hempty
    obtain ⟨c, hc, rfl⟩ := cell_of_flat howner
    exact Cell.span_of_isEmpty hempty
  token := by
    intro id node hnode htoken
    obtain ⟨c, hc, rfl⟩ := cell_of_flat hnode
    have hnil := (h.cell hc).children_of_token htoken
    apply Cell.span_of_isEmpty
    rw [c.isEmpty_span, hnil]; rfl
  rule := by
    intro id node hnode _
    obtain ⟨c, hc, rfl⟩ := cell_of_flat hnode
    show c.span.size ≠ 1
    rw [c.size_span]
    exact (h.cell hc).length_children_ne_one

end Outline

namespace FlatTree.WellFormed

variable {t : FlatTree}

/-- What stands in the span of a node is a node of the tree. -/
lemma lt_size (h : t.WellFormed) {p id : Nat} {owner : FlatNode} (howner : t.nodes[p]? = some owner)
    (hid : id ∈ owner.children.keys) : id < t.size := by
  have hmem := Span.mem_keys.mp hid
  have hspan := h.span p owner howner (by simp [Span.isEmpty]; omega)
  omega

lemma exists_node (t : FlatTree) {id : Nat} (hid : id < t.size) :
    ∃ node, t.nodes[id]? = some node :=
  ⟨t.nodes[id], Array.getElem?_eq_getElem hid⟩

/-- Different nodes have no child in common. -/
lemma disjoint (h : t.WellFormed) {p q : Nat} {a b : FlatNode} (ha : t.nodes[p]? = some a)
    (hb : t.nodes[q]? = some b) (hne : p ≠ q) : a.children.keys.Disjoint b.children.keys := by
  intro id hida hidb
  obtain ⟨node, hnode⟩ := exists_node t (h.lt_size ha hida)
  have hp := (h.mem_keys_iff p id a node ha hnode).mp hida
  have hq := (h.mem_keys_iff q id b node hb hnode).mp hidb
  rw [hp, Option.some.injEq] at hq
  exact hne hq

/-- The spans cover all ids but that of the root. -/
lemma covered (h : t.WellFormed) {id : Nat} (hid : id < t.size) :
    0 < id ↔ ∃ (p : Nat) (owner : FlatNode), t.nodes[p]? = some owner ∧
      id ∈ owner.children.keys := by
  obtain ⟨node, hnode⟩ := exists_node t hid
  constructor
  · intro hpos
    obtain ⟨p, owner, hparent, _, howner, _⟩ := h.parent id node hpos hnode
    exact ⟨p, owner, howner, (h.mem_keys_iff p id owner node howner hnode).mpr hparent⟩
  · rintro ⟨p, owner, howner, hmem⟩
    have hparent := (h.mem_keys_iff p id owner node howner hnode).mp hmem
    obtain ⟨_, root, hroot, hnone, _⟩ := h.root
    rcases Nat.eq_zero_or_pos id with rfl | hpos
    · rw [hnode, Option.some.injEq] at hroot
      rw [hroot, hnone] at hparent
      exact absurd hparent (by simp)
    · exact hpos

/-- Looking up a node, its parent and its children stays inside the tree. -/
lemma access (h : t.WellFormed) {id : Nat} (hid : id < t.size) :
    ∃ node kids, t.get id = .ok node ∧ t.parent id = .ok node.parent ∧
      t.children id = .ok kids ∧ node.children.start ≤ node.children.stop ∧
      node.children.stop ≤ t.size ∧ kids.length = node.children.size := by
  obtain ⟨node, hnode⟩ := exists_node t hid
  have hget : t.get id = .ok node := by rw [FlatTree.get, hnode]
  have hbounds : node.children.start ≤ node.children.stop ∧ node.children.stop ≤ t.size := by
    cases hempty : node.children.isEmpty with
    | true => rw [h.childless id node hnode hempty]; exact ⟨Nat.le_refl _, Nat.zero_le _⟩
    | false =>
        have hstop := (h.span id node hnode hempty).2
        simp only [Span.isEmpty, decide_eq_false_iff_not] at hempty
        exact ⟨by omega, hstop⟩
  refine ⟨node, node.children.keys.filterMap (t.nodes[·]?), hget,
    by rw [FlatTree.parent, hget]; rfl,
    by rw [FlatTree.children, hget]; rfl, hbounds.1, hbounds.2, ?_⟩
  rw [List.filterMap_length_eq_length.mpr fun key hkey => ?_, Span.keys, List.length_range']
  obtain ⟨child, hchild⟩ := exists_node t (h.lt_size hnode hkey)
  rw [hchild]; rfl

end FlatTree.WellFormed

/-- **Well-formedness.**  Every flattened tree is well-formed; so its spans are disjoint and cover
all ids but that of the root, and looking up a node, its parent or its children never leaves the
tree. -/
theorem wellFormed_flatten (v : Vocabulary) (base : LineBase) (before : List Tree) (t : Tree)
    (flat : FlatTree) (h : ((Flattener.used v base before).flatten t).1 = .ok flat) :
    flat.WellFormed ∧
    (∀ (p q : Nat) (a b : FlatNode), flat.nodes[p]? = some a → flat.nodes[q]? = some b → p ≠ q →
      a.children.keys.Disjoint b.children.keys) ∧
    (∀ id < flat.size, 0 < id ↔ ∃ (p : Nat) (owner : FlatNode), flat.nodes[p]? = some owner ∧
      id ∈ owner.children.keys) ∧
    ∀ id < flat.size, ∃ node kids, flat.get id = .ok node ∧ flat.parent id = .ok node.parent ∧
      flat.children id = .ok kids ∧ node.children.start ≤ node.children.stop ∧
      node.children.stop ≤ flat.size ∧ kids.length = node.children.size := by
  have hflat := flatten_toOption v base before t
  rw [h] at hflat
  obtain ⟨o, ho, rfl⟩ := Option.map_eq_some_iff.mp hflat.symm
  have hwell : o.flat.WellFormed := Outline.wellFormed_flat (reduced_outline ho)
  exact ⟨hwell, fun p q a b ha hb hne => hwell.disjoint ha hb hne, fun id hid => hwell.covered hid,
    fun id hid => hwell.access hid⟩

/-- A vocabulary that knows pairs only. -/
def pairVocabulary : Vocabulary where
  kindOf := (∅ : Std.HashMap String Kind).insert "PAIR" 101
  declared := #[⟨"PAIR", 101⟩]
  names := firstNames [⟨"PAIR", 101⟩]

/-- A pair below a single-child rule that the vocabulary does not know. -/
def pairTree : Tree :=
  .rule "StartContext" [.rule "PairContext" [.token ⟨1, "a", ⟨1, 0⟩⟩, .token ⟨2, "b", ⟨1, 1⟩⟩]]

lemma outline_pairTree : pairTree.outline pairVocabulary .one
    = some (.node (.rule ⟨"PAIR", 101⟩)
        [.node (.token ⟨1, "a", ⟨1, 0⟩⟩) [], .node (.token ⟨2, "b", ⟨1, 1⟩⟩) []]) := by
  have hname : Label.canonicalName? "PairContext" = some "PAIR" := by decide
  simp [pairTree, Tree.outline, forestOutline, hname, Vocabulary.resolve, pairVocabulary,
    LineBase.adjust, Except.toOption]

/-- A session that has met a malformed label goes on to a pair, which is placed in three nodes. -/
theorem wellFormed_flatten_pairTree :
    ∃ flat, ((Flattener.used pairVocabulary .one [.rule "Pair" []]).flatten pairTree).1 = .ok flat ∧
      flat.size = 3 ∧ flat.WellFormed := by
  have hflat := flatten_toOption pairVocabulary .one [.rule "Pair" []] pairTree
  rw [outline_pairTree, Option.map_some] at hflat
  cases hresult : ((Flattener.used pairVocabulary .one [.rule "Pair" []]).flatten pairTree).1 with
  | error e => simp [hresult, Except.toOption] at hflat
  | ok flat =>
      refine ⟨flat, rfl, ?_, (wellFormed_flatten _ _ _ _ _ hresult).1⟩
      simp only [hresult, Except.toOption, Option.some.injEq] at hflat
      rw [hflat]
      rfl
end ParseTree
