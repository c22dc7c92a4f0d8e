import ParseTree.Proofs.Flattened
import ParseTree.Proofs.Preorder

/-!
# Where nodes start

The start of a node is the position of the first token that it covers.  Leaves have theirs at once;
the others get it from their children in a sweep over the ids, which have no regard for the order of
tokens.  What the sweep comes to is `Outline.start`, by recursion over the outline.

* **First tokens** — `start_eq_head_tokens`: by this recursion a node starts where the first of its
  tokens stands.  Nodes that cover no token are passed over, however deep they are; it matters that
  tokens are leaves.
* **Parts of the tree** — `outlines_kept`: in preorder, the nodes of a flattened tree stand for the
  nodes of the tree that stay, one for one.
* **The whole** — `start_flatten`.
-/

namespace ParseTree

/-- The tokens of an ordered tree from left to right. -/
def Outline.tokens (o : Outline Payload) : List Token := o.values.filterMap Payload.token?

/-! ## First tokens -/

lemma Payload.ownStart_eq (p : Payload) : p.ownStart = p.token?.map Token.position := by
  cases p <;> rfl

/-- Of trees side by side without single-child rules, the first start is that of the first token. -/
lemma forestStart_eq_head {os : List (Outline Payload)} (h : ∀ o ∈ os, o.Reduced) :
    forestStart os
      = (((forestPreorder os).map Outline.value).filterMap Payload.token?).head?.map
        Token.position := by
  induction os using forest_induction with
  | nil => rfl
  | cons p kids rest ihkids ihrest =>
      rw [List.forall_mem_cons] at h
      obtain ⟨hnode, hrest⟩ := h
      rw [forestStart, ihrest hrest, forestPreorder, Outline.preorder, List.cons_append,
        List.map_cons, List.map_append]
      cases kids with
      | nil =>
          rw [Outline.start, p.ownStart_eq]
          cases htoken : p.token? <;> simp [forestPreorder, htoken]
      | cons first more =>
          -- A node with children is no token, so its own payload adds nothing.
          have hrule : p.token? = none := by
            cases p with
            | token token => exact absurd (hnode.children_of_token rfl) (by simp)
            | rule r => rfl
          have hkids := ihkids fun o ho => hnode.of_mem_children ho
          rw [Outline.start_of_children_ne_nil (by simp), Outline.children_node,
            ← forestStart_eq_findSome?, hkids]
          simp [hrule, List.head?_append, Option.map_or]

namespace Outline

variable {o : Outline Payload}

/-- **First tokens.**  A node starts where the first of its tokens stands. -/
theorem start_eq_head_tokens (h : o.Reduced) : o.start = o.tokens.head?.map Token.position := by
  have hforest : forestStart [o] = _ := forestStart_eq_head (by simpa using h)
  simpa [forestStart, forestPreorder, tokens, values] using hforest

end Outline

/-! ## Parts of the tree -/

section Parts

variable {α β : Type} {g : α → Option β}

/-- Where a tree can be looked up, so can every part of it, and in preorder the parts are those of
the result. -/
lemma preorder_of_traverseForest {os : List (Outline α)} {os' : List (Outline β)}
    (h : traverseForest g os = some os') :
    (forestPreorder os).map (Outline.traverse g) = (forestPreorder os').map some := by
  induction os using forest_induction generalizing os' with
  | nil =>
      rw [traverseForest, Option.some.injEq] at h
      subst h; rfl
  | cons a kids rest ihkids ihrest =>
      simp only [traverseForest, Outline.traverse, Option.bind_eq_bind, Option.bind_eq_some_iff,
        Option.pure_def, Option.some.injEq] at h
      obtain ⟨_, ⟨b, hb, kids', hkids, rfl⟩, rest', hrest, rfl⟩ := h
      simp [forestPreorder, Outline.preorder, Outline.traverse, hb, hkids, ihkids hkids,
        ihrest hrest]

variable {v : Vocabulary} {base : LineBase} {t : Tree} {o : Outline Payload}

/-- **Parts of the tree.**  What becomes of the nodes of a tree that stay are the parts of its
outline, in the same order. -/
theorem Tree.outlines_kept (h : t.outline v base = some o) :
    t.kept.map (Tree.outline v base) = o.preorder.map some := by
  have hforest :
      traverseForest (fun s : Symbol => (s.payload v base).toOption) [t.skeleton] = some [o] := by
    rw [Tree.outline_eq_traverse] at h
    simp [traverseForest, h]
  have hpreorder := preorder_of_traverseForest hforest
  simp only [forestPreorder, List.append_nil, t.preorder_skeleton, List.map_map] at hpreorder
  rw [← hpreorder]
  exact List.map_congr_left fun s _ => s.outline_eq_traverse

/-- A part of a tree starts where its first token stands, in the chosen count of lines. -/
lemma Tree.start_outline (h : t.outline v base = some o) :
    o.start = t.tokens.head?.map fun token => base.adjust token.position := by
  have htokens : o.tokens = t.tokens.map (Token.adjust base) := Tree.tokens_outline h
  rw [Outline.start_eq_head_tokens (reduced_outline h), htokens, List.head?_map, Option.map_map]
  rfl

end Parts

namespace Outline

variable {o : Outline Payload} {id : Nat} {c : Cell Payload}

/-- What is below a node is no larger than the whole. -/
lemma size_cell_le (h : o.cells[id]? = some c) : c.outline.size ≤ o.size :=
  cells_induction (P := fun part => part.size ≤ o.size) (Nat.le_refl _)
    (fun _ _ hle hchild => Nat.le_trans (Nat.le_of_lt (size_lt_of_mem_children hchild)) hle) h

/-- In preorder, every cell has its place, and there stands what is below it. -/
lemma exists_place (h : o.cells[id]? = some c) :
    ∃ k : Nat, o.flat.preorder[k]? = some id ∧ o.preorder[k]? = some c.outline := by
  obtain ⟨k, hk⟩ := List.getElem?_of_mem (mem_walk h)
  refine ⟨k, ?_, ?_⟩
  · rw [preorder_flat, List.getElem?_map, hk]; rfl
  · rw [← outlines_walk, List.getElem?_map, hk]; rfl

end Outline

/-! ## The whole -/

lemma FlatTree.getElem?_of_get {t : FlatTree} {id : Nat} {node : FlatNode}
    (h : t.get id = .ok node) :
    t.nodes[id]? = some node := by
  rw [FlatTree.get] at h
  split at h
  · next hfound =>
      cases h
      exact hfound
  · cases h

/-- **The whole.**  Every node of a flattened tree stands for a part of the tree, which has the same
place among the nodes that stay as the node has in preorder.  The tokens below the node are those of
this part, with lines in the chosen count; the node starts where the first of them stands, and has
no start exactly if there is none. -/
theorem start_flatten (v : Vocabulary) (base : LineBase) (before : List Tree) (t : Tree)
    (flat : FlatTree) (h : ((Flattener.used v base before).flatten t).1 = .ok flat) :
    ∀ (id : Nat) (node : FlatNode), flat.get id = .ok node →
      ∃ (k : Nat) (part : Tree) (o : Outline Payload),
      flat.preorder[k]? = some id ∧ t.kept[k]? = some part ∧
      flat.readFrom flat.size id = some o ∧ part.outline v base = some o ∧
      o.tokens = part.tokens.map (Token.adjust base) ∧
      node.start = part.tokens.head?.map (fun token => base.adjust token.position) ∧
      (node.start = none ↔ part.tokens = []) := by
  obtain ⟨o, ho, rfl⟩ := flatten_eq_ok_iff.mp h
  intro id node hnode
  obtain ⟨c, hc, rfl⟩ := Outline.cell_of_flat (FlatTree.getElem?_of_get hnode)
  obtain ⟨k, hid, hplace⟩ := Outline.exists_place hc
  have hkept := congrArg (·[k]?) (Tree.outlines_kept ho)
  simp only [List.getElem?_map, hplace, Option.map_some, Option.map_eq_some_iff] at hkept
  obtain ⟨part, hpart, houtline⟩ := hkept
  have hread := Outline.readFrom_flat hc (Outline.size_cell_le hc)
  rw [← o.size_flat] at hread
  have hstart : c.node.start = _ := Tree.start_outline houtline
  refine ⟨k, part, c.outline, hid, hpart, hread, houtline, Tree.tokens_outline houtline, hstart, ?_⟩
  rw [hstart, Option.map_eq_none_iff, List.head?_eq_none_iff]

/-- A list whose first token stands deep in the second of two pairs; the first one holds rules that
matched nothing. -/
def lateTree : Tree :=
  .rule "ListContext"
    [.rule "PairContext" [.rule "EmptyContext" [], .rule "EmptyContext" []],
      .rule "PairContext" [.rule "EmptyContext" [], .rule "Wrap" [.token ⟨1, "x", ⟨3, 7⟩⟩]]]

lemma outline_lateTree : lateTree.outline listVocabulary .zero
    = some (.node (.rule ⟨"LIST", 100⟩)
        [.node (.rule ⟨"PAIR", 101⟩)
            [.node (.rule ⟨"EMPTY", 102⟩) [], .node (.rule ⟨"EMPTY", 102⟩) []],
          .node (.rule ⟨"PAIR", 101⟩)
            [.node (.rule ⟨"EMPTY", 102⟩) [], .node (.token ⟨1, "x", ⟨2, 7⟩⟩) []]]) := by
  have hlist : Label.canonicalName? "ListContext" = some "LIST" := by decide
  have hpair : Label.canonicalName? "PairContext" = some "PAIR" := by decide
  have hempty : Label.canonicalName? "EmptyContext" = some "EMPTY" := by decide
  have hline : LineBase.zero.adjust ⟨3, 7⟩ = ⟨2, 7⟩ := by decide
  simp [lateTree, Tree.outline, forestOutline, hlist, hpair, hempty, hline, Vocabulary.resolve,
    listVocabulary, Std.HashMap.getElem_insert, Except.toOption]

/-- The list starts at the token in its second pair, and the first pair starts nowhere, as the part
of the tree that it stands for has no token. -/
theorem start_flatten_lateTree : ∃ (flat : FlatTree) (list pair : FlatNode),
    ((Flattener.used listVocabulary .zero []).flatten lateTree).1 = .ok flat ∧
    flat.get 0 = .ok list ∧ list.start = some ⟨2, 7⟩ ∧ flat.get 1 = .ok pair ∧ pair.start = none ∧
    ∃ part ∈ lateTree.kept, flat.readFrom 7 1 = part.outline listVocabulary .zero ∧
      part.tokens = [] := by
  have hflat : ((Flattener.used listVocabulary .zero []).flatten lateTree).1 = .ok _ :=
    flatten_eq_ok_iff.mpr ⟨_, outline_lateTree, rfl⟩
  obtain ⟨k, part, o, -, hkept, hread, hpart, -, -, hnone⟩ := start_flatten _ _ _ _ _ hflat 1 _ rfl
  exact ⟨_, _, _, hflat, rfl, rfl, rfl, rfl, part, List.mem_of_getElem? hkept,
    hread.trans hpart.symm, hnone.mp rfl⟩

end ParseTree
