import ParseTree.Flat.Preorder
import ParseTree.Proofs.Events
import ParseTree.Proofs.Outline

/-!
# Preorder

A node before its children, and the children from left to right: `Outline.preorder` and
`Tree.subtrees` say so by recursion.  The ids of a layout follow another order, so a walk over a
flattened tree jumps.

* **Kept nodes** — `preorder_skeleton`: what is left of a tree without its single-child rules are
  the nodes that do not have exactly one child, in the order in which they stand in the tree.
* **Walking** — `Outline.walk` lists the cells of a layout in preorder, each with its id.
  `walkPreorder_forestWalk`: with siblings pending, the walk over the nodes lists them with all that
  is below them, and then goes on with the levels above.
* **Tokens** — `tokens_flatten`: a walk over a flattened tree meets the tokens of the tree from left
  to right.

The lemmas are inductions over trees side by side (`forest_induction`): what is below the first
tree, and the trees after it.
-/

namespace ParseTree

variable {α β : Type}

/-! ## Induction over trees side by side -/

/-- What holds of no tree, and of trees side by side if it holds of those below the first one and of
those after it, holds of all trees side by side. -/
@[elab_as_elim]
theorem forest_induction {P : List (Outline α) → Prop} (nil : P [])
    (cons : ∀ a kids rest, P kids → P rest → P (.node a kids :: rest)) : ∀ os, P os
  | [] => nil
  | .node a kids :: rest =>
      cons a kids rest (forest_induction nil cons kids) (forest_induction nil cons rest)

/-! ## Trees in preorder -/

mutual

/-- An ordered tree and all trees below it, in preorder. -/
def Outline.preorder : Outline α → List (Outline α)
  | .node a children => .node a children :: forestPreorder children

def forestPreorder : List (Outline α) → List (Outline α)
  | [] => []
  | o :: rest => o.preorder ++ forestPreorder rest

end

/-- The values of an ordered tree in preorder. -/
def Outline.values (o : Outline α) : List α := o.preorder.map Outline.value

mutual

/-- A parse tree and all trees below it, in preorder. -/
def Tree.subtrees : Tree → List Tree
  | .token t => [.token t]
  | .rule label children => .rule label children :: forestSubtrees children

def forestSubtrees : List Tree → List Tree
  | [] => []
  | t :: rest => t.subtrees ++ forestSubtrees rest

end

mutual

/-- The tokens of a parse tree from left to right. -/
def Tree.tokens : Tree → List Token
  | .token t => [t]
  | .rule _ children => forestTokens children

def forestTokens : List Tree → List Token
  | [] => []
  | t :: rest => t.tokens ++ forestTokens rest

end

/-- The nodes of parse trees side by side that stay when single-child rules are left out. -/
def forestKept (ts : List Tree) : List Tree :=
  (forestSubtrees ts).filter fun s => s.children.length != 1

def Tree.kept (t : Tree) : List Tree := t.subtrees.filter fun s => s.children.length != 1

lemma forestKept_singleton (t : Tree) : forestKept [t] = t.kept := by
  simp [forestKept, Tree.kept, forestSubtrees]

lemma Tree.mem_kept {s t : Tree} : s ∈ t.kept ↔ s ∈ t.subtrees ∧ s.children.length ≠ 1 := by
  simp [Tree.kept]

lemma forestKept_token_cons (t : Token) (rest : List Tree) :
    forestKept (.token t :: rest) = .token t :: forestKept rest := rfl

lemma forestKept_single_cons (label : String) (only : Tree) (rest : List Tree) :
    forestKept (.rule label [only] :: rest) = forestKept [only] ++ forestKept rest := by
  simp [forestKept, forestSubtrees, Tree.subtrees, Tree.children]

lemma forestKept_rule_cons {label : String} {kids : List Tree} (h : kids.length ≠ 1)
    (rest : List Tree) :
    forestKept (.rule label kids :: rest)
      = .rule label kids :: (forestKept kids ++ forestKept rest) := by
  simp [forestKept, forestSubtrees, Tree.subtrees, Tree.children, h]

lemma forestSize_singleton (o : Outline α) : forestSize [o] = o.size := by
  rw [forestSize, forestSize, Outline.size]

lemma forestSize_node_cons (a : α) (kids rest : List (Outline α)) :
    forestSize (.node a kids :: rest) = forestSize rest + forestSize kids + 1 := by
  rw [forestSize, Outline.sizeBelow]; omega

lemma length_forestPreorder (os : List (Outline α)) :
    (forestPreorder os).length = forestSize os := by
  induction os using forest_induction with
  | nil => rfl
  | cons a kids rest ihkids ihrest =>
      simp only [forestPreorder, Outline.preorder, forestSize, Outline.sizeBelow,
        List.length_append, List.length_cons, ihkids, ihrest]

lemma Outline.length_preorder (o : Outline α) : o.preorder.length = o.size := by
  have h := length_forestPreorder [o]
  rw [forestSize_singleton] at h
  simpa [forestPreorder] using h

lemma Outline.length_values (o : Outline α) : o.values.length = o.size := by
  rw [Outline.values, List.length_map, o.length_preorder]

lemma forestPreorder_skeleton (ts : List Tree) :
    forestPreorder (ts.map Tree.skeleton) = (forestKept ts).map Tree.skeleton := by
  induction ts using Tree.forest_induction with
  | nil => rfl
  | token t rest ih =>
      rw [forestKept_token_cons, List.map_cons, List.map_cons, forestPreorder, ih]
      rfl
  | rule label kids rest ihkids ihrest =>
      rw [List.map_cons, forestPreorder, ihrest]
      by_cases hkids : kids.length = 1
      · obtain ⟨only, rfl⟩ := List.length_eq_one_iff.mp hkids
        rw [forestKept_single_cons, List.map_append, ← ihkids]
        simp [Tree.skeleton, forestPreorder]
      · have hskeleton := Tree.skeleton_eq_node (t := .rule label kids) hkids
        rw [forestKept_rule_cons hkids, List.map_cons, hskeleton, Outline.preorder, List.map_append,
          ← ihkids]
        rfl

/-- **Kept nodes.**  What is left of a tree are the nodes that stay, in the order of the tree. -/
theorem Tree.preorder_skeleton (t : Tree) : t.skeleton.preorder = t.kept.map Tree.skeleton := by
  have h := forestPreorder_skeleton [t]
  rw [forestKept_singleton] at h
  simpa [forestPreorder] using h

lemma mem_forestPreorder {o : Outline α} {os : List (Outline α)} (h : o ∈ os) :
    o ∈ forestPreorder os := by
  induction os with
  | nil => simp at h
  | cons o' rest ih =>
      rw [forestPreorder, List.mem_append]
      rcases List.mem_cons.mp h with rfl | hrest
      · left
        cases o
        simp [Outline.preorder]
      · exact Or.inr (ih hrest)

lemma mem_forestPreorder_of_mem_children {o child : Outline α} {os : List (Outline α)}
    (h : o ∈ forestPreorder os) (hchild : child ∈ o.children) : child ∈ forestPreorder os := by
  induction os using forest_induction with
  | nil => simp [forestPreorder] at h
  | cons a kids rest ihkids ihrest =>
      simp only [forestPreorder, Outline.preorder, List.cons_append, List.mem_cons,
        List.mem_append] at h ⊢
      rcases h with rfl | h | h
      · exact Or.inr (Or.inl (mem_forestPreorder hchild))
      · exact Or.inr (Or.inl (ihkids h))
      · exact Or.inr (Or.inr (ihrest h))

/-! ## Walking over a layout -/

mutual

/-- The cells of what is below a node with this `id`, which is laid out from `first` on: in
preorder, each cell with its id. -/
def Outline.walkBelow : Outline α → (id first : Nat) → List (Nat × Cell α)
  | .node _ children, id, first => forestWalk children (some id) 0 first (first + children.length)

/-- The same for trees side by side, which have the ids from `id` on, together with their own
cells. -/
def forestWalk : List (Outline α) → (parent : Option Nat) → (index id first : Nat) →
    List (Nat × Cell α)
  | [], _, _, _, _ => []
  | o :: rest, parent, index, id, first =>
    (id, ⟨o, parent, index, first⟩) ::
      (o.walkBelow id first ++ forestWalk rest parent (index + 1) (id + 1) (first + o.sizeBelow))

end

/-- The cells of a tree in preorder, each with its id. -/
def Outline.walk (o : Outline α) : List (Nat × Cell α) := forestWalk [o] none 0 0 1

lemma outlines_forestWalk (os : List (Outline α)) (parent : Option Nat) (index id first : Nat) :
    (forestWalk os parent index id first).map (·.2.outline) = forestPreorder os := by
  induction os using forest_induction generalizing parent index id first with
  | nil => rfl
  | cons a kids rest ihkids ihrest =>
      simp [forestWalk, Outline.walkBelow, forestPreorder, Outline.preorder, ihkids, ihrest]

lemma Outline.outlines_walk (o : Outline α) : o.walk.map (·.2.outline) = o.preorder := by
  simp [Outline.walk, outlines_forestWalk, forestPreorder]

/-- Where the cells of trees side by side stand, a walk finds them. -/
lemma stands_forestWalk (cells : List (Cell α)) (os : List (Outline α))
    (parent index id first : Nat) (hblock : Stands cells id (block parent index first os))
    (hforest : Stands cells first (forestCells os id first)) :
    ∀ e ∈ forestWalk os (some parent) index id first, cells[e.1]? = some e.2 := by
  induction os using forest_induction generalizing parent index id first with
  | nil => simp [forestWalk]
  | cons a kids rest ihkids ihrest =>
      rw [block] at hblock
      rw [forestCells] at hforest
      obtain ⟨hhead, htail⟩ := each_cons.mp hblock
      obtain ⟨hkids, hrest⟩ := each_append.mp hforest
      rw [Outline.length_cellsBelow] at hrest
      obtain ⟨hkids, hbelow⟩ := each_append.mp hkids
      rw [length_block] at hbelow
      intro e he
      rw [forestWalk, Outline.walkBelow, List.mem_cons, List.mem_append] at he
      rcases he with rfl | he | he
      · exact hhead
      · exact ihkids _ _ _ _ hkids hbelow e he
      · exact ihrest _ _ _ _ htail hrest e he

lemma Outline.getElem?_of_mem_walk {o : Outline α} {e : Nat × Cell α} (he : e ∈ o.walk) :
    o.cells[e.1]? = some e.2 := by
  have hstands : Stands o.cells 0 o.cells := fun k c hc => by rw [Nat.zero_add]; exact hc
  cases o with
  | node a os =>
      rw [Outline.walk, forestWalk, Outline.walkBelow, List.mem_cons] at he
      rcases he with rfl | he
      · rfl
      · obtain ⟨hblock, hforest⟩ := each_append.mp (each_cons.mp hstands).2
        rw [length_block] at hforest
        refine stands_forestWalk _ os 0 0 1 (1 + os.length) hblock hforest e ?_
        simpa [forestWalk] using he

/-- A walk finds all cells of trees side by side, and all that is below them. -/
lemma each_mem_forestWalk (os : List (Outline α)) (parent index id first : Nat) :
    Each (fun i c => (i, c) ∈ forestWalk os (some parent) index id first) id
        (block parent index first os) ∧
      Each (fun i c => (i, c) ∈ forestWalk os (some parent) index id first) first
        (forestCells os id first) := by
  induction os using forest_induction generalizing parent index id first with
  | nil => exact ⟨each_nil _ _, each_nil _ _⟩
  | cons a kids rest ihkids ihrest =>
      obtain ⟨hkids, hbelow⟩ := ihkids id 0 first (first + kids.length)
      obtain ⟨hrest, hafter⟩ :=
        ihrest parent (index + 1) (id + 1) (first + (Outline.node a kids).sizeBelow)
      have hleft : ∀ e ∈ forestWalk kids (some id) 0 first (first + kids.length),
          e ∈ forestWalk (.node a kids :: rest) (some parent) index id first := by
        intro e he
        rw [forestWalk, Outline.walkBelow]
        exact List.mem_cons_of_mem _ (List.mem_append_left _ he)
      have hright : ∀ e ∈ forestWalk rest (some parent) (index + 1) (id + 1)
          (first + (Outline.node a kids).sizeBelow),
          e ∈ forestWalk (.node a kids :: rest) (some parent) index id first := by
        intro e he
        rw [forestWalk]
        exact List.mem_cons_of_mem _ (List.mem_append_right _ he)
      rw [block, forestCells, each_cons, each_append, Outline.length_cellsBelow, Outline.cellsBelow,
        each_append, length_block]
      refine ⟨⟨?_, hrest.imp fun _ _ => hright _⟩,
        ⟨hkids.imp fun _ _ => hleft _, hbelow.imp fun _ _ => hleft _⟩,
          hafter.imp fun _ _ => hright _⟩
      rw [forestWalk]
      exact List.mem_cons_self

/-- Every cell of a layout is met by the walk over it. -/
lemma Outline.mem_walk {o : Outline α} {id : Nat} {c : Cell α} (h : o.cells[id]? = some c) :
    (id, c) ∈ o.walk := by
  cases o with
  | node a os =>
      rw [Outline.walk, forestWalk, Outline.walkBelow, forestWalk, List.append_nil]
      cases id with
      | zero =>
          rw [Outline.getElem?_cells_zero, Option.some.injEq] at h
          rw [← h]
          exact List.mem_cons_self
      | succ id =>
          obtain ⟨hblock, hforest⟩ := each_mem_forestWalk os 0 0 1 (1 + os.length)
          have hbelow := each_append.mpr ⟨hblock, by rwa [length_block]⟩
          rw [Outline.cells, List.getElem?_cons_succ] at h
          rw [Nat.add_comm id 1]
          exact List.mem_cons_of_mem _ (hbelow id c h)

lemma outlines_block (parent index first : Nat) (os : List (Outline α)) :
    (block parent index first os).map Cell.outline = os := by
  induction os generalizing index first with
  | nil => rfl
  | cons o rest ih => rw [block, List.map_cons, ih]

lemma outlines_forestCells (os : List (Outline α)) (id first : Nat) :
    (forestCells os id first).map Cell.outline = (forestPreorder os).flatMap Outline.children := by
  induction os using forest_induction generalizing id first with
  | nil => rfl
  | cons a kids rest ihkids ihrest =>
      simp [forestCells, Outline.cellsBelow, forestPreorder, Outline.preorder, outlines_block,
        ihkids, ihrest]

/-- **Blocks.**  The cells of a layout are that of the root and then, for each node in preorder,
those of its children. -/
theorem Outline.outlines_cells (o : Outline α) :
    o.cells.map Cell.outline = o :: o.preorder.flatMap Outline.children := by
  cases o with
  | node a os =>
      simp [Outline.cells, Outline.cellsBelow, Outline.preorder, outlines_block,
        outlines_forestCells]

lemma Outline.value_mem_values {o : Outline α} {c : Cell α} (h : c ∈ o.cells) :
    c.outline.value ∈ o.values := by
  have hmem := List.mem_map_of_mem (f := Cell.outline) h
  have hself : o ∈ o.preorder := by cases o; simp [Outline.preorder]
  rw [o.outlines_cells, List.mem_cons, List.mem_flatMap] at hmem
  refine List.mem_map_of_mem ?_
  rcases hmem with hroot | ⟨owner, howner, hchild⟩
  · exact hroot ▸ hself
  · have howner : owner ∈ forestPreorder [o] := by simpa [forestPreorder] using howner
    simpa [forestPreorder] using mem_forestPreorder_of_mem_children howner hchild

/-! ## Walking over a flattened tree -/

lemma FlatTree.get_of_getElem? {t : FlatTree} {id : Nat} {node : FlatNode}
    (h : t.nodes[id]? = some node) :
    t.get id = .ok node := by
  rw [FlatTree.get, h]

@[simp] lemma Span.pop?_nil (id : Nat) : (⟨id, id⟩ : Span).pop? = none := by
  simp [Span.pop?, Span.isEmpty]

@[simp] lemma Span.pop?_succ (id count : Nat) :
    (⟨id, id + (count + 1)⟩ : Span).pop? = some (id, ⟨id + 1, id + 1 + count⟩) := by
  have hstop : id + (count + 1) = id + 1 + count := by omega
  have hempty : ¬ id + 1 + count ≤ id := by omega
  simp [Span.pop?, Span.isEmpty, hstop, hempty]

/-- The span of a leaf has no first key, wherever its children would stand. -/
lemma Cell.pop?_span (c : Cell α) :
    c.span.pop? = (⟨c.first, c.first + c.outline.children.length⟩ : Span).pop? := by
  rw [Cell.span]
  cases c.outline.children with
  | nil => exact (Span.pop?_nil 0).trans (Span.pop?_nil c.first).symm
  | cons o rest => rfl

section Steps

variable {nodes : Array FlatNode} {span rest : Span} {id left : Nat} {above : List Span}
  {done : List Nat}

lemma walkPreorder_of_pop?_none (h : span.pop? = none) :
    walkPreorder nodes left (span :: above) done = walkPreorder nodes left above done := by
  rw [walkPreorder, h]

lemma walkPreorder_of_pop?_some (h : span.pop? = some (id, rest)) :
    walkPreorder nodes (left + 1) (span :: above) done
      = walkPreorder nodes left (childSpan nodes id :: rest :: above) (id :: done) := by
  rw [walkPreorder, h]

lemma walkPreorder_congr (h : span.pop? = rest.pop?) :
    walkPreorder nodes left (span :: above) done
      = walkPreorder nodes left (rest :: above) done := by
  rw [walkPreorder, h]
  conv_rhs => rw [walkPreorder]

end Steps

/-- **Walking.**  With siblings pending, the walk lists them, each with all that is below it, and
goes on with the levels above. -/
theorem walkPreorder_forestWalk {nodes : Array FlatNode} {os : List (Outline Payload)}
    {parent : Option Nat} {index id first : Nat}
    (hnodes : ∀ e ∈ forestWalk os parent index id first, nodes[e.1]? = some e.2.node)
    (left : Nat) (above : List Span) (done : List Nat) :
    walkPreorder nodes (left + forestSize os) (⟨id, id + os.length⟩ :: above) done
      = walkPreorder nodes left above
          (((forestWalk os parent index id first).map Prod.fst).reverse ++ done) := by
  induction os using forest_induction generalizing parent index id first left above done with
  | nil => simp [walkPreorder_of_pop?_none, forestSize, forestWalk]
  | cons a kids rest ihkids ihrest =>
      rw [forestWalk, List.forall_mem_cons, List.forall_mem_append, Outline.walkBelow] at hnodes
      obtain ⟨hnode, hkids, hrest⟩ := hnodes
      have hspan : (childSpan nodes id).pop? = (⟨first, first + kids.length⟩ : Span).pop? := by
        rw [childSpan, hnode]
        exact Cell.pop?_span _
      rw [forestSize_node_cons, ← Nat.add_assoc, ← Nat.add_assoc, List.length_cons,
        walkPreorder_of_pop?_some (Span.pop?_succ id rest.length),
        walkPreorder_congr hspan, ihkids hkids, ihrest hrest, forestWalk, Outline.walkBelow]
      simp

namespace Outline

variable (o : Outline Payload)

lemma getElem?_flat_of_mem_walk {e : Nat × Cell Payload} (he : e ∈ o.walk) :
    o.flat.nodes[e.1]? = some e.2.node := by
  rw [getElem?_flat, getElem?_of_mem_walk he, Option.map_some]

/-- The ids of a flattened tree in preorder are those that a walk over its layout meets. -/
theorem preorder_flat : o.flat.preorder = o.walk.map Prod.fst := by
  have hwalk := walkPreorder_forestWalk (fun e he => o.getElem?_flat_of_mem_walk he) 0 [] []
  calc o.flat.preorder
      = walkPreorder o.flat.nodes (0 + forestSize [o]) [⟨0, 0 + [o].length⟩] [] := by
        rw [FlatTree.preorder, size_flat, ← forestSize_singleton, Nat.zero_add]; rfl
    _ = o.walk.map Prod.fst := by
        rw [hwalk, walkPreorder, List.append_nil, List.reverse_reverse, walk]

/-- A walk over a flattened tree looks up nodes of the tree only. -/
lemma get_preorder_flat :
    o.flat.preorder.map o.flat.get = (o.walk.map (·.2.node)).map Except.ok := by
  rw [o.preorder_flat, List.map_map, List.map_map]
  apply List.map_congr_left
  intro e he
  rw [Function.comp_apply, FlatTree.get, o.getElem?_flat_of_mem_walk he]
  rfl

end Outline

/-! ## Values and tokens -/

/-- The token that a node stands for, unless it is a rule. -/
def Payload.token? : Payload → Option Token
  | .token t => some t
  | .rule _ => none

/-- The token at the root of a tree, unless it is a rule. -/
def Tree.token? : Tree → Option Token
  | .token t => some t
  | .rule _ _ => none

/-- A token with its position in the chosen count of lines. -/
def Token.adjust (base : LineBase) (t : Token) : Token :=
  { t with position := base.adjust t.position }

lemma values_of_traverseForest {g : α → Option β} {os : List (Outline α)} {os' : List (Outline β)}
    (h : traverseForest g os = some os') :
    (forestPreorder os).map (g ∘ Outline.value)
      = (forestPreorder os').map (some ∘ Outline.value) := by
  induction os using forest_induction generalizing os' with
  | nil =>
      rw [traverseForest, Option.some.injEq] at h
      subst h; rfl
  | cons a kids rest ihkids ihrest =>
      simp only [traverseForest, Outline.traverse, Option.bind_eq_bind, Option.bind_eq_some_iff,
        Option.pure_def, Option.some.injEq] at h
      obtain ⟨_, ⟨b, hb, kids', hkids, rfl⟩, rest', hrest, rfl⟩ := h
      simp [forestPreorder, Outline.preorder, hb, ihkids hkids, ihrest hrest]

lemma Outline.values_of_traverse {g : α → Option β} {o : Outline α} {o' : Outline β}
    (h : o.traverse g = some o') : o.values.map g = o'.values.map some := by
  have hforest : traverseForest g [o] = some [o'] := by simp [traverseForest, h]
  simpa [Outline.values, forestPreorder] using values_of_traverseForest hforest

mutual

/-- The ordered tree of the same shape with other values. -/
def Outline.map (g : α → β) : Outline α → Outline β
  | .node a children => .node (g a) (mapForest g children)

def mapForest (g : α → β) : List (Outline α) → List (Outline β)
  | [] => []
  | o :: rest => o.map g :: mapForest g rest

end

lemma isEmpty_mapForest (g : α → β) (os : List (Outline α)) :
    (mapForest g os).isEmpty = os.isEmpty := by
  cases os <;> rfl

lemma traverseForest_some (g : α → β) (os : List (Outline α)) :
    traverseForest (fun a => some (g a)) os = some (mapForest g os) := by
  induction os using forest_induction with
  | nil => rfl
  | cons a kids rest ihkids ihrest =>
      simp [traverseForest, Outline.traverse, mapForest, Outline.map, ihkids, ihrest]

lemma Outline.traverse_some (g : α → β) (o : Outline α) :
    o.traverse (fun a => some (g a)) = some (o.map g) := by
  cases o with
  | node a os => simp [Outline.traverse, Outline.map, traverseForest_some]

lemma Outline.values_map (g : α → β) (o : Outline α) : (o.map g).values = o.values.map g := by
  apply List.map_injective_iff.mpr fun _ _ => Option.some.inj
  rw [← values_of_traverse (o.traverse_some g), List.map_map]
  rfl

section Values

variable {v : Vocabulary} {base : LineBase} {t : Tree} {o : Outline Payload}

/-- The values of what a tree is flattened to are the nodes that stay, looked up. -/
lemma Tree.values_outline (h : t.outline v base = some o) :
    t.kept.map (fun s => (s.symbol.payload v base).toOption) = o.values.map some := by
  rw [Tree.outline_eq_traverse] at h
  rw [← Outline.values_of_traverse h, Outline.values, t.preorder_skeleton, List.map_map,
    List.map_map]
  apply List.map_congr_left
  intro s hs
  simp [Tree.skeleton_eq_node (Tree.mem_kept.mp hs).2]

lemma forestTokens_eq_filterMap (ts : List Tree) :
    forestTokens ts = (forestKept ts).filterMap Tree.token? := by
  induction ts using Tree.forest_induction with
  | nil => rfl
  | token t rest ih =>
      rw [forestKept_token_cons, forestTokens, ih]
      rfl
  | rule label kids rest ihkids ihrest =>
      rw [forestTokens, Tree.tokens, ihkids, ihrest]
      by_cases hkids : kids.length = 1
      · obtain ⟨only, rfl⟩ := List.length_eq_one_iff.mp hkids
        rw [forestKept_single_cons, List.filterMap_append]
      · rw [forestKept_rule_cons hkids, List.filterMap_cons_none rfl, List.filterMap_append]

lemma Tree.tokens_eq_filterMap_kept (t : Tree) : t.tokens = t.kept.filterMap Tree.token? := by
  have h := forestTokens_eq_filterMap [t]
  rw [forestKept_singleton] at h
  simpa [forestTokens] using h

lemma Tree.tokens_outline (h : t.outline v base = some o) :
    o.values.filterMap Payload.token? = t.tokens.map (Token.adjust base) := by
  have hvalues := congrArg (List.filterMap (·.bind Payload.token?)) (Tree.values_outline h)
  rw [List.filterMap_map, List.filterMap_map] at hvalues
  rw [t.tokens_eq_filterMap_kept, List.map_filterMap]
  refine hvalues.symm.trans (List.filterMap_congr fun s _ => ?_)
  cases s with
  | token token => rfl
  | rule label children =>
      rw [Function.comp_apply, Tree.symbol, Symbol.payload]
      cases v.classify label <;> rfl

lemma Tree.size_outline (h : t.outline v base = some o) :
    o.size = t.subtrees.countP fun s => s.children.length != 1 := by
  have hlength := congrArg List.length (Tree.values_outline h)
  rw [List.length_map, List.length_map, o.length_values] at hlength
  rw [← hlength, Tree.kept, List.countP_eq_length_filter]

end Values

/-- **Tokens.**  A walk over a flattened tree meets the tokens of the tree from left to right, each
with its kind, its text and its position in the chosen count of lines; and there are as many nodes
as the tree has nodes that do not have exactly one child. -/
theorem tokens_flatten (v : Vocabulary) (base : LineBase) (before : List Tree) (t : Tree)
    (flat : FlatTree) (h : ((Flattener.used v base before).flatten t).1 = .ok flat) :
    (∃ nodes : List FlatNode, flat.preorder.map flat.get = nodes.map Except.ok ∧
      nodes.filterMap (·.payload.token?) = t.tokens.map (Token.adjust base)) ∧
    flat.size = t.subtrees.countP fun s => s.children.length != 1 := by
  obtain ⟨o, ho, rfl⟩ := flatten_eq_ok_iff.mp h
  refine ⟨⟨o.walk.map (·.2.node), ?_, ?_⟩, ?_⟩
  · exact o.get_preorder_flat
  · rw [List.filterMap_map, ← Tree.tokens_outline ho, Outline.values, ← o.outlines_walk,
      List.map_map, List.filterMap_map]
    rfl
  · rw [o.size_flat, Tree.size_outline ho]

/-- A vocabulary of three rules. -/
def listVocabulary : Vocabulary where
  kindOf := (∅ : Std.HashMap String Kind).insert "LIST" 100 |>.insert "PAIR" 101
    |>.insert "EMPTY" 102
  declared := #[⟨"LIST", 100⟩, ⟨"PAIR", 101⟩, ⟨"EMPTY", 102⟩]
  names := firstNames [⟨"LIST", 100⟩, ⟨"PAIR", 101⟩, ⟨"EMPTY", 102⟩]

/-- A list of a pair, which stands below a single-child rule that is not known, of a rule that
matched nothing and of a token with this text. -/
def listTree (text : String) : Tree :=
  .rule "ListContext"
    [.rule "Wrap" [.rule "PairContext" [.token ⟨1, "x", ⟨1, 0⟩⟩, .token ⟨-1, "y", ⟨2, 4⟩⟩]],
      .rule "EmptyContext" [], .token ⟨1, text, ⟨3, 0⟩⟩]

lemma outline_listTree (base : LineBase) (text : String) :
    (listTree text).outline listVocabulary base = some (.node (.rule ⟨"LIST", 100⟩)
        [.node (.rule ⟨"PAIR", 101⟩)
          [.node (.token ⟨1, "x", base.adjust ⟨1, 0⟩⟩) [],
            .node (.token ⟨-1, "y", base.adjust ⟨2, 4⟩⟩) []],
          .node (.rule ⟨"EMPTY", 102⟩) [], .node (.token ⟨1, text, base.adjust ⟨3, 0⟩⟩) []]) := by
  have hlist : Label.canonicalName? "ListContext" = some "LIST" := by decide
  have hpair : Label.canonicalName? "PairContext" = some "PAIR" := by decide
  have hempty : Label.canonicalName? "EmptyContext" = some "EMPTY" := by decide
  simp [listTree, Tree.outline, forestOutline, hlist, hpair, hempty, Vocabulary.resolve,
    listVocabulary, Std.HashMap.getElem_insert, Except.toOption]

/-- Of the seven nodes of the list six are kept, and its three tokens are met in order. -/
theorem tokens_flatten_listTree : ∃ flat : FlatTree,
    ((Flattener.used listVocabulary .zero []).flatten (listTree "z")).1 = .ok flat ∧ flat.size = 6 ∧
    ∃ nodes : List FlatNode, flat.preorder.map flat.get = nodes.map Except.ok ∧
      nodes.filterMap (·.payload.token?)
        = [⟨1, "x", ⟨0, 0⟩⟩, ⟨-1, "y", ⟨1, 4⟩⟩, ⟨1, "z", ⟨2, 0⟩⟩] := by
  have hflat : ((Flattener.used listVocabulary .zero []).flatten (listTree "z")).1 = .ok _ :=
    flatten_eq_ok_iff.mpr ⟨_, outline_listTree _ _, rfl⟩
  obtain ⟨hnodes, hsize⟩ := tokens_flatten _ _ _ _ _ hflat
  exact ⟨_, hflat, hsize, hnodes⟩

end ParseTree
