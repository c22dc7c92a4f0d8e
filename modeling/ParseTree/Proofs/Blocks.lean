import ParseTree.Proofs.Preorder

/-!
# Blocks of siblings

Ids are given out in blocks: when the flattener comes to a node, all its children get the next ids
at once, and it goes on with the first of them.  So along the ids nodes stand neither level by level
nor in preorder, but the blocks do follow the preorder of the nodes that own them.

* **Spans along a walk** — `keys_forestWalk`: over trees side by side, whatever is laid out below
  them is used up by the spans that a walk meets, one after the other and without a gap.
* **The whole** — `ids_flatten`.
-/

namespace ParseTree

variable {α : Type}

/-! ## Spans along a walk -/

/-- **Spans along a walk.**  What is laid out below trees side by side from `first` on are the spans
of the nodes that a walk meets, in this order. -/
theorem keys_forestWalk (os : List (Outline α)) (parent : Option Nat) (index id first : Nat) :
    (forestWalk os parent index id first).flatMap (·.2.span.keys)
      = List.range' first (forestCells os id first).length := by
  induction os using forest_induction generalizing parent index id first with
  | nil => rfl
  | cons a kids rest ihkids ihrest =>
      -- the block of the children, what is below them, and what is below the trees after
      have hbelow : (Outline.node a kids).sizeBelow
          = kids.length + (forestCells kids first (first + kids.length)).length := by
        rw [← Outline.length_cellsBelow _ id first, Outline.cellsBelow, List.length_append,
          length_block]
      rw [forestWalk, Outline.walkBelow, List.flatMap_cons, List.flatMap_append, ihkids, ihrest,
        Cell.keys_span, Outline.children_node, forestCells, List.length_append,
        Outline.length_cellsBelow, hbelow, ← List.range'_append_1, ← List.range'_append_1,
        List.append_assoc, ← Nat.add_assoc]

lemma Outline.keys_walk (o : Outline α) :
    0 :: o.walk.flatMap (·.2.span.keys) = List.range o.size := by
  have hbelow : (forestCells [o] 0 1).length = o.sizeBelow := by
    rw [forestCells, forestCells, List.append_nil, o.length_cellsBelow]
  rw [Outline.walk, keys_forestWalk, hbelow, Outline.size, List.range_eq_range', List.range'_succ]

/-! ## The whole -/

/-- **The whole.**  The id of the root, and then those of the children of each node in preorder, are
all ids in ascending order. -/
theorem ids_flatten (v : Vocabulary) (base : LineBase) (before : List Tree) (t : Tree)
    (flat : FlatTree) (h : ((Flattener.used v base before).flatten t).1 = .ok flat) :
    ∃ nodes : List FlatNode, flat.preorder.map flat.get = nodes.map Except.ok ∧
      flat.root :: nodes.flatMap (·.children.keys) = List.range flat.size := by
  obtain ⟨o, -, rfl⟩ := flatten_eq_ok_iff.mp h
  refine ⟨o.walk.map (·.2.node), o.get_preorder_flat, ?_⟩
  rw [o.size_flat, ← o.keys_walk, List.flatMap_map]
  rfl

/-- The pair in the list is met second, but its tokens have the last ids: the two nodes that come
after it in the list were placed along with it. -/
theorem ids_flatten_listTree : ∃ flat : FlatTree,
    ((Flattener.used listVocabulary .one []).flatten (listTree "z")).1 = .ok flat ∧
    flat.preorder = [0, 1, 4, 5, 2, 3] ∧
    ∃ nodes : List FlatNode, flat.preorder.map flat.get = nodes.map Except.ok ∧
      nodes.map (·.children.keys) = [[1, 2, 3], [4, 5], [], [], [], []] ∧
      flat.root :: nodes.flatMap (·.children.keys) = [0, 1, 2, 3, 4, 5] := by
  have hflat : ((Flattener.used listVocabulary .one []).flatten (listTree "z")).1 = .ok _ :=
    flatten_eq_ok_iff.mpr ⟨_, outline_listTree _ _, rfl⟩
  obtain ⟨nodes, hnodes, hids⟩ := ids_flatten _ _ _ _ _ hflat
  refine ⟨_, hflat, ?_, nodes, hnodes, ?_, hids⟩
  · rw [Outline.preorder_flat]
    rfl
  · rw [Outline.get_preorder_flat] at hnodes
    rw [← List.map_injective_iff.mpr (fun _ _ => Except.ok.inj) hnodes]
    rfl

end ParseTree
