import Mathlib.Data.List.Nodup
import Mathlib.Data.List.Perm.Subperm
import ParseTree.Proofs.Preorder

/-!
# Visiting every node

A visitor of a flattened tree keeps for each level the siblings that are still to come, and nothing
tells it how many nodes there are.  Asked for the next id, it leaves the levels that have none to
come, takes one from the first level that has, and goes down to its children.  That this comes to an
end, and meets no node twice, is due to the layout alone.

* **Visits** — `visits_forest` is the invariant: trees side by side are visited in preorder,
  whatever is pending above them, and then the visitor goes on there.
* **By recursion** — `Lists` says what is listed from a node on: its id, and then what is listed
  from each of its children.  `lists_forest_iff`: over a layout these are the ids that a walk meets,
  and no others.
* **The whole** — `preorder_flatten`.
-/

namespace ParseTree

/-! ## Visits -/

namespace FlatTree

/-- The next id, if there is one, and the siblings that are then to come, the lowest level first.
Children are pending only if there are any. -/
def next (t : FlatTree) : List Span → Except MissingNode (Option Nat × List Span)
  | [] => .ok (none, [])
  | siblings :: above =>
    match siblings.pop? with
    | none => t.next above
    | some (id, rest) => (t.get id).map fun node =>
      (some id, if node.children.isEmpty then rest :: above else node.children :: rest :: above)

/-- The ids that come one after the other until there is none. -/
inductive Visits (t : FlatTree) : List Span → List Nat → Prop
  | done {spans : List Span} (h : t.next spans = .ok (none, [])) : Visits t spans []
  | step {spans spans' : List Span} {id : Nat} {ids : List Nat}
      (h : t.next spans = .ok (some id, spans'))
      (hrest : Visits t spans' ids) : Visits t spans (id :: ids)

variable {t : FlatTree} {siblings rest : Span} {above : List Span} {ids : List Nat}

lemma next_of_pop?_none (h : siblings.pop? = none) : t.next (siblings :: above) = t.next above := by
  rw [next, h]

lemma next_of_pop?_some {id : Nat} {node : FlatNode} (h : siblings.pop? = some (id, rest))
    (hnode : t.nodes[id]? = some node) (above : List Span) : t.next (siblings :: above)
      = .ok (some id,
          if node.children.isEmpty then rest :: above else node.children :: rest :: above) := by
  rw [next, h]
  simp only [get_of_getElem? hnode, Except.map]

/-- What comes depends on nothing but the next call. -/
lemma Visits.of_next_eq {spans spans' : List Span} (h : Visits t spans ids)
    (hnext : t.next spans' = t.next spans) :
    Visits t spans' ids := by
  cases h with
  | done hdone => exact .done (hnext.trans hdone)
  | step hstep hrest => exact .step (hnext.trans hstep) hrest

/-- Whether the children of a leaf are pending makes no difference. -/
lemma visits_children {c : Cell Payload}
    (h : Visits t (⟨c.first, c.first + c.outline.children.length⟩ :: above) ids) :
    Visits t (if c.span.isEmpty then above else c.span :: above) ids := by
  rw [c.isEmpty_span]
  cases hkids : c.outline.children with
  | nil =>
      rw [hkids] at h
      exact h.of_next_eq (next_of_pop?_none (Span.pop?_nil _)).symm
  | cons o os =>
      have hne : c.outline.children ≠ [] := by simp [hkids]
      rw [← hkids, List.isEmpty_eq_false_iff.mpr hne, Cell.span_of_children_ne_nil hne]
      exact h

/-- **Visits.**  Trees side by side are visited in preorder, and then the visitor goes on with the
levels above. -/
theorem visits_forest {os : List (Outline Payload)} {parent : Option Nat} {index id first : Nat}
    (hnodes : ∀ e ∈ forestWalk os parent index id first, t.nodes[e.1]? = some e.2.node)
    (habove : Visits t above ids) :
    Visits t (⟨id, id + os.length⟩ :: above)
      ((forestWalk os parent index id first).map Prod.fst ++ ids) := by
  induction os using forest_induction generalizing parent index id first above ids with
  | nil => exact habove.of_next_eq (next_of_pop?_none (Span.pop?_nil id))
  | cons p kids rest ihkids ihrest =>
      rw [forestWalk, List.forall_mem_cons, List.forall_mem_append, Outline.walkBelow] at hnodes
      obtain ⟨hnode, hkids, hrest⟩ := hnodes
      -- First what is below the node, then its siblings, then the levels above.
      have hafter := ihkids hkids (ihrest hrest habove)
      have hbelow := visits_children (c := ⟨.node p kids, parent, index, first⟩) hafter
      have hnext := next_of_pop?_some (Span.pop?_succ id rest.length) hnode above
      rw [forestWalk, Outline.walkBelow, List.map_cons, List.map_append, List.cons_append,
        List.append_assoc]
      exact .step hnext hbelow

/-! ## By recursion -/

/-- What is listed from a node on: its id, and then what is listed from each of its children. -/
inductive Lists (t : FlatTree) : Nat → List Nat → Prop
  | node {id : Nat} {node : FlatNode} {below : List (List Nat)} (hnode : t.get id = .ok node)
      (hbelow : List.Forall₂ (Lists t) node.children.keys below) : Lists t id (id :: below.flatten)

lemma lists_iff {id : Nat} {node : FlatNode} (hnode : t.nodes[id]? = some node) :
    Lists t id ids ↔ ∃ below, List.Forall₂ (Lists t) node.children.keys below ∧
      ids = id :: below.flatten := by
  constructor
  · rintro ⟨hget, hbelow⟩
    cases (get_of_getElem? hnode).symm.trans hget
    exact ⟨_, hbelow, rfl⟩
  · rintro ⟨below, hbelow, rfl⟩
    exact .node (get_of_getElem? hnode) hbelow

/-- **By recursion.**  From the roots of trees side by side nothing is listed but the ids that a
walk meets. -/
theorem lists_forest_iff {os : List (Outline Payload)} {parent : Option Nat} {index id first : Nat}
    (hnodes : ∀ e ∈ forestWalk os parent index id first, t.nodes[e.1]? = some e.2.node)
    (ids : List Nat) :
    (∃ below, List.Forall₂ (Lists t) (List.range' id os.length) below ∧ ids = below.flatten)
      ↔ ids = (forestWalk os parent index id first).map Prod.fst := by
  induction os using forest_induction generalizing parent index id first ids with
  | nil => simp [forestWalk]
  | cons p kids rest ihkids ihrest =>
      rw [forestWalk, List.forall_mem_cons, List.forall_mem_append, Outline.walkBelow] at hnodes
      obtain ⟨hnode, hkids, hrest⟩ := hnodes
      have hspan : (Cell.mk (.node p kids) parent index first).node.children.keys
          = List.range' first kids.length := Cell.keys_span _
      rw [List.length_cons, List.range'_succ, forestWalk, Outline.walkBelow, List.map_cons,
        List.map_append]
      constructor
      · rintro ⟨_, hbelow, rfl⟩
        obtain ⟨head, tail, hhead, htail, rfl⟩ := List.forall₂_cons_left_iff.mp hbelow
        obtain ⟨inner, hinner, rfl⟩ := (lists_iff hnode).mp hhead
        rw [hspan] at hinner
        rw [List.flatten_cons, (ihkids hkids _).mp ⟨inner, hinner, rfl⟩,
          (ihrest hrest _).mp ⟨tail, htail, rfl⟩, List.cons_append]
      · rintro rfl
        obtain ⟨inner, hinner, hflat⟩ := (ihkids hkids _).mpr rfl
        obtain ⟨tail, htail, hflat'⟩ := (ihrest hrest _).mpr rfl
        rw [← hspan] at hinner
        refine ⟨_ :: tail, .cons ((lists_iff hnode).mpr ⟨inner, hinner, rfl⟩) htail, ?_⟩
        rw [List.flatten_cons, hflat, hflat', List.cons_append]

end FlatTree

namespace Outline

variable (o : Outline Payload)

lemma visits_flat : o.flat.Visits [.single o.flat.root] o.flat.preorder := by
  have hend : o.flat.Visits [] [] := .done rfl
  have hvisits := FlatTree.visits_forest (fun e he => o.getElem?_flat_of_mem_walk he) hend
  rw [List.append_nil] at hvisits
  rw [o.preorder_flat]
  exact hvisits

lemma lists_flat_iff (ids : List Nat) : o.flat.Lists o.flat.root ids ↔ ids = o.flat.preorder := by
  have hforest := FlatTree.lists_forest_iff (fun e he => o.getElem?_flat_of_mem_walk he) ids
  rw [o.preorder_flat, Outline.walk, ← hforest]
  simp [FlatTree.root, List.forall₂_cons_left_iff]

/-- Every id is met, and there are no more visits than ids. -/
lemma preorder_flat_perm : o.flat.preorder.Perm (List.range o.flat.size) := by
  have hlength : o.flat.preorder.length = o.flat.size := by
    rw [o.preorder_flat, List.length_map, ← List.length_map (f := (·.2.outline)), o.outlines_walk,
      o.length_preorder, o.size_flat]
  have hmet : List.range o.flat.size ⊆ o.flat.preorder := by
    intro id hid
    rw [List.mem_range, o.size_flat, ← o.length_cells] at hid
    rw [o.preorder_flat]
    exact List.mem_map_of_mem (mem_walk (List.getElem?_eq_getElem hid))
  refine ((List.nodup_range.subperm hmet).perm_of_length_le ?_).symm
  exact Nat.le_of_eq (hlength.trans List.length_range.symm)

end Outline

/-! ## The whole -/

/-- **The whole.**  From the root of a flattened tree the visitor misses no node that it looks up,
and comes to an end by itself, after as many ids as there are nodes.  Every id is among them once;
and they are what is listed by recursion. -/
theorem preorder_flatten (v : Vocabulary) (base : LineBase) (before : List Tree) (t : Tree)
    (flat : FlatTree) (h : ((Flattener.used v base before).flatten t).1 = .ok flat) :
    flat.Visits [.single flat.root] flat.preorder ∧ flat.preorder.length = flat.size ∧
    (∀ id < flat.size, flat.preorder.count id = 1) ∧
    ∀ ids, flat.Lists flat.root ids ↔ ids = flat.preorder := by
  obtain ⟨o, -, rfl⟩ := flatten_eq_ok_iff.mp h
  have hperm := o.preorder_flat_perm
  refine ⟨o.visits_flat, ?_, fun id hid => ?_, o.lists_flat_iff⟩
  · rw [hperm.length_eq, List.length_range]
  · rw [hperm.count_eq]
    exact List.count_eq_one_of_mem List.nodup_range (List.mem_range.mpr hid)

/-- After the tokens of the pair two levels are left at once, and the ids that were given out before
come last. -/
theorem preorder_flatten_listTree : ∃ flat : FlatTree,
    ((Flattener.used listVocabulary .one []).flatten (listTree "z")).1 = .ok flat ∧ flat.size = 6 ∧
    flat.Visits [.single flat.root] [0, 1, 4, 5, 2, 3] ∧
    flat.Lists flat.root [0, 1, 4, 5, 2, 3] := by
  have hflat : ((Flattener.used listVocabulary .one []).flatten (listTree "z")).1 = .ok _ :=
    flatten_eq_ok_iff.mpr ⟨_, outline_listTree _ _, rfl⟩
  obtain ⟨hvisits, -, -, hlists⟩ := preorder_flatten _ _ _ _ _ hflat
  refine ⟨_, hflat, rfl, ?_, (hlists _).mpr ?_⟩
  · rw [Outline.preorder_flat] at hvisits
    exact hvisits
  · rw [Outline.preorder_flat]
    rfl

end ParseTree
