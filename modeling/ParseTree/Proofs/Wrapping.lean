import Mathlib.Logic.Relation
import ParseTree.Proofs.Refusal

/-!
# Single-child rules do not show

A rule with a single child can be put above any node of a tree, or taken away from there, and the
flattener does not notice, not even in what it remembers: the label of such a rule is never looked
up.

* **Pruning** — `Tree.pruned` takes all single-child rules away.
* **In step** — `placeAll_pruned`: with the same nodes placed, a flattener does the same for pending
  trees and for the same trees pruned.  It skips single-child rules at two moments, when it places a
  tree and when it notes down what is below it; pruning commutes with both.
* **In any place** — `Surroundings.pruned_fill_congr`: what is around a node is pruned in the same
  way whatever the node is pruned to, also where the node is the only child of its parent.
* **One by one** — `wraps_pruned`: a tree is its pruned form with some nodes put below single-child
  rules.
* **The whole** — `flatten_wrapped`.
-/

namespace ParseTree

/-! ## Pruning -/

mutual

/-- The tree without its single-child rules; each gives way to its child. -/
def Tree.pruned : Tree → Tree
  | .token t => .token t
  | .rule _ [only] => only.pruned
  | .rule label children => .rule label (forestPruned children)

def forestPruned : List Tree → List Tree
  | [] => []
  | t :: rest => t.pruned :: forestPruned rest

end

lemma forestPruned_eq_map (ts : List Tree) : forestPruned ts = ts.map Tree.pruned := by
  induction ts with
  | nil => rfl
  | cons t rest ih => rw [forestPruned, ih, List.map_cons]

namespace Tree

lemma pruned_rule {label : String} {children : List Tree} (h : children.length ≠ 1) :
    (rule label children).pruned = .rule label (children.map pruned) := by
  rw [← forestPruned_eq_map]
  rcases children with _ | ⟨first, _ | ⟨second, rest⟩⟩
  · rfl
  · simp at h
  · rfl

lemma pruned_elide (t : Tree) : t.elide.pruned = t.pruned := by
  fun_induction Tree.elide t with
  | case1 label only ih => rw [ih, pruned]
  | case2 => rfl

/-- The root of a tree stays unless it is a single-child rule, and what is below it is pruned. -/
lemma children_pruned {t : Tree} (h : t.children.length ≠ 1) :
    t.pruned.children = t.children.map pruned := by
  cases t with
  | token t => rfl
  | rule label children =>
      change children.length ≠ 1 at h
      rw [pruned_rule h]
      rfl

lemma isEmpty_children_pruned {t : Tree} (h : t.children.length ≠ 1) :
    t.pruned.children.isEmpty = t.children.isEmpty := by
  rw [children_pruned h, List.isEmpty_map]

lemma symbol_pruned {t : Tree} (h : t.children.length ≠ 1) : t.pruned.symbol = t.symbol := by
  cases t with
  | token t => rfl
  | rule label children =>
      change children.length ≠ 1 at h
      rw [pruned_rule h]
      rfl

lemma length_children_pruned (t : Tree) : t.pruned.children.length ≠ 1 := by
  rw [← pruned_elide, children_pruned t.length_children_elide, List.length_map]
  exact t.length_children_elide

/-- Nothing is left to be skipped. -/
lemma elide_pruned (t : Tree) : t.pruned.elide = t.pruned :=
  elide_eq_self t.length_children_pruned

end Tree

/-! ## In step -/

/-- Trees whose children are not placed yet, pruned. -/
def prunedWork (work : List (Nat × Tree)) : List (Nat × Tree) :=
  work.map fun w => (w.1, w.2.pruned)

lemma childWork_pruned (first : Nat) (ts : List Tree) :
    childWork first (ts.map Tree.pruned) = prunedWork (childWork first ts) := by
  induction ts generalizing first with
  | nil => rfl
  | cons t rest ih =>
      rw [List.map_cons, childWork_cons, childWork_cons, ih, t.elide_pruned, ← t.pruned_elide]
      rfl

namespace Flattener

/-- The node of a tree is made from what stands at its root. -/
lemma node_congr (f : Flattener) {s t : Tree} (h : s.symbol = t.symbol) (parent : Option Nat)
    (index : Nat) :
    f.node s parent index = f.node t parent index := by
  cases s with
  | token s =>
      cases t with
      | token t => cases h; rfl
      | rule label children => cases h
  | rule label children =>
      cases t with
      | token t => cases h
      | rule label' children' => cases h; rfl

lemma node_pruned (f : Flattener) (t : Tree) (parent : Option Nat) (index : Nat) :
    f.node t.pruned.elide parent index = f.node t.elide parent index := by
  refine f.node_congr ?_ parent index
  rw [t.elide_pruned, ← t.pruned_elide, Tree.symbol_pruned t.length_children_elide]

lemma placeChildren_pruned (f : Flattener) (parent index : Nat) (nodes : Array FlatNode)
    (ts : List Tree) :
    f.placeChildren parent index nodes (ts.map Tree.pruned)
      = f.placeChildren parent index nodes ts := by
  induction ts generalizing f index nodes with
  | nil => rfl
  | cons t rest ih =>
      rw [List.map_cons, placeChildren, placeChildren, f.node_pruned]
      split
      · rfl
      · exact ih _ _ _

/-- **In step.**  With pruned trees pending, a flattener does what it does with the trees as they
are. -/
theorem placeAll_pruned (f : Flattener) (nodes : Array FlatNode) (work : List (Nat × Tree))
    (h : ∀ w ∈ work, w.2.children.length ≠ 1) :
    f.placeAll nodes (prunedWork work) = f.placeAll nodes work := by
  fun_induction placeAll f nodes work with
  | case1 f nodes => rw [prunedWork, List.map_nil, placeAll]
  | case2 f nodes id t work hempty ih =>
      have ht : t.children.length ≠ 1 := h (id, t) List.mem_cons_self
      rw [prunedWork, List.map_cons, placeAll, Tree.isEmpty_children_pruned ht, if_pos hempty]
      exact ih fun w hw => h w (List.mem_cons_of_mem _ hw)
  | case3 f nodes id t work hempty e f' hstep =>
      have ht : t.children.length ≠ 1 := h (id, t) List.mem_cons_self
      rw [prunedWork, List.map_cons, placeAll, Tree.isEmpty_children_pruned ht, if_neg hempty,
        Tree.children_pruned ht, placeChildren_pruned, hstep]
  | case4 f nodes id t work hempty placed f' hstep span ih =>
      have ht : t.children.length ≠ 1 := h (id, t) List.mem_cons_self
      rw [prunedWork, List.map_cons, placeAll, Tree.isEmpty_children_pruned ht, if_neg hempty,
        Tree.children_pruned ht, placeChildren_pruned, hstep]
      simp only [List.length_map, childWork_pruned]
      rw [← ih]
      · simp [prunedWork, span]
      · intro w hw
        rcases List.mem_append.mp hw with hw | hw
        · exact (of_mem_childWork hw).2
        · exact h w (List.mem_cons_of_mem _ hw)

lemma flatten_pruned (f : Flattener) (t : Tree) : f.flatten t.pruned = f.flatten t := by
  rw [flatten, flatten, f.node_pruned]
  split
  · rfl
  · next root f' _ =>
      have hwork :
          f'.placeAll #[root] [(0, t.pruned.elide)] = f'.placeAll #[root] [(0, t.elide)] := by
        rw [t.elide_pruned, ← t.pruned_elide]
        exact placeAll_pruned f' #[root] [(0, t.elide)] (by simpa using t.length_children_elide)
      rw [hwork]

end Flattener

/-! ## In any place -/

/-- What is around a node of a parse tree: nothing if it is the root, else the rule at the root, the
trees on both sides of the way down to the node, and what is around it further down. -/
inductive Surroundings
  | none
  | under (label : String) (left : List Tree) (inner : Surroundings) (right : List Tree)

/-- The tree in which these surroundings are around the node. -/
def Surroundings.fill : Surroundings → Tree → Tree
  | .none, n => n
  | .under label left inner right, n => .rule label (left ++ inner.fill n :: right)

lemma exists_fill_of_mem_forestSubtrees {n : Tree} {ts : List Tree} (h : n ∈ forestSubtrees ts) :
    ∃ left around right, ts = left ++ Surroundings.fill around n :: right := by
  induction ts using Tree.forest_induction with
  | nil => simp [forestSubtrees] at h
  | token t rest ih =>
      rw [forestSubtrees, Tree.subtrees, List.mem_append, List.mem_singleton] at h
      rcases h with rfl | h
      · exact ⟨[], .none, rest, rfl⟩
      · obtain ⟨left, around, right, rfl⟩ := ih h
        exact ⟨.token t :: left, around, right, rfl⟩
  | rule label kids rest ihkids ihrest =>
      rw [forestSubtrees, Tree.subtrees, List.mem_append, List.mem_cons] at h
      rcases h with (rfl | h) | h
      · exact ⟨[], .none, rest, rfl⟩
      · obtain ⟨left, around, right, rfl⟩ := ihkids h
        exact ⟨[], .under label left around right, rest, rfl⟩
      · obtain ⟨left, around, right, rfl⟩ := ihrest h
        exact ⟨.rule label kids :: left, around, right, rfl⟩

lemma forestSubtrees_append (ts us : List Tree) :
    forestSubtrees (ts ++ us) = forestSubtrees ts ++ forestSubtrees us := by
  induction ts with
  | nil => rfl
  | cons t rest ih => rw [List.cons_append, forestSubtrees, forestSubtrees, ih, List.append_assoc]

lemma Tree.mem_subtrees_self (t : Tree) : t ∈ t.subtrees := by
  cases t <;> simp [Tree.subtrees]

/-- The nodes of a tree are those that it gives surroundings to. -/
lemma Tree.mem_subtrees_iff {n t : Tree} :
    n ∈ t.subtrees ↔ ∃ around : Surroundings, around.fill n = t := by
  constructor
  · intro h
    have hforest : n ∈ forestSubtrees [t] := by simpa [forestSubtrees] using h
    obtain ⟨left, around, right, heq⟩ := exists_fill_of_mem_forestSubtrees hforest
    rw [List.singleton_eq_append_iff] at heq
    simp only [reduceCtorEq, and_false, or_false, List.cons.injEq] at heq
    exact ⟨around, heq.2.1⟩
  · rintro ⟨around, rfl⟩
    induction around with
    | none => exact n.mem_subtrees_self
    | under label left inner right ih =>
        rw [Surroundings.fill, Tree.subtrees, forestSubtrees_append, forestSubtrees]
        simp [ih]

/-- What is below a rule is pruned tree by tree. -/
lemma Tree.pruned_rule_congr {label : String} {ts us : List Tree}
    (h : ts.map pruned = us.map pruned) :
    (rule label ts).pruned = (rule label us).pruned := by
  have hlength : ts.length = us.length := by simpa using congrArg List.length h
  by_cases hone : ts.length = 1
  · obtain ⟨t, rfl⟩ := List.length_eq_one_iff.mp hone
    obtain ⟨u, rfl⟩ := List.length_eq_one_iff.mp (hlength ▸ hone)
    simpa [pruned] using h
  · rw [pruned_rule hone, pruned_rule (hlength ▸ hone), h]

/-- **In any place.**  The surroundings of a node are pruned in the same way whatever the node is
pruned to. -/
theorem Surroundings.pruned_fill_congr (around : Surroundings) {m n : Tree}
    (h : m.pruned = n.pruned) :
    (around.fill m).pruned = (around.fill n).pruned := by
  induction around with
  | none => exact h
  | under label left inner right ih => exact Tree.pruned_rule_congr (by simp [ih])

/-! ## One by one -/

/-- The second tree is the first one with a node put below a single-child rule. -/
inductive Wraps : Tree → Tree → Prop
  | wrap (around : Surroundings) (label : String) (n : Tree) :
      Wraps (around.fill n) (around.fill (.rule label [n]))

namespace Wraps

lemma under {s t : Tree} (label : String) (left right : List Tree) (h : Wraps s t) :
    Wraps (.rule label (left ++ s :: right)) (.rule label (left ++ t :: right)) := by
  cases h with
  | wrap around inner n => exact .wrap (.under label left around right) inner n

lemma manyUnder {s t : Tree} (label : String) (left right : List Tree)
    (h : Relation.ReflTransGen Wraps s t) :
    Relation.ReflTransGen Wraps (.rule label (left ++ s :: right))
      (.rule label (left ++ t :: right)) := by
  induction h with
  | refl => exact .refl
  | tail _ hstep ih => exact ih.tail (hstep.under label left right)

/-- Below a rule, trees can be wrapped one after the other. -/
lemma children (label : String) {ts : List Tree} (done : List Tree)
    (h : ∀ t ∈ ts, Relation.ReflTransGen Wraps t.pruned t) :
    Relation.ReflTransGen Wraps (.rule label (done ++ ts.map Tree.pruned))
      (.rule label (done ++ ts)) := by
  induction ts generalizing done with
  | nil => exact .refl
  | cons t rest ih =>
      rw [List.forall_mem_cons] at h
      have hfirst := manyUnder label done (rest.map Tree.pruned) h.1
      have hrest := ih (done ++ [t]) h.2
      simp only [List.append_assoc, List.singleton_append] at hrest
      exact hfirst.trans hrest

end Wraps

lemma forest_wraps_pruned (ts : List Tree) : ∀ t ∈ ts, Relation.ReflTransGen Wraps t.pruned t := by
  induction ts using Tree.forest_induction with
  | nil => simp
  | token t rest ih => exact List.forall_mem_cons.mpr ⟨.refl, ih⟩
  | rule label kids rest ihkids ihrest =>
      refine List.forall_mem_cons.mpr ⟨?_, ihrest⟩
      by_cases hone : kids.length = 1
      · obtain ⟨only, rfl⟩ := List.length_eq_one_iff.mp hone
        rw [Tree.pruned]
        exact (ihkids only (by simp)).tail (.wrap .none label only)
      · rw [Tree.pruned_rule hone]
        exact Wraps.children label [] ihkids

/-- **One by one.**  A tree is its pruned form with some nodes put below single-child rules. -/
theorem wraps_pruned (t : Tree) : Relation.ReflTransGen Wraps t.pruned t :=
  forest_wraps_pruned [t] t (by simp)

lemma length_children_of_mem_pruned {s : Tree} {ts : List Tree}
    (h : s ∈ forestSubtrees (ts.map Tree.pruned)) :
    s.children.length ≠ 1 := by
  induction ts using Tree.forest_induction with
  | nil => simp [forestSubtrees] at h
  | token t rest ih =>
      rw [List.map_cons, forestSubtrees, List.mem_append] at h
      rcases h with h | h
      · rw [Tree.pruned, Tree.subtrees, List.mem_singleton] at h
        rw [h]
        simp [Tree.children]
      · exact ih h
  | rule label kids rest ihkids ihrest =>
      rw [List.map_cons, forestSubtrees, List.mem_append] at h
      rcases h with h | h
      · by_cases hone : kids.length = 1
        · obtain ⟨only, rfl⟩ := List.length_eq_one_iff.mp hone
          rw [Tree.pruned] at h
          exact ihkids (by simpa [forestSubtrees] using h)
        · rw [Tree.pruned_rule hone, Tree.subtrees, List.mem_cons] at h
          rcases h with rfl | h
          · simpa [Tree.children] using hone
          · exact ihkids h
      · exact ihrest h

lemma Tree.length_children_of_mem_subtrees_pruned {s t : Tree} (h : s ∈ t.pruned.subtrees) :
    s.children.length ≠ 1 := by
  have hforest : s ∈ forestSubtrees ([t].map pruned) := by simpa [forestSubtrees] using h
  exact length_children_of_mem_pruned hforest

/-! ## The whole -/

lemma Flattener.flatten_of_pruned_eq (f : Flattener) {s t : Tree} (h : s.pruned = t.pruned) :
    f.flatten s = f.flatten t := by
  rw [← f.flatten_pruned s, ← f.flatten_pruned t, h]

/-- **The whole.**  If any node of a tree, the root included, is put below a rule with any label, a
flattener gives the same flattened tree or the same error, and remembers the same; and so it does if
all single-child rules are taken away, until none is left. -/
theorem flatten_wrapped (f : Flattener) (t : Tree) :
    (∀ n, n ∈ t.subtrees ↔ ∃ around : Surroundings, around.fill n = t) ∧
    (∀ (around : Surroundings) (n : Tree) (label : String), around.fill n = t →
      f.flatten (around.fill (.rule label [n])) = f.flatten t) ∧
    f.flatten t.pruned = f.flatten t ∧
    Relation.ReflTransGen Wraps t.pruned t ∧ ∀ s ∈ t.pruned.subtrees, s.children.length ≠ 1 := by
  refine ⟨fun n => Tree.mem_subtrees_iff, ?_, f.flatten_pruned t, wraps_pruned t,
    fun s => Tree.length_children_of_mem_subtrees_pruned⟩
  rintro around n label rfl
  exact f.flatten_of_pruned_eq (around.pruned_fill_congr rfl)

/-- The pair in the list stands below a single-child rule already.  With its second token put below
one more, whose label is malformed, and with neither of them, the list is flattened to the same
nodes. -/
theorem flatten_wrapped_listTree : ∃ flat : FlatTree,
    ((Flattener.fresh listVocabulary .zero).flatten (listTree "z")).1 = .ok flat ∧ flat.size = 6 ∧
    ((Flattener.fresh listVocabulary .zero).flatten (.rule "ListContext"
      [.rule "Wrap" [.rule "PairContext"
        [.token ⟨1, "x", ⟨1, 0⟩⟩, .rule "y" [.token ⟨-1, "y", ⟨2, 4⟩⟩]]],
        .rule "EmptyContext" [], .token ⟨1, "z", ⟨3, 0⟩⟩])).1 = .ok flat ∧
    ((Flattener.fresh listVocabulary .zero).flatten (.rule "ListContext"
      [.rule "PairContext" [.token ⟨1, "x", ⟨1, 0⟩⟩, .token ⟨-1, "y", ⟨2, 4⟩⟩],
        .rule "EmptyContext" [], .token ⟨1, "z", ⟨3, 0⟩⟩])).1 = .ok flat := by
  have hflat : ((Flattener.used listVocabulary .zero []).flatten (listTree "z")).1 = .ok _ :=
    flatten_eq_ok_iff.mpr ⟨_, outline_listTree _ _, rfl⟩
  obtain ⟨-, hwrapped, hpruned, -, -⟩ :=
    flatten_wrapped (Flattener.fresh listVocabulary .zero) (listTree "z")
  -- the second token, in the pair, below the single-child rule, in the list
  have hdeep := hwrapped
    (.under "ListContext" []
      (.under "Wrap" [] (.under "PairContext" [.token ⟨1, "x", ⟨1, 0⟩⟩] .none []) [])
      [.rule "EmptyContext" [], .token ⟨1, "z", ⟨3, 0⟩⟩])
    (.token ⟨-1, "y", ⟨2, 4⟩⟩) "y" rfl
  exact ⟨_, hflat, rfl, (congrArg Prod.fst hdeep).trans hflat,
    (congrArg Prod.fst hpruned).trans hflat⟩

end ParseTree
