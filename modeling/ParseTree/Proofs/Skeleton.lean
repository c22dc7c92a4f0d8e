import ParseTree.Flat.Flattener
import ParseTree.Proofs.Layout

/-!
# Trees without single-child rules

A rule with a single child says nothing that the child does not say.  `Tree.skeleton` leaves such
rules out of a tree at every depth, so what is left are tokens and the rules that have no child or
more than one.

* **Eliding is one step of it** — `skeleton_elide`: the flattener skips single-child rules when it
  meets them, at the root and below each node; the skeleton does not see the difference.
* **Looking up** — `Cell.place`: the node that stands for a cell of the laid out skeleton, or the
  error that its label cannot be looked up.
-/

namespace ParseTree

/-- What stands at the root of a tree: a token, or the label of a rule. -/
inductive Symbol
  | token (t : Token)
  | rule (label : String)
deriving Repr, DecidableEq

/-- What stands at the root of a tree. -/
def Tree.symbol : Tree → Symbol
  | .token t => .token t
  | .rule label _ => .rule label

mutual

/-- The tree without its single-child rules. -/
def Tree.skeleton : Tree → Outline Symbol
  | .token t => .node (.token t) []
  | .rule _ [only] => only.skeleton
  | .rule label children => .node (.rule label) (forestSkeleton children)

/-- Trees side by side without their single-child rules. -/
def forestSkeleton : List Tree → List (Outline Symbol)
  | [] => []
  | t :: rest => t.skeleton :: forestSkeleton rest

end

lemma forestSkeleton_eq_map (ts : List Tree) : forestSkeleton ts = ts.map Tree.skeleton := by
  induction ts with
  | nil => rfl
  | cons t rest ih => rw [forestSkeleton, ih, List.map_cons]

namespace Tree

/-- Unless the root has a single child, it stays. -/
lemma skeleton_eq_node {t : Tree} (h : t.children.length ≠ 1) :
    t.skeleton = .node t.symbol (t.children.map Tree.skeleton) := by
  cases t with
  | token t => rfl
  | rule label children =>
      rw [← forestSkeleton_eq_map]
      rcases children with _ | ⟨first, _ | ⟨second, rest⟩⟩
      · rfl
      · simp [Tree.children] at h
      · rfl

/-- Skipping the single-child rules on top does not change the skeleton. -/
lemma skeleton_elide (t : Tree) : t.elide.skeleton = t.skeleton := by
  fun_induction Tree.elide t with
  | case1 label only ih => rw [ih, skeleton]
  | case2 => rfl

/-- No single-child rule is left on top. -/
lemma length_children_elide (t : Tree) : t.elide.children.length ≠ 1 := by
  fun_induction Tree.elide t with
  | case1 label only ih => exact ih
  | case2 t h =>
      intro hlen
      cases t with
      | token t => simp [Tree.children] at hlen
      | rule label children =>
          obtain ⟨only, rfl⟩ := List.length_eq_one_iff.mp hlen
          exact h label only rfl

/-- The tree that the flattener keeps for `t`, and what it keeps right below. -/
lemma skeleton_eq_node_elide (t : Tree) :
    t.skeleton = .node t.elide.symbol (t.elide.children.map Tree.skeleton) := by
  rw [← skeleton_elide, skeleton_eq_node t.length_children_elide]

end Tree

/-! ## Looking up symbols -/

/-- The node that stands for a symbol: tokens are counted from the chosen base, labels are looked
up. -/
def Symbol.payload (v : Vocabulary) (base : LineBase) : Symbol → Except LabelError Payload
  | .token t => .ok (.token { t with position := base.adjust t.position })
  | .rule label => (v.classify label).map .rule

/-- The start that a node has by itself. -/
def Payload.ownStart : Payload → Option Position
  | .token t => some t.position
  | .rule _ => none

/-- A node as it is placed, before the starts are settled. -/
def Payload.bareNode (parent : Option Nat) (index : Nat) (children : Span) (p : Payload) :
    FlatNode :=
  ⟨p, parent, index, children, p.ownStart⟩

/-- The node of a cell, linked to its parent and to its children. -/
def Cell.place (v : Vocabulary) (base : LineBase) (c : Cell Symbol) : Except LabelError FlatNode :=
  (c.outline.value.payload v base).map (Payload.bareNode c.parent c.index c.span)

end ParseTree
