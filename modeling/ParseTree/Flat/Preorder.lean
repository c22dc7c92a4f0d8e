import ParseTree.Flat.Basic

/-!
# Preorder

A node before its children, and the children from left to right.

The walk keeps, for every level above, the siblings that are still to come.  It meets each node of a
flattened tree once, so it may stop after as many nodes as there are; this bound makes it end on any
array of nodes, whether or not it is a tree.
-/

namespace ParseTree

/-- The span of the children of a node; empty if there is no such node. -/
def childSpan (nodes : Array FlatNode) (id : Nat) : Span :=
  match nodes[id]? with
  | some node => node.children
  | none => .empty

/-- Lists at most `left` ids: those of the first span, each followed by what is below it, and then
those of the spans after it.  The ids listed before are handed along in reverse. -/
def walkPreorder (nodes : Array FlatNode) (left : Nat) (spans : List Span) (done : List Nat) :
    List Nat :=
  match spans with
  | [] => done.reverse
  | siblings :: above =>
    match siblings.pop? with
    | none => walkPreorder nodes left above done
    | some (id, siblings) =>
      match left with
      | 0 => done.reverse
      | left + 1 =>
        walkPreorder nodes left (childSpan nodes id :: siblings :: above) (id :: done)
termination_by (left, spans.length)

/-- The ids of a tree in preorder. -/
def FlatTree.preorder (t : FlatTree) : List Nat :=
  walkPreorder t.nodes t.size [.single t.root] []

end ParseTree
