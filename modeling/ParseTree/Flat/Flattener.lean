import ParseTree.Flat.Basic
import ParseTree.Tree.Event

/-!
# Flattening

Flattening keeps the tokens of a tree and the rules that have no child or more than one.  A rule
with a single child says nothing that the child does not say; chains of such rules vanish, at the
root too.

* **Classifying** — a `Flattener` remembers the rules of the labels that it has met, so that a label
  is looked up once however many trees are flattened.  Only labels that can be classified are
  remembered.
* **Placing** — the root is placed first.  Then, for each node in preorder, all its children are
  placed next to each other.  The first label that cannot be classified, in this order, is the
  error.  What is left to do is a list of nodes whose children are not placed yet; `workCount` is
  the measure by which it ends.
* **Starts** — when all nodes are placed, the start of each rule is taken from its children.  They
  have greater ids, so going through the ids downwards meets them first.
-/

namespace ParseTree

/-! ## Classifying -/

/-- What flattening needs to know, and the labels it has met. -/
structure Flattener where
  vocabulary : Vocabulary
  lineBase : LineBase := .one
  /-- The rules of labels met before. -/
  known : Std.HashMap String Rule := ∅

namespace Flattener

/-- The rule of a label. -/
def classify (f : Flattener) (label : String) : Except LabelError Rule × Flattener :=
  match f.known[label]? with
  | some rule => (.ok rule, f)
  | none =>
    match f.vocabulary.classify label with
    | .error e => (.error e, f)
    | .ok rule => (.ok rule, { f with known := f.known.insert label rule })

/-- The node of a tree, without its children. -/
def node (f : Flattener) (t : Tree) (parent : Option Nat) (index : Nat) :
    Except LabelError FlatNode × Flattener :=
  match t with
  | .token token =>
    let position := f.lineBase.adjust token.position
    (.ok ⟨.token { token with position }, parent, index, .empty, some position⟩, f)
  | .rule label _ =>
    match f.classify label with
    | (.error e, f) => (.error e, f)
    | (.ok rule, f) => (.ok ⟨.rule rule, parent, index, .empty, none⟩, f)

/-! ## Placing -/

/-- Places trees next to each other, the first of which has place `index` among the children of
`parent`. -/
def placeChildren (f : Flattener) (parent index : Nat) (nodes : Array FlatNode) :
    List Tree → Except LabelError (Array FlatNode) × Flattener
  | [] => (.ok nodes, f)
  | child :: rest =>
    match f.node child.elide (some parent) index with
    | (.error e, f) => (.error e, f)
    | (.ok node, f) => f.placeChildren parent (index + 1) (nodes.push node) rest

end Flattener

/-- The number of events of the trees whose children are not placed yet. -/
def workCount : List (Nat × Tree) → Nat
  | [] => 0
  | (_, t) :: rest => t.eventCount + workCount rest

/-- The children of a node placed from `first` on, as work to be done. -/
def childWork (first : Nat) (children : List Tree) : List (Nat × Tree) :=
  (children.zipIdx first).map fun (child, id) => (id, child.elide)

theorem Tree.eventCount_elide_le (t : Tree) : t.elide.eventCount ≤ t.eventCount := by
  fun_induction Tree.elide t with
  | case1 label only ih =>
    simp only [Tree.eventCount, forestEventCount]
    omega
  | case2 => exact Nat.le_refl _

theorem workCount_childWork_le (first : Nat) (children : List Tree) :
    workCount (childWork first children) ≤ forestEventCount children := by
  induction children generalizing first with
  | nil => exact Nat.le_refl _
  | cons child rest ih =>
    have hrest : workCount (childWork (first + 1) rest) ≤ forestEventCount rest := ih (first + 1)
    exact Nat.add_le_add child.eventCount_elide_le hrest

theorem workCount_append (left right : List (Nat × Tree)) :
    workCount (left ++ right) = workCount left + workCount right := by
  induction left with
  | nil => simp [workCount]
  | cons w rest ih => rw [List.cons_append, workCount, workCount, ih, Nat.add_assoc]

theorem Tree.forestEventCount_children_lt (t : Tree) :
    forestEventCount t.children < t.eventCount := by
  cases t <;> simp only [Tree.children, Tree.eventCount, forestEventCount] <;> omega

namespace Flattener

/-- Places the children of the nodes in the list, and all that is below them.  The children of a
node are the last nodes placed, so their span ends where the array does. -/
def placeAll (f : Flattener) (nodes : Array FlatNode) (work : List (Nat × Tree)) :
    Except LabelError (Array FlatNode) × Flattener :=
  match work with
  | [] => (.ok nodes, f)
  | (id, t) :: work =>
    if t.children.isEmpty then f.placeAll nodes work
    else
      match f.placeChildren id 0 nodes t.children with
      | (.error e, f) => (.error e, f)
      | (.ok nodes, f) =>
        let span : Span := ⟨nodes.size - t.children.length, nodes.size⟩
        f.placeAll (nodes.modify id fun node => { node with children := span })
          (childWork span.start t.children ++ work)
termination_by workCount work
decreasing_by
  · have hpos : 0 < t.eventCount :=
      Nat.lt_of_le_of_lt (Nat.zero_le _) t.forestEventCount_children_lt
    exact Nat.lt_add_of_pos_left hpos
  · have hbelow :
        workCount (childWork (nodes.size - t.children.length) t.children) < t.eventCount :=
      Nat.lt_of_le_of_lt (workCount_childWork_le _ _) t.forestEventCount_children_lt
    rw [workCount_append]
    exact Nat.add_lt_add_right hbelow _

end Flattener

/-! ## Starts -/

/-- The first start among the nodes of a span. -/
def firstStart (nodes : Array FlatNode) (span : Span) : Option Position :=
  span.keys.findSome? fun id => nodes[id]?.bind (·.start)

/-- Takes the starts of the rules below `count` from their children, the greatest id first. -/
def settleStarts : Nat → Array FlatNode → Array FlatNode
  | 0, nodes => nodes
  | id + 1, nodes =>
    match nodes[id]? with
    | none => settleStarts id nodes
    | some node =>
      if node.children.isEmpty then settleStarts id nodes
      else
        let start := firstStart nodes node.children
        settleStarts id (nodes.modify id fun node => { node with start })

/-! ## Whole trees -/

namespace Flattener

/-- Flattens a tree.  What the flattener has learnt is kept also if it fails. -/
def flatten (f : Flattener) (t : Tree) : Except LabelError FlatTree × Flattener :=
  match f.node t.elide none 0 with
  | (.error e, f) => (.error e, f)
  | (.ok root, f) =>
    match f.placeAll #[root] [(0, t.elide)] with
    | (.error e, f) => (.error e, f)
    | (.ok nodes, f) => (.ok ⟨settleStarts nodes.size nodes⟩, f)

/-- Flattens trees one after the other, whether or not some of them fail. -/
def flattenAll (f : Flattener) : List Tree → List (Except LabelError FlatTree) × Flattener
  | [] => ([], f)
  | t :: rest =>
    let (result, f) := f.flatten t
    let (results, f) := f.flattenAll rest
    (result :: results, f)

end Flattener

/-- Flattens one tree on its own. -/
def Tree.flatten (v : Vocabulary) (base : LineBase) (t : Tree) : Except LabelError FlatTree :=
  (({ vocabulary := v, lineBase := base } : Flattener).flatten t).1

end ParseTree
