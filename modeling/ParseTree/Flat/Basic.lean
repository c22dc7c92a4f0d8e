import ParseTree.Flat.Span
import ParseTree.Tree.Basic
import ParseTree.Vocabulary.Basic

/-!
# Flattened trees

A flattened tree keeps all its nodes in one array and lets them refer to each other by their index,
the `id`.  The children of a node stand next to each other, so a node needs no more than their span;
it also knows its parent, its place among its siblings, and where the text it covers starts.

The root is the first node.

Ids and places among siblings are natural numbers, so a tree may have any number of nodes.  Where
they are kept in 32 bits, flattening has to give up at 2^32 nodes (`arena overflow`) or siblings
(`too many children`); this limit is left out, here and wherever trees are flattened.
-/

namespace ParseTree

/-- What a node stands for. -/
inductive Payload
  /-- A token, with its position in the chosen count of lines. -/
  | token (t : Token)
  /-- A grammar rule that branched, or that matched nothing. -/
  | rule (r : Rule)
deriving Repr, DecidableEq

namespace Payload

/-- The kind of a node. -/
def kind : Payload → Kind
  | .token t => t.kind
  | .rule r => r.kind

/-- Whether a node is a token. -/
def isToken : Payload → Bool
  | .token _ => true
  | .rule _ => false

end Payload

/-- A node of a flattened tree. -/
structure FlatNode where
  payload : Payload
  parent : Option Nat
  /-- The place among the children of the parent; 0 for the root. -/
  index : Nat
  children : Span := .empty
  /-- The position of the first token that the node covers. -/
  start : Option Position
deriving Repr, DecidableEq

/-- A flattened tree. -/
structure FlatTree where
  nodes : Array FlatNode
deriving Repr, DecidableEq

/-- An id that no node of a tree has. -/
structure MissingNode where
  size : Nat
  id : Nat
deriving Repr, DecidableEq

/-- The wording of a missing node. -/
def MissingNode.message (e : MissingNode) : String :=
  "index out of bounds: the len is " ++ e.size.repr ++ " but the index is " ++ e.id.repr

namespace FlatTree

/-- The number of nodes. -/
def size (t : FlatTree) : Nat := t.nodes.size

/-- The id of the root. -/
def root (_ : FlatTree) : Nat := 0

/-- The node with this id. -/
def get (t : FlatTree) (id : Nat) : Except MissingNode FlatNode :=
  match t.nodes[id]? with
  | some node => .ok node
  | none => .error ⟨t.size, id⟩

/-- The parent of the node with this id; the root has none. -/
def parent (t : FlatTree) (id : Nat) : Except MissingNode (Option Nat) :=
  (t.get id).map (·.parent)

/-- The children of the node with this id. -/
def children (t : FlatTree) (id : Nat) : Except MissingNode (List FlatNode) :=
  (t.get id).map fun node => node.children.keys.filterMap (t.nodes[·]?)

/-- The position of the first token of the tree. -/
def start (t : FlatTree) : Option Position :=
  t.nodes[t.root]?.bind (·.start)

end FlatTree

end ParseTree
