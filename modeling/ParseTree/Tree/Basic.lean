import ParseTree.Position
import ParseTree.Vocabulary.Value

/-!
# Parse trees

The trees that a parser delivers: tokens at the leaves, and rules that carry the structural label of
the grammar rule and the trees it matched, in order.  A rule may match nothing.
-/

namespace ParseTree

/-- A token of the lexer, with the place where it was read. -/
structure Token where
  kind : Kind
  text : String
  position : Position
deriving Repr, DecidableEq

/-- A parse tree. -/
inductive Tree
  | token (t : Token)
  | rule (label : String) (children : List Tree)
deriving Repr

namespace Tree

/-- The trees right below the root. -/
def children : Tree → List Tree
  | .token _ => []
  | .rule _ children => children

/-- The label of the root, unless it is a token. -/
def label? : Tree → Option String
  | .token _ => none
  | .rule label _ => some label

/-- The leftmost way down from the root until a node does not have exactly one child.  Rules with a
single child say nothing that the child does not say. -/
def elide : Tree → Tree
  | .rule _ [only] => only.elide
  | t => t

end Tree

end ParseTree
