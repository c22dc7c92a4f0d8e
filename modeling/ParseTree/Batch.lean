import ParseTree.Diagram
import ParseTree.Flat.Flattener

/-!
# Batches

Many trees are drawn by several workers.  The trees are divided into chunks of consecutive trees,
one a worker, and a worker uses one flattener for its chunk.  The diagrams come back in the order of
the trees, and if some tree fails, the first one that does fails the batch.
-/

namespace ParseTree.Batch

/-- Divides a list into chunks of `size` elements; the last one may be shorter. -/
def chunks {α : Type} (size : Nat) (xs : List α) : List (List α) :=
  match xs with
  | [] => []
  | x :: rest => (x :: rest.take (size - 1)) :: chunks size (rest.drop (size - 1))
termination_by xs.length
decreasing_by simp only [List.length_drop, List.length_cons]; omega

/-- The size of the chunks for this many trees and workers; without workers the batch is one
chunk. -/
def chunkSize (trees workers : Nat) : Nat :=
  (trees + max workers 1 - 1) / max workers 1

/-- Draws the trees of a chunk with one flattener, up to the first that fails.  The diagrams drawn
before are handed along in reverse. -/
def drawChunk (f : Flattener) (done : List String) : List Tree → Except LabelError (List String)
  | [] => .ok done.reverse
  | t :: rest =>
    match f.flatten t with
    | (.error e, _) => .error e
    | (.ok flat, f) => drawChunk f (flat.draw :: done) rest

/-- Puts the results of the chunks together, up to the first that failed. -/
def collect : List (Except LabelError (List String)) → Except LabelError (List String)
  | [] => .ok []
  | .error e :: _ => .error e
  | .ok diagrams :: rest => (collect rest).map (diagrams ++ ·)

/-- Draws trees with this many workers. -/
def drawOn (workers : Nat) (v : Vocabulary) (base : LineBase) (trees : List Tree) :
    Except LabelError (List String) :=
  collect <| (chunks (chunkSize trees.length workers) trees).map
    (drawChunk { vocabulary := v, lineBase := base } [])

/-- The number of workers that `drawAll` uses. -/
def defaultWorkers : Nat := 8

/-- Draws trees. -/
def drawAll (v : Vocabulary) (base : LineBase) (trees : List Tree) :
    Except LabelError (List String) :=
  drawOn defaultWorkers v base trees

end ParseTree.Batch
