import Mathlib.Data.List.Basic
import ParseTree.Tree.Event

/-!
# The events of a tree

`Tree.events` is listed by a walk that keeps the siblings still to come in a list of its own.  By
recursion over the tree it is what one expects: a token is its own event, and a rule is its start,
the events of its children from left to right, and its end.

* **The walk** — `walkEvents_append`: what is listed for the levels above follows what is listed
  without them.
* **The recursion** — `Tree.events_token`, `Tree.events_rule`.
-/

namespace ParseTree

/-- What holds of no tree, and of trees side by side if it holds of those below the first one and of
those after it, holds of all parse trees side by side. -/
@[elab_as_elim]
theorem Tree.forest_induction {P : List Tree → Prop} (nil : P [])
    (token : ∀ t rest, P rest → P (.token t :: rest))
    (rule : ∀ label kids rest, P kids → P rest → P (.rule label kids :: rest)) : ∀ ts, P ts
  | [] => nil
  | .token t :: rest => token t rest (Tree.forest_induction nil token rule rest)
  | .rule label kids :: rest =>
      rule label kids rest (Tree.forest_induction nil token rule kids)
        (Tree.forest_induction nil token rule rest)

/-! ## The walk -/

lemma walkEvents_done_append (siblings : List Tree) (above : List (List Tree))
    (done earlier : List Event) :
    walkEvents siblings above (done ++ earlier)
      = earlier.reverse ++ walkEvents siblings above done := by
  fun_induction walkEvents siblings above done with
  | case1 done => rw [walkEvents, List.reverse_append]
  | case2 done siblings above ih => rw [walkEvents, ← List.cons_append, ih]
  | case3 above done t rest ih => rw [walkEvents, ← List.cons_append, ih]
  | case4 above done label children rest ih => rw [walkEvents, ← List.cons_append, ih]

/-- What is listed before is in front. -/
lemma walkEvents_done (siblings : List Tree) (above : List (List Tree)) (done : List Event) :
    walkEvents siblings above done = done.reverse ++ walkEvents siblings above [] :=
  walkEvents_done_append siblings above [] done

/-- A level that is added above all others comes after them, behind the end of a rule. -/
lemma walkEvents_append (siblings : List Tree) (above : List (List Tree)) (done : List Event)
    (outer : List Tree) :
    walkEvents siblings (above ++ [outer]) done
      = walkEvents siblings above done ++ .finish :: walkEvents outer [] [] := by
  fun_induction walkEvents siblings above done with
  | case1 done => rw [List.nil_append, walkEvents, walkEvents_done]; simp
  | case2 done siblings above ih => rw [List.cons_append, walkEvents, ih]
  | case3 above done t rest ih => rw [walkEvents, ih]
  | case4 above done label children rest ih => rw [walkEvents, ← List.cons_append, ih]

lemma walkEvents_cons (t : Tree) (rest : List Tree) :
    walkEvents (t :: rest) [] [] = t.events ++ walkEvents rest [] [] := by
  cases t with
  | token t => rw [Tree.events, walkEvents, walkEvents, walkEvents_done]; simp [walkEvents]
  | rule label children =>
      rw [Tree.events, walkEvents, walkEvents, ← List.nil_append [rest], ← List.nil_append [[]],
        walkEvents_append, walkEvents_append]
      simp [walkEvents]

/-! ## The recursion -/

lemma walkEvents_eq_flatMap (ts : List Tree) : walkEvents ts [] [] = ts.flatMap Tree.events := by
  induction ts with
  | nil => simp [walkEvents]
  | cons t rest ih => rw [walkEvents_cons, ih, List.flatMap_cons]

@[simp]
theorem Tree.events_token (t : Token) : (Tree.token t).events = [.token t] := by
  simp [Tree.events, walkEvents]

@[simp]
theorem Tree.events_rule (label : String) (children : List Tree) :
    (Tree.rule label children).events
      = .start label :: (children.flatMap Tree.events ++ [.finish]) := by
  rw [Tree.events, walkEvents, ← List.nil_append [[]], walkEvents_append, walkEvents_done,
    walkEvents_eq_flatMap]
  simp [walkEvents]

end ParseTree
