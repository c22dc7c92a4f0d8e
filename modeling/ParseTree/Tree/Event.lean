import ParseTree.Tree.Basic

/-!
# Parser events

A parser that walks its input from left to right announces a tree by events: a rule starts, a token
is met, a rule is finished.  The events of a tree list it without nesting.

* **Listing** — `Tree.events` lists the events of a tree.  The walk keeps the siblings still to come
  at every level in a list of its own, so trees of any depth can be listed; `eventCount` is the
  measure by which it ends, one for each event.
* **Figures** — `Summary` counts tokens and rules and measures the depth in one pass over the
  events.
-/

namespace ParseTree

/-- One step of a parser. -/
inductive Event
  /-- A rule with this label starts. -/
  | start (label : String)
  /-- A token is met. -/
  | token (t : Token)
  /-- The rule started last is finished. -/
  | finish
deriving Repr, DecidableEq

/-! ## The events of a tree -/

mutual

/-- The number of events of a tree. -/
def Tree.eventCount : Tree → Nat
  | .token _ => 1
  | .rule _ children => forestEventCount children + 2

/-- The number of events of trees side by side. -/
def forestEventCount : List Tree → Nat
  | [] => 0
  | t :: rest => t.eventCount + forestEventCount rest

end

/-- The number of events to come for levels that are open: for each, the end of a rule and the
events of the trees after it. -/
def openCount : List (List Tree) → Nat
  | [] => 0
  | siblings :: above => forestEventCount siblings + 1 + openCount above

/-- Lists the events of `siblings` and then, for each list in `above`, the end of a rule followed by
the events of the list.  The events listed before are handed along in reverse. -/
def walkEvents (siblings : List Tree) (above : List (List Tree)) (done : List Event) : List Event :=
  match siblings, above with
  | [], [] => done.reverse
  | [], siblings :: above => walkEvents siblings above (.finish :: done)
  | .token t :: rest, above => walkEvents rest above (.token t :: done)
  | .rule label children :: rest, above =>
    walkEvents children (rest :: above) (.start label :: done)
termination_by forestEventCount siblings + openCount above
decreasing_by all_goals simp only [forestEventCount, Tree.eventCount, openCount]; omega

/-- The events that announce a tree. -/
def Tree.events (t : Tree) : List Event :=
  walkEvents [t] [] []

/-! ## Figures -/

/-- How many nodes a tree has and how deep it is. -/
structure Summary where
  tokens : Nat := 0
  rules : Nat := 0
  /-- The nodes on the longest way from the root to a leaf. -/
  depth : Nat := 0
  /-- The rules started and not yet finished. -/
  level : Nat := 0
deriving Repr, DecidableEq

namespace Summary

/-- The figures after one more event. -/
def count (s : Summary) : Event → Summary
  | .start _ =>
    { s with rules := s.rules + 1, level := s.level + 1, depth := max s.depth (s.level + 1) }
  | .token _ => { s with tokens := s.tokens + 1, depth := max s.depth (s.level + 1) }
  | .finish => { s with level := s.level - 1 }

end Summary

/-- The figures of a tree. -/
def Tree.summary (t : Tree) : Summary :=
  t.events.foldl Summary.count {}

end ParseTree
