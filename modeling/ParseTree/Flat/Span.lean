/-!
# Spans of keys

The nodes of a flattened tree are numbered, and the children of a node have consecutive numbers.  A
`Span` is such a run of keys: those from `start` up to `stop`, which is left out.  A span that does
not start before it stops is empty.
-/

namespace ParseTree

/-- The keys from `start` up to, and not including, `stop`. -/
structure Span where
  start : Nat
  stop : Nat
deriving Repr, DecidableEq

namespace Span

/-- The span of a node without children. -/
def empty : Span := ⟨0, 0⟩

/-- The span of one key. -/
def single (key : Nat) : Span := ⟨key, key + 1⟩

/-- The number of keys. -/
def size (s : Span) : Nat := s.stop - s.start

/-- Whether there is no key. -/
def isEmpty (s : Span) : Bool := s.stop ≤ s.start

/-- The keys in ascending order. -/
def keys (s : Span) : List Nat := List.range' s.start s.size

/-- The first key, and the span of the others. -/
def pop? (s : Span) : Option (Nat × Span) :=
  if s.isEmpty then none else some (s.start, ⟨s.start + 1, s.stop⟩)

/-- How the start compares with the stop. -/
def order (s : Span) : Ordering := compare s.start s.stop

/-- A span as messages show it. -/
def shown (s : Span) : String :=
  "Range(" ++ s.start.repr ++ ".." ++ s.stop.repr ++ ")"

/-- A key as messages show it. -/
def shownKey (key : Nat) : String :=
  "Key(" ++ key.repr ++ ")"

end Span

end ParseTree
