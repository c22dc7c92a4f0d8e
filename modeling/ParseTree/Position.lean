/-!
# Positions

Where a token stands in the file it was read from: a line and a column, both in 32 bits.  Parsers
count lines from 1; `zeroBased` recounts them from 0.  Positions are ordered as they occur in a
file.
-/

namespace ParseTree

/-- A line and a column. -/
structure Position where
  line : UInt32
  column : UInt32
deriving Repr, DecidableEq, Hashable

namespace Position

/-- The position with its line counted from 0.  Line 0 has nothing before it and stays. -/
def zeroBased (p : Position) : Position :=
  { p with line := if p.line = 0 then 0 else p.line - 1 }

theorem zeroBased_line (p : Position) : p.zeroBased.line.toNat = p.line.toNat - 1 := by
  by_cases hline : p.line = 0
  · simp [zeroBased, hline]
  · have hone : 1 ≤ p.line := by
      rw [UInt32.le_iff_toNat_le]
      exact Nat.one_le_iff_ne_zero.mpr fun hzero => hline (UInt32.toNat_inj.mp hzero)
    simp [zeroBased, hline, UInt32.toNat_sub_of_le _ _ hone]

theorem zeroBased_column (p : Position) : p.zeroBased.column = p.column := rfl

/-- Line before column. -/
def precedes (p q : Position) : Bool :=
  p.line < q.line || (p.line == q.line && p.column ≤ q.column)

/-- The positions in the order of the file. -/
def sort (ps : List Position) : List Position :=
  ps.mergeSort precedes

end Position

/-- How lines are counted in a flattened tree. -/
inductive LineBase
  /-- As the parser counts them, from 1. -/
  | one
  /-- From 0. -/
  | zero
deriving Repr, DecidableEq

/-- A parser's position in the given count. -/
def LineBase.adjust : LineBase → Position → Position
  | .one, p => p
  | .zero, p => p.zeroBased

end ParseTree
