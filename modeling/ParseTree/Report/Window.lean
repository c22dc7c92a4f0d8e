/-!
# Windows

Which part of a line is shown.  Long indentation is cut off, since it tells nothing, and a line that
is still wider than the terminal is cut to the part around the marks.

* **Extents** — an `Extent` has all that the choice depends on.
* **Windows** — `Extent.window` makes the choice.  Where everything is blank there is nothing to
  keep, and the window lies behind the end of every line.
-/

namespace ParseTree.Report

/-- How far the lines of an excerpt and the marks on them reach, in columns. -/
structure Extent where
  /-- The least indentation of a line that is not blank, if there is such a line. -/
  indent : Option Nat
  /-- Where the marks begin. -/
  markStart : Nat
  /-- Where the marks end. -/
  markStop : Nat
  /-- Where the label behind the marks ends. -/
  labelStop : Nat
  /-- The length of the longest line. -/
  longest : Nat
  /-- The room on the terminal. -/
  room : Nat
deriving Repr, DecidableEq

/-- The part of the lines that is shown. -/
structure Window where
  /-- Where it begins; `none` is behind the end of every line. -/
  start : Option Nat
  /-- Where it ends, if the rest of a line is longer than the room. -/
  stop : Nat
  room : Nat
deriving Repr, DecidableEq

/-- The columns kept free on either side of what matters. -/
def padding : Nat := 6

/-- Indentation up to here, the padding not counted, is shown in full. -/
def longIndent : Nat := 20

/-- The indentation that is left of a longer one, the padding not counted. -/
def shortIndent : Nat := 16

/-- The window for lines of which the first not blank one is indented by `indent`. -/
def Extent.windowFor (e : Extent) (indent : Nat) : Window :=
  let indent := indent - padding
  let markStart := e.markStart - padding
  let markStop := e.markStop + padding
  let labelStop := e.labelStop + padding
  let start := if longIndent < indent then indent - shortIndent else 0
  let stop := max e.longest start
  if stop - start ≤ e.room then ⟨some start, stop, e.room⟩
  else if labelStop - indent ≤ e.room then ⟨some indent, indent + e.room, e.room⟩
  else if labelStop - markStart ≤ e.room then
    let start := markStart - (e.room - (labelStop - markStart)) / 2
    ⟨some start, start + e.room, e.room⟩
  else if markStop - markStart ≤ e.room then
    let start := markStart - (e.room - (markStop - markStart)) / 5 * 2
    ⟨some start, start + e.room, e.room⟩
  else ⟨some markStart, markStop, e.room⟩

/-- The window for an extent. -/
def Extent.window (e : Extent) : Window :=
  match e.indent with
  | none => ⟨none, 0, e.room⟩
  | some indent => e.windowFor indent

/-- Where the shown part of a line of this length begins. -/
def Window.left (w : Window) (length : Nat) : Nat :=
  match w.start with
  | none => length
  | some start => min start length

/-- Where the shown part of a line of this length ends. -/
def Window.right (w : Window) (length : Nat) : Nat :=
  if length - w.left length ≤ w.room then length else min length w.stop

/-- Whether something is cut off before the window. -/
def Window.cutsLeft (w : Window) : Bool :=
  w.start != some 0

end ParseTree.Report
