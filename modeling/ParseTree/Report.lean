import ParseTree.Report.Canvas
import ParseTree.Report.Excerpt
import ParseTree.Report.Window
import ParseTree.Text.Lines
import ParseTree.Text.Width

/-!
# Reports

An error message with the line of the source that it is about and marks below the place:

```
error: expected `NAME=VALUE`, found `BROKEN`
 --> java.tokens:2:1
  |
2 | BROKEN
  | ^^^^^^ here
  |
```

* **Lines of a source** — `shownText` is a line as it is shown, and `Excerpt.window` the part of it
  that is.  An ellipsis stands where something is cut off.
* **Rows** — a report is a list of rows.  Marks and label are placed by the columns of the whole
  line and then moved to the left with the window, but never past the first column.
* If the excerpt has no line, only the message and the path are shown.
-/

namespace ParseTree

/-- A message about a range of a text. -/
structure Report where
  message : String
  range : ByteRange
deriving Repr, DecidableEq

namespace Report

/-! ## Lines of a source -/

/-- Whether a character is left out of a shown line: the joiner, and those that turn the direction
of writing, with which a line would not look like what it is. -/
def isLeftOut (c : Char) : Bool :=
  let n := c.toNat
  n == 0x200D || (0x202A ≤ n && n ≤ 0x202E) || (0x2066 ≤ n && n ≤ 0x2069)

/-- A line as it is shown.  A tab is four blanks. -/
def shownText (line : List Char) : List Char :=
  line.flatMap fun c =>
    if c = '\t' then [' ', ' ', ' ', ' '] else if isLeftOut c then [] else [c]

/-- The indentation of a line, if it is not blank. -/
def indent? (line : List Char) : Option Nat :=
  if line.all Text.isBlank then none
  else some ((line.takeWhile Text.isBlank).foldl (fun n c => n + if c = '\t' then 4 else 1) 0)

/-- The columns of the terminal. -/
def terminalColumns : Nat := 140

/-- What stands for the part of a line that is cut off. -/
def ellipsis : List Char := ['.', '.', '.']

/-- What stands behind the marks. -/
def label : List Char := ['h', 'e', 'r', 'e']

namespace Excerpt

/-- All lines of an excerpt. -/
def lines (e : Excerpt) : List (List Char) :=
  e.line :: e.others

/-- The column at which the marks begin. -/
def markStart (e : Excerpt) : Nat :=
  Text.width 0 e.before

/-- The column at which the marks end.  There is always one mark. -/
def markStop (e : Excerpt) : Nat :=
  max (e.markStart + 1) (Text.width 0 e.through)

/-- How far an excerpt and its marks reach. -/
def extent (e : Excerpt) : Extent where
  indent := (e.lines.filterMap indent?).min?
  markStart := e.markStart
  markStop := e.markStop
  labelStop := e.markStop + label.length + 1
  longest := (e.lines.map Text.byteSize).foldl max 0
  room := terminalColumns - (3 + (e.number + e.lines.length).repr.length)

/-- The part of the lines that is shown. -/
def window (e : Excerpt) : Window :=
  e.extent.window

end Excerpt

/-- The characters from the front of a text that fit into `room` columns, the columns they take, and
whether there are more.  Those taken already are handed along in reverse, with their columns. -/
def takeColumns (room taken : Nat) (done : List Char) : List Char → List Char × Nat × Bool
  | [] => (done.reverse, taken, false)
  | c :: rest =>
    let next := taken + (Text.charWidth? c).getD 1
    if room < next then (done.reverse, taken, true) else takeColumns room next (c :: done) rest

/-! ## Rows -/

/-- The row of the message.  An empty message leaves no trace. -/
def messageRow (message : String) : Row :=
  let row := Row.ofText .accent ['e', 'r', 'r', 'o', 'r']
  if message.isEmpty then row else (row.add .plain [':', ' ']).add .strong message.toList

/-- The row that names the place.  The frame is `pad` columns away from the left. -/
def placeRow (pad : Nat) (path : String) (line column : Nat) : Row :=
  let row := Row.put [] pad .frame ['-', '-', '>']
  (row.put (pad + 4) .plain path.toList).add .plain
    (":" ++ line.repr ++ ":" ++ column.repr).toList

/-- A row of the frame with nothing in it. -/
def frameRow (pad : Nat) : Row :=
  Row.put [] (pad + 1) .frame ['|']

/-- The column at which a line of the source begins. -/
def sourceColumn (pad : Nat) : Nat := pad + 3

/-- The row of the source. -/
def sourceRow (pad : Nat) (e : Excerpt) : Row :=
  let shown := shownText e.line
  let length := Text.byteSize shown
  let left := e.window.left length
  let (text, columns, cutRight) :=
    takeColumns (e.window.right length - left) 0 [] (shown.drop left)
  let row := Row.put [] 0 .frame (e.number.repr.toList ++ [' ', '|'])
  let row := row.put (sourceColumn pad) .plain text
  let row := if e.window.cutsLeft then row.put (sourceColumn pad) .frame ellipsis else row
  if cutRight then row.put (sourceColumn pad + columns - ellipsis.length) .frame ellipsis else row

/-- The row of the marks and the label. -/
def markRow (pad : Nat) (e : Excerpt) : Row :=
  let shown := shownText e.line
  let left := Text.width 1 (shown.take (e.window.left (Text.byteSize shown)))
  let first := sourceColumn pad + e.markStart - left
  let last := sourceColumn pad + (e.markStop - 1) - left
  let row := (frameRow pad).put (sourceColumn pad + (e.markStop + 1 - left)) .accent label
  row.put first .accent (List.replicate (last + 1 - first) '^')

/-- The rows of a report about a file. -/
def rows (r : Report) (f : SourceFile) : List Row :=
  messageRow r.message ::
    match excerpt? r.range f.text.toList with
    | some e =>
      let pad := e.number.repr.length
      [placeRow pad f.path e.number (e.before.length + 1), frameRow pad, sourceRow pad e,
        markRow pad e, frameRow pad]
    | none => [placeRow 0 f.path 1 1, frameRow 0, frameRow 0]

/-- The text of a report about a file.  No line feed follows the last row. -/
def render (r : Report) (styled : Bool) (f : SourceFile) : String :=
  "\n".intercalate ((r.rows f).map (·.paint styled))

end Report

end ParseTree
