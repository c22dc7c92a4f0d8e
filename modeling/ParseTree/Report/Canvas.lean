/-!
# Rows of a report

A report is drawn on rows of cells, each a character in an ink.  What is put on a row covers what
was there before, and a row grows with blanks to reach the place.

Rows are painted from left to right.  A styled row has the escape sequence of an ink before each run
of cells in it, and the one that ends it after the run; plain ink needs neither.
-/

namespace ParseTree.Report

/-- What a cell is written in. -/
inductive Ink
  /-- Nothing special. -/
  | plain
  /-- The frame of the report. -/
  | frame
  /-- What catches the eye. -/
  | accent
  /-- The message. -/
  | strong
deriving Repr, DecidableEq

/-- A character in an ink. -/
structure Cell where
  char : Char
  ink : Ink
deriving Repr, DecidableEq

/-- The cells of a row, from the left. -/
abbrev Row := List Cell

namespace Row

/-- The cells of a text in one ink. -/
def ofText (ink : Ink) (text : List Char) : Row :=
  text.map fun c => ⟨c, ink⟩

/-- A row with a text put on it at a column. -/
def put (row : Row) (column : Nat) (ink : Ink) (text : List Char) : Row :=
  if text.isEmpty then row
  else
    let before := row.take column
    before ++ ofText .plain (List.replicate (column - before.length) ' ') ++ ofText ink text ++
      row.drop (column + text.length)

/-- A row with a text behind it. -/
def add (row : Row) (ink : Ink) (text : List Char) : Row :=
  row ++ ofText ink text

end Row

/-! ## Painting -/

/-- The escape sequence before a run of cells. -/
def Ink.opening : Ink → String
  | .plain => ""
  | .frame => "\x1b[1m\x1b[94m"
  | .accent => "\x1b[1m\x1b[91m"
  | .strong => "\x1b[1m"

/-- The escape sequence after a run of cells. -/
def Ink.closing : Ink → String
  | .plain => ""
  | _ => "\x1b[0m"

namespace Row

/-- Paints cells behind the text `done`, which ends in a run of `ink`. -/
def paintFrom (ink : Ink) (done : String) : Row → String
  | [] => done ++ ink.closing
  | cell :: rest =>
    if cell.ink = ink then paintFrom ink (done.push cell.char) rest
    else paintFrom cell.ink ((done ++ ink.closing ++ cell.ink.opening).push cell.char) rest

/-- The text of a row, with the inks if it is `styled`. -/
def paint (styled : Bool) (row : Row) : String :=
  if styled then paintFrom .plain "" row else String.ofList (row.map (·.char))

end Row

end ParseTree.Report
