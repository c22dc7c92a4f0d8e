import ParseTree.Source
import ParseTree.Text.Lines

/-!
# Excerpts

The part of a text that a report looks at.  It begins with the line in which the range of the report
starts and goes on to the first line feed that is not before the end of the range, that line feed
left out.

Only the first line of an excerpt is shown.  A range that takes in the end of its line reaches the
line after it too, and that one has its say in how far the lines are indented.  An excerpt without
characters has no line at all: there is none at the end of a text that is empty or ends in a line
feed, and the empty range on an empty line has none either.
-/

namespace ParseTree.Report

/-- The lines of an excerpt, without their ends, and the place of the range on the first of them. -/
structure Excerpt where
  /-- The number of the first line, from 1. -/
  number : Nat
  /-- The characters of the first line. -/
  line : List Char
  /-- The lines after it. -/
  others : List (List Char)
  /-- The characters of the first line before the range. -/
  before : List Char
  /-- The characters of the first line before the end of the range. -/
  through : List Char
deriving Repr, DecidableEq

/-- A line without the line feed, or the carriage return and line feed, at its end. -/
def lineContent (line : List Char) : List Char :=
  match line.reverse with
  | '\n' :: '\r' :: rest => rest.reverse
  | '\n' :: rest => rest.reverse
  | _ => line

/-- The characters up to the first line feed that has `bytes` bytes or more before it.  Those taken
already are handed along in reverse. -/
def upToLineFeed (bytes : Nat) (done : List Char) : List Char → List Char
  | [] => done.reverse
  | c :: rest =>
    if bytes = 0 && c = '\n' then done.reverse
    else upToLineFeed (bytes - c.utf8Size) (c :: done) rest

/-- The number and the offset of the line on which a place lies, and the text from there on, for
lines the first of which has number `number` and begins at `offset`.  A place at the end of the last
line is on that line, unless a line feed ends it. -/
def lineOf? (place number offset : Nat) : List (List Char) → Option (Nat × Nat × List Char)
  | [] => none
  | line :: rest =>
    let next := offset + Text.byteSize line
    if place < next || (rest.isEmpty && place == next && line.getLast? != some '\n') then
      some (number, offset, (line :: rest).flatten)
    else lineOf? place (number + 1) next rest

/-- The excerpt of a text for a range, if it has a line. -/
def excerpt? (r : ByteRange) (text : List Char) : Option Excerpt :=
  match lineOf? r.start 1 0 (Text.cutLines text) with
  | none => none
  | some (number, offset, source) =>
    match (Text.cutLines (upToLineFeed (r.stop - offset) [] source)).map lineContent with
    | [] => none
    | line :: others =>
      some
        { number := number
          line := line
          others := others
          before := Text.slice ⟨0, r.start - offset⟩ line
          through := Text.slice ⟨0, r.stop - offset⟩ line }

end ParseTree.Report
