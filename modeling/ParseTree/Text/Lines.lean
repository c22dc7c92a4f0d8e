/-!
# Lines, byte offsets and blanks

Places in a text are told in two ways: as an offset counted in bytes of its UTF-8 form, and as a
line with a column.  This module relates the two.

* **Sizes** — `byteSize` is the number of bytes of a text.
* **Lines** — `cutLines` cuts a text after each line feed, so that the pieces put together again are
  the text.  A line ends at a line feed and nowhere else.
* **Starts** — `lineStart?` is the offset at which a line begins.  A line feed at the very end
  starts one more line, which is empty.
* **Coordinates** — `lineColumn` is the way back from an offset.
* **Blanks** — `isBlank` is the class of characters with the Unicode `White_Space` property.  It is
  fixed by the standard and small, so it is spelled out as ranges: tabs, line ends, the space, and
  the spaces of other scripts belong to it, the zero-width space and the byte order mark do not.
  `trim` drops blanks at both ends and keeps those inside.

Every walk over a text hands its result along in an accumulator, so that long texts need no stack.
-/

namespace ParseTree.Text

/-! ## Sizes -/

/-- The number of bytes of a text in UTF-8. -/
def byteSize (s : List Char) : Nat :=
  s.foldl (fun bytes c => bytes + c.utf8Size) 0

/-! ## Lines -/

/-- `cutLines` with the line under way and the lines before it, both reversed. -/
def cutLinesFrom (line : List Char) (done : List (List Char)) : List Char → List (List Char)
  | [] => (if line.isEmpty then done else line.reverse :: done).reverse
  | c :: rest =>
    if c = '\n' then cutLinesFrom [] ((c :: line).reverse :: done) rest
    else cutLinesFrom (c :: line) done rest

/-- The pieces of a text, cut after each line feed.  No piece is empty. -/
def cutLines (s : List Char) : List (List Char) :=
  cutLinesFrom [] [] s

/-- The offset at which the line with this index begins, for a text whose first character stands at
`offset`. -/
def lineStartFrom? (offset : Nat) : Nat → List Char → Option Nat
  | 0, _ => some offset
  | _ + 1, [] => none
  | line + 1, c :: rest =>
    lineStartFrom? (offset + c.utf8Size) (if c = '\n' then line else line + 1) rest

/-- The offset at which a line begins, if there is such a line; the first line has index 0. -/
def lineStart? (line : Nat) (s : List Char) : Option Nat :=
  lineStartFrom? 0 line s

/-! ## Coordinates -/

/-- A line, counted from 1, and a column, the number of bytes before the place on its line. -/
structure Coordinates where
  line : Nat
  column : Nat
deriving Repr, DecidableEq

/-- `lineColumn` for a text whose first character stands on `line`, `column` bytes into it. -/
def lineColumnFrom (line column : Nat) : Nat → List Char → Coordinates
  | 0, _ => ⟨line, column⟩
  | bytes, [] => ⟨line, column + bytes⟩
  | bytes + 1, c :: rest =>
    if c = '\n' then lineColumnFrom (line + 1) 0 bytes rest
    else if bytes + 1 < c.utf8Size then ⟨line, column + bytes + 1⟩
    else lineColumnFrom line (column + c.utf8Size) (bytes + 1 - c.utf8Size) rest

/-- The coordinates of a byte offset; it may fall between the bytes of one character. -/
def lineColumn (offset : Nat) (s : List Char) : Coordinates :=
  lineColumnFrom 1 0 offset s

/-! ## Blanks -/

/-- Whether a character has the `White_Space` property. -/
def isBlank (c : Char) : Bool :=
  let n := c.toNat
  (0x09 ≤ n && n ≤ 0x0D) || n == 0x20 || n == 0x85 || n == 0xA0 || n == 0x1680 ||
    (0x2000 ≤ n && n ≤ 0x200A) || n == 0x2028 || n == 0x2029 || n == 0x202F || n == 0x205F ||
    n == 0x3000

/-- Drops the characters at the end that satisfy `p`. -/
def dropEndWhile (p : Char → Bool) (s : List Char) : List Char :=
  (s.reverse.dropWhile p).reverse

/-- Drops blanks at both ends. -/
def trim (s : List Char) : List Char :=
  dropEndWhile isBlank (s.dropWhile isBlank)

end ParseTree.Text
