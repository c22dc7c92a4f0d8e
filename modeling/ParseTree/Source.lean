import ParseTree.Text.Lines

/-!
# Source files

A file that was read, and the ranges of its text that messages point at.  Ranges are told in bytes
and begin and end between characters.
-/

namespace ParseTree

/-- The bytes from `start` up to, and not including, `stop`. -/
structure ByteRange where
  start : Nat
  stop : Nat
deriving Repr, DecidableEq

/-- A file with its text. -/
structure SourceFile where
  path : String
  text : String
deriving Repr, DecidableEq

namespace Text

/-- The range of the character that contains the byte `bytes` further on, for a text whose first
character stands at `offset`.  Past the end it is the empty range there. -/
def charRangeFrom (offset bytes : Nat) : List Char → ByteRange
  | [] => ⟨offset, offset⟩
  | c :: rest =>
    if bytes < c.utf8Size then ⟨offset, offset + c.utf8Size⟩
    else charRangeFrom (offset + c.utf8Size) (bytes - c.utf8Size) rest

/-- The range of the character at a line and a column, both counted from 1; 0 counts as 1.  The
column counts bytes and may go past the end of the line.  What lies past the end of the text, and
what lies on a line that the text does not have, is the empty range at its end. -/
def charRange (line column : Nat) (s : List Char) : ByteRange :=
  match lineStart? (line - 1) s with
  | some start => charRangeFrom 0 (start + (column - 1)) s
  | none => ⟨byteSize s, byteSize s⟩

/-- `slice` for a text whose first character stands at `offset`; the characters taken before are
handed along in reverse. -/
def sliceFrom (r : ByteRange) (offset : Nat) (done : List Char) : List Char → List Char
  | [] => done.reverse
  | c :: rest =>
    if offset < r.start then sliceFrom r (offset + c.utf8Size) done rest
    else if offset < r.stop then sliceFrom r (offset + c.utf8Size) (c :: done) rest
    else done.reverse

/-- The characters of a text that begin in a range of bytes. -/
def slice (r : ByteRange) (s : List Char) : List Char :=
  sliceFrom r 0 [] s

end Text

/-- The range of the character at a line and a column of a file. -/
def SourceFile.charRange (f : SourceFile) (line column : Nat) : ByteRange :=
  Text.charRange line column f.text.toList

end ParseTree
