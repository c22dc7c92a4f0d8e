import ParseTree.Text.Lines
import ParseTree.Vocabulary.Value

/-!
# Token tables

A table lists token names with their kinds in the order of declaration.  Its text form has one
definition `NAME=VALUE` a line; the name may be a symbol or a quoted literal, and literals may hold
the equals sign, so a line is divided at its last one.

* **A line** — `readLine` reads one line without its terminator.  Blank lines define nothing.
* **A text** — `Table.parse` reads line after line and stops at the first that is at fault, which it
  reports with its number and its byte range.
-/

namespace ParseTree

/-- One definition: a name and its kind. -/
structure Entry where
  name : String
  kind : Kind
deriving Repr, DecidableEq

/-- Definitions in the order of declaration. -/
structure Table where
  entries : List Entry := []
deriving Repr, DecidableEq

/-! ## Faults -/

/-- Why a line is no definition. -/
inductive LineFault
  /-- The line has no equals sign. -/
  | noEquals (line : String)
  /-- Nothing but blanks stands before the equals sign. -/
  | missingName
  /-- What stands after the equals sign is no value. -/
  | badValue (name : String) (fault : ValueFault)
  /-- The value exceeds the largest kind. -/
  | aboveMax (name : String) (kind : Kind)
deriving Repr, DecidableEq

/-- The wording of a fault. -/
def LineFault.message : LineFault → String
  | .noEquals line => "expected `NAME=VALUE`, found `" ++ line ++ "`"
  | .missingName => "missing token name"
  | .badValue name fault => "invalid value for `" ++ name ++ "`: " ++ fault.message
  | .aboveMax name kind =>
    "value for `" ++ name ++ "` is out of range: " ++ kind.text ++ " > " ++ maxKind.text

/-- A line of a table that cannot be read. -/
structure TableError where
  /-- The number of the line, from 1. -/
  line : Nat
  /-- The byte offset at which the line begins. -/
  start : Nat
  /-- The byte offset at which it ends, its terminator left out. -/
  stop : Nat
  fault : LineFault
deriving Repr, DecidableEq

/-- The wording of an error, with the number of its line. -/
def TableError.message (e : TableError) : String :=
  "line " ++ e.line.repr ++ ": " ++ e.fault.message

/-! ## Reading -/

/-- The parts of a list before and after the last `sep`. -/
def splitLast? (sep : Char) (s : List Char) : Option (List Char × List Char) :=
  match s.reverse.span (· != sep) with
  | (_, []) => none
  | (after, _ :: before) => some (before.reverse, after.reverse)

/-- A line without the carriage returns and line feeds at its end. -/
def dropLineEnd (line : List Char) : List Char :=
  Text.dropEndWhile (fun c => c == '\n' || c == '\r') line

/-- The definition on a line without its terminator, or nothing if the line is blank. -/
def readLine (line : List Char) : Except LineFault (Option Entry) :=
  if line.all Text.isBlank then .ok none
  else
    match splitLast? '=' line with
    | none => .error (.noEquals (String.ofList line))
    | some (left, right) =>
      let name := Text.trim left
      if name.isEmpty then .error .missingName
      else
        match readValue (Text.trim right) with
        | .error fault => .error (.badValue (String.ofList name) fault)
        | .ok value =>
          let kind : Kind := Int32.ofInt value
          if maxKind < kind then .error (.aboveMax (String.ofList name) kind)
          else .ok (some ⟨String.ofList name, kind⟩)

/-- Reads lines, the first of which has number `number` and begins at `offset`.  The entries read
before are handed along in reverse. -/
def readLines (number offset : Nat) (done : List Entry) : List (List Char) → Except TableError Table
  | [] => .ok ⟨done.reverse⟩
  | raw :: rest =>
    let line := dropLineEnd raw
    match readLine line with
    | .error fault => .error ⟨number, offset, offset + Text.byteSize line, fault⟩
    | .ok none => readLines (number + 1) (offset + Text.byteSize raw) done rest
    | .ok (some entry) => readLines (number + 1) (offset + Text.byteSize raw) (entry :: done) rest

/-- Reads the text form of a table. -/
def Table.parse (text : String) : Except TableError Table :=
  readLines 1 0 [] (Text.cutLines text.toList)

end ParseTree
