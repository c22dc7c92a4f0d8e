import ParseTree.Decimal.Shortest
import ParseTree.Text.Lines
import ParseTree.Text.Printable

/-!
# Faults in a document

What can be wrong with the JSON text of a tree, and where.

* **Causes** — a `Cause` says what was found or missed.  Its `category` tells a text that is cut
  short from one that is no JSON at all and from one that is JSON of the wrong shape.
* **Places** — readers work on the rest of the text, so a `Place` is told by the rest that was left
  when the fault was noticed and the number of its bytes that had been looked at.  Lines and columns
  are found afterwards, from the whole text.
* **Errors** — a `ReadError` is what a user of the library sees: a cause with its coordinates.
-/

namespace ParseTree.Json

/-! ## What is found and what is expected -/

/-- What a value is, as far as messages tell. -/
inductive Datum
  | null
  | boolean (value : Bool)
  | integer (value : Int)
  | real (value : Decimal.Binary64)
  | string (value : String)
  | sequence
  | map
deriving Repr, DecidableEq

/-- Numbers with a point or an exponent are written with a point from 10^-5 on and below 10^16, and
with an exponent otherwise. -/
def realSpelling : Decimal.Spelling := ⟨-5, 16⟩

/-- An integer in decimal. -/
def integerText : Int → String
  | .ofNat n => n.repr
  | .negSucc n => "-" ++ (n + 1).repr

/-- A value as messages show it. -/
def Datum.shown : Datum → String
  | .null => "null"
  | .boolean value => "boolean `" ++ (if value then "true" else "false") ++ "`"
  | .integer value => "integer `" ++ integerText value ++ "`"
  | .real value => "floating point `" ++ Decimal.spell realSpelling value ++ "`"
  | .string value => "string " ++ Text.quoted value
  | .sequence => "sequence"
  | .map => "map"

/-- What a place of a document calls for. -/
inductive Expected
  | i32
  | u32
  | string
  | sequence
  | token
  | rule
deriving Repr, DecidableEq

/-- The wording of an expectation. -/
def Expected.shown : Expected → String
  | .i32 => "i32"
  | .u32 => "u32"
  | .string => "a string"
  | .sequence => "a sequence"
  | .token => "struct RawToken"
  | .rule => "struct RawRule"

/-- The fields of tokens and rules. -/
inductive Field
  | kind
  | text
  | line
  | column
  | label
  | children
deriving Repr, DecidableEq

/-- The name of a field in a document. -/
def Field.name : Field → String
  | .kind => "kind"
  | .text => "text"
  | .line => "line"
  | .column => "column"
  | .label => "label"
  | .children => "children"

/-! ## Causes -/

/-- What is wrong. -/
inductive Cause
  /-- The text ends where a value stands or is called for. -/
  | endInValue
  | endInList
  | endInObject
  | endInString
  /-- A word that begins like `true`, `false` or `null` goes on otherwise. -/
  | badWord
  | noValue
  | noColon
  | noListNext
  | noObjectNext
  | trailingComma
  | trailingCharacters
  | keyNotString
  | controlCharacter
  | badEscape
  /-- One half of a surrogate pair stands alone. -/
  | loneSurrogate
  /-- The first half of a surrogate pair is not followed by an escape. -/
  | brokenSurrogate
  | badNumber
  /-- A number exceeds the range of double precision. -/
  | numberOutOfRange
  | wrongType (found : Datum) (expected : Expected)
  | wrongValue (found : Int) (expected : Expected)
  /-- A rule in list form has no label. -/
  | emptyRule
  | missingField (field : Field)
  | duplicateField (field : Field)
  /-- An object is keyed by something else than the two sorts of nodes. -/
  | unknownVariant (name : String)
  /-- The name of a sort of node stands alone. -/
  | bareVariant
deriving Repr, DecidableEq

/-- The wording of a cause. -/
def Cause.message : Cause → String
  | .endInValue => "EOF while parsing a value"
  | .endInList => "EOF while parsing a list"
  | .endInObject => "EOF while parsing an object"
  | .endInString => "EOF while parsing a string"
  | .badWord => "expected ident"
  | .noValue => "expected value"
  | .noColon => "expected `:`"
  | .noListNext => "expected `,` or `]`"
  | .noObjectNext => "expected `,` or `\x7d`"
  | .trailingComma => "trailing comma"
  | .trailingCharacters => "trailing characters"
  | .keyNotString => "key must be a string"
  | .controlCharacter => "control character (\\u0000-\\u001F) found while parsing a string"
  | .badEscape => "invalid escape"
  | .loneSurrogate => "lone leading surrogate in hex escape"
  | .brokenSurrogate => "unexpected end of hex escape"
  | .badNumber => "invalid number"
  | .numberOutOfRange => "number out of range"
  | .wrongType found expected => "invalid type: " ++ found.shown ++ ", expected " ++ expected.shown
  | .wrongValue found expected =>
    "invalid value: " ++ (Datum.integer found).shown ++ ", expected " ++ expected.shown
  | .emptyRule => "invalid length 0, expected struct RawRule with 2 elements"
  | .missingField field => "missing field `" ++ field.name ++ "`"
  | .duplicateField field => "duplicate field `" ++ field.name ++ "`"
  | .unknownVariant name => "unknown variant `" ++ name ++ "`, expected `token` or `rule`"
  | .bareVariant => "invalid type: unit variant, expected newtype variant"

/-- The sorts of causes. -/
inductive Category
  /-- The text ends too early. -/
  | eof
  /-- The text is no JSON. -/
  | grammar
  /-- The text is JSON, but not that of a tree. -/
  | data
deriving Repr, DecidableEq

/-- The name of a category. -/
def Category.name : Category → String
  | .eof => "Eof"
  | .grammar => "Syntax"
  | .data => "Data"

/-- The sort of a cause. -/
def Cause.category : Cause → Category
  | .endInValue | .endInList | .endInObject | .endInString => .eof
  | .wrongType .. | .wrongValue .. | .emptyRule | .missingField _ | .duplicateField _
  | .unknownVariant _ | .bareVariant => .data
  | _ => .grammar

/-! ## Places -/

/-- A place in a text: `past` bytes into the rest that was left to read. -/
structure Place where
  rest : List Char
  past : Nat := 0
deriving Repr, DecidableEq

/-- The byte offset of a place in the text it belongs to.  It never exceeds the text. -/
def Place.offset (p : Place) (text : List Char) : Nat :=
  min (Text.byteSize text) (Text.byteSize text - Text.byteSize p.rest + p.past)

/-- A cause with the place where it was noticed, if it has one. -/
structure Fault where
  cause : Cause
  place : Option Place
deriving Repr, DecidableEq

/-- A fault right before the rest. -/
def Fault.before (cause : Cause) (rest : List Char) : Fault :=
  ⟨cause, some ⟨rest, 0⟩⟩

/-- A fault after the first byte of the rest. -/
def Fault.after (cause : Cause) (rest : List Char) : Fault :=
  ⟨cause, some ⟨rest, 1⟩⟩

/-- The result of reading from the front of a text: a value and the rest, or a fault. -/
abbrev Reading (α : Type) := Except Fault (α × List Char)

theorem exists_of_map_ok {α β : Type} {x : Except Fault α} {f : α → β} {b : β}
    (h : x.map f = .ok b) : ∃ a, x = .ok a ∧ f a = b := by
  cases x with
  | error fault => cases h
  | ok a => exact ⟨a, rfl, Except.ok.inj h⟩

theorem exists_of_bind_ok {α β : Type} {x : Except Fault α} {f : α → Except Fault β} {b : β}
    (h : x.bind f = .ok b) : ∃ a, x = .ok a ∧ f a = .ok b := by
  cases x with
  | error fault => cases h
  | ok a => exact ⟨a, rfl, h⟩

/-! ## Errors -/

/-- Why a text is no tree. -/
structure ReadError where
  cause : Cause
  place : Option Text.Coordinates
deriving Repr, DecidableEq

/-- The error of a fault in a text. -/
def Fault.toError (f : Fault) (text : List Char) : ReadError :=
  ⟨f.cause, f.place.map fun p => Text.lineColumn (p.offset text) text⟩

namespace ReadError

/-- The line of an error, 0 if it has none. -/
def line (e : ReadError) : Nat :=
  match e.place with
  | some place => place.line
  | none => 0

/-- The column of an error, 0 if it has none. -/
def column (e : ReadError) : Nat :=
  match e.place with
  | some place => place.column
  | none => 0

/-- The wording of an error, with its coordinates. -/
def message (e : ReadError) : String :=
  match e.place with
  | some place =>
    e.cause.message ++ " at line " ++ place.line.repr ++ " column " ++ place.column.repr
  | none => e.cause.message

end ReadError

end ParseTree.Json
