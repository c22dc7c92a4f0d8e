import ParseTree.Json.Value

/-!
# Values of a certain type

Readers for the places of a document that call for a value of a certain type: a string, an integer
of a certain range, the next key of an object.

* **Wrong types** — a value of another type is told by what it is, unless it is itself at fault.
  Lists and objects are told by their first character.
* **Late faults** — some faults are noticed only when an object or a list has been read as far as it
  goes.  They are placed where an attempt to close the bracket would stop: `closingPlace`.
-/

namespace ParseTree.Json

/-! ## Scalars -/

/-- Where an attempt to close a bracket would stop. -/
def closingPlace (bracket : Bracket) (s : List Char) : Place :=
  match bracket, skipBlanks s with
  | _, [] => ⟨[], 0⟩
  | .object, c :: rest => if c = '\x7d' then ⟨rest, 0⟩ else ⟨c :: rest, 0⟩
  | .list, c :: rest =>
    if c = ']' then ⟨rest, 0⟩
    else if c = ',' then ⟨skipBlanks rest, 0⟩
    else ⟨c :: rest, 0⟩

/-- The fault of a value of the wrong type.  Lists and objects are not read to be told. -/
def wrongType (expected : Expected) (s : List Char) : Fault :=
  match s with
  | '[' :: _ => .before (.wrongType .sequence expected) s
  | '\x7b' :: _ => .before (.wrongType .map expected) s
  | _ =>
    match readScalar s with
    | .error fault => fault
    | .ok (found, rest) => .before (.wrongType found expected) rest

/-- A string. -/
def readText (s : List Char) : Reading String :=
  match skipBlanks s with
  | [] => .error (.after .endInValue [])
  | c :: rest =>
    if c = '"' then readString rest else .error (wrongType .string (c :: rest))

/-- A range of integers, with the name that messages give it. -/
structure IntegerType where
  low : Int
  high : Int
  name : Expected
deriving Repr, DecidableEq

/-- Signed integers of 32 bits. -/
def int32 : IntegerType := ⟨-2147483648, 2147483647, .i32⟩

/-- Unsigned integers of 32 bits. -/
def uint32 : IntegerType := ⟨0, 4294967295, .u32⟩

/-- The integer that a value is, if it lies in the range. -/
def IntegerType.check (type : IntegerType) : Datum → Except Cause Int
  | .integer value =>
    if type.low ≤ value ∧ value ≤ type.high then .ok value else .error (.wrongValue value type.name)
  | found => .error (.wrongType found type.name)

/-- An integer of the range. -/
def readInteger (type : IntegerType) (s : List Char) : Reading Int :=
  match skipBlanks s with
  | [] => .error (.after .endInValue [])
  | c :: rest =>
    if c = '-' ∨ c.isDigit then
      match readNumber (c :: rest) with
      | .error fault => .error fault
      | .ok (found, rest) =>
        match type.check found with
        | .error cause => .error (.before cause rest)
        | .ok value => .ok (value, rest)
    else .error (wrongType type.name (c :: rest))

/-! ## Objects -/

/-- The next key of an object, or nothing where the object ends. -/
def readKey (first : Bool) (s : List Char) : Reading (Option String) :=
  match skipBlanks s with
  | [] => .error (.after .endInObject [])
  | c :: rest =>
    if c = '\x7d' then .ok (none, rest)
    else if first then
      if c = '"' then (readString rest).map fun r => (some r.1, r.2)
      else .error (.after .keyNotString (c :: rest))
    else if c = ',' then
      match skipBlanks rest with
      | [] => .error (.after .endInValue [])
      | c :: rest =>
        if c = '\x7d' then .error (.after .trailingComma (c :: rest))
        else if c = '"' then (readString rest).map fun r => (some r.1, r.2)
        else .error (.after .keyNotString (c :: rest))
    else .error (.after .noObjectNext (c :: rest))

/-! ## Progress -/

theorem readText_length_lt {s r : List Char} {t : String} (h : readText s = .ok (t, r)) :
    r.length < s.length := by
  unfold readText at h
  split at h
  · cases h
  · next c rest hskip =>
    split at h
    · exact Nat.lt_trans (readString_length_lt h) (length_lt_of_skipBlanks hskip)
    · cases h

theorem readInteger_length_lt {type : IntegerType} {s r : List Char} {n : Int}
    (h : readInteger type s = .ok (n, r)) : r.length < s.length := by
  unfold readInteger at h
  split at h
  · cases h
  · next c rest hskip =>
    have hrest : rest.length < s.length := length_lt_of_skipBlanks hskip
    split at h
    · split at h
      · cases h
      · next hnumber =>
        split at h
        · cases h
        · cases h
          exact Nat.lt_of_lt_of_le (readNumber_length_lt hnumber) hrest
    · cases h

/-- A quoted key leaves a shorter rest. -/
theorem readString_map_length_lt {s r : List Char} {key : Option String}
    (h : ((readString s).map fun r => (some r.1, r.2)) = .ok (key, r)) : r.length < s.length := by
  obtain ⟨⟨text, rest⟩, hstring, hrest⟩ := exists_of_map_ok h
  cases hrest
  exact readString_length_lt hstring

theorem readKey_length_lt {first : Bool} {s r : List Char} {key : Option String}
    (h : readKey first s = .ok (key, r)) : r.length < s.length := by
  unfold readKey at h
  split at h
  · cases h
  · next c rest hskip =>
    have hrest : rest.length < s.length := length_lt_of_skipBlanks hskip
    split at h
    · cases h
      exact hrest
    · split at h
      · split at h
        · exact Nat.lt_trans (readString_map_length_lt h) hrest
        · cases h
      · split at h
        · split at h
          · cases h
          · next c' left hskip' =>
            have hleft : left.length < rest.length := length_lt_of_skipBlanks hskip'
            split at h
            · cases h
            · split at h
              · exact Nat.lt_trans (readString_map_length_lt h) (Nat.lt_trans hleft hrest)
              · cases h
        · cases h

end ParseTree.Json
