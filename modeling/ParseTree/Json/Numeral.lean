import ParseTree.Json.Lexeme

/-!
# Numbers of a document

A number is cut out of the text as a `Numeral`, its digits in four parts, and `Numeral.datum?` says
what it denotes: an integer if it has neither fraction nor exponent and fits in 64 bits, and a
number in double precision otherwise.  Negative zero is of the second sort, since no integer is it.

A number of the second sort is found in two steps.  Its digits are taken up as a natural number
while it fits in 64 bits, and the result is scaled by the power of ten that is left.  Both steps
round, so a number with many digits or a large exponent need not be the nearest one to what is
written.

`readNumeral` is told what to blame when the text ends inside a number, because a number that is
passed over and one that is read give different causes.
-/

namespace ParseTree.Json

/-- A number as it is written. -/
structure Numeral where
  negative : Bool
  /-- The digits before the point. -/
  whole : List Char
  /-- The digits after the point, if there is one. -/
  fraction : Option (List Char)
  /-- The sign of the exponent and its digits, if there is one. -/
  exponent : Option (Bool × List Char)
deriving Repr, DecidableEq

/-! ## What a numeral denotes -/

namespace Numeral

/-- Takes up digits behind a natural number while it fits in 64 bits.  Gives the number and the
digits that are left. -/
def gather (value : Nat) : List Char → Nat × List Char
  | [] => (value, [])
  | d :: rest =>
    let next := Nat.ofDigitChars 10 [d] value
    if next < Nat.pow 2 64 then gather next rest else (value, d :: rest)

/-- The leading digits of a numeral as a natural number, and the power of ten that belongs to it,
the exponent left out.  A digit that is left before the point counts as a zero, and one after it not
at all. -/
def leading (n : Numeral) : Nat × Int :=
  let (value, wholeLeft) := gather 0 n.whole
  let fraction := n.fraction.getD []
  let (value, fractionLeft) := gather value fraction
  (value, (wholeLeft.length : Int) + fractionLeft.length - fraction.length)

/-- The exponent of a numeral. -/
def power (n : Numeral) : Int :=
  match n.exponent with
  | none => 0
  | some (false, digits) => Nat.ofDigitChars 10 digits 0
  | some (true, digits) => -Nat.ofDigitChars 10 digits 0

/-- The number in double precision that a numeral denotes, unless it is out of range. -/
def real? (n : Numeral) : Option Decimal.Binary64 :=
  let (value, shift) := n.leading
  match Decimal.Binary64.ofRatio? n.negative value 1 with
  | none => none
  | some x => x.scale? (shift + n.power)

/-- The integer that a numeral denotes, if it is written as one, fits in 64 bits and is not negative
zero. -/
def integer? (n : Numeral) : Option Int :=
  if n.fraction.isNone && n.exponent.isNone then
    let magnitude := Nat.ofDigitChars 10 n.whole 0
    if n.negative then
      if 0 < magnitude && magnitude ≤ Nat.pow 2 63 then some (-(magnitude : Int)) else none
    else if magnitude < Nat.pow 2 64 then some magnitude
    else none
  else none

/-- What a numeral denotes, unless it is out of range. -/
def datum? (n : Numeral) : Option Datum :=
  match n.integer? with
  | some value => some (.integer value)
  | none => n.real?.map .real

/-- The digits behind the one with which a natural number exceeds `limit`. -/
def behind (limit value : Nat) : List Char → List Char
  | [] => []
  | d :: rest =>
    let next := Nat.ofDigitChars 10 [d] value
    if limit < next then rest else behind limit next rest

/-- The digits at the end of a numeral that do not matter once it is known to be out of range: those
behind the one with which the exponent exceeds 31 bits. -/
def unread (n : Numeral) : List Char :=
  match n.exponent with
  | none => []
  | some (_, digits) => behind (Nat.pow 2 31 - 1) 0 digits

end Numeral

/-! ## Cutting out a numeral -/

/-- The digits at the front of a text, and the rest. -/
def spanDigits (s : List Char) : List Char × List Char :=
  (s.takeWhile Char.isDigit, s.dropWhile Char.isDigit)

theorem spanDigits_length_le (s : List Char) : (spanDigits s).2.length ≤ s.length :=
  (List.dropWhile_suffix Char.isDigit).length_le

/-- The digits before the point.  Zero is not followed by more digits. -/
def readWhole (atEnd : Cause) : List Char → Reading (List Char)
  | [] => .error (.before atEnd [])
  | c :: rest =>
    if c = '0' then
      match rest with
      | d :: _ => if d.isDigit then .error (.after .badNumber rest) else .ok ([c], rest)
      | [] => .ok ([c], rest)
    else if c.isDigit then .ok (c :: (spanDigits rest).1, (spanDigits rest).2)
    else .error (.after .badNumber (c :: rest))

/-- The point and the digits after it, if there is a point.  At least one digit must follow. -/
def readFraction (atEnd : Cause) : List Char → Reading (Option (List Char))
  | '.' :: rest =>
    match spanDigits rest with
    | ([], tail) => .error (.after (if tail.isEmpty then atEnd else .badNumber) tail)
    | (digits, tail) => .ok (some digits, tail)
  | s => .ok (none, s)

/-- The sign of an exponent; without one it is positive. -/
def readExponentSign : List Char → Bool × List Char
  | '+' :: rest => (false, rest)
  | '-' :: rest => (true, rest)
  | s => (false, s)

/-- The exponent, if there is one.  At least one digit must follow its sign. -/
def readExponent (atEnd : Cause) : List Char → Reading (Option (Bool × List Char))
  | [] => .ok (none, [])
  | c :: rest =>
    if c = 'e' ∨ c = 'E' then
      match readExponentSign rest with
      | (_, []) => .error (.before atEnd [])
      | (negative, d :: tail) =>
        if d.isDigit then .ok (some (negative, d :: (spanDigits tail).1), (spanDigits tail).2)
        else .error (.after .badNumber (d :: tail))
    else .ok (none, c :: rest)

/-- The parts of a number after its sign. -/
def readUnsigned (atEnd : Cause) (negative : Bool) (s : List Char) : Reading Numeral :=
  match readWhole atEnd s with
  | .error fault => .error fault
  | .ok (whole, s) =>
    match readFraction atEnd s with
    | .error fault => .error fault
    | .ok (fraction, s) =>
      match readExponent atEnd s with
      | .error fault => .error fault
      | .ok (exponent, s) => .ok (⟨negative, whole, fraction, exponent⟩, s)

/-- A number at the front of a text; `atEnd` is the cause if the text ends inside it. -/
def readNumeral (atEnd : Cause) : List Char → Reading Numeral
  | '-' :: rest => readUnsigned atEnd true rest
  | s => readUnsigned atEnd false s

/-- A number at the front of a text, and what it denotes.  One that is out of range is a fault at
the digit that shows it. -/
def readNumber (s : List Char) : Reading Datum :=
  match readNumeral .endInValue s with
  | .error fault => .error fault
  | .ok (numeral, rest) =>
    match numeral.datum? with
    | some datum => .ok (datum, rest)
    | none => .error (.before .numberOutOfRange (numeral.unread ++ rest))

/-! ## Progress -/

theorem readWhole_length_lt {atEnd : Cause} {s r w : List Char}
    (h : readWhole atEnd s = .ok (w, r)) : r.length < s.length := by
  unfold readWhole at h
  split at h
  · cases h
  · next c rest =>
    split at h
    · split at h
      · split at h
        · cases h
        · cases h
          exact Nat.lt_succ_self _
      · cases h
        exact Nat.lt_succ_self _
    · split at h
      · cases h
        exact Nat.lt_succ_of_le (spanDigits_length_le rest)
      · cases h

theorem readFraction_length_le {atEnd : Cause} {s r : List Char} {f : Option (List Char)}
    (h : readFraction atEnd s = .ok (f, r)) : r.length ≤ s.length := by
  unfold readFraction at h
  split at h
  · next rest =>
    have hspan := spanDigits_length_le rest
    split at h
    · cases h
    · next digits tail _ hdigits =>
      cases h
      rw [hdigits] at hspan
      exact Nat.le_succ_of_le hspan
  · cases h
    exact Nat.le_refl _

theorem readExponentSign_length_le (s : List Char) : (readExponentSign s).2.length ≤ s.length := by
  unfold readExponentSign
  split <;> simp

theorem readExponent_length_le {atEnd : Cause} {s r : List Char} {e : Option (Bool × List Char)}
    (h : readExponent atEnd s = .ok (e, r)) : r.length ≤ s.length := by
  unfold readExponent at h
  split at h
  · cases h
    exact Nat.le_refl _
  · next c rest =>
    have hsign := readExponentSign_length_le rest
    split at h
    · split at h
      · cases h
      · next negative d tail hsigned =>
        rw [hsigned] at hsign
        split at h
        · cases h
          have hdigits : (spanDigits tail).2.length ≤ rest.length :=
            Nat.le_trans (spanDigits_length_le tail) (Nat.le_of_succ_le hsign)
          exact Nat.le_succ_of_le hdigits
        · cases h
    · cases h
      exact Nat.le_refl _

theorem readUnsigned_length_lt {atEnd : Cause} {negative : Bool} {s r : List Char} {n : Numeral}
    (h : readUnsigned atEnd negative s = .ok (n, r)) : r.length < s.length := by
  unfold readUnsigned at h
  split at h
  · cases h
  · next whole afterWhole hwhole =>
    have hwhole' : afterWhole.length < s.length := readWhole_length_lt hwhole
    split at h
    · cases h
    · next fraction afterFraction hfraction =>
      have hfraction' : afterFraction.length ≤ afterWhole.length :=
        readFraction_length_le hfraction
      split at h
      · cases h
      · next hexponent =>
        cases h
        have hexponent' : r.length ≤ afterFraction.length := readExponent_length_le hexponent
        exact Nat.lt_of_le_of_lt (Nat.le_trans hexponent' hfraction') hwhole'

theorem readNumeral_length_lt {atEnd : Cause} {s r : List Char} {n : Numeral}
    (h : readNumeral atEnd s = .ok (n, r)) : r.length < s.length := by
  unfold readNumeral at h
  split at h
  · exact Nat.lt_succ_of_lt (readUnsigned_length_lt h)
  · exact readUnsigned_length_lt h

theorem readNumber_length_lt {s r : List Char} {d : Datum} (h : readNumber s = .ok (d, r)) :
    r.length < s.length := by
  unfold readNumber at h
  split at h
  · cases h
  · next hnumeral =>
    split at h
    · cases h
      exact readNumeral_length_lt hnumeral
    · cases h

end ParseTree.Json
