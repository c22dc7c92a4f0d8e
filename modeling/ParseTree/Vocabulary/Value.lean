/-!
# Kinds and the values of token definitions

A kind is the number by which a lexer tells one sort of token from another.  It is a signed 32-bit
integer: the end of input has a negative kind, and no declared kind exceeds `maxKind`.

The value of a definition is such an integer in decimal: at most one sign, then digits.  Leading
zeros are allowed, other scripts' digits are not.

`readValue` scans from left to right and stops at the first fault.  A run of digits that has already
left the range is too large, or too small, whatever follows it; a character that is no digit is a
fault only if it comes first.
-/

namespace ParseTree

/-! ## Kinds -/

/-- The number of a sort of token. -/
abbrev Kind := Int32

/-- The largest kind that may be declared. -/
def maxKind : Kind := 65535

/-- A kind in decimal. -/
def Kind.text (k : Kind) : String :=
  match k.toInt with
  | .ofNat n => n.repr
  | .negSucc n => "-" ++ (n + 1).repr

theorem Kind.toInt_ofInt {n : Int} (hlow : -2147483648 ≤ n) (hhigh : n ≤ 2147483647) :
    (Int32.ofInt n).toInt = n :=
  Int32.toInt_ofInt_of_le hlow (Int.lt_add_one_of_le hhigh)

theorem maxKind_text : maxKind.text = "65535" := by decide +kernel

/-- The slot of a kind in a dense index.  Negative kinds have none. -/
def Kind.slot? (k : Kind) : Option Nat :=
  if 0 ≤ k.toInt then some k.toInt.toNat else none

/-! ## Values -/

/-- Why a text is no value. -/
inductive ValueFault
  | empty
  | invalidDigit
  | tooLarge
  | tooSmall
deriving Repr, DecidableEq

/-- The wording of a fault. -/
def ValueFault.message : ValueFault → String
  | .empty => "cannot parse integer from empty string"
  | .invalidDigit => "invalid digit found in string"
  | .tooLarge => "number too large to fit in target type"
  | .tooSmall => "number too small to fit in target type"

/-- A sign, with the range of magnitudes and the fault of leaving it. -/
inductive Sign
  | plus
  | minus
deriving Repr, DecidableEq

namespace Sign

/-- The largest magnitude of this sign in 32 bits. -/
def limit : Sign → Nat
  | .plus => 2147483647
  | .minus => 2147483648

/-- The fault of a magnitude past the limit. -/
def overflow : Sign → ValueFault
  | .plus => .tooLarge
  | .minus => .tooSmall

/-- A magnitude with this sign. -/
def apply : Sign → Nat → Int
  | .plus, n => n
  | .minus, n => -n

end Sign

/-- The magnitude that the digits denote after a run that denotes `soFar`. -/
def readMagnitude (sign : Sign) (soFar : Nat) : List Char → Except ValueFault Nat
  | [] => .ok soFar
  | c :: rest =>
    if c.isDigit then
      let next := 10 * soFar + (c.toNat - '0'.toNat)
      if next ≤ sign.limit then readMagnitude sign next rest else .error sign.overflow
    else .error .invalidDigit

/-- The digits after the sign; there must be one. -/
def readSigned (sign : Sign) : List Char → Except ValueFault Int
  | [] => .error .invalidDigit
  | digits => (readMagnitude sign 0 digits).map sign.apply

/-- The integer that a text denotes. -/
def readValue : List Char → Except ValueFault Int
  | [] => .error .empty
  | '+' :: digits => readSigned .plus digits
  | '-' :: digits => readSigned .minus digits
  | digits => readSigned .plus digits

end ParseTree
