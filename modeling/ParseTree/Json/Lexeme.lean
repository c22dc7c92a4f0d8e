import ParseTree.Json.Fault

/-!
# Lexical elements of a document

Readers for what a document is made of: blanks, words, strings and numbers.  A reader takes the rest
of the text and gives back what it read with what is left.

* **Strings** are read in two ways.  `readString` gives their text and checks surrogate pairs;
  `skipString` passes over them, which is all that a value nobody asks for needs.
* **Numbers** are cut out as a `Numeral` first; `Numeral.datum?` then says what number it is.

For each reader a lemma says that the rest is shorter than what it was given.  The loops that use
them end for that reason.
-/

namespace ParseTree.Json

/-! ## Blanks and words -/

/-- White space between lexical elements. -/
def isBlank (c : Char) : Bool :=
  c == ' ' || c == '\n' || c == '\t' || c == '\r'

/-- The text from the first character that is not blank. -/
def skipBlanks (s : List Char) : List Char :=
  s.dropWhile isBlank

theorem skipBlanks_length_le (s : List Char) : (skipBlanks s).length ≤ s.length :=
  (List.dropWhile_suffix isBlank).length_le

theorem length_lt_of_skipBlanks {s rest : List Char} {c : Char} (h : skipBlanks s = c :: rest) :
    rest.length < s.length := by
  have hle := skipBlanks_length_le s
  rw [h] at hle
  exact hle

/-- Passes over the letters of a word. -/
def readWord : List Char → List Char → Except Fault (List Char)
  | [], s => .ok s
  | _ :: _, [] => .error (.before .endInValue [])
  | w :: word, c :: s =>
    if c = w then readWord word s else .error (.after .badWord (c :: s))

theorem readWord_length_le {word s r : List Char} (h : readWord word s = .ok r) :
    r.length ≤ s.length := by
  fun_induction readWord word s with
  | case1 s =>
    cases h
    exact Nat.le_refl _
  | case2 => cases h
  | case3 word w s ih => exact Nat.le_succ_of_le (ih h)
  | case4 => cases h

/-! ## Escapes -/

/-- The value of a hexadecimal digit. -/
def hexValue? (c : Char) : Option Nat :=
  if '0' ≤ c ∧ c ≤ '9' then some (c.toNat - '0'.toNat)
  else if 'a' ≤ c ∧ c ≤ 'f' then some (c.toNat - 'a'.toNat + 10)
  else if 'A' ≤ c ∧ c ≤ 'F' then some (c.toNat - 'A'.toNat + 10)
  else none

/-- The fault of a text that does not begin with four hexadecimal digits.  Four bytes are taken
before they are looked at. -/
def hexFault (s : List Char) : Fault :=
  if Text.byteSize (s.take 4) < 4 then .before .endInString []
  else ⟨.badEscape, some ⟨s, 4⟩⟩

/-- Four hexadecimal digits. -/
def readHex (s : List Char) : Reading Nat :=
  match s with
  | a :: b :: c :: d :: rest =>
    match hexValue? a, hexValue? b, hexValue? c, hexValue? d with
    | some a, some b, some c, some d => .ok (((a * 16 + b) * 16 + c) * 16 + d, rest)
    | _, _, _, _ => .error (hexFault s)
  | _ => .error (hexFault s)

theorem readHex_length_lt {s : List Char} {n : Nat} {r : List Char} (h : readHex s = .ok (n, r)) :
    r.length < s.length := by
  unfold readHex at h
  split at h
  · next a b c d _ =>
    split at h
    · cases h
      have hdigits : (a :: b :: c :: d :: r).length = r.length + 4 := rfl
      exact hdigits ▸ Nat.lt_add_of_pos_right (by decide)
    · cases h
  · cases h

/-- The letter after a backslash that stands for one character. -/
def simpleEscape? (c : Char) : Option Char :=
  if c = '"' then some '"'
  else if c = '\\' then some '\\'
  else if c = '/' then some '/'
  else if c = 'b' then some '\x08'
  else if c = 'f' then some '\x0c'
  else if c = 'n' then some '\n'
  else if c = 'r' then some '\r'
  else if c = 't' then some '\t'
  else none

/-- Whether a code unit is the first half of a surrogate pair. -/
def isHighSurrogate (n : Nat) : Bool := 0xD800 ≤ n && n ≤ 0xDBFF

/-- Whether a code unit is the second half of a surrogate pair. -/
def isLowSurrogate (n : Nat) : Bool := 0xDC00 ≤ n && n ≤ 0xDFFF

/-- Passes over one character of the escape that must follow the first half of a surrogate pair. -/
def readMark (mark : Char) : List Char → Except Fault (List Char)
  | [] => .error (.before .endInString [])
  | c :: rest => if c = mark then .ok rest else .error (.after .brokenSurrogate (c :: rest))

/-- The character whose first half is `high`. -/
def readLowSurrogate (high : Nat) (s : List Char) : Reading Char :=
  match (readMark '\\' s).bind (readMark 'u') with
  | .error fault => .error fault
  | .ok rest =>
    match readHex rest with
    | .error fault => .error fault
    | .ok (low, rest) =>
      if isLowSurrogate low then
        .ok (Char.ofNat (0x10000 + (high - 0xD800) * 0x400 + (low - 0xDC00)), rest)
      else .error (.before .loneSurrogate rest)

/-- The character that an escape stands for, after its backslash. -/
def readEscape (s : List Char) : Reading Char :=
  match s with
  | [] => .error (.before .endInString [])
  | c :: rest =>
    match simpleEscape? c with
    | some character => .ok (character, rest)
    | none =>
      if c = 'u' then
        match readHex rest with
        | .error fault => .error fault
        | .ok (n, rest) =>
          if isLowSurrogate n then .error (.before .loneSurrogate rest)
          else if isHighSurrogate n then readLowSurrogate n rest
          else .ok (Char.ofNat n, rest)
      else .error (.after .badEscape s)

theorem readMark_length_lt {mark : Char} {s r : List Char} (h : readMark mark s = .ok r) :
    r.length < s.length := by
  unfold readMark at h
  split at h
  · cases h
  · split at h
    · cases h
      exact Nat.lt_succ_self _
    · cases h

theorem readLowSurrogate_length_lt {high : Nat} {s r : List Char} {c : Char}
    (h : readLowSurrogate high s = .ok (c, r)) : r.length < s.length := by
  unfold readLowSurrogate at h
  split at h
  · cases h
  · next rest hmarks =>
    obtain ⟨between, hfirst, hsecond⟩ := exists_of_bind_ok hmarks
    have hrest : rest.length < s.length :=
      Nat.lt_trans (readMark_length_lt hsecond) (readMark_length_lt hfirst)
    split at h
    · cases h
    · next low left hhex =>
      have hleft : left.length < rest.length := readHex_length_lt hhex
      split at h
      · obtain rfl := (Prod.mk.inj (Except.ok.inj h)).2
        exact Nat.lt_trans hleft hrest
      · cases h

theorem readEscape_length_lt {s r : List Char} {c : Char} (h : readEscape s = .ok (c, r)) :
    r.length < s.length := by
  unfold readEscape at h
  split at h
  · cases h
  · next letter rest =>
    split at h
    · cases h
      exact Nat.lt_succ_self _
    · split at h
      · split at h
        · cases h
        · next n left hhex =>
          have hleft : left.length < rest.length := readHex_length_lt hhex
          split at h
          · cases h
          · split at h
            · have hlow : r.length < left.length := readLowSurrogate_length_lt h
              exact Nat.lt_succ_of_lt (Nat.lt_trans hlow hleft)
            · cases h
              exact Nat.lt_succ_of_lt hleft
      · cases h

/-! ## Strings -/

/-- The rest of a string up to its closing quote; the characters before are handed along in
reverse. -/
def readStringFrom (done : List Char) (s : List Char) : Reading String :=
  match s with
  | [] => .error (.before .endInString [])
  | c :: rest =>
    if c = '"' then .ok (String.ofList done.reverse, rest)
    else if c.toNat < 0x20 then .error (.after .controlCharacter s)
    else if c = '\\' then
      match _h : readEscape rest with
      | .error fault => .error fault
      | .ok (character, rest) => readStringFrom (character :: done) rest
    else readStringFrom (c :: done) rest
termination_by s.length
decreasing_by
  · exact Nat.lt_succ_of_lt (readEscape_length_lt _h)
  · exact Nat.lt_succ_self _

/-- A string after its opening quote. -/
def readString (s : List Char) : Reading String :=
  readStringFrom [] s

theorem readStringFrom_length_lt {done s r : List Char} {t : String}
    (h : readStringFrom done s = .ok (t, r)) : r.length < s.length := by
  fun_induction readStringFrom done s with
  | case1 => cases h
  | case2 =>
    cases h
    exact Nat.lt_succ_self _
  | case3 => cases h
  | case4 => cases h
  | case5 done rest character tail hescape _ _ ih =>
    have htail : tail.length < rest.length := readEscape_length_lt hescape
    exact Nat.lt_succ_of_lt (Nat.lt_trans (ih h) htail)
  | case6 done c rest _ _ _ ih => exact Nat.lt_succ_of_lt (ih h)

theorem readString_length_lt {s r : List Char} {t : String} (h : readString s = .ok (t, r)) :
    r.length < s.length :=
  readStringFrom_length_lt h

/-- Passes over an escape, after its backslash.  Surrogates are not looked at. -/
def skipEscape (s : List Char) : Except Fault (List Char) :=
  match s with
  | [] => .error (.before .endInString [])
  | c :: rest =>
    if (simpleEscape? c).isSome then .ok rest
    else if c = 'u' then
      match readHex rest with
      | .error fault => .error fault
      | .ok (_, rest) => .ok rest
    else .error (.after .badEscape s)

theorem skipEscape_length_lt {s r : List Char} (h : skipEscape s = .ok r) :
    r.length < s.length := by
  unfold skipEscape at h
  split at h
  · cases h
  · split at h
    · cases h
      exact Nat.lt_succ_self _
    · split at h
      · split at h
        · cases h
        · next hhex =>
          cases h
          exact Nat.lt_succ_of_lt (readHex_length_lt hhex)
      · cases h

/-- Passes over a string, after its opening quote. -/
def skipString (s : List Char) : Except Fault (List Char) :=
  match s with
  | [] => .error (.before .endInString [])
  | c :: rest =>
    if c = '"' then .ok rest
    else if c.toNat < 0x20 then .error (.before .controlCharacter s)
    else if c = '\\' then
      match _h : skipEscape rest with
      | .error fault => .error fault
      | .ok rest => skipString rest
    else skipString rest
termination_by s.length
decreasing_by
  · exact Nat.lt_succ_of_lt (skipEscape_length_lt _h)
  · exact Nat.lt_succ_self _

theorem skipString_length_lt {s r : List Char} (h : skipString s = .ok r) :
    r.length < s.length := by
  fun_induction skipString s with
  | case1 => cases h
  | case2 =>
    cases h
    exact Nat.lt_succ_self _
  | case3 => cases h
  | case4 => cases h
  | case5 rest tail hescape _ _ ih =>
    have htail : tail.length < rest.length := skipEscape_length_lt hescape
    exact Nat.lt_succ_of_lt (Nat.lt_trans (ih h) htail)
  | case6 c rest _ _ _ ih => exact Nat.lt_succ_of_lt (ih h)

end ParseTree.Json
