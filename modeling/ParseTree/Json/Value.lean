import ParseTree.Json.Numeral

/-!
# Values of a document

Fields that a tree does not use may hold any value.  Nobody looks inside lists and objects, so all
that is told of a value is its `Datum`; but every part of it has to be well-formed, and the first
part that is not is the fault.

* **Two uses** — a value is either `kept`, because the field it belongs to is looked at later, or
  `skipped`.  A skipped value is read more leniently (surrogates and the size of numbers do not
  matter), and some faults are named differently.
* **Nesting** — the brackets that are open are kept in a list, so values of any depth can be read.
  Each step of `skim` passes over at least one character, which is why it ends.
-/

namespace ParseTree.Json

/-- What becomes of a value. -/
inductive Use
  | kept
  | skipped
deriving Repr, DecidableEq

/-! ## Scalars -/

/-- A value that is no list and no object. -/
def readScalar (s : List Char) : Reading Datum :=
  match s with
  | [] => .error (.after .endInValue [])
  | c :: rest =>
    if c = 'n' then (readWord ['u', 'l', 'l'] rest).map (.null, ·)
    else if c = 't' then (readWord ['r', 'u', 'e'] rest).map (.boolean true, ·)
    else if c = 'f' then (readWord ['a', 'l', 's', 'e'] rest).map (.boolean false, ·)
    else if c = '"' then (readString rest).map fun r => (.string r.1, r.2)
    else if c = '-' ∨ c.isDigit then readNumber s
    else .error (.after .noValue s)

/-- Passes over a value that is no list and no object. -/
def skipScalar (use : Use) (s : List Char) : Except Fault (List Char) :=
  match use, s with
  | .skipped, c :: rest =>
    if c = '"' then skipString rest
    else if c = '-' ∨ c.isDigit then (readNumeral .badNumber s).map (·.2)
    else (readScalar s).map (·.2)
  | _, s => (readScalar s).map (·.2)

/-! ## Brackets -/

/-- The two sorts of nesting. -/
inductive Bracket
  | list
  | object
deriving Repr, DecidableEq

/-- A stage of passing over a value. -/
structure Cursor where
  /-- Whether a value comes next; otherwise one has just ended. -/
  expecting : Bool
  /-- The brackets that are open, innermost first. -/
  opened : List Bracket
  rest : List Char
deriving Repr

/-- The colon between a key and its value. -/
def readColon (s : List Char) : Except Fault (List Char) :=
  match skipBlanks s with
  | [] => .error (.after .endInObject [])
  | c :: rest => if c = ':' then .ok rest else .error (.after .noColon (c :: rest))

/-- Passes over a key and its colon; `atEnd` is the cause if there is none. -/
def skipKey (use : Use) (atEnd : Cause) (s : List Char) : Except Fault (List Char) :=
  match s with
  | [] => .error (.after atEnd [])
  | c :: rest =>
    if c = '"' then
      match use with
      | .kept => (readString rest).bind fun r => readColon r.2
      | .skipped => (skipString rest).bind readColon
    else .error (.after .keyNotString s)

/-- What follows an opening bracket. -/
def enter (use : Use) (bracket : Bracket) (opened : List Bracket) (s : List Char) :
    Except Fault Cursor :=
  match bracket, skipBlanks s with
  | .list, [] => .error (.after .endInList [])
  | .list, c :: rest =>
    if c = ']' then .ok ⟨false, opened, rest⟩ else .ok ⟨true, .list :: opened, c :: rest⟩
  | .object, [] => .error (.after .endInObject [])
  | .object, c :: rest =>
    if c = '\x7d' then .ok ⟨false, opened, rest⟩
    else (skipKey use .endInObject (c :: rest)).map (⟨true, .object :: opened, ·⟩)

/-- What follows a comma. -/
def afterComma (use : Use) (bracket : Bracket) (opened : List Bracket) (s : List Char) :
    Except Fault Cursor :=
  match use, bracket, skipBlanks s with
  | .kept, .list, c :: rest =>
    if c = ']' then .error (.after .trailingComma (c :: rest))
    else .ok ⟨true, .list :: opened, c :: rest⟩
  | _, .list, s => .ok ⟨true, .list :: opened, s⟩
  | .kept, .object, c :: rest =>
    if c = '\x7d' then .error (.after .trailingComma (c :: rest))
    else (skipKey use .endInValue (c :: rest)).map (⟨true, .object :: opened, ·⟩)
  | .kept, .object, [] => .error (.after .endInValue [])
  | .skipped, .object, s => (skipKey use .endInObject s).map (⟨true, .object :: opened, ·⟩)

/-- What follows a value inside a bracket. -/
def afterValue (use : Use) (bracket : Bracket) (opened : List Bracket) (s : List Char) :
    Except Fault Cursor :=
  match bracket, skipBlanks s with
  | .list, [] => .error (.after .endInList [])
  | .list, c :: rest =>
    if c = ']' then .ok ⟨false, opened, rest⟩
    else if c = ',' then afterComma use .list opened rest
    else .error (.after .noListNext (c :: rest))
  | .object, [] => .error (.after .endInObject [])
  | .object, c :: rest =>
    if c = '\x7d' then .ok ⟨false, opened, rest⟩
    else if c = ',' then afterComma use .object opened rest
    else .error (.after .noObjectNext (c :: rest))

/-- The beginning of a value: a bracket, or a scalar as a whole. -/
def startValue (use : Use) (opened : List Bracket) (s : List Char) : Except Fault Cursor :=
  match skipBlanks s with
  | '[' :: rest => enter use .list opened rest
  | '\x7b' :: rest => enter use .object opened rest
  | s => (skipScalar use s).map (⟨false, opened, ·⟩)

/-! ## Progress -/

/-- A word leaves a rest that is no longer, whatever it stands for. -/
theorem readWord_map_length_le {word s r : List Char} {d d' : Datum}
    (h : (readWord word s).map (Prod.mk d') = .ok (d, r)) : r.length ≤ s.length := by
  obtain ⟨rest, hword, hrest⟩ := exists_of_map_ok h
  cases hrest
  exact readWord_length_le hword

theorem readScalar_length_lt {s r : List Char} {d : Datum} (h : readScalar s = .ok (d, r)) :
    r.length < s.length := by
  unfold readScalar at h
  split at h
  · cases h
  · next c rest =>
    split at h
    · exact Nat.lt_succ_of_le (readWord_map_length_le h)
    · split at h
      · exact Nat.lt_succ_of_le (readWord_map_length_le h)
      · split at h
        · exact Nat.lt_succ_of_le (readWord_map_length_le h)
        · split at h
          · obtain ⟨text, hstring, htext⟩ := exists_of_map_ok h
            cases htext
            exact Nat.lt_succ_of_lt (readString_length_lt hstring)
          · split at h
            · exact readNumber_length_lt h
            · cases h

theorem readScalar_map_length_lt {s r : List Char} (h : (readScalar s).map (·.2) = .ok r) :
    r.length < s.length := by
  obtain ⟨⟨d, rest⟩, hscalar, rfl⟩ := exists_of_map_ok h
  exact readScalar_length_lt hscalar

theorem skipScalar_length_lt {use : Use} {s r : List Char} (h : skipScalar use s = .ok r) :
    r.length < s.length := by
  unfold skipScalar at h
  split at h
  · next c rest =>
    split at h
    · exact Nat.lt_succ_of_lt (skipString_length_lt h)
    · split at h
      · obtain ⟨⟨n, left⟩, hnumeral, rfl⟩ := exists_of_map_ok h
        exact readNumeral_length_lt hnumeral
      · exact readScalar_map_length_lt h
  · exact readScalar_map_length_lt h

theorem readColon_length_lt {s r : List Char} (h : readColon s = .ok r) : r.length < s.length := by
  unfold readColon at h
  split at h
  · cases h
  · next c rest hskip =>
    split at h
    · cases h
      exact length_lt_of_skipBlanks hskip
    · cases h

/-- A colon and what follows it leave a shorter rest. -/
theorem readColon_bind_length_lt {α : Type} {read : List Char → Except Fault α} {s : List Char}
    {a : α} (rest : α → List Char)
    (hread : ∀ {t : List Char}, read t = .ok a → (rest a).length ≤ t.length)
    (h : (readColon s).bind read = .ok a) : (rest a).length < s.length := by
  obtain ⟨t, hcolon, hafter⟩ := exists_of_bind_ok h
  exact Nat.lt_of_le_of_lt (hread hafter) (readColon_length_lt hcolon)

theorem skipKey_length_lt {use : Use} {atEnd : Cause} {s r : List Char}
    (h : skipKey use atEnd s = .ok r) : r.length < s.length := by
  unfold skipKey at h
  split at h
  · cases h
  · next c rest =>
    split at h
    · split at h
      · obtain ⟨⟨key, left⟩, hstring, hcolon⟩ := exists_of_bind_ok h
        have hr : r.length < left.length := readColon_length_lt hcolon
        exact Nat.lt_succ_of_lt (Nat.lt_trans hr (readString_length_lt hstring))
      · obtain ⟨left, hstring, hcolon⟩ := exists_of_bind_ok h
        have hr : r.length < left.length := readColon_length_lt hcolon
        exact Nat.lt_succ_of_lt (Nat.lt_trans hr (skipString_length_lt hstring))
    · cases h

/-- A key leaves a shorter rest, whatever is opened or expected. -/
theorem skipKey_map_length_lt {use : Use} {atEnd : Cause} {s : List Char} {opened : List Bracket}
    {c : Cursor} (h : (skipKey use atEnd s).map (⟨true, opened, ·⟩) = .ok c) :
    c.rest.length < s.length := by
  obtain ⟨rest, hkey, rfl⟩ := exists_of_map_ok h
  exact skipKey_length_lt hkey

theorem enter_length_le {use : Use} {bracket : Bracket} {opened : List Bracket} {s : List Char}
    {c : Cursor} (h : enter use bracket opened s = .ok c) : c.rest.length ≤ s.length := by
  unfold enter at h
  split at h
  · cases h
  · next d rest hskip =>
    have hrest : rest.length < s.length := length_lt_of_skipBlanks hskip
    split at h
    · cases h
      exact Nat.le_of_lt hrest
    · cases h
      exact hrest
  · cases h
  · next d rest hskip =>
    have hrest : rest.length < s.length := length_lt_of_skipBlanks hskip
    split at h
    · cases h
      exact Nat.le_of_lt hrest
    · exact Nat.le_trans (Nat.le_of_lt (skipKey_map_length_lt h)) hrest

theorem afterComma_length_le {use : Use} {bracket : Bracket} {opened : List Bracket}
    {s : List Char} {c : Cursor} (h : afterComma use bracket opened s = .ok c) :
    c.rest.length ≤ s.length := by
  unfold afterComma at h
  split at h
  · next d rest hskip =>
    split at h
    · cases h
    · cases h
      exact length_lt_of_skipBlanks hskip
  · cases h
    exact skipBlanks_length_le s
  · next d rest hskip =>
    split at h
    · cases h
    · exact Nat.le_trans (Nat.le_of_lt (skipKey_map_length_lt h)) (length_lt_of_skipBlanks hskip)
  · cases h
  · exact Nat.le_trans (Nat.le_of_lt (skipKey_map_length_lt h)) (skipBlanks_length_le s)

theorem afterValue_length_lt {use : Use} {bracket : Bracket} {opened : List Bracket}
    {s : List Char} {c : Cursor} (h : afterValue use bracket opened s = .ok c) :
    c.rest.length < s.length := by
  unfold afterValue at h
  split at h
  · cases h
  · next d rest hskip =>
    have hrest : rest.length < s.length := length_lt_of_skipBlanks hskip
    split at h
    · cases h
      exact hrest
    · split at h
      · exact Nat.lt_of_le_of_lt (afterComma_length_le h) hrest
      · cases h
  · cases h
  · next d rest hskip =>
    have hrest : rest.length < s.length := length_lt_of_skipBlanks hskip
    split at h
    · cases h
      exact hrest
    · split at h
      · exact Nat.lt_of_le_of_lt (afterComma_length_le h) hrest
      · cases h

theorem startValue_length_lt {use : Use} {opened : List Bracket} {s : List Char} {c : Cursor}
    (h : startValue use opened s = .ok c) : c.rest.length < s.length := by
  unfold startValue at h
  split at h
  · next rest hskip =>
    exact Nat.lt_of_le_of_lt (enter_length_le h) (length_lt_of_skipBlanks hskip)
  · next rest hskip =>
    exact Nat.lt_of_le_of_lt (enter_length_le h) (length_lt_of_skipBlanks hskip)
  · obtain ⟨rest, hscalar, rfl⟩ := exists_of_map_ok h
    exact Nat.lt_of_lt_of_le (skipScalar_length_lt hscalar) (skipBlanks_length_le s)

/-! ## Whole values -/

/-- Passes over the rest of a value, to where no bracket is open and no value is expected. -/
def skim (use : Use) (c : Cursor) : Except Fault (List Char) :=
  match c with
  | ⟨false, [], rest⟩ => .ok rest
  | ⟨false, bracket :: opened, rest⟩ =>
    match _h : afterValue use bracket opened rest with
    | .error fault => .error fault
    | .ok c => skim use c
  | ⟨true, opened, rest⟩ =>
    match _h : startValue use opened rest with
    | .error fault => .error fault
    | .ok c => skim use c
termination_by c.rest.length
decreasing_by
  · exact afterValue_length_lt _h
  · exact startValue_length_lt _h

/-- A rest with no bracket open is never longer than what was skimmed. -/
theorem skim_length_le {use : Use} {c : Cursor} {r : List Char} (h : skim use c = .ok r) :
    r.length ≤ c.rest.length := by
  fun_induction skim use c with
  | case1 rest =>
    cases h
    exact Nat.le_refl _
  | case2 => cases h
  | case3 bracket opened rest c hstep ih =>
    exact Nat.le_of_lt (Nat.lt_of_le_of_lt (ih h) (afterValue_length_lt hstep))
  | case4 => cases h
  | case5 opened rest c hstep ih =>
    exact Nat.le_of_lt (Nat.lt_of_le_of_lt (ih h) (startValue_length_lt hstep))

/-- Passes over a value that nobody asks for. -/
def skipValue (s : List Char) : Except Fault (List Char) :=
  skim .skipped ⟨true, [], s⟩

/-- A value of any sort. -/
def readAny (s : List Char) : Reading Datum :=
  match skipBlanks s with
  | '[' :: _ => (skim .kept ⟨true, [], s⟩).map (.sequence, ·)
  | '\x7b' :: _ => (skim .kept ⟨true, [], s⟩).map (.map, ·)
  | s => readScalar s

theorem skipValue_length_le {s r : List Char} (h : skipValue s = .ok r) : r.length ≤ s.length :=
  skim_length_le h

/-- A list or an object leaves a rest that is no longer. -/
theorem skim_map_length_le {s r : List Char} {d d' : Datum}
    (h : (skim .kept ⟨true, [], s⟩).map (Prod.mk d') = .ok (d, r)) : r.length ≤ s.length := by
  obtain ⟨rest, hskim, hrest⟩ := exists_of_map_ok h
  cases hrest
  exact skim_length_le hskim

theorem readAny_length_le {s r : List Char} {d : Datum} (h : readAny s = .ok (d, r)) :
    r.length ≤ s.length := by
  unfold readAny at h
  split at h
  · exact skim_map_length_le h
  · exact skim_map_length_le h
  · exact Nat.le_trans (Nat.le_of_lt (readScalar_length_lt h)) (skipBlanks_length_le s)

end ParseTree.Json
