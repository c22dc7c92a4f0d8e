import ParseTree.Json.Typed
import ParseTree.Tree.Basic

/-!
# Reading a token

A token is an object with the fields `kind`, `text`, `line` and `column`, in any order.  Fields of
other names are passed over.

The fields `line` and `column` are kept as they stand and checked when the object has ended, in the
order in which they stand there; a second one is noticed then as well.  A second `kind` or `text` is
noticed at once.
-/

namespace ParseTree.Json

/-! ## Fields -/

/-- The fields of a token that have been read. -/
structure TokenFields where
  kind : Option Kind := none
  text : Option String := none
  /-- The values of `line` and `column`, the last one first. -/
  others : List (Field × Datum) := []
deriving Repr

/-- A line and a column, as far as they are known. -/
structure PartialPosition where
  line : Option UInt32 := none
  column : Option UInt32 := none
deriving Repr

/-- Takes the values of `line` and `column` in the order of the document. -/
def PartialPosition.fill (p : PartialPosition) : List (Field × Datum) → Except Cause PartialPosition
  | [] => .ok p
  | (field, found) :: rest =>
    match field, p.line, p.column with
    | .line, some _, _ => .error (.duplicateField .line)
    | .column, _, some _ => .error (.duplicateField .column)
    | _, _, _ =>
      match uint32.check found with
      | .error cause => .error cause
      | .ok value =>
        let value := UInt32.ofNat value.toNat
        match field with
        | .line => fill { p with line := some value } rest
        | _ => fill { p with column := some value } rest

/-- The token of the fields, or what is wrong with them. -/
def TokenFields.finish (got : TokenFields) : Except Cause Token :=
  match got.kind, got.text with
  | none, _ => .error (.missingField .kind)
  | _, none => .error (.missingField .text)
  | some kind, some text =>
    match PartialPosition.fill {} got.others.reverse with
    | .error cause => .error cause
    | .ok ⟨none, _⟩ => .error (.missingField .line)
    | .ok ⟨_, none⟩ => .error (.missingField .column)
    | .ok ⟨some line, some column⟩ => .ok ⟨kind, text, ⟨line, column⟩⟩

/-- The value of the field with this name. -/
def readTokenField (got : TokenFields) (name : String) (s : List Char) : Reading TokenFields :=
  if name = Field.kind.name then
    if got.kind.isSome then .error ⟨.duplicateField .kind, some (closingPlace .object s)⟩
    else
      ((readColon s).bind (readInteger int32)).map fun r =>
        ({ got with kind := some (Int32.ofInt r.1) }, r.2)
  else if name = Field.text.name then
    if got.text.isSome then .error ⟨.duplicateField .text, some (closingPlace .object s)⟩
    else ((readColon s).bind readText).map fun r => ({ got with text := some r.1 }, r.2)
  else
    ((readColon s).bind readAny).map fun r =>
      if name = Field.line.name then ({ got with others := (.line, r.1) :: got.others }, r.2)
      else if name = Field.column.name then
        ({ got with others := (.column, r.1) :: got.others }, r.2)
      else (got, r.2)

/-! ## Progress -/

/-- The value of a field leaves a shorter rest, wherever it is put. -/
theorem readColon_bind_map_length_lt {α : Type} {read : List Char → Reading α}
    {put : α × List Char → TokenFields × List Char} {got : TokenFields} {s r : List Char}
    (h : ((readColon s).bind read).map put = .ok (got, r)) (hput : ∀ v, (put v).2 = v.2)
    (hread : ∀ {t r : List Char} {a : α}, read t = .ok (a, r) → r.length ≤ t.length) :
    r.length < s.length := by
  obtain ⟨v, hvalue, hv⟩ := exists_of_map_ok h
  have hr : v.2 = r := by rw [← hput v, hv]
  rw [← hr]
  exact readColon_bind_length_lt Prod.snd (fun hv => hread hv) hvalue

theorem readTokenField_length_lt {got got' : TokenFields} {name : String} {s r : List Char}
    (h : readTokenField got name s = .ok (got', r)) : r.length < s.length := by
  unfold readTokenField at h
  split at h
  · split at h
    · cases h
    · exact readColon_bind_map_length_lt h (fun _ => rfl)
        fun hread => Nat.le_of_lt (readInteger_length_lt hread)
  · split at h
    · split at h
      · cases h
      · exact readColon_bind_map_length_lt h (fun _ => rfl)
          fun hread => Nat.le_of_lt (readText_length_lt hread)
    · refine readColon_bind_map_length_lt h (fun v => ?_) readAny_length_le
      split
      · rfl
      · split <;> rfl

/-! ## Whole tokens -/

/-- The fields of a token up to the end of the object. -/
def readTokenFields (first : Bool) (got : TokenFields) (s : List Char) : Reading Token :=
  match _h : readKey first s with
  | .error fault => .error fault
  | .ok (none, rest) =>
    match got.finish with
    | .error cause => .error (.before cause rest)
    | .ok token => .ok (token, rest)
  | .ok (some name, rest) =>
    match _h' : readTokenField got name rest with
    | .error fault => .error fault
    | .ok (got, rest) => readTokenFields false got rest
termination_by s.length
decreasing_by
  exact Nat.lt_trans (readTokenField_length_lt _h') (readKey_length_lt _h)

theorem readTokenFields_length_lt {first : Bool} {got : TokenFields} {s r : List Char} {t : Token}
    (h : readTokenFields first got s = .ok (t, r)) : r.length < s.length := by
  fun_induction readTokenFields first got s with
  | case1 => cases h
  | case2 => cases h
  | case3 first got s rest hkey token _ =>
    cases h
    exact readKey_length_lt hkey
  | case4 => cases h
  | case5 first got s name rest hkey got' rest' hfield ih =>
    have hrest' : rest'.length < rest.length := readTokenField_length_lt hfield
    exact Nat.lt_trans (ih h) (Nat.lt_trans hrest' (readKey_length_lt hkey))

/-- A token. -/
def readToken (s : List Char) : Reading Token :=
  match skipBlanks s with
  | [] => .error (.after .endInValue [])
  | c :: rest =>
    if c = '\x7b' then readTokenFields true {} rest else .error (wrongType .token (c :: rest))

theorem readToken_length_lt {s r : List Char} {t : Token} (h : readToken s = .ok (t, r)) :
    r.length < s.length := by
  unfold readToken at h
  split at h
  · cases h
  · next c rest hskip =>
    split at h
    · exact Nat.lt_trans (readTokenFields_length_lt h) (length_lt_of_skipBlanks hskip)
    · cases h

end ParseTree.Json
