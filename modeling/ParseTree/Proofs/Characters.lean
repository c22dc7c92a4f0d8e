import Mathlib.Data.List.Basic
import ParseTree.Proofs.Lines
import ParseTree.Source

/-!
# The character at a line and a column

Messages point at one character, but what they are told is a line and a column in bytes.  The column
may lie inside a character of several bytes, past the end of its line or past the end of the text,
and there may be no such line.

* **Starts of lines** — `StartsLine` says where a line begins: behind as many line feeds as there
  are lines before it.  `lineStart?_eq_some_iff`: the walk over the text finds these places and no
  others.
* **Bytes** — every byte of a text belongs to one character (`exists_char`), and
  `charRangeFrom_char` finds it.
* **Boundaries** — a byte offset lies between characters if the text can be divided there
  (`isValid_iff`).  Going back byte by byte from a byte of a character, the first boundary is where
  the character begins.
* **The whole** — `charRange_pointsAt`.
-/

namespace ParseTree.Text

lemma byteSize_cons (c : Char) (s : List Char) : byteSize (c :: s) = c.utf8Size + byteSize s := by
  have happend := byteSize_append [c] s
  rw [List.singleton_append] at happend
  rw [happend, byteSize, List.foldl_cons, List.foldl_nil, Nat.zero_add]

lemma byteSize_toList (text : String) : byteSize text.toList = text.utf8ByteSize := by
  rw [← utf8ByteSize_ofList, String.ofList_toList]

/-! ## Starts of lines -/

/-- A line begins where as many line feeds have come as there are lines before it, and one has just
come unless it is the first line. -/
def StartsLine (text : String) (line start : Nat) : Prop :=
  ∃ before after : String, text = before ++ after ∧ before.toList.count '\n' = line ∧
    (∀ c ∈ before.toList.getLast?, c = '\n') ∧ start = before.utf8ByteSize

/-- The same for characters, of which the first one stands at `offset`. -/
def LineFrom (offset line : Nat) (s : List Char) (start : Nat) : Prop :=
  ∃ before after, s = before ++ after ∧ before.count '\n' = line ∧
    (∀ c ∈ before.getLast?, c = '\n') ∧
    start = offset + byteSize before

lemma lineFrom_zero {offset start : Nat} {s : List Char} :
    LineFrom offset 0 s start ↔ start = offset := by
  constructor
  · rintro ⟨before, after, -, hcount, hlast, rfl⟩
    cases hbefore : before.getLast? with
    | none =>
        rw [List.getLast?_eq_none_iff.mp hbefore]
        rfl
    | some c =>
        obtain rfl := hlast c hbefore
        exact absurd (List.mem_of_getLast? hbefore) (List.count_eq_zero.mp hcount)
  · rintro rfl
    exact ⟨[], s, rfl, rfl, by simp, rfl⟩

lemma lineFrom_nil {offset line start : Nat} : ¬ LineFrom offset (line + 1) [] start := by
  rintro ⟨before, after, hs, hcount, -⟩
  rw [(List.append_eq_nil_iff.mp hs.symm).1] at hcount
  cases hcount

/-- Behind the first character, one line less is to come if it is a line feed. -/
lemma lineFrom_cons {offset line start : Nat} {c : Char} {s : List Char} :
    LineFrom offset (line + 1) (c :: s) start
      ↔ LineFrom (offset + c.utf8Size) (if c = '\n' then line else line + 1) s start := by
  have hcount : ∀ before : List Char, (c :: before).count '\n' = line + 1
      ↔ before.count '\n' = if c = '\n' then line else line + 1 := by
    intro before
    rw [List.count_cons]
    by_cases hc : c = '\n' <;> simp [hc]
  constructor
  · rintro ⟨before, after, hs, hbefore, hlast, rfl⟩
    cases before with
    | nil => cases hbefore
    | cons d before =>
        obtain ⟨rfl, rfl⟩ := List.cons.inj hs
        refine ⟨before, after, rfl, (hcount before).mp hbefore, fun e he => hlast e ?_, ?_⟩
        · rw [List.getLast?_cons, Option.mem_def.mp he]
          rfl
        · rw [byteSize_cons, Nat.add_assoc]
  · rintro ⟨before, after, rfl, hbefore, hlast, rfl⟩
    refine ⟨c :: before, after, rfl, (hcount before).mpr hbefore, fun e he => ?_, ?_⟩
    · rw [List.getLast?_cons, Option.mem_some_iff] at he
      cases hlast' : before.getLast? with
      | some d =>
          rw [hlast', Option.getD_some] at he
          exact he ▸ hlast d hlast'
      | none =>
          -- Nothing but this character comes before the line, so it has to be the line feed.
          rw [hlast', Option.getD_none] at he
          rw [List.getLast?_eq_none_iff.mp hlast', he] at hbefore
          by_contra hne
          rw [if_neg hne] at hbefore
          cases hbefore
    · rw [byteSize_cons, Nat.add_assoc]

lemma lineStartFrom?_eq_some_iff {offset line start : Nat} {s : List Char} :
    lineStartFrom? offset line s = some start ↔ LineFrom offset line s start := by
  induction s generalizing offset line with
  | nil =>
      cases line with
      | zero => rw [lineStartFrom?, lineFrom_zero, Option.some.injEq, eq_comm]
      | succ line => simp [lineStartFrom?, lineFrom_nil]
  | cons c s ih =>
      cases line with
      | zero => rw [lineStartFrom?, lineFrom_zero, Option.some.injEq, eq_comm]
      | succ line => rw [lineStartFrom?, lineFrom_cons, ih]

/-- **Starts of lines.**  The offset that is found for a line is the one at which it begins. -/
theorem lineStart?_eq_some_iff {text : String} {line start : Nat} :
    lineStart? line text.toList = some start ↔ StartsLine text line start := by
  rw [lineStart?, lineStartFrom?_eq_some_iff]
  constructor
  · rintro ⟨before, after, hs, hcount, hlast, rfl⟩
    refine ⟨.ofList before, .ofList after, ?_, ?_, ?_, ?_⟩
    · rw [← String.ofList_append, ← hs, String.ofList_toList]
    · rwa [String.toList_ofList]
    · rwa [String.toList_ofList]
    · rw [Nat.zero_add, utf8ByteSize_ofList]
  · rintro ⟨before, after, rfl, hcount, hlast, rfl⟩
    refine ⟨before.toList, after.toList, String.toList_append, hcount, hlast, ?_⟩
    rw [Nat.zero_add, byteSize_toList]

/-! ## Bytes -/

section Bytes

variable {offset bytes : Nat} {c : Char} {s before after : List Char}

/-- Every byte of a text belongs to a character. -/
lemma exists_char (h : bytes < byteSize s) : ∃ before c after, s = before ++ c :: after ∧
    byteSize before ≤ bytes ∧ bytes < byteSize before + c.utf8Size := by
  induction s generalizing bytes with
  | nil => cases h
  | cons d s ih =>
      rw [byteSize_cons] at h
      by_cases hd : bytes < d.utf8Size
      · exact ⟨[], d, s, rfl, Nat.zero_le _, by simpa [byteSize] using hd⟩
      · have hrest : bytes - d.utf8Size < byteSize s := by omega
        obtain ⟨before, c, after, rfl, hle, hlt⟩ := ih hrest
        refine ⟨d :: before, c, after, rfl, ?_, ?_⟩ <;> rw [byteSize_cons] <;> omega

/-- **Bytes.**  The range of the character that a byte belongs to. -/
theorem charRangeFrom_char (hle : byteSize before ≤ bytes)
    (hlt : bytes < byteSize before + c.utf8Size) :
    charRangeFrom offset bytes (before ++ c :: after)
      = ⟨offset + byteSize before, offset + byteSize before + c.utf8Size⟩ := by
  induction before generalizing offset bytes with
  | nil =>
      have hbytes : bytes < c.utf8Size := by simpa [byteSize] using hlt
      rw [List.nil_append, charRangeFrom, if_pos hbytes]
      rfl
  | cons d before ih =>
      rw [byteSize_cons] at hle hlt
      rw [List.cons_append, charRangeFrom, if_neg (by omega), ih (by omega) (by omega),
        byteSize_cons, Nat.add_assoc]

lemma charRangeFrom_past (h : byteSize s ≤ bytes) :
    charRangeFrom offset bytes s = ⟨offset + byteSize s, offset + byteSize s⟩ := by
  induction s generalizing offset bytes with
  | nil => rfl
  | cons d s ih =>
      rw [byteSize_cons] at h
      rw [charRangeFrom, if_neg (by omega), ih (by omega), byteSize_cons, Nat.add_assoc]

end Bytes

/-! ## Boundaries -/

/-- An offset lies between characters if the text can be divided there. -/
lemma isValid_iff {text : String} {n : Nat} : (⟨n⟩ : String.Pos.Raw).IsValid text
    ↔ ∃ before after : String, text = before ++ after ∧ n = before.utf8ByteSize := by
  rw [String.Pos.Raw.isValid_iff_exists_take_toList]
  constructor
  · rintro ⟨i, rfl⟩
    refine ⟨.ofList (text.toList.take i), .ofList (text.toList.drop i), ?_, rfl⟩
    rw [← String.ofList_append, List.take_append_drop, String.ofList_toList]
  · rintro ⟨before, after, rfl, rfl⟩
    refine ⟨before.toList.length, ?_⟩
    rw [String.toList_append, List.take_left, String.ofList_toList]

/-- Between the beginning and the end of a character there is no boundary. -/
lemma le_of_isValid {before after : String} {c : Char} {n : Nat}
    (h : (⟨n⟩ : String.Pos.Raw).IsValid (before ++ String.singleton c ++ after))
    (hn : n < before.utf8ByteSize + c.utf8Size) : n ≤ before.utf8ByteSize := by
  rw [String.append_singleton, String.Pos.Raw.isValid_append, String.Pos.Raw.isValid_push] at h
  simp only [String.Pos.Raw.ext_iff, String.Pos.Raw.le_iff, String.rawEndPos_push,
    String.Pos.Raw.byteIdx_add_char, String.byteIdx_rawEndPos] at h
  rcases h with (hbefore | hend) | ⟨hend, -⟩
  · exact hbefore.le_utf8ByteSize
  · omega
  · omega

/-- Going back from a byte of a character, the first boundary is the beginning of the character. -/
lemma posLE_of_char {before after : String} {c : Char} {o : Nat} (hle : before.utf8ByteSize ≤ o)
    (hlt : o < before.utf8ByteSize + c.utf8Size) :
    ((before ++ String.singleton c ++ after).posLE ⟨o⟩).offset = ⟨before.utf8ByteSize⟩ := by
  have hvalid :
      (⟨before.utf8ByteSize⟩ : String.Pos.Raw).IsValid (before ++ String.singleton c ++ after) :=
    isValid_iff.mpr ⟨before, String.singleton c ++ after, String.append_assoc, rfl⟩
  have hpos := String.posLE_eq_iff (q := String.pos _ _ hvalid).mpr
    ⟨hle, fun q hq => le_of_isValid q.isValid (Nat.lt_of_le_of_lt hq hlt)⟩
  rw [hpos]
  rfl

end ParseTree.Text

/-! ## The whole -/

namespace ParseTree

/-- The range that a line and a column point at, both counted from 1: the character that the byte
there belongs to, or the end of the text if there is no such byte or no such line. -/
inductive PointsAt (text : String) (line column : Nat) : ByteRange → Prop
  | char {start : Nat} {before after : String} {c : Char}
      (hline : Text.StartsLine text (line - 1) start)
      (htext : text = before ++ String.singleton c ++ after)
      (hle : before.utf8ByteSize ≤ start + (column - 1))
      (hlt : start + (column - 1) < before.utf8ByteSize + c.utf8Size) :
      PointsAt text line column ⟨before.utf8ByteSize, before.utf8ByteSize + c.utf8Size⟩
  | past {start : Nat} (hline : Text.StartsLine text (line - 1) start)
      (hend : text.utf8ByteSize ≤ start + (column - 1)) :
      PointsAt text line column ⟨text.utf8ByteSize, text.utf8ByteSize⟩
  | noLine (hline : ∀ start, ¬ Text.StartsLine text (line - 1) start) :
      PointsAt text line column ⟨text.utf8ByteSize, text.utf8ByteSize⟩

namespace PointsAt

variable {text : String} {line column : Nat} {r : ByteRange}

lemma charRange_eq (h : PointsAt text line column r) :
    Text.charRange line column text.toList = r := by
  cases h with
  | @char start before after c hline htext hle hlt =>
      have hlist : text.toList = before.toList ++ c :: after.toList := by
        rw [htext, String.toList_append, String.toList_append, String.toList_singleton,
          List.append_assoc, List.singleton_append]
      rw [← Text.byteSize_toList] at hle hlt
      simp only [Text.charRange, Text.lineStart?_eq_some_iff.mpr hline]
      rw [hlist, Text.charRangeFrom_char hle hlt, Nat.zero_add, Text.byteSize_toList]
  | past hline hend =>
      rw [← Text.byteSize_toList] at hend
      simp only [Text.charRange, Text.lineStart?_eq_some_iff.mpr hline]
      rw [Text.charRangeFrom_past hend, Nat.zero_add, Text.byteSize_toList]
  | noLine hline =>
      have hnone : Text.lineStart? (line - 1) text.toList = none := by
        rw [Option.eq_none_iff_forall_ne_some]
        exact fun start hstart => hline start (Text.lineStart?_eq_some_iff.mp hstart)
      rw [Text.charRange, hnone, Text.byteSize_toList]

/-- Whatever the line and the column are, they point at something. -/
lemma exists_pointsAt (text : String) (line column : Nat) : ∃ r, PointsAt text line column r := by
  by_cases hline : ∃ start, Text.StartsLine text (line - 1) start
  · obtain ⟨start, hstart⟩ := hline
    by_cases hend : text.utf8ByteSize ≤ start + (column - 1)
    · exact ⟨_, .past hstart hend⟩
    · rw [Nat.not_le, ← Text.byteSize_toList] at hend
      obtain ⟨before, c, after, hlist, hle, hlt⟩ := Text.exists_char hend
      have htext : text = .ofList before ++ String.singleton c ++ .ofList after := by
        rw [← String.toList_inj, hlist]
        simp
      rw [← Text.utf8ByteSize_ofList] at hle hlt
      exact ⟨_, .char hstart htext hle hlt⟩
  · exact ⟨_, .noLine (not_exists.mp hline)⟩

/-- What is pointed at lies in the text, from one boundary to another. -/
lemma boundaries (h : PointsAt text line column r) : r.start ≤ r.stop ∧ r.stop ≤ text.utf8ByteSize ∧
    (⟨r.start⟩ : String.Pos.Raw).IsValid text ∧ (⟨r.stop⟩ : String.Pos.Raw).IsValid text := by
  have hend : (⟨text.utf8ByteSize⟩ : String.Pos.Raw).IsValid text :=
    String.Pos.Raw.isValid_rawEndPos
  cases h with
  | @char start before after c hline htext hle hlt =>
      have hstop : (⟨before.utf8ByteSize + c.utf8Size⟩ : String.Pos.Raw).IsValid text := by
        refine Text.isValid_iff.mpr ⟨before ++ String.singleton c, after, htext, ?_⟩
        rw [String.utf8ByteSize_append, String.utf8ByteSize_singleton]
      have hstart : (⟨before.utf8ByteSize⟩ : String.Pos.Raw).IsValid text :=
        Text.isValid_iff.mpr ⟨before, String.singleton c ++ after,
          htext.trans String.append_assoc, rfl⟩
      exact ⟨Nat.le_add_right _ _, hstop.le_utf8ByteSize, hstart, hstop⟩
  | past => exact ⟨Nat.le_refl _, Nat.le_refl _, hend, hend⟩
  | noLine => exact ⟨Nat.le_refl _, Nat.le_refl _, hend, hend⟩

/-- The beginning is found by going back from the byte to a boundary. -/
lemma posLE_eq (h : PointsAt text line column r) {start : Nat}
    (hstart : Text.StartsLine text (line - 1) start) :
    (text.posLE ⟨min (start + (column - 1)) text.utf8ByteSize⟩).offset = ⟨r.start⟩ := by
  have hsame : ∀ {start'}, Text.StartsLine text (line - 1) start' → start' = start := by
    intro start' hstart'
    rw [← Text.lineStart?_eq_some_iff] at hstart hstart'
    exact Option.some.inj (hstart'.symm.trans hstart)
  have hstop := h.boundaries.2.1
  cases h with
  | char hline htext hle hlt =>
      obtain rfl := hsame hline
      rw [Nat.min_eq_left (Nat.le_of_lt (Nat.lt_of_lt_of_le hlt hstop)), htext]
      exact Text.posLE_of_char hle hlt
  | past hline hend =>
      obtain rfl := hsame hline
      rw [Nat.min_eq_right hend]
      exact String.offset_posLE_eq_self_iff.mpr String.Pos.Raw.isValid_rawEndPos
  | noLine hline => exact absurd hstart (hline start)

end PointsAt

/-- **The whole.**  The range of the character at a line and a column is the one that they point at
and no other.  It lies in the text, and both its ends lie between characters.  Where the line
exists, its beginning is where a search ends that goes back byte by byte from the byte pointed at,
or from the end of the text, to a boundary. -/
theorem SourceFile.charRange_pointsAt (f : SourceFile) (line column : Nat) :
    (∀ r, PointsAt f.text line column r ↔ r = f.charRange line column) ∧
    (f.charRange line column).start ≤ (f.charRange line column).stop ∧
    (f.charRange line column).stop ≤ f.text.utf8ByteSize ∧
    (⟨(f.charRange line column).start⟩ : String.Pos.Raw).IsValid f.text ∧
    (⟨(f.charRange line column).stop⟩ : String.Pos.Raw).IsValid f.text ∧
    ∀ start, Text.StartsLine f.text (line - 1) start →
      (f.text.posLE ⟨min (start + (column - 1)) f.text.utf8ByteSize⟩).offset
        = ⟨(f.charRange line column).start⟩ := by
  obtain ⟨r, hr⟩ := PointsAt.exists_pointsAt f.text line column
  have hrange : f.charRange line column = r := hr.charRange_eq
  obtain ⟨hle, hstop, hstart, hend⟩ := hr.boundaries
  rw [hrange]
  refine ⟨fun r' => ⟨fun h => ?_, fun h => h ▸ hr⟩, hle, hstop, hstart, hend,
    fun start => hr.posLE_eq⟩
  exact h.charRange_eq.symm.trans hrange

/-- The third byte of a line is the second one of its second character. -/
example : (⟨"t", "x\naé"⟩ : SourceFile).charRange 2 3 = ⟨3, 5⟩ := by decide

end ParseTree
