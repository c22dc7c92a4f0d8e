import Mathlib.Data.List.TakeWhile
import ParseTree.Proofs.Diagram
import ParseTree.Proofs.Numerals

/-!
# The text forms of a table

A table has many text forms: blanks may stand around names and values, lines end in a line feed with
or without a carriage return before it, the last line may have no end, and blank lines may stand
anywhere.  `TableText` says which texts these are, without reading them.

* **Trimming** — `Text.trim_padded`: blanks around a text are taken off and those inside stay, as
  far as the text itself neither begins nor ends with one.
* **Values** — `readValue_kindText`: the decimal form of a kind is read as the kind.
* **Lines** — `TableLine.readLine_eq`: the last equals sign of a line is the one before its value,
  since neither a value nor blanks hold one, whatever the name does.  `TableLine.dropLineEnd`: some
  blanks are carriage returns, and those that are taken off with the end of a line do not count.
* **The whole** — `parse_tableText`.
-/

namespace ParseTree

/-! ## Trimming -/

namespace Text

lemma dropWhile_eq_self {p : Char → Bool} {s : List Char} (h : ∀ c ∈ s.head?, p c = false) :
    s.dropWhile p = s := by
  cases s with
  | nil => rfl
  | cons c s => rw [List.dropWhile_cons_of_neg]; simp [h c rfl]

lemma dropEndWhile_eq_nil {p : Char → Bool} {s : List Char} (h : ∀ c ∈ s, p c = true) :
    dropEndWhile p s = [] := by
  simpa [dropEndWhile, List.dropWhile_eq_nil_iff] using h

/-- Dropping at the end does not reach what ends with a character that is kept. -/
lemma dropEndWhile_append {p : Char → Bool} {s : List Char} (h : ∀ c ∈ s.getLast?, p c = false)
    (rest : List Char) : dropEndWhile p (s ++ rest) = s ++ dropEndWhile p rest := by
  have hkept : s.reverse.dropWhile p = s.reverse := dropWhile_eq_self (by rwa [List.head?_reverse])
  rw [dropEndWhile, dropEndWhile, List.reverse_append, List.dropWhile_append]
  split
  · next hnil =>
      rw [List.isEmpty_iff.mp hnil, hkept]
      simp
  · simp

/-- What is dropped anyway makes no difference at the end. -/
lemma dropEndWhile_append_of_all {p : Char → Bool} {rest : List Char} (h : ∀ c ∈ rest, p c = true)
    (s : List Char) : dropEndWhile p (s ++ rest) = dropEndWhile p s := by
  rw [dropEndWhile, dropEndWhile, List.reverse_append,
    List.dropWhile_append_of_pos (by simpa using h)]

/-- **Trimming.**  Blanks around a text that neither begins nor ends with one are taken off. -/
theorem trim_padded {before s after : List Char} (hbefore : ∀ c ∈ before, isBlank c = true)
    (hafter : ∀ c ∈ after, isBlank c = true) (hhead : ∀ c ∈ s.head?, isBlank c = false)
    (hlast : ∀ c ∈ s.getLast?, isBlank c = false) : trim (before ++ s ++ after) = s := by
  rw [trim, List.append_assoc, List.dropWhile_append_of_pos hbefore]
  cases s with
  | nil =>
      have hnil : after.dropWhile isBlank = [] := List.dropWhile_eq_nil_iff.mpr hafter
      rw [List.nil_append, hnil]; rfl
  | cons c s =>
      rw [dropWhile_eq_self (by simpa using hhead), dropEndWhile_append hlast,
        dropEndWhile_eq_nil hafter, List.append_nil]

end Text

/-! ## Values -/

/-- Digits that stay within the range of a sign are read as what they denote. -/
lemma readMagnitude_digits {sign : Sign} {ds : List Char} {soFar : Nat}
    (hds : ∀ c ∈ ds, c.isDigit = true) (hle : Nat.ofDigitChars 10 ds soFar ≤ sign.limit) :
    readMagnitude sign soFar ds = .ok (Nat.ofDigitChars 10 ds soFar) := by
  induction ds generalizing soFar with
  | nil => rfl
  | cons c ds ih =>
      rw [List.forall_mem_cons] at hds
      rw [Nat.ofDigitChars_cons] at hle ⊢
      -- The digits read so far denote no more than all of them.
      have hnext : 10 * soFar + (c.toNat - '0'.toNat) ≤ sign.limit :=
        Nat.le_trans (Json.le_ofDigitChars ds _) hle
      rw [readMagnitude, if_pos hds.1]
      simp only [if_pos hnext]
      exact ih hds.2 hle

lemma readSigned_digits {sign : Sign} {n : Nat} (h : n ≤ sign.limit) :
    readSigned sign (Nat.toDigits 10 n) = .ok (sign.apply n) := by
  have hdigits := Json.wholeDigits_toDigits n
  have hread : readMagnitude sign 0 (Nat.toDigits 10 n) = .ok n := by
    have hvalue : Nat.ofDigitChars 10 (Nat.toDigits 10 n) 0 = n := Nat.ofDigitChars_ten_toDigits
    rw [readMagnitude_digits hdigits.isDigit (by rwa [hvalue]), hvalue]
  cases hds : Nat.toDigits 10 n with
  | nil => exact absurd hds hdigits.ne_nil
  | cons c ds =>
      rw [readSigned, ← hds, hread]
      · rfl
      · simp

lemma readValue_digits (n : Nat) :
    readValue (Nat.toDigits 10 n) = readSigned .plus (Nat.toDigits 10 n) := by
  have hdigits := Json.wholeDigits_toDigits n
  cases hds : Nat.toDigits 10 n with
  | nil => exact absurd hds hdigits.ne_nil
  | cons c ds =>
      have hdigit : c.isDigit = true := hdigits.isDigit c (by simp [hds])
      rw [readValue]
      · simp
      · rintro rest hrest
        cases hrest
        exact absurd hdigit (by decide)
      · rintro rest hrest
        cases hrest
        exact absurd hdigit (by decide)

/-- **Values.**  The decimal form of a kind is read as the kind. -/
theorem readValue_kindText (k : Kind) : readValue k.text.toList = .ok k.toInt := by
  have hlow := k.le_toInt
  have hhigh := k.toInt_lt
  rw [Kind.text]
  cases hk : k.toInt with
  | ofNat n =>
      have hlimit : n ≤ Sign.plus.limit := by
        rw [hk] at hhigh
        simp only [Sign.limit, Int.ofNat_eq_natCast] at hhigh ⊢
        omega
      simp only [Nat.repr_eq_ofList_toDigits, String.toList_ofList]
      rw [readValue_digits, readSigned_digits hlimit]
      rfl
  | negSucc n =>
      have hlimit : n + 1 ≤ Sign.minus.limit := by
        rw [hk] at hlow
        simp only [Sign.limit] at hlow ⊢
        omega
      simp only [Nat.repr_eq_ofList_toDigits, String.toList_append, String.toList_ofList]
      exact readSigned_digits hlimit

/-- No blank is part of the decimal form of a kind. -/
lemma isBlank_of_mem_kindText {k : Kind} {c : Char} (h : c ∈ k.text.toList) :
    Text.isBlank c = false := by
  by_contra hblank
  refine Diagram.notMem_kindText ?_ ?_ k h
  · by_contra hdigit
    rw [Bool.not_eq_false, Char.isDigit_iff_toNat] at hdigit
    simp [Text.isBlank] at hblank hdigit
    omega
  · rintro rfl
    exact hblank rfl

lemma kindText_ne_nil (k : Kind) : k.text.toList ≠ [] := by
  intro hnil
  have hread := readValue_kindText k
  rw [hnil] at hread
  cases hread

/-! ## Lines -/

/-- Blanks that stay on their line. -/
@[mk_iff]
structure Text.Padding (s : List Char) : Prop where
  isBlank : ∀ c ∈ s, Text.isBlank c = true
  newline_notMem : '\n' ∉ s

instance (s : List Char) : Decidable (Text.Padding s) :=
  decidable_of_iff ((s.all Text.isBlank && !s.contains '\n') = true) <| by
    rw [Text.padding_iff]
    simp

lemma Text.Padding.equals_notMem {s : List Char} (h : Text.Padding s) : '=' ∉ s :=
  fun hmem => absurd (h.isBlank _ hmem) (by decide)

lemma Text.Padding.sublist {s s' : List Char} (h : Text.Padding s) (hsub : s'.Sublist s) :
    Text.Padding s' :=
  ⟨fun c hc => h.isBlank c (hsub.subset hc), fun hc => h.newline_notMem (hsub.subset hc)⟩

/-- A definition that can stand on a line: its name can be told from blanks around it, and its kind
is not too large to be declared. -/
@[mk_iff]
structure Entry.Writable (e : Entry) : Prop where
  name_ne_empty : e.name ≠ ""
  newline_notMem : '\n' ∉ e.name.toList
  head : ∀ c ∈ e.name.toList.head?, Text.isBlank c = false
  last : ∀ c ∈ e.name.toList.getLast?, Text.isBlank c = false
  kind_le : e.kind ≤ maxKind

instance (e : Entry) : Decidable e.Writable :=
  decidable_of_iff ((e.name != "" && !e.name.toList.contains '\n' &&
      e.name.toList.head?.all (!Text.isBlank ·) && e.name.toList.getLast?.all (!Text.isBlank ·) &&
      decide (e.kind ≤ maxKind)) = true) <| by
    rw [Entry.writable_iff]
    simp [and_assoc, Option.all_eq_true]

/-- The lines of a table without their ends, each with the definition on it. -/
inductive TableLine : List Char → Option Entry → Prop
  | blank {s : List Char} (hs : Text.Padding s) : TableLine s none
  | entry {e : Entry} {beforeName afterName beforeValue afterValue : List Char} (he : e.Writable)
      (hbn : Text.Padding beforeName) (han : Text.Padding afterName)
      (hbv : Text.Padding beforeValue) (hav : Text.Padding afterValue) :
      TableLine ((beforeName ++ e.name.toList ++ afterName) ++
        '=' :: (beforeValue ++ e.kind.text.toList ++ afterValue)) (some e)

lemma splitLast?_append {sep : Char} {right : List Char} (h : sep ∉ right) (left : List Char) :
    splitLast? sep (left ++ sep :: right) = some (left, right) := by
  have hright : ∀ c ∈ right.reverse, (c != sep) = true := by
    intro c hc
    rw [bne_iff_ne]
    rintro rfl
    exact h (List.mem_reverse.mp hc)
  have hreverse : (left ++ sep :: right).reverse = right.reverse ++ sep :: left.reverse := by simp
  rw [splitLast?, hreverse, List.span_eq_takeWhile_dropWhile, List.takeWhile_append_of_pos hright,
    List.dropWhile_append_of_pos hright]
  simp

namespace TableLine

variable {line : List Char} {found : Option Entry}

/-- A line is read as the definition on it. -/
theorem readLine_eq (h : TableLine line found) : readLine line = .ok found := by
  cases h with
  | blank hs => rw [readLine, if_pos (List.all_eq_true.mpr hs.isBlank)]
  | @entry e beforeName afterName beforeValue afterValue he hbn han hbv hav =>
      have hequals : '=' ∉ beforeValue ++ e.kind.text.toList ++ afterValue := by
        have hkind := Diagram.notMem_kindText (c := '=') (by decide) (by decide) e.kind
        simp [hbv.equals_notMem, hav.equals_notMem, hkind]
      have hname : Text.trim (beforeName ++ e.name.toList ++ afterName) = e.name.toList :=
        Text.trim_padded hbn.isBlank han.isBlank he.head he.last
      have hvalue :
          Text.trim (beforeValue ++ e.kind.text.toList ++ afterValue) = e.kind.text.toList :=
        Text.trim_padded hbv.isBlank hav.isBlank
          (fun c hc => isBlank_of_mem_kindText (List.mem_of_head? hc))
          (fun c hc => isBlank_of_mem_kindText (List.mem_of_getLast? hc))
      have hmax : ¬ maxKind < e.kind := Int32.not_lt.mpr he.kind_le
      -- The equals sign itself is no blank, so the line is not blank.
      rw [readLine, if_neg (by simp [show Text.isBlank '=' = false from rfl]),
        splitLast?_append hequals]
      simp only [hname, hvalue, readValue_kindText, Int32.ofInt_toInt, if_neg hmax]
      simp [he.name_ne_empty]

lemma newline_notMem (h : TableLine line found) : '\n' ∉ line := by
  cases h with
  | blank hs => exact hs.newline_notMem
  | @entry e _ _ _ _ he hbn han hbv hav =>
      have hkind := Diagram.notMem_kindText (c := '\n') (by decide) (by decide) e.kind
      simp [hbn.newline_notMem, han.newline_notMem, hbv.newline_notMem, hav.newline_notMem,
        he.newline_notMem, hkind]

/-- Without the line ends that it may have, a line has the same definition on it. -/
theorem dropLineEnd (h : TableLine line found) {ends : List Char}
    (hends : ∀ c ∈ ends, c = '\n' ∨ c = '\r') : TableLine (dropLineEnd (line ++ ends)) found := by
  rw [ParseTree.dropLineEnd, Text.dropEndWhile_append_of_all (by simpa using hends)]
  cases h with
  | blank hs => exact .blank (hs.sublist (Text.dropEndWhile_sublist _ _))
  | @entry e beforeName afterName beforeValue afterValue he hbn han hbv hav =>
      -- The value ends with a digit, which is no line end and stays.
      set value := (beforeName ++ e.name.toList ++ afterName ++ '=' :: beforeValue) ++
        e.kind.text.toList
        with hvalue
      have hlast : ∀ c ∈ value.getLast?, (c == '\n' || c == '\r') = false := by
        intro c hc
        rw [hvalue, List.getLast?_append_of_ne_nil _ (kindText_ne_nil e.kind)] at hc
        have hblank := isBlank_of_mem_kindText (List.mem_of_getLast? hc)
        rw [Bool.or_eq_false_iff, beq_eq_false_iff_ne, beq_eq_false_iff_ne]
        refine ⟨?_, ?_⟩ <;>
          · rintro rfl
            exact absurd hblank (by decide)
      have hshort :=
        hav.sublist (Text.dropEndWhile_sublist (fun c => c == '\n' || c == '\r') afterValue)
      have hdrop := Text.dropEndWhile_append hlast afterValue
      simp only [hvalue, List.append_assoc, List.cons_append] at hdrop
      simpa [hdrop] using TableLine.entry he hbn han hbv hshort

end TableLine

/-! ## Texts -/

/-- The text forms of a table: lines with their ends, and a last line without one, which may be
empty. -/
inductive TableText : List Char → List Entry → Prop
  | last {line : List Char} {found : Option Entry} (hline : TableLine line found) :
      TableText line found.toList
  | line {line ends text : List Char} {found : Option Entry} {es : List Entry}
      (hline : TableLine line found) (hends : ends = ['\n'] ∨ ends = ['\r', '\n'])
      (hrest : TableText text es) : TableText (line ++ ends ++ text) (found.toList ++ es)

lemma readLines_cons {raw : List Char} {found : Option Entry}
    (h : readLine (dropLineEnd raw) = .ok found) (number offset : Nat) (done : List Entry)
    (rest : List (List Char)) :
    readLines number offset done (raw :: rest)
      = readLines (number + 1) (offset + Text.byteSize raw) (found.toList ++ done) rest := by
  rw [readLines]
  cases found <;> simp only [h] <;> rfl

/-- What is cut off a text up to its first line feed is a line. -/
lemma cutLines_line {line ends : List Char} (hline : '\n' ∉ line)
    (hends : ends = ['\n'] ∨ ends = ['\r', '\n']) (text : List Char) :
    Text.cutLines (line ++ ends ++ text) = (line ++ ends) :: Text.cutLines text := by
  rcases hends with rfl | rfl
  · simpa using Text.cutLines_append hline text
  · have hreturn : '\n' ∉ line ++ ['\r'] := by simp [hline]
    simpa using Text.cutLines_append hreturn text

lemma cutLines_last {line : List Char} (hline : '\n' ∉ line) (hne : line ≠ []) :
    Text.cutLines line = [line] := by
  have h := Text.cutLinesFrom_append hline [] [] []
  rw [List.append_nil] at h
  rw [Text.cutLines, h]
  simp [Text.cutLinesFrom, hne]

/-- Reading goes through a text form line by line and adds its definitions to those read before. -/
lemma readLines_tableText {text : List Char} {es : List Entry} (h : TableText text es)
    (number offset : Nat) (done : List Entry) :
    readLines number offset done (Text.cutLines text) = .ok ⟨done.reverse ++ es⟩ := by
  induction h generalizing number offset done with
  | @last line found hline =>
      by_cases hnil : line = []
      · subst hnil
        obtain rfl : found = none := by
          have hread := hline.readLine_eq
          simpa [readLine, eq_comm] using hread
        simp [Text.cutLines, Text.cutLinesFrom, readLines]
      · have hread : readLine (dropLineEnd line) = .ok found := by
          simpa using (hline.dropLineEnd (List.forall_mem_nil _)).readLine_eq
        rw [cutLines_last hline.newline_notMem hnil, readLines_cons hread, readLines]
        cases found <;> simp
  | @line line ends text found es hline hends hrest ih =>
      have hread : readLine (dropLineEnd (line ++ ends)) = .ok found := by
        refine (hline.dropLineEnd ?_).readLine_eq
        rcases hends with rfl | rfl <;> simp
      rw [cutLines_line hline.newline_notMem hends, readLines_cons hread, ih]
      cases found <;> simp

/-- A table as it is written plainly: a line for each definition, ended by a line feed. -/
def Table.plainText (t : Table) : String :=
  String.join (t.entries.map fun e => e.name ++ "=" ++ e.kind.text ++ "\n")

lemma tableText_plainText {es : List Entry} (h : ∀ e ∈ es, e.Writable) :
    TableText (Table.plainText ⟨es⟩).toList es := by
  have hnone : Text.Padding [] := ⟨by simp, by simp⟩
  induction es with
  | nil => exact .last (.blank hnone)
  | cons e es ih =>
      rw [List.forall_mem_cons] at h
      have hline := TableText.line (.entry h.1 hnone hnone hnone hnone) (Or.inl rfl) (ih h.2)
      simpa [Table.plainText, String.toList_join] using hline

/-- **The whole.**  Definitions that can stand on a line each are read back from the plain text of
their table, and so they are from all its other text forms: in order, each as often as it stands
there. -/
theorem parse_tableText (es : List Entry) (h : ∀ e ∈ es, e.Writable) :
    Table.parse (Table.plainText ⟨es⟩) = .ok ⟨es⟩ ∧
    ∀ source : String, TableText source.toList es → Table.parse source = .ok ⟨es⟩ := by
  have hparse : ∀ source : String, TableText source.toList es → Table.parse source = .ok ⟨es⟩ :=
    fun source hsource => readLines_tableText hsource 1 0 []
  exact ⟨hparse _ (tableText_plainText h), hparse⟩

/-- Blanks that look like line ends around a name and a value, a name that holds a blank and an
equals sign, a blank line before the first definition, and a last line without an end. -/
theorem parse_tableText_padded :
    Table.parse "\u0085\r\n\u2028'a b='\r=\t65535\x0b\r\r\n'a b=' =-2147483648\u2029"
      = .ok ⟨[⟨"'a b='", 65535⟩, ⟨"'a b='", -2147483648⟩]⟩ := by
  have hfirst : Entry.Writable ⟨"'a b='", 65535⟩ := by decide
  have hsecond : Entry.Writable ⟨"'a b='", -2147483648⟩ := by decide
  have hpadding :
      ∀ s ∈ [[], [' '], ['\t'], ['\r'], ['\x0b', '\r'], ['\u0085'], ['\u2028'], ['\u2029']],
    Text.Padding s := by decide
  have hline : TableLine _ _ :=
    .entry hfirst (hpadding ['\u2028'] (by simp)) (hpadding ['\r'] (by simp))
    (hpadding ['\t'] (by simp)) (hpadding ['\x0b', '\r'] (by simp))
  have hlast : TableLine _ _ := .entry hsecond (hpadding [] (by simp)) (hpadding [' '] (by simp))
    (hpadding [] (by simp)) (hpadding ['\u2029'] (by simp))
  refine (parse_tableText _ (by simp [hfirst, hsecond])).2 _ ?_
  exact .line (.blank (hpadding ['\u0085'] (by simp))) (Or.inr rfl)
    (.line hline (Or.inr rfl) (.last hlast))

end ParseTree
