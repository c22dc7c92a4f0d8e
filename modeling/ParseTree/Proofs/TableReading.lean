import Mathlib.Data.List.DropRight
import Mathlib.Data.List.Forall2
import ParseTree.Proofs.Values

/-!
# What a table is read as

Every text is read as a table or has a first line that cannot be read.  Which of the two it is, and
which line, is said here line by line, without reading.

* **Lines** — `Text.Cut` says how a text is made of lines: what each of them says, and the carriage
  returns and the line feed that end it.  Every text is made of lines in this way (`exists_cut`),
  and they are those that the reader goes through (`Cut.cutLines_eq`).
* **Definitions** — `Defines` says what a line defines.  `readLine_eq_ok_some_iff`: a line is read
  as the definition on it and as nothing else.
* **Reading on** — `readLines_eq_ok_iff`, `of_readLines_eq_error`: number and offset of a line are
  those of the lines before it, blank ones and those with characters of several bytes included.
* **The whole** — `parse_cut`.
-/

namespace ParseTree

/-! ## Lines -/

namespace Text

/-- What is dropped at the end satisfies the condition, and what stays does not end with such a
character. -/
lemma exists_dropEndWhile (p : Char → Bool) (s : List Char) :
    ∃ ends, s = dropEndWhile p s ++ ends ∧ (∀ c ∈ ends, p c = true) ∧
      ∀ c ∈ (dropEndWhile p s).getLast?, p c = false := by
  refine ⟨s.rtakeWhile p, List.rdropWhile_append_rtakeWhile.symm,
    fun c hc => List.mem_rtakeWhile_imp hc, fun c hc => ?_⟩
  have hhead := List.head?_dropWhile_not p s.reverse
  rw [dropEndWhile, List.getLast?_reverse] at hc
  rw [hc] at hhead
  simpa using hhead

/-- A line of a text: what it says, and what ends it. -/
structure Line where
  body : List Char
  ending : List Char

/-- A line as it stands in the text. -/
def Line.text (l : Line) : List Char := l.body ++ l.ending

/-- What a line can say: nothing that ends it stands in it or at its end. -/
structure IsBody (body : List Char) : Prop where
  newline_notMem : '\n' ∉ body
  last : body.getLast? ≠ some '\r'

namespace IsBody

variable {body : List Char} (h : IsBody body)
include h

lemma newline_notMem_append {returns : Nat} : '\n' ∉ body ++ List.replicate returns '\r' := by
  simp [h.newline_notMem]

/-- What a line says is what remains without its end. -/
lemma dropLineEnd_append {ends : List Char} (hends : ∀ c ∈ ends, c = '\r' ∨ c = '\n') :
    dropLineEnd (body ++ ends) = body := by
  have hlast : ∀ c ∈ body.getLast?, (c == '\n' || c == '\r') = false := by
    intro c hc
    have hnewline : c ≠ '\n' := fun heq => h.newline_notMem (heq ▸ List.mem_of_getLast? hc)
    have hreturn : c ≠ '\r' := fun heq => h.last (heq ▸ hc)
    simp [hnewline, hreturn]
  rw [dropLineEnd, dropEndWhile_append hlast, dropEndWhile_eq_nil (by simpa [or_comm] using hends),
    List.append_nil]

end IsBody

/-- How a text is made of lines.  A line is ended by a line feed and by all carriage returns before
it; the last line may have no line feed, and then there is something else on it. -/
inductive Cut : List Char → List Line → Prop
  | nil : Cut [] []
  | last {body : List Char} {returns : Nat} (hbody : IsBody body)
      (hne : body ++ List.replicate returns '\r' ≠ []) :
      Cut (body ++ List.replicate returns '\r') [⟨body, List.replicate returns '\r'⟩]
  | line {body rest : List Char} {returns : Nat} {lines : List Line} (hbody : IsBody body)
      (hrest : Cut rest lines) :
      Cut (body ++ List.replicate returns '\r' ++ '\n' :: rest)
        (⟨body, List.replicate returns '\r' ++ ['\n']⟩ :: lines)

/-- What stands before a line feed is what a line says and carriage returns. -/
lemma exists_body {s : List Char} (h : '\n' ∉ s) :
    ∃ body returns, IsBody body ∧ s = body ++ List.replicate returns '\r' := by
  obtain ⟨ends, hs, hends, hlast⟩ := exists_dropEndWhile (· == '\r') s
  have hreplicate : ends = List.replicate ends.length '\r' :=
    List.eq_replicate_iff.mpr ⟨rfl, fun c hc => by simpa using hends c hc⟩
  refine ⟨dropEndWhile (· == '\r') s, ends.length, ⟨?_, ?_⟩, by rwa [← hreplicate]⟩
  · exact fun hmem => h ((dropEndWhile_sublist _ _).subset hmem)
  · exact fun hreturn => absurd (hlast _ hreturn) (by simp)

/-- Every text is made of lines. -/
theorem exists_cut (s : List Char) : ∃ lines, Cut s lines := by
  induction hlength : s.length using Nat.strongRecOn generalizing s with
  | ind n ih =>
      by_cases hnewline : '\n' ∈ s
      · obtain ⟨piece, rest, rfl, hpiece⟩ := List.eq_append_cons_of_mem hnewline
        obtain ⟨body, returns, hbody, rfl⟩ := exists_body hpiece
        obtain ⟨lines, hlines⟩ := ih rest.length (by rw [← hlength]; simp; omega) rest rfl
        exact ⟨_, .line hbody hlines⟩
      · obtain ⟨body, returns, hbody, rfl⟩ := exists_body hnewline
        by_cases hne : body ++ List.replicate returns '\r' = []
        · rw [hne]
          exact ⟨[], .nil⟩
        · exact ⟨_, .last hbody hne⟩

namespace Cut

variable {s : List Char} {lines : List Line}

/-- The lines of a text, put together, are the text. -/
lemma flatMap_text (h : Cut s lines) : lines.flatMap Line.text = s := by
  induction h with
  | nil => rfl
  | last hbody hne => simp [Line.text]
  | line hbody hrest ih => simp [Line.text, ih]

/-- The lines of a text are the pieces into which it is cut. -/
theorem cutLines_eq (h : Cut s lines) : cutLines s = lines.map Line.text := by
  induction h with
  | nil => rfl
  | last hbody hne => rw [cutLines_last hbody.newline_notMem_append hne]; rfl
  | line hbody hrest ih =>
      rw [cutLines_append hbody.newline_notMem_append, ih, List.map_cons, Line.text,
        List.append_assoc]

/-- Without what ends it, a piece is what the line says. -/
lemma dropLineEnd_text (h : Cut s lines) : ∀ l ∈ lines, dropLineEnd l.text = l.body := by
  induction h with
  | nil => simp
  | last hbody hne => simpa [Line.text] using hbody.dropLineEnd_append (by simp +contextual)
  | line hbody hrest ih =>
      rw [List.forall_mem_cons]
      exact ⟨hbody.dropLineEnd_append (by simp +contextual [or_imp]), ih⟩

/-- A text is made of lines in one way only. -/
lemma unique {lines' : List Line} (h : Cut s lines) (h' : Cut s lines') : lines' = lines := by
  have hline : ∀ {ls : List Line}, Cut s ls →
      ls = (cutLines s).map
        fun piece => ⟨dropLineEnd piece, piece.drop (dropLineEnd piece).length⟩ := by
    intro ls hls
    rw [hls.cutLines_eq, List.map_map]
    refine (List.map_id ls).symm.trans (List.map_congr_left fun l hl => ?_)
    rw [Function.comp_apply, hls.dropLineEnd_text l hl, Line.text, List.drop_left]
    rfl
  rw [hline h', hline h]

/-- Each of the lines before a line holds one line feed. -/
lemma count_newline {before after : List Line} {l : Line} (h : Cut s (before ++ l :: after)) :
    (before.flatMap Line.text).count '\n' = before.length := by
  induction before generalizing s with
  | nil => rfl
  | cons first before ih =>
      rw [List.cons_append] at h
      generalize htail : before ++ l :: after = tail at h
      cases h with
      | last => simp at htail
      | line hbody hrest =>
          have hfirst := List.count_eq_zero.mpr hbody.newline_notMem
          subst htail
          simp [Line.text, hfirst, ih hrest, List.count_replicate]

end Cut

end Text

/-! ## Definitions -/

/-- A text without the blanks around it. -/
def Text.Trims (s core : List Char) : Prop :=
  ∃ before after, s = before ++ core ++ after ∧
    (∀ c ∈ before, Text.isBlank c = true) ∧ (∀ c ∈ after, Text.isBlank c = true) ∧
    (∀ c ∈ core.head?, Text.isBlank c = false) ∧ ∀ c ∈ core.getLast?, Text.isBlank c = false

lemma Text.trims_iff {s core : List Char} : Text.Trims s core ↔ Text.trim s = core := by
  constructor
  · rintro ⟨before, after, rfl, hbefore, hafter, hhead, hlast⟩
    exact Text.trim_padded hbefore hafter hhead hlast
  · rintro rfl
    obtain ⟨after, hs, hafter, hlast⟩ :=
      Text.exists_dropEndWhile Text.isBlank (s.dropWhile Text.isBlank)
    refine ⟨s.takeWhile Text.isBlank, after, ?_, fun c hc => List.mem_takeWhile_imp hc, hafter, ?_,
      hlast⟩
    · conv_lhs => rw [← List.takeWhile_append_dropWhile (p := Text.isBlank) (l := s), hs]
      rw [List.append_assoc]
      rfl
    · intro c hc
      have hkept : (s.dropWhile Text.isBlank).head? = some c :=
        (congrArg List.head? hs).trans
          (by rw [List.head?_append]; exact congrArg (Option.or · _) hc)
      have hhead := List.head?_dropWhile_not Text.isBlank s
      rw [hkept] at hhead
      simpa using hhead

/-- What a line defines.  It is divided at its last equals sign; the name stands before it and the
kind after it, with blanks around them. -/
inductive Defines : List Char → Entry → Prop
  | entry {left right value : List Char} {e : Entry} (hright : '=' ∉ right)
      (hname : Text.Trims left e.name.toList) (hne : e.name ≠ "") (hvalue : Text.Trims right value)
      (hkind : Denotes value e.kind.toInt) (hmax : e.kind.toInt ≤ 65535) :
      Defines (left ++ '=' :: right) e

/-- A line that says nothing, or defines something. -/
def Readable (body : List Char) : Prop :=
  (∀ c ∈ body, Text.isBlank c = true) ∨ ∃ e, Defines body e

lemma readLine_eq_ok_none_iff {body : List Char} :
    readLine body = .ok none ↔ ∀ c ∈ body, Text.isBlank c = true := by
  rw [← List.all_eq_true]
  fun_cases readLine body with
  | case1 hblank => simp [hblank]
  | _ => simp_all

/-- What stands after the last equals sign holds none. -/
lemma notMem_of_splitLast? {sep : Char} {s left right : List Char}
    (h : splitLast? sep s = some (left, right)) : sep ∉ right := by
  rw [splitLast?, List.span_eq_takeWhile_dropWhile] at h
  split at h
  · cases h
  · next after c before hspan =>
      cases h
      rw [Prod.mk.injEq] at hspan
      rw [List.mem_reverse, ← hspan.1]
      intro hmem
      simpa using List.mem_takeWhile_imp hmem

lemma Defines.not_blank {body : List Char} {e : Entry} (h : Defines body e) :
    ¬ ∀ c ∈ body, Text.isBlank c = true := by
  cases h with
  | entry => exact fun hblank => absurd (hblank '=' (by simp)) (by decide)

lemma maxKind_lt_iff {k : Kind} : maxKind < k ↔ 65535 < k.toInt := by
  rw [Int32.lt_iff_toInt_lt]
  rfl

/-- **Definitions.**  A line is read as the definition on it, and as nothing else. -/
theorem readLine_eq_ok_some_iff {body : List Char} {e : Entry} :
    readLine body = .ok (some e) ↔ Defines body e := by
  constructor
  · fun_cases readLine body with
    | case6 hblank left right hsplit name hname value hvalue kind hmax =>
        intro h
        cases h
        obtain ⟨hdenotes, hlow, hhigh⟩ := readValue_eq_ok_iff.mp hvalue
        have hkind : kind.toInt = value := Kind.toInt_ofInt hlow hhigh
        rw [maxKind_lt_iff, Int.not_lt] at hmax
        rw [eq_append_of_splitLast? hsplit]
        refine .entry (notMem_of_splitLast? hsplit)
          (Text.trims_iff.mpr String.toList_ofList.symm) ?_
          (Text.trims_iff.mpr rfl) (hkind ▸ hdenotes) hmax
        simpa [String.ofList_eq_empty_iff] using hname
    | _ => intro h; cases h
  · intro h
    have hblank := h.not_blank
    cases h with
    | @entry left right value e hright hname hne hvalue hkind hmax =>
        have hread : readValue value = .ok e.kind.toInt :=
          readValue_eq_ok_iff.mpr ⟨hkind, e.kind.le_toInt, Int.le_of_lt_add_one e.kind.toInt_lt⟩
        have hlimit : ¬ maxKind < e.kind := by rw [maxKind_lt_iff, Int.not_lt]; exact hmax
        rw [readLine, if_neg (by rwa [List.all_eq_true]), splitLast?_append hright]
        simp only [Text.trims_iff.mp hname, Text.trims_iff.mp hvalue, hread, Int32.ofInt_toInt,
          if_neg hlimit]
        simp [hne]

lemma Defines.unique {body : List Char} {e e' : Entry} (h : Defines body e) (h' : Defines body e') :
    e = e' := by
  rw [← readLine_eq_ok_some_iff] at h h'
  rw [h] at h'
  cases h'
  rfl

lemma readLine_eq_error_iff {body : List Char} :
    (∃ fault, readLine body = .error fault) ↔ ¬ Readable body := by
  rw [Readable, ← readLine_eq_ok_none_iff]
  simp only [← readLine_eq_ok_some_iff]
  rcases readLine body with fault | _ | e <;> simp

/-! ## Reading on -/

/-- What lines say that are not blank. -/
def told (lines : List Text.Line) : List (List Char) :=
  (lines.map Text.Line.body).filter fun body => !body.all Text.isBlank

section Reading

variable {l : Text.Line} {lines : List Text.Line} {number offset : Nat} {done : List Entry}

lemma told_cons_of_blank (h : ∀ c ∈ l.body, Text.isBlank c = true) :
    told (l :: lines) = told lines := by
  rw [told, List.map_cons, List.filter_cons_of_neg (by simpa using h), told]

lemma told_cons_of_not_blank (h : ¬ ∀ c ∈ l.body, Text.isBlank c = true) :
    told (l :: lines) = l.body :: told lines := by
  rw [told, List.map_cons, List.filter_cons_of_pos (by simpa using h), told]

/-- **Reading on.**  Lines are read as a table exactly if each of them that is not blank has a
definition, and the table lists these in order, after the entries read before. -/
theorem readLines_eq_ok_iff (h : ∀ l ∈ lines, dropLineEnd l.text = l.body) {table : Table} :
    readLines number offset done (lines.map Text.Line.text) = .ok table ↔
      ∃ es, table.entries = done.reverse ++ es ∧ List.Forall₂ Defines (told lines) es := by
  induction lines generalizing number offset done with
  | nil =>
      obtain ⟨entries⟩ := table
      simp [readLines, told, eq_comm]
  | cons l lines ih =>
      obtain ⟨hl, hlines⟩ := List.forall_mem_cons.mp h
      rw [List.map_cons]
      cases hread : readLine l.body with
      | error fault =>
          have hnot : ¬ Readable l.body := readLine_eq_error_iff.mp ⟨fault, hread⟩
          rw [told_cons_of_not_blank fun hblank => hnot (.inl hblank)]
          simp only [List.forall₂_cons_left_iff]
          constructor
          · intro hok
            simp [readLines, hl, hread] at hok
          · rintro ⟨_, -, e, _, hdefines, -⟩
            exact absurd (.inr ⟨e, hdefines⟩) hnot
      | ok found =>
          rw [readLines_cons (by rw [hl]; exact hread), ih hlines]
          cases found with
          | none =>
              rw [told_cons_of_blank (readLine_eq_ok_none_iff.mp hread)]
              rfl
          | some e =>
              have hdefines := readLine_eq_ok_some_iff.mp hread
              rw [told_cons_of_not_blank hdefines.not_blank]
              constructor
              · rintro ⟨es, hentries, hes⟩
                exact ⟨e :: es, by simpa using hentries, .cons hdefines hes⟩
              · rintro ⟨_, hentries, hall⟩
                obtain ⟨e', es, hdefines', hes, rfl⟩ := List.forall₂_cons_left_iff.mp hall
                rw [hdefines.unique hdefines']
                exact ⟨es, by simpa using hentries, hes⟩

/-- A table can be read exactly if every line can. -/
lemma exists_forall₂_told_iff :
    (∃ es, List.Forall₂ Defines (told lines) es) ↔ ∀ l ∈ lines, Readable l.body := by
  induction lines with
  | nil => exact ⟨fun _ => by simp, fun _ => ⟨[], .nil⟩⟩
  | cons l lines ih =>
      rw [List.forall_mem_cons, ← ih]
      by_cases hblank : ∀ c ∈ l.body, Text.isBlank c = true
      · rw [told_cons_of_blank hblank]
        exact ⟨fun hes => ⟨.inl hblank, hes⟩, And.right⟩
      · rw [told_cons_of_not_blank hblank]
        simp only [List.forall₂_cons_left_iff]
        constructor
        · rintro ⟨_, e, es, hdefines, hes, -⟩
          exact ⟨.inr ⟨e, hdefines⟩, es, hes⟩
        · rintro ⟨hreadable, es, hes⟩
          obtain ⟨e, hdefines⟩ := hreadable.resolve_left hblank
          exact ⟨_, e, es, hdefines, hes, rfl⟩

/-- Where reading stops, all lines before can be read and the line cannot.  Its number and its range
are told by the lines before it. -/
theorem of_readLines_eq_error (h : ∀ l ∈ lines, dropLineEnd l.text = l.body) {e : TableError}
    (herror : readLines number offset done (lines.map Text.Line.text) = .error e) :
    ∃ before bad after, lines = before ++ bad :: after ∧ (∀ l ∈ before, Readable l.body) ∧
      ¬ Readable bad.body ∧ e.line = number + before.length ∧
      e.start = offset + Text.byteSize (before.flatMap Text.Line.text) ∧
      e.stop = e.start + Text.byteSize bad.body := by
  induction lines generalizing number offset done with
  | nil => cases herror
  | cons l lines ih =>
      obtain ⟨hl, hlines⟩ := List.forall_mem_cons.mp h
      rw [List.map_cons] at herror
      cases hread : readLine l.body with
      | error fault =>
          simp only [readLines, hl, hread, Except.error.injEq] at herror
          subst herror
          exact ⟨[], l, lines, rfl, by simp, readLine_eq_error_iff.mp ⟨fault, hread⟩, rfl, rfl, rfl⟩
      | ok found =>
          rw [readLines_cons (by rw [hl]; exact hread)] at herror
          obtain ⟨before, bad, after, rfl, hbefore, hbad, hline, hstart, hstop⟩ := ih hlines herror
          have hreadable : Readable l.body := by
            by_contra hnot
            obtain ⟨fault, hfault⟩ := readLine_eq_error_iff.mpr hnot
            rw [hread] at hfault
            cases hfault
          refine ⟨l :: before, bad, after, rfl, List.forall_mem_cons.mpr ⟨hreadable, hbefore⟩, hbad,
            ?_, ?_, hstop⟩
          · rw [hline, List.length_cons]; omega
          · rw [hstart, List.flatMap_cons, Text.byteSize_append]; omega

end Reading

/-! ## The whole -/

/-- **The whole.**  A text is made of lines.  It is read as a table exactly if each of them is blank
or has a definition, and then the table lists the definitions in order.  Otherwise the error is
about the first line for which this fails: it has the number of the line, and its range is what the
line says, after as many line feeds as there are lines before it. -/
theorem parse_cut (text : String) :
    ∃ lines, (∀ lines', Text.Cut text.toList lines' ↔ lines' = lines) ∧
    ((∃ table, Table.parse text = .ok table) ↔ ∀ l ∈ lines, Readable l.body) ∧
    (∀ table, Table.parse text = .ok table ↔ List.Forall₂ Defines (told lines) table.entries) ∧
    ∀ e, Table.parse text = .error e →
      ∃ before bad after, lines = before ++ bad :: after ∧ (∀ l ∈ before, Readable l.body) ∧
        ¬ Readable bad.body ∧ e.line = before.length + 1 ∧
        ∃ left right : String, text = left ++ String.ofList bad.body ++ right ∧
          left.toList = before.flatMap Text.Line.text ∧ left.toList.count '\n' = e.line - 1 ∧
          e.start = left.utf8ByteSize ∧ e.stop = (left ++ String.ofList bad.body).utf8ByteSize := by
  obtain ⟨lines, hcut⟩ := Text.exists_cut text.toList
  have hparse : Table.parse text = readLines 1 0 [] (lines.map Text.Line.text) := by
    rw [Table.parse, hcut.cutLines_eq]
  have hok :
      ∀ table, Table.parse text = .ok table ↔ List.Forall₂ Defines (told lines) table.entries := by
    intro table
    rw [hparse, readLines_eq_ok_iff hcut.dropLineEnd_text]
    simp
  refine ⟨lines, fun lines' => ⟨hcut.unique, fun heq => heq ▸ hcut⟩, ?_, hok, ?_⟩
  · rw [← exists_forall₂_told_iff]
    simp only [hok]
    exact ⟨fun ⟨table, h⟩ => ⟨_, h⟩, fun ⟨es, h⟩ => ⟨⟨es⟩, h⟩⟩
  · intro e herror
    rw [hparse] at herror
    obtain ⟨before, bad, after, rfl, hbefore, hbad, hline, hstart, hstop⟩ :=
      of_readLines_eq_error hcut.dropLineEnd_text herror
    refine ⟨before, bad, after, rfl, hbefore, hbad, by omega,
      String.ofList (before.flatMap Text.Line.text),
      String.ofList (bad.ending ++ after.flatMap Text.Line.text), ?_, by simp, ?_, ?_, ?_⟩
    · rw [← String.toList_inj, ← hcut.flatMap_text]
      simp [Text.Line.text]
    · rw [String.toList_ofList, hcut.count_newline]; omega
    · rw [Text.utf8ByteSize_ofList, hstart, Nat.zero_add]
    · rw [hstop, hstart, String.utf8ByteSize_append, Text.utf8ByteSize_ofList,
        Text.utf8ByteSize_ofList, Nat.zero_add]

/-- A letter of two bytes, several carriage returns, a blank of three bytes alone on its line and an
equals sign in a name stand before the line at fault. -/
theorem parse_cut_fourth :
    Table.parse "é=1\r\r\n\u2003\nB==+02\r\nC\r\nD=x" = .error ⟨4, 19, 20, .noEquals "C"⟩ ∧
    ∃ left line right : String, "é=1\r\r\n\u2003\nB==+02\r\nC\r\nD=x" = left ++ line ++ right ∧
      ¬ Readable line.toList ∧ left.toList.count '\n' = 3 ∧ left.utf8ByteSize = 19 ∧
      (left ++ line).utf8ByteSize = 20 := by
  have herror :
      Table.parse "é=1\r\r\n\u2003\nB==+02\r\nC\r\nD=x" = .error ⟨4, 19, 20, .noEquals "C"⟩ := by
    decide
  obtain ⟨lines, -, -, -, hfirst⟩ := parse_cut "é=1\r\r\n\u2003\nB==+02\r\nC\r\nD=x"
  obtain ⟨before, bad, after, -, -, hbad, -, left, right, htext, -, hcount, hstart, hstop⟩ :=
    hfirst _ herror
  exact ⟨herror, left, String.ofList bad.body, right, htext, by simpa using hbad, hcount,
    hstart.symm, hstop.symm⟩

end ParseTree
