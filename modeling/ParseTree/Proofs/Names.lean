import Mathlib.Data.List.TakeDrop
import ParseTree.Proofs.Lines
import ParseTree.Vocabulary.Basic

/-!
# What rule names are made of

A rule of a flattened tree has a name that is declared in a table and that is the canonical name of
a label.  Each of the two rules something out, whatever the text of the table and the label hold.

* **Declared names hold no line feed** — `ReadFrom.newline_notMem`: a table is read line by line, a
  name is part of a line, and a vocabulary knows no names but those of its table.
* **Canonical names hold no small letter** — `isLower_of_mem_canonicalName?`: every character is put
  in upper case, and the upper-case form of no character, of whatever script, has one of the letters
  `a` to `z`.
-/

namespace ParseTree

/-! ## Declared names -/

namespace Text

lemma dropEndWhile_sublist (p : Char → Bool) (s : List Char) : (dropEndWhile p s).Sublist s := by
  have h := (List.dropWhile_sublist p (l := s.reverse)).reverse
  rwa [List.reverse_reverse] at h

lemma trim_sublist (s : List Char) : (trim s).Sublist s :=
  (dropEndWhile_sublist _ _).trans (List.dropWhile_sublist _)

end Text

lemma newline_notMem_dropLineEnd {piece : List Char} (h : Text.IsLine piece) :
    '\n' ∉ dropLineEnd piece := by
  obtain ⟨body, hbody, rfl | rfl⟩ := h
  · exact fun hmem => hbody ((Text.dropEndWhile_sublist _ _).subset hmem)
  · have hdrop : dropLineEnd (body ++ ['\n']) = dropLineEnd body := by
      simp [dropLineEnd, Text.dropEndWhile]
    rw [hdrop]
    exact fun hmem => hbody ((Text.dropEndWhile_sublist _ _).subset hmem)

lemma eq_append_of_splitLast? {sep : Char} {s left right : List Char}
    (h : splitLast? sep s = some (left, right)) : s = left ++ sep :: right := by
  have hparts := s.reverse.takeWhile_append_dropWhile (p := (· != sep))
  rw [splitLast?, List.span_eq_takeWhile_dropWhile] at h
  split at h
  · cases h
  · next after c before hspan =>
      rw [Prod.mk.injEq] at hspan
      have hc : c = sep := by
        have hhead := List.head?_dropWhile_not (· != sep) s.reverse
        rw [hspan.2] at hhead
        simpa using hhead
      cases h
      rw [hspan.1, hspan.2, hc] at hparts
      rw [← List.reverse_reverse s, ← hparts]
      simp

lemma name_sublist_of_readLine {line : List Char} {entry : Entry}
    (h : readLine line = .ok (some entry)) : entry.name.toList.Sublist line := by
  revert h
  fun_cases readLine line with
  | case6 hblank left right hsplit name hname value hvalue kind hmax =>
      intro h
      cases h
      rw [eq_append_of_splitLast? hsplit, String.toList_ofList]
      exact (Text.trim_sublist left).trans (List.sublist_append_left left _)
  | _ => intro h; cases h

lemma mem_of_readLines {number offset : Nat} {done : List Entry} {lines : List (List Char)}
    {table : Table} (h : readLines number offset done lines = .ok table) :
    ∀ entry ∈ table.entries, entry ∈ done ∨
      ∃ raw ∈ lines, readLine (dropLineEnd raw) = .ok (some entry) := by
  fun_induction readLines number offset done lines with
  | case1 number offset done =>
      cases h
      intro entry hentry
      exact Or.inl (List.mem_reverse.mp hentry)
  | case2 => cases h
  | case3 number offset done raw rest line hline ih =>
      intro entry hentry
      rcases ih h entry hentry with hmem | ⟨other, hother, hread⟩
      · exact Or.inl hmem
      · exact Or.inr ⟨other, List.mem_cons_of_mem _ hother, hread⟩
  | case4 number offset done raw rest line found hline ih =>
      intro entry hentry
      rcases ih h entry hentry with hmem | ⟨other, hother, hread⟩
      · rcases List.mem_cons.mp hmem with rfl | hmem
        · exact Or.inr ⟨raw, List.mem_cons_self, hline⟩
        · exact Or.inl hmem
      · exact Or.inr ⟨other, List.mem_cons_of_mem _ hother, hread⟩

lemma newline_notMem_of_parse {text : String} {table : Table} (h : Table.parse text = .ok table)
    {entry : Entry} (hentry : entry ∈ table.entries) : '\n' ∉ entry.name.toList := by
  rcases mem_of_readLines h entry hentry with hmem | ⟨raw, hraw, hread⟩
  · cases hmem
  · intro hmem
    exact newline_notMem_dropLineEnd (Text.isLine_of_mem_cutLines hraw)
      ((name_sublist_of_readLine hread).subset hmem)

lemma Declarations.kindOf_of_declare {d d' : Declarations} {entry : Entry}
    (h : d.declare entry = .ok d') {name : String} {kind : Kind}
    (hname : d'.kindOf[name]? = some kind) :
    d.kindOf[name]? = some kind ∨ entry = ⟨name, kind⟩ := by
  revert h
  fun_cases Declarations.declare d entry with
  | case2 hmax hsame =>
      intro h
      cases h
      exact Or.inl hname
  | case4 hmax hnew =>
      intro h
      cases h
      rw [Std.HashMap.getElem?_insert] at hname
      split at hname
      · next heq =>
          rw [beq_iff_eq] at heq
          rw [Option.some.injEq] at hname
          exact Or.inr (by rw [← heq, ← hname])
      · exact Or.inl hname
  | _ => intro h; cases h

lemma Declarations.kindOf_of_foldlM_declare {d d' : Declarations} {entries : List Entry}
    (h : entries.foldlM Declarations.declare d = .ok d') {name : String} {kind : Kind}
    (hname : d'.kindOf[name]? = some kind) :
    d.kindOf[name]? = some kind ∨ ⟨name, kind⟩ ∈ entries := by
  induction entries generalizing d with
  | nil =>
      cases h
      exact Or.inl hname
  | cons entry rest ih =>
      rw [List.foldlM_cons] at h
      cases hstep : d.declare entry with
      | error e => simp [hstep, bind, Except.bind] at h
      | ok next =>
          simp only [hstep, bind, Except.bind] at h
          rcases ih h with hbefore | hmem
          · rcases kindOf_of_declare hstep hbefore with hbefore | rfl
            · exact Or.inl hbefore
            · exact Or.inr List.mem_cons_self
          · exact Or.inr (List.mem_cons_of_mem _ hmem)

/-- A vocabulary knows no names but those of its table. -/
lemma Vocabulary.mem_of_resolve {table : Table} {v : Vocabulary}
    (h : Vocabulary.build table = .ok v)
    {name : String} {kind : Kind} (hname : v.resolve name = .ok kind) :
    ⟨name, kind⟩ ∈ table.entries := by
  rw [Vocabulary.build] at h
  split at h
  · cases h
  · next d hd =>
      cases h
      rw [Vocabulary.resolve] at hname
      split at hname
      · next found hfound =>
          cases hname
          rcases Declarations.kindOf_of_foldlM_declare hd hfound with hnone | hmem
          · simp at hnone
          · exact hmem
      · cases hname

/-- A vocabulary that the text form of a table declares. -/
def Vocabulary.ReadFrom (v : Vocabulary) (source : String) : Prop :=
  ∃ table, Table.parse source = .ok table ∧ Vocabulary.build table = .ok v

/-- **Declared names.**  No name that a vocabulary has read from a text holds a line feed. -/
theorem Vocabulary.ReadFrom.newline_notMem {v : Vocabulary} {source : String}
    (h : v.ReadFrom source)
    {name : String} {kind : Kind} (hname : v.resolve name = .ok kind) : '\n' ∉ name.toList := by
  obtain ⟨table, hparse, hbuild⟩ := h
  exact newline_notMem_of_parse hparse (Vocabulary.mem_of_resolve hbuild hname)

/-! ## Canonical names -/

namespace Text

lemma isLower_iff {c : Char} : c.isLower = true ↔ 97 ≤ c.toNat ∧ c.toNat ≤ 122 := by
  change (decide (97 ≤ c.val) && decide (c.val ≤ 122)) = true ↔ _
  rw [Bool.and_eq_true, decide_eq_true_iff, decide_eq_true_iff, UInt32.le_iff_toNat_le,
    UInt32.le_iff_toNat_le]
  rfl

lemma toNat_ofNat (n : Nat) : (Char.ofNat n).toNat = n ∨ (Char.ofNat n).toNat = 0 := by
  by_cases h : n.isValidChar
  · have hvalid : Char.ofNat n = Char.ofNatAux n h := dif_pos h
    exact Or.inl (by rw [hvalid]; rfl)
  · have hinvalid : Char.ofNat n = '\x00' := dif_neg h
    exact Or.inr (by rw [hinvalid]; rfl)

lemma isLower_ofNat {n : Nat} (h : n < 97 ∨ 123 ≤ n) : (Char.ofNat n).isLower = false := by
  have hcases := toNat_ofNat n
  rw [Bool.eq_false_iff, Ne, isLower_iff]
  omega

lemma isLower_toUpper {c : Char} (h : c.toNat < 128) : c.toUpper.isLower = false := by
  have hascii : ∀ n < 128, (Char.ofNat n).toUpper.isLower = false := by decide
  have hc := hascii c.toNat h
  rwa [Char.ofNat_toNat] at hc

/- The upper-case forms in the tables come after the small letters or before them. -/

lemma upperRuns_outside : ∀ entry ∈ upperRuns,
    (entry.1.last : Int) + entry.2 < 97 ∨ 123 ≤ (entry.1.first : Int) + entry.2 := by
  decide +kernel

lemma upperExpansions_outside : ∀ entry ∈ upperExpansions, ∀ n ∈ entry.2, n < 97 ∨ 123 ≤ n := by
  decide +kernel

/-- No upper-case form holds a small letter. -/
lemma isLower_of_mem_upper {c d : Char} (h : d ∈ upper c) : d.isLower = false := by
  rw [upper] at h
  split at h
  · next hascii =>
      rw [List.mem_singleton] at h
      rw [h]
      exact isLower_toUpper hascii
  · next hascii =>
      split at h
      · next run distance hfind =>
          -- All characters of a run are moved by the same distance, so its two ends decide.
          have houtside : (run.last : Int) + distance < 97 ∨ 123 ≤ (run.first : Int) + distance :=
            upperRuns_outside _ (List.mem_of_find?_eq_some hfind)
          have hrun := List.find?_some hfind
          simp only [Run.contains, Bool.and_eq_true, decide_eq_true_eq] at hrun
          rw [List.mem_singleton] at h
          rw [h]
          exact isLower_ofNat (by omega)
      · split at h
        · next entry form hfind =>
            obtain ⟨n, hn, rfl⟩ := List.mem_map.mp h
            exact isLower_ofNat (upperExpansions_outside _ (List.mem_of_find?_eq_some hfind) n hn)
        · rw [List.mem_singleton] at h
          rw [h, Bool.eq_false_iff, Ne, isLower_iff]
          omega

end Text

namespace Label

lemma isLower_of_mem_snakeChar {c d : Char} (h : d ∈ snakeChar c) : d.isLower = false := by
  rw [snakeChar] at h
  split at h
  · rcases List.mem_cons.mp h with rfl | h
    · rfl
    · exact Text.isLower_of_mem_upper h
  · exact Text.isLower_of_mem_upper h

/-- **Canonical names.**  No canonical name holds a small letter. -/
theorem isLower_of_mem_canonicalName? {label name : String} (h : canonicalName? label = some name)
    {d : Char} (hd : d ∈ name.toList) : d.isLower = false := by
  obtain ⟨stem, _, rfl⟩ := Option.map_eq_some_iff.mp h
  rw [upperSnake, String.toList_ofList] at hd
  cases hstem : stem.toList with
  | nil => simp [hstem, upperSnakeChars] at hd
  | cons c rest =>
      rw [hstem, upperSnakeChars, List.mem_append, List.mem_flatMap] at hd
      rcases hd with hd | ⟨c', _, hd⟩
      · exact Text.isLower_of_mem_upper hd
      · exact isLower_of_mem_snakeChar hd

end Label

end ParseTree
