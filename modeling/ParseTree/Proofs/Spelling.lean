import Mathlib.Data.List.Basic
import ParseTree.Json.Value
import ParseTree.Tree.Writer

/-!
# How strings are spelled

A character inside a string may be written as itself, by a letter of its own after a backslash, by
its code point, or by a pair of surrogates.  This module says what the readers make of a spelling,
whatever follows it, and of one that the end of the text cuts short.

* **Whole** — `readString_spelled`, `skipString_spelled`: a string is read as what it spells.
* **Cut short** — `readString_cut`: wherever the cut is, also inside an escape or between the halves
  of a pair, the end of the text is blamed.
* **Written** — `spelling_escapeChar`: what the writer puts in place of a character spells it.
-/

namespace ParseTree.Json

/-! ## The end of the text -/

/-- A reader has met the end of the text too early. -/
def RunsOut {α : Type} (r : Except Fault α) : Prop :=
  ∃ fault, r = .error fault ∧ fault.cause.category = .eof

lemma runsOut_error {α : Type} {fault : Fault} (h : fault.cause.category = .eof) :
    RunsOut (.error fault : Except Fault α) :=
  ⟨fault, rfl, h⟩

lemma RunsOut.bind {α β : Type} {r : Except Fault α} (h : RunsOut r) (k : α → Except Fault β) :
    RunsOut (r.bind k) := by
  obtain ⟨fault, rfl, hfault⟩ := h
  exact runsOut_error hfault

lemma RunsOut.map {α β : Type} {r : Except Fault α} (h : RunsOut r) (f : α → β) :
    RunsOut (r.map f) := by
  obtain ⟨fault, rfl, hfault⟩ := h
  exact runsOut_error hfault

/-- A text that is cut short inside the first of two parts, or later. -/
lemma cut_append {p q u v : List Char} (h : u ++ v = p ++ q) (hq : q ≠ []) :
    (∃ missing, missing ≠ [] ∧ u = p ++ missing) ∨ ∃ p', p = u ++ p' ∧ v = p' ++ q := by
  rcases List.append_eq_append_iff.mp h with ⟨p', rfl, rfl⟩ | ⟨missing, rfl, rfl⟩
  · exact Or.inr ⟨p', rfl, rfl⟩
  · cases missing with
    | nil => exact Or.inr ⟨[], by simp, rfl⟩
    | cons c missing => exact Or.inl ⟨_, by simp, rfl⟩

/-! ## Hexadecimal digits -/

/-- A digit with this value, in small or capital letters. -/
def IsHexDigit (value : Nat) (c : Char) : Prop :=
  value < 16 ∧ (c = Nat.digitChar value ∨ c = (Nat.digitChar value).toUpper)

lemma IsHexDigit.hexValue? {value : Nat} {c : Char} (h : IsHexDigit value c) :
    hexValue? c = some value := by
  have hall : ∀ v < 16, Json.hexValue? (Nat.digitChar v) = some v ∧
      Json.hexValue? (Nat.digitChar v).toUpper = some v := by decide
  obtain ⟨hlt, rfl | rfl⟩ := h
  · exact (hall value hlt).1
  · exact (hall value hlt).2

lemma IsHexDigit.utf8Size {value : Nat} {c : Char} (h : IsHexDigit value c) : c.utf8Size = 1 := by
  have hall :
      ∀ v < 16, (Nat.digitChar v).utf8Size = 1 ∧ (Nat.digitChar v).toUpper.utf8Size = 1 := by
    decide
  obtain ⟨hlt, rfl | rfl⟩ := h
  · exact (hall value hlt).1
  · exact (hall value hlt).2

/-- Four hexadecimal digits that make a number. -/
inductive HexSpelling : Nat → List Char → Prop
  | mk {v₁ v₂ v₃ v₄ : Nat} {a b c d : Char} (ha : IsHexDigit v₁ a) (hb : IsHexDigit v₂ b)
      (hc : IsHexDigit v₃ c) (hd : IsHexDigit v₄ d) :
      HexSpelling (((v₁ * 16 + v₂) * 16 + v₃) * 16 + v₄) [a, b, c, d]

lemma readHex_spelled {n : Nat} {w : List Char} (h : HexSpelling n w) (rest : List Char) :
    readHex (w ++ rest) = .ok (n, rest) := by
  obtain ⟨ha, hb, hc, hd⟩ := h
  simp [readHex, ha.hexValue?, hb.hexValue?, hc.hexValue?, hd.hexValue?]

lemma readHex_cut {n : Nat} {p q : List Char} (h : HexSpelling n (p ++ q)) (hq : q ≠ []) :
    RunsOut (readHex p) := by
  generalize hw : p ++ q = w at h
  obtain ⟨ha, hb, hc, hd⟩ := h
  have hfault : ∀ {s : List Char}, Text.byteSize (s.take 4) < 4 →
      RunsOut (.error (hexFault s) : Reading Nat) := by
    intro s hs
    rw [hexFault, if_pos hs]
    exact runsOut_error rfl
  match p, hw with
  | [], _ => exact hfault (by decide)
  | [_], hw =>
      cases hw
      exact hfault (by simp [Text.byteSize, ha.utf8Size])
  | [_, _], hw =>
      cases hw
      exact hfault (by simp [Text.byteSize, ha.utf8Size, hb.utf8Size])
  | [_, _, _], hw =>
      cases hw
      exact hfault (by simp [Text.byteSize, ha.utf8Size, hb.utf8Size, hc.utf8Size])
  | _ :: _ :: _ :: _ :: _, hw => simp_all

/-! ## Characters of a string -/

/-- The letters that stand for a character after a backslash. -/
def escapeLetters : List (Char × Char) :=
  [('"', '"'), ('\\', '\\'), ('/', '/'), ('b', '\x08'), ('f', '\x0c'), ('n', '\n'), ('r', '\r'),
    ('t', '\t')]

/-- The ways to write a character inside a string. -/
inductive CharSpelling : Char → List Char → Prop
  /-- As itself. -/
  | plain {c : Char} (quote : c ≠ '"') (backslash : c ≠ '\\') (control : 0x20 ≤ c.toNat) :
      CharSpelling c [c]
  /-- By a letter. -/
  | letter {l c : Char} (h : (l, c) ∈ escapeLetters) : CharSpelling c ['\\', l]
  /-- By its code point. -/
  | code {c : Char} {digits : List Char} (h : HexSpelling c.toNat digits) :
      CharSpelling c ('\\' :: 'u' :: digits)
  /-- By a pair of surrogates. -/
  | pair {c : Char} {high low : List Char} (h : 0x10000 ≤ c.toNat)
      (hhigh : HexSpelling (0xD800 + (c.toNat - 0x10000) / 0x400) high)
      (hlow : HexSpelling (0xDC00 + (c.toNat - 0x10000) % 0x400) low) :
      CharSpelling c ('\\' :: 'u' :: (high ++ '\\' :: 'u' :: low))

/-- The ways to write a text inside a string. -/
inductive TextSpelling : List Char → List Char → Prop
  | nil : TextSpelling [] []
  | cons {c : Char} {cs w ws : List Char} (hc : CharSpelling c w) (hcs : TextSpelling cs ws) :
      TextSpelling (c :: cs) (w ++ ws)

lemma simpleEscape?_of_mem {l c : Char} (h : (l, c) ∈ escapeLetters) :
    simpleEscape? l = some c := by
  have hall : ∀ e ∈ escapeLetters, simpleEscape? e.1 = some e.2 := by decide
  exact hall _ h

lemma not_surrogate (c : Char) :
    isLowSurrogate c.toNat = false ∧ isHighSurrogate c.toNat = false := by
  have hvalid : c.toNat < 0xd800 ∨ 0xdfff < c.toNat ∧ c.toNat < 0x110000 := c.valid
  simp only [isLowSurrogate, isHighSurrogate, Bool.and_eq_false_iff, decide_eq_false_iff_not]
  omega

lemma readEscape_code {c : Char} {digits : List Char} (h : HexSpelling c.toNat digits)
    (rest : List Char) : readEscape ('u' :: (digits ++ rest)) = .ok (c, rest) := by
  have hletter : simpleEscape? 'u' = none := by decide
  simp [readEscape, hletter, readHex_spelled h, not_surrogate c]

/-- The two halves of a character are what they should be. -/
lemma surrogates (c : Char) :
    isLowSurrogate (0xD800 + (c.toNat - 0x10000) / 0x400) = false ∧
    isHighSurrogate (0xD800 + (c.toNat - 0x10000) / 0x400) = true ∧
    isLowSurrogate (0xDC00 + (c.toNat - 0x10000) % 0x400) = true := by
  have hvalid : c.toNat < 0xd800 ∨ 0xdfff < c.toNat ∧ c.toNat < 0x110000 := c.valid
  simp only [isLowSurrogate, isHighSurrogate, Bool.and_eq_false_iff, decide_eq_false_iff_not,
    Bool.and_eq_true, decide_eq_true_eq]
  omega

lemma readEscape_high {c : Char} {high : List Char}
    (hhigh : HexSpelling (0xD800 + (c.toNat - 0x10000) / 0x400) high) (rest : List Char) :
    readEscape ('u' :: (high ++ rest))
      = readLowSurrogate (0xD800 + (c.toNat - 0x10000) / 0x400) rest := by
  have hletter : simpleEscape? 'u' = none := by decide
  obtain ⟨hnot, hishigh, -⟩ := surrogates c
  simp only [readEscape, hletter, readHex_spelled hhigh, hnot, hishigh, if_true, Bool.false_eq_true,
    if_false]

lemma readLowSurrogate_low {c : Char} {low : List Char} (h : 0x10000 ≤ c.toNat)
    (hlow : HexSpelling (0xDC00 + (c.toNat - 0x10000) % 0x400) low) (rest : List Char) :
    readLowSurrogate (0xD800 + (c.toNat - 0x10000) / 0x400) ('\\' :: 'u' :: (low ++ rest))
      = .ok (c, rest) := by
  obtain ⟨-, -, hislow⟩ := surrogates c
  have hnumber : 0x10000 + (0xD800 + (c.toNat - 0x10000) / 0x400 - 0xD800) * 0x400
      + (0xDC00 + (c.toNat - 0x10000) % 0x400 - 0xDC00) = c.toNat := by
    omega
  have hmarks : (readMark '\\' ('\\' :: 'u' :: (low ++ rest))).bind (readMark 'u')
      = .ok (low ++ rest) := rfl
  simp only [readLowSurrogate, hmarks, readHex_spelled hlow, hislow, hnumber, Char.ofNat_toNat,
    if_true]

lemma readEscape_code_cut {p : List Char} (h : RunsOut (readHex p)) :
    RunsOut (readEscape ('u' :: p)) := by
  have hletter : simpleEscape? 'u' = none := by decide
  obtain ⟨fault, hread, hfault⟩ := h
  simp only [readEscape, hletter, hread, if_true]
  exact runsOut_error hfault

lemma readLowSurrogate_cut {n high : Nat} {w p q : List Char} (h : HexSpelling n w)
    (hw : '\\' :: 'u' :: w = p ++ q) (hq : q ≠ []) : RunsOut (readLowSurrogate high p) := by
  rcases List.cons_eq_append_iff.mp hw with ⟨rfl, -⟩ | ⟨p, rfl, hw'⟩
  · exact runsOut_error rfl
  rcases List.cons_eq_append_iff.mp hw' with ⟨rfl, -⟩ | ⟨p, rfl, rfl⟩
  · exact runsOut_error rfl
  obtain ⟨fault, hread, hfault⟩ := readHex_cut h hq
  have hmarks : (readMark '\\' ('\\' :: 'u' :: p)).bind (readMark 'u') = .ok p := rfl
  simp only [readLowSurrogate, hmarks, hread]
  exact runsOut_error hfault

/-- An escape that is cut short behind its backslash. -/
lemma readEscape_cut {c : Char} {p q : List Char} (h : CharSpelling c ('\\' :: (p ++ q)))
    (hq : q ≠ []) : RunsOut (readEscape p) := by
  generalize hspelled : '\\' :: (p ++ q) = spelled at h
  cases h with
  | plain quote backslash control =>
      rw [List.cons.injEq] at hspelled
      exact absurd hspelled.1.symm backslash
  | letter hmem =>
      obtain rfl : p = [] := by
        cases p with
        | nil => rfl
        | cons _ _ => simp_all
      exact runsOut_error rfl
  | code hcode =>
      rcases List.cons_eq_append_iff.mp (List.cons.inj hspelled).2.symm with
        ⟨rfl, -⟩ | ⟨p, rfl, rfl⟩
      · exact runsOut_error rfl
      · exact readEscape_code_cut (readHex_cut hcode hq)
  | pair hc hhigh hlow =>
      rcases List.cons_eq_append_iff.mp (List.cons.inj hspelled).2.symm with ⟨rfl, -⟩ | ⟨p, rfl, hw⟩
      · exact runsOut_error rfl
      rcases cut_append hw hq with ⟨missing, hmissing, rfl⟩ | ⟨p, rfl, hrest⟩
      · exact readEscape_code_cut (readHex_cut hhigh hmissing)
      · rw [readEscape_high hhigh]
        exact readLowSurrogate_cut hlow hrest hq

/-! ## Strings -/

lemma readStringFrom_escape (done rest : List Char) :
    readStringFrom done ('\\' :: rest)
      = (readEscape rest).bind fun r => readStringFrom (r.1 :: done) r.2 := by
  rw [readStringFrom, if_neg (by decide), if_neg (by decide), if_pos rfl]
  split <;> simp [*, Except.bind]

lemma skipString_escape (rest : List Char) :
    skipString ('\\' :: rest) = (skipEscape rest).bind skipString := by
  rw [skipString, if_neg (by decide), if_neg (by decide), if_pos rfl]
  split <;> simp [*, Except.bind]

lemma readStringFrom_char {c : Char} {w : List Char} (h : CharSpelling c w)
    (done rest : List Char) :
    readStringFrom done (w ++ rest) = readStringFrom (c :: done) rest := by
  cases h with
  | plain quote backslash control =>
      rw [List.singleton_append, readStringFrom, if_neg quote, if_neg (by omega), if_neg backslash]
  | letter hmem =>
      rw [List.cons_append, readStringFrom_escape]
      simp [readEscape, simpleEscape?_of_mem hmem, Except.bind]
  | code hcode =>
      rw [List.cons_append, readStringFrom_escape, List.cons_append, readEscape_code hcode]
      rfl
  | pair hc hhigh hlow =>
      rw [List.cons_append, readStringFrom_escape, List.cons_append, List.append_assoc,
        readEscape_high hhigh, List.cons_append, List.cons_append, readLowSurrogate_low hc hlow]
      rfl

lemma readStringFrom_char_cut {c : Char} {p q : List Char} (h : CharSpelling c (p ++ q))
    (hq : q ≠ []) (done : List Char) : RunsOut (readStringFrom done p) := by
  cases p with
  | nil =>
      rw [readStringFrom]
      exact runsOut_error rfl
  | cons d p =>
      have hd : d = '\\' := by
        generalize hw : d :: p ++ q = w at h
        cases h <;> simp_all
      subst hd
      rw [readStringFrom_escape]
      exact (readEscape_cut h hq).bind _

lemma readStringFrom_spelled {cs ws : List Char} (h : TextSpelling cs ws) (done rest : List Char) :
    readStringFrom done (ws ++ rest) = readStringFrom (cs.reverse ++ done) rest := by
  induction h generalizing done with
  | nil => rfl
  | cons hc _ ih => rw [List.append_assoc, readStringFrom_char hc, ih]; simp

/-- A string is read as the text that it spells. -/
theorem readString_spelled {text : String} {ws : List Char} (h : TextSpelling text.toList ws)
    (rest : List Char) : readString (ws ++ '"' :: rest) = .ok (text, rest) := by
  rw [readString, readStringFrom_spelled h, readStringFrom, if_pos rfl]
  simp

lemma readStringFrom_cut {cs ws p q : List Char} (h : TextSpelling cs ws)
    (hw : ws ++ ['"'] = p ++ q) (hq : q ≠ []) (done : List Char) :
    RunsOut (readStringFrom done p) := by
  induction h generalizing p done with
  | nil =>
      obtain rfl : p = [] := by
        cases p with
        | nil => rfl
        | cons _ _ => simp_all
      rw [readStringFrom]
      exact runsOut_error rfl
  | cons hc _ ih =>
      rw [List.append_assoc] at hw
      rcases cut_append hw hq with ⟨missing, hmissing, rfl⟩ | ⟨p, rfl, hrest⟩
      · exact readStringFrom_char_cut hc hmissing done
      · rw [readStringFrom_char hc]
        exact ih hrest _

/-- A string that is cut short is blamed on the end of the text, wherever the cut is. -/
theorem readString_cut {text : String} {ws p q : List Char} (h : TextSpelling text.toList ws)
    (hw : ws ++ ['"'] = p ++ q) (hq : q ≠ []) : RunsOut (readString p) :=
  readStringFrom_cut h hw hq []

lemma skipEscape_hex {n : Nat} {digits : List Char} (h : HexSpelling n digits) (rest : List Char) :
    skipEscape ('u' :: (digits ++ rest)) = .ok rest := by
  have hletter : simpleEscape? 'u' = none := by decide
  simp [skipEscape, hletter, readHex_spelled h]

lemma skipString_char {c : Char} {w : List Char} (h : CharSpelling c w) (rest : List Char) :
    skipString (w ++ rest) = skipString rest := by
  cases h with
  | plain quote backslash control =>
      rw [List.singleton_append, skipString, if_neg quote, if_neg (by omega), if_neg backslash]
  | letter hmem =>
      rw [List.cons_append, skipString_escape]
      simp [skipEscape, simpleEscape?_of_mem hmem, Except.bind]
  | code hcode =>
      rw [List.cons_append, skipString_escape, List.cons_append, skipEscape_hex hcode]
      rfl
  | pair hc hhigh hlow =>
      rw [List.cons_append, skipString_escape, List.cons_append, List.append_assoc,
        skipEscape_hex hhigh, Except.bind, List.cons_append, skipString_escape, List.cons_append,
        skipEscape_hex hlow]
      rfl

/-- A string that nobody asks for is passed over. -/
theorem skipString_spelled {cs ws : List Char} (h : TextSpelling cs ws) (rest : List Char) :
    skipString (ws ++ '"' :: rest) = .ok rest := by
  induction h with
  | nil => rw [List.nil_append, skipString, if_pos rfl]
  | cons hc _ ih => rw [List.append_assoc, skipString_char hc, ih]

/-! ## The writer -/

lemma hexSpelling_control {n : Nat} (h : n < 0x20) :
    HexSpelling n ['0', '0', Nat.digitChar (n / 16), Nat.digitChar (n % 16)] := by
  have hzero : IsHexDigit 0 '0' := ⟨by decide, Or.inl rfl⟩
  have hhigh : IsHexDigit (n / 16) (Nat.digitChar (n / 16)) := ⟨by omega, Or.inl rfl⟩
  have hlow : IsHexDigit (n % 16) (Nat.digitChar (n % 16)) := ⟨by omega, Or.inl rfl⟩
  have hvalue : ((0 * 16 + 0) * 16 + n / 16) * 16 + n % 16 = n := by omega
  have hspelling := HexSpelling.mk hzero hzero hhigh hlow
  rwa [hvalue] at hspelling

/-- What the writer puts in place of a character spells it. -/
lemma spelling_escapeChar (c : Char) : CharSpelling c (escapeChar c) := by
  fun_cases escapeChar c with
  | case8 _ _ _ _ _ _ _ control => exact .code (hexSpelling_control control)
  | case9 quote backslash _ _ _ _ _ control =>
      exact .plain quote backslash (Nat.le_of_not_lt control)
  | _ =>
      subst_vars
      exact .letter (by decide)

lemma spelling_flatMap_escapeChar (cs : List Char) : TextSpelling cs (cs.flatMap escapeChar) := by
  induction cs with
  | nil => exact .nil
  | cons c cs ih => exact .cons (spelling_escapeChar c) ih

end ParseTree.Json
