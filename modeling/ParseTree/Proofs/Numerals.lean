import Mathlib.Data.List.Basic
import ParseTree.Proofs.Spelling

/-!
# How integers are spelled

An integer is spelled in decimal, without a leading zero and with a sign only if it is negative.  A
number has no closing mark, so what the reader makes of it depends on what follows: `Stops` says
that the number does not go on.

* **Whole** — `readNumeral_integer`: the digits are taken as they stand, for integers of any size.
  `readNumber_integer`: what they denote is the integer if it fits in 64 bits, and no integer
  otherwise.
* **Cut short** — `readNumber_cut`: what is left of an integer is an integer again, nearer to zero,
  or nothing but its sign.
-/

namespace ParseTree.Json

/-! ## Digits -/

/-- Digits as they stand before a point: there are some, and a zero in front stands alone. -/
structure WholeDigits (ds : List Char) : Prop where
  ne_nil : ds ≠ []
  isDigit : ∀ c ∈ ds, c.isDigit = true
  zero : ds.head? = some '0' → ds = ['0']

/-- A number in front of this text does not go on there. -/
def Stops (s : List Char) : Prop :=
  ∀ c ∈ s.head?, c.isDigit = false ∧ c ≠ '.' ∧ c ≠ 'e' ∧ c ≠ 'E'

lemma stops_nil : Stops [] := by simp [Stops]

lemma WholeDigits.left {p q : List Char} (h : WholeDigits (p ++ q)) (hp : p ≠ []) :
    WholeDigits p := by
  refine ⟨hp, fun c hc => h.isDigit c (List.mem_append_left q hc), fun hzero => ?_⟩
  cases p with
  | nil => exact absurd rfl hp
  | cons c p =>
      have hall := h.zero hzero
      simp only [List.cons_append, List.cons.injEq, List.append_eq_nil_iff] at hall
      rw [hall.1, hall.2.1]

lemma wholeDigits_toDigits (n : Nat) : WholeDigits (Nat.toDigits 10 n) := by
  refine ⟨Nat.toDigits_ne_nil, fun c => Nat.isDigit_of_mem_toDigits (by decide) (by decide), ?_⟩
  induction n using Nat.strongRecOn with
  | ind n ih =>
      intro hzero
      by_cases hn : n < 10
      · rw [Nat.toDigits_of_lt_base hn, List.head?_singleton, Option.some.injEq] at hzero
        rw [Nat.toDigits_of_lt_base hn, hzero]
      · -- The digits in front are those of a smaller number, which is not zero.
        rw [Nat.toDigits_of_base_le (by decide) (by omega),
          List.head?_append_of_ne_nil _ Nat.toDigits_ne_nil] at hzero
        have hfront := congrArg (Nat.ofDigitChars 10 · 0) (ih (n / 10) (by omega) hzero)
        simp only [Nat.ofDigitChars_ten_toDigits] at hfront
        have hvalue : Nat.ofDigitChars 10 ['0'] 0 = 0 := by decide
        omega

lemma le_ofDigitChars (ds : List Char) (value : Nat) : value ≤ Nat.ofDigitChars 10 ds value := by
  rw [Nat.ofDigitChars_eq_ofDigitChars_zero]
  exact Nat.le_trans (Nat.le_mul_of_pos_left _ (Nat.pow_pos (by decide))) (Nat.le_add_right _ _)

/-- Digits denote zero only if they are a zero. -/
lemma WholeDigits.ofDigitChars_pos {ds : List Char} (h : WholeDigits ds) (hne : ds ≠ ['0']) :
    0 < Nat.ofDigitChars 10 ds 0 := by
  cases ds with
  | nil => exact absurd rfl h.ne_nil
  | cons c ds =>
      have hdigit := Char.isDigit_iff_toNat.mp (h.isDigit c List.mem_cons_self)
      have hzero : c.toNat ≠ '0'.toNat := fun hc => hne (h.zero (by rw [Char.toNat_inj.mp hc]; rfl))
      have hle := le_ofDigitChars ds (10 * 0 + (c.toNat - '0'.toNat))
      rw [Nat.ofDigitChars_cons]
      omega

/-! ## Numerals without fraction and exponent -/

lemma spanDigits_append {ds s : List Char} (hds : ∀ c ∈ ds, c.isDigit = true) (hs : Stops s) :
    spanDigits (ds ++ s) = (ds, s) := by
  rw [spanDigits, List.takeWhile_append_of_pos hds, List.dropWhile_append_of_pos hds]
  cases s with
  | nil => simp
  | cons c s => simp [(hs c rfl).1]

lemma readWhole_digits (atEnd : Cause) {ds s : List Char} (hds : WholeDigits ds) (hs : Stops s) :
    readWhole atEnd (ds ++ s) = .ok (ds, s) := by
  cases ds with
  | nil => exact absurd rfl hds.ne_nil
  | cons c ds =>
      simp only [List.cons_append, readWhole]
      split
      · next hc =>
          obtain rfl : ds = [] := (List.cons.inj (hds.zero (by rw [hc]; rfl))).2
          cases s with
          | nil => rfl
          | cons d s => simp [(hs d rfl).1]
      · have hrest : ∀ d ∈ ds, d.isDigit = true :=
          fun d hd => hds.isDigit d (List.mem_cons_of_mem c hd)
        rw [if_pos (hds.isDigit c List.mem_cons_self), spanDigits_append hrest hs]

lemma readFraction_stops (atEnd : Cause) {s : List Char} (hs : Stops s) :
    readFraction atEnd s = .ok (none, s) := by
  fun_cases readFraction atEnd s with
  | case3 => rfl
  | _ => exact absurd rfl (hs '.' rfl).2.1

lemma readExponent_stops (atEnd : Cause) {s : List Char} (hs : Stops s) :
    readExponent atEnd s = .ok (none, s) := by
  cases s with
  | nil => rfl
  | cons c s =>
      obtain ⟨-, -, he, hE⟩ := hs c rfl
      rw [readExponent, if_neg (by simp [he, hE])]

lemma readUnsigned_digits (atEnd : Cause) (negative : Bool) {ds s : List Char}
    (hds : WholeDigits ds) (hs : Stops s) :
    readUnsigned atEnd negative (ds ++ s) = .ok (⟨negative, ds, none, none⟩, s) := by
  simp only [readUnsigned, readWhole_digits atEnd hds hs, readFraction_stops atEnd hs,
    readExponent_stops atEnd hs]

lemma readNumeral_digits (atEnd : Cause) {ds s : List Char} (hds : WholeDigits ds) (hs : Stops s) :
    readNumeral atEnd (ds ++ s) = .ok (⟨false, ds, none, none⟩, s) := by
  have hminus : ∀ rest, ds ++ s ≠ '-' :: rest := by
    intro rest hrest
    cases ds with
    | nil => exact absurd rfl hds.ne_nil
    | cons c ds =>
        have hdigit := hds.isDigit c List.mem_cons_self
        rw [List.cons_append, List.cons.injEq] at hrest
        rw [hrest.1] at hdigit
        exact absurd hdigit (by decide)
  rw [readNumeral.eq_2 _ _ hminus, readUnsigned_digits atEnd false hds hs]

/-! ## Integers -/

/-- An integer as it is written. -/
def integerNumeral : Int → Numeral
  | .ofNat n => ⟨false, Nat.toDigits 10 n, none, none⟩
  | .negSucc n => ⟨true, Nat.toDigits 10 (n + 1), none, none⟩

lemma toList_integerText (n : Int) :
    (integerText n).toList
      = if (integerNumeral n).negative then '-' :: (integerNumeral n).whole
        else (integerNumeral n).whole := by
  cases n with
  | ofNat n => simp [integerText, integerNumeral, Nat.repr_eq_ofList_toDigits]
  | negSucc n => simp [integerText, integerNumeral, Nat.repr_eq_ofList_toDigits]

/-- **Whole.**  An integer of any size is taken as it stands. -/
theorem readNumeral_integer (atEnd : Cause) (n : Int) {s : List Char} (hs : Stops s) :
    readNumeral atEnd ((integerText n).toList ++ s) = .ok (integerNumeral n, s) := by
  rw [toList_integerText]
  cases n with
  | ofNat n => exact readNumeral_digits atEnd (wholeDigits_toDigits n) hs
  | negSucc n => exact readUnsigned_digits atEnd true (wholeDigits_toDigits (n + 1)) hs

/-- An integer fits in 64 bits, with a sign or without. -/
def Wide (n : Int) : Prop := -9223372036854775808 ≤ n ∧ n ≤ 18446744073709551615

instance (n : Int) : Decidable (Wide n) := inferInstanceAs (Decidable (_ ∧ _))

lemma integer?_integerNumeral (n : Int) :
    (integerNumeral n).integer? = if Wide n then some n else none := by
  have hbound : Nat.pow 2 63 = 2 ^ 63 ∧ Nat.pow 2 64 = 2 ^ 64 := ⟨rfl, rfl⟩
  cases n with
  | ofNat n =>
      simp only [Numeral.integer?, integerNumeral, Nat.ofDigitChars_ten_toDigits, hbound,
        Option.isNone_none, Bool.and_self, if_true, Bool.false_eq_true, if_false]
      congr 1
      simp only [Wide, Int.ofNat_eq_natCast]
      apply propext
      omega
  | negSucc n =>
      simp only [Numeral.integer?, integerNumeral, Nat.ofDigitChars_ten_toDigits, hbound,
        Option.isNone_none, Bool.and_self, if_true, Bool.and_eq_true, decide_eq_true_eq]
      congr 1
      simp only [Wide]
      apply propext
      omega

lemma readNumber_of_integer? {s rest : List Char} {numeral : Numeral} {n : Int}
    (h : readNumeral .endInValue s = .ok (numeral, rest)) (hn : numeral.integer? = some n) :
    readNumber s = .ok (.integer n, rest) := by
  simp [readNumber, h, Numeral.datum?, hn]

/-- An integer that fits in 64 bits is read as what it is. -/
theorem readNumber_integer {n : Int} (hn : Wide n) {s : List Char} (hs : Stops s) :
    readNumber ((integerText n).toList ++ s) = .ok (.integer n, s) :=
  readNumber_of_integer? (readNumeral_integer _ n hs) (by rw [integer?_integerNumeral, if_pos hn])

/-- One that does not fit is read as a number in double precision, or is out of its range. -/
lemma readNumber_integer_of_not_wide {n : Int} (hn : ¬ Wide n) {s : List Char} (hs : Stops s) :
    (∃ fault, readNumber ((integerText n).toList ++ s) = .error fault) ∨
      ∃ x, readNumber ((integerText n).toList ++ s) = .ok (.real x, s) := by
  simp only [readNumber, readNumeral_integer _ n hs, Numeral.datum?, integer?_integerNumeral,
    if_neg hn]
  cases (integerNumeral n).real? with
  | none => exact Or.inl ⟨_, rfl⟩
  | some x => exact Or.inr ⟨x, rfl⟩

/-- What is left of digits that denote `n` denotes at most `n`, and zero only if `n` is. -/
lemma ofDigitChars_cut {n : Nat} {p q : List Char} (h : Nat.toDigits 10 n = p ++ q) (hp : p ≠ []) :
    WholeDigits p ∧ Nat.ofDigitChars 10 p 0 ≤ n ∧ (0 < n → 0 < Nat.ofDigitChars 10 p 0) := by
  have hwhole := wholeDigits_toDigits n
  have hvalue : Nat.ofDigitChars 10 (p ++ q) 0 = n := h ▸ Nat.ofDigitChars_ten_toDigits
  rw [h] at hwhole
  have hleft := hwhole.left hp
  refine ⟨hleft, ?_, fun hn => hleft.ofDigitChars_pos ?_⟩
  · rw [← hvalue, Nat.ofDigitChars_append]
    exact le_ofDigitChars q _
  · rintro rfl
    have hzero := hwhole.zero rfl
    rw [hzero] at hvalue
    exact absurd hn (by rw [← hvalue]; decide)

/-- **Cut short.**  What is left of an integer is its sign, or an integer between it and zero. -/
theorem readNumber_cut {n : Int} (hn : Wide n) {p q : List Char}
    (h : (integerText n).toList = p ++ q) (hp : p ≠ []) :
    RunsOut (readNumber p) ∨
      ∃ m, readNumber p = .ok (.integer m, []) ∧ (0 ≤ m ∧ m ≤ n ∨ n ≤ m ∧ m ≤ 0) := by
  have hbound : Nat.pow 2 63 = 2 ^ 63 ∧ Nat.pow 2 64 = 2 ^ 64 := ⟨rfl, rfl⟩
  rw [toList_integerText] at h
  rw [Wide] at hn
  cases n with
  | ofNat n =>
      obtain ⟨hdigits, hle, -⟩ := ofDigitChars_cut h hp
      have hread := readNumeral_digits .endInValue hdigits stops_nil
      rw [List.append_nil] at hread
      refine Or.inr ⟨Nat.ofDigitChars 10 p 0, readNumber_of_integer? hread ?_, by simp; omega⟩
      simp only [Numeral.integer?, hbound, Option.isNone_none, Bool.and_self, if_true,
        Bool.false_eq_true, if_false]
      rw [if_pos (by simp at hn; omega)]
  | negSucc n =>
      rcases List.cons_eq_append_iff.mp h with ⟨rfl, -⟩ | ⟨p, rfl, hrest⟩
      · exact absurd rfl hp
      by_cases hempty : p = []
      · subst hempty
        exact Or.inl (runsOut_error rfl)
      · obtain ⟨hdigits, hle, hpos⟩ := ofDigitChars_cut hrest hempty
        have hread := readUnsigned_digits .endInValue true hdigits stops_nil
        rw [List.append_nil] at hread
        have hpositive := hpos (Nat.succ_pos n)
        refine Or.inr ⟨-Nat.ofDigitChars 10 p 0, readNumber_of_integer? hread ?_, by omega⟩
        simp only [Numeral.integer?, hbound, Option.isNone_none, Bool.and_self, if_true,
          Bool.and_eq_true, decide_eq_true_eq]
        rw [if_pos (by omega)]

end ParseTree.Json
