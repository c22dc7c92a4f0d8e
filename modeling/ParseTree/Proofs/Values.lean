import ParseTree.Proofs.TableText

/-!
# What a value denotes

The value of a definition is written in decimal, with at most one sign; leading zeros are allowed.
`Denotes` says which integer this is, of any size.  The reader goes through the digits from left to
right and gives up as soon as what it has read leaves the range of 32 bits.

* **Magnitudes** — `readMagnitude_eq_ok_iff`: digits are read exactly if what all of them denote is
  in range.  What the first of them denote is never more, so the reader does not give up too early.
* **Values** — `readValue_eq_ok_iff`.
-/

namespace ParseTree

/-- Digits, and at least one. -/
structure Digits (ds : List Char) : Prop where
  ne_nil : ds ≠ []
  isDigit : ∀ c ∈ ds, c.isDigit = true

/-- The integers in decimal: digits, with at most one sign before them. -/
inductive Denotes : List Char → Int → Prop
  | unsigned {ds : List Char} (hds : Digits ds) : Denotes ds (Nat.ofDigitChars 10 ds 0)
  | plus {ds : List Char} (hds : Digits ds) : Denotes ('+' :: ds) (Nat.ofDigitChars 10 ds 0)
  | minus {ds : List Char} (hds : Digits ds) :
      Denotes ('-' :: ds) (-(Nat.ofDigitChars 10 ds 0 : Nat))

/-! ## Magnitudes -/

section Magnitudes

variable {sign : Sign} {ds : List Char}

/-- **Magnitudes.**  After a run of digits in range, the digits that follow are read exactly if all
of them together denote a magnitude in range. -/
theorem readMagnitude_eq_ok_iff {soFar n : Nat} (h : soFar ≤ sign.limit) :
    readMagnitude sign soFar ds = .ok n ↔
      (∀ c ∈ ds, c.isDigit = true) ∧ n = Nat.ofDigitChars 10 ds soFar ∧ n ≤ sign.limit := by
  constructor
  · intro hread
    fun_induction readMagnitude sign soFar ds with
    | case1 soFar =>
        cases hread
        exact ⟨by simp, rfl, h⟩
    | case2 soFar c rest hdigit next hnext ih =>
        obtain ⟨hrest, hn, hlimit⟩ := ih hnext hread
        exact ⟨List.forall_mem_cons.mpr ⟨hdigit, hrest⟩, by rw [hn, Nat.ofDigitChars_cons], hlimit⟩
    | case3 => cases hread
    | case4 => cases hread
  · rintro ⟨hds, rfl, hlimit⟩
    exact readMagnitude_digits hds hlimit

/-- A magnitude is in range exactly if it gives an integer of 32 bits with its sign. -/
lemma Sign.le_limit_iff {m : Nat} :
    m ≤ sign.limit ↔ -2147483648 ≤ sign.apply m ∧ sign.apply m ≤ 2147483647 := by
  cases sign with
  | plus => simp only [limit, apply]; omega
  | minus => simp only [limit, apply]; omega

lemma readSigned_of_ne_nil (h : ds ≠ []) :
    readSigned sign ds = (readMagnitude sign 0 ds).map sign.apply := by
  rw [readSigned]
  exact h

lemma readSigned_eq_ok_iff {n : Int} :
    readSigned sign ds = .ok n ↔
      (Digits ds ∧ sign.apply (Nat.ofDigitChars 10 ds 0) = n) ∧ -2147483648 ≤ n ∧
      n ≤ 2147483647 := by
  by_cases hnil : ds = []
  · subst hnil
    exact ⟨fun h => (by cases h), fun h => absurd rfl h.1.1.ne_nil⟩
  · rw [readSigned_of_ne_nil hnil]
    constructor
    · intro h
      cases hmagnitude : readMagnitude sign 0 ds with
      | error fault => simp [hmagnitude, Except.map] at h
      | ok m =>
          obtain ⟨hds, rfl, hlimit⟩ := (readMagnitude_eq_ok_iff (Nat.zero_le _)).mp hmagnitude
          simp only [hmagnitude, Except.map, Except.ok.injEq] at h
          subst h
          exact ⟨⟨⟨hnil, hds⟩, rfl⟩, Sign.le_limit_iff.mp hlimit⟩
    · rintro ⟨⟨hds, rfl⟩, hrange⟩
      rw [(readMagnitude_eq_ok_iff (Nat.zero_le _)).mpr
        ⟨hds.isDigit, rfl, Sign.le_limit_iff.mpr hrange⟩]
      rfl

end Magnitudes

/-! ## Values -/

/-- Where a text begins with a digit, it has no sign. -/
lemma Digits.ne_sign {c : Char} {ds : List Char} (h : Digits (c :: ds)) : c ≠ '+' ∧ c ≠ '-' := by
  have hdigit := h.isDigit c List.mem_cons_self
  constructor <;>
    · rintro rfl
      exact absurd hdigit (by decide)

lemma denotes_plus_iff {ds : List Char} {n : Int} :
    Denotes ('+' :: ds) n ↔ Digits ds ∧ Sign.plus.apply (Nat.ofDigitChars 10 ds 0) = n := by
  constructor
  · rintro (hds | hds | _)
    · exact absurd rfl hds.ne_sign.1
    · exact ⟨hds, rfl⟩
  · rintro ⟨hds, rfl⟩
    exact .plus hds

lemma denotes_minus_iff {ds : List Char} {n : Int} :
    Denotes ('-' :: ds) n ↔ Digits ds ∧ Sign.minus.apply (Nat.ofDigitChars 10 ds 0) = n := by
  constructor
  · rintro (hds | _ | hds)
    · exact absurd rfl hds.ne_sign.2
    · exact ⟨hds, rfl⟩
  · rintro ⟨hds, rfl⟩
    exact .minus hds

lemma denotes_unsigned_iff {s : List Char} {n : Int} (hplus : ∀ ds, s ≠ '+' :: ds)
    (hminus : ∀ ds, s ≠ '-' :: ds) :
    Denotes s n ↔ Digits s ∧ Sign.plus.apply (Nat.ofDigitChars 10 s 0) = n := by
  constructor
  · rintro (hds | @⟨ds, _⟩ | @⟨ds, _⟩)
    · exact ⟨hds, rfl⟩
    · exact absurd rfl (hplus ds)
    · exact absurd rfl (hminus ds)
  · rintro ⟨hds, rfl⟩
    exact .unsigned hds

/-- **Values.**  A text is read as an integer exactly if it denotes this integer, and it is one of
32 bits. -/
theorem readValue_eq_ok_iff {s : List Char} {n : Int} :
    readValue s = .ok n ↔ Denotes s n ∧ -2147483648 ≤ n ∧ n ≤ 2147483647 := by
  fun_cases readValue s with
  | case1 =>
      refine ⟨fun h => (by cases h), fun h => ?_⟩
      rw [denotes_unsigned_iff (by simp) (by simp)] at h
      exact absurd rfl h.1.1.ne_nil
  | case2 ds => rw [readSigned_eq_ok_iff, denotes_plus_iff]
  | case3 ds => rw [readSigned_eq_ok_iff, denotes_minus_iff]
  | case4 s hnil hplus hminus => rw [readSigned_eq_ok_iff, denotes_unsigned_iff hplus hminus]

end ParseTree
