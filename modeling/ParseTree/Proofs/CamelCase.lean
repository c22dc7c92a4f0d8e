import Mathlib.Data.List.Basic
import ParseTree.Vocabulary.Label

/-!
# Camel case, there and back

Upper case forgets which letters were capitals.  In a canonical name only the underscores tell, and
they stand before every capital but the first character.  So if the first character is known to be a
capital, the label can be spelled back: `camel` takes a letter behind an underscore as it is and
makes every other one small.

* **Characters** — `camelChars_snakeChar_append`: what a letter or a digit is turned into is turned
  back, whatever follows.
* **Labels** — `camel_upperSnake`: the name of a rule comes back from its spelling.
* **The whole** — `canonicalName?_inj`.
-/

namespace ParseTree.Label

/-! ## Characters -/

lemma toNat_lt_of_isAlphanum {c : Char} (h : c.isAlphanum = true) : c.toNat < 128 := by
  change ((decide (65 ≤ c.val ∧ c.val ≤ 90) || (decide (97 ≤ c.val) && decide (c.val ≤ 122))) ||
    (decide (48 ≤ c.val) && decide (c.val ≤ 57))) = true at h
  simp only [Bool.or_eq_true, Bool.and_eq_true, decide_eq_true_eq, UInt32.le_iff_toNat_le] at h
  change ((65 ≤ c.toNat ∧ c.toNat ≤ 90) ∨ 97 ≤ c.toNat ∧ c.toNat ≤ 122) ∨
    48 ≤ c.toNat ∧ c.toNat ≤ 57 at h
  omega

/-- A letter or a digit is a capital, or it is what its upper case is in small letters. -/
lemma isUpper_or_toLower_toUpper {c : Char} (h : c.isAlphanum = true) :
    (c.isUpper = true ∧ c.toUpper = c) ∨
    (c.isUpper = false ∧ c.toUpper ≠ '_' ∧ c.toUpper.toLower = c) := by
  have hascii : ∀ n < 128, (Char.ofNat n).isAlphanum = true →
      ((Char.ofNat n).isUpper = true ∧ (Char.ofNat n).toUpper = Char.ofNat n) ∨
      ((Char.ofNat n).isUpper = false ∧ (Char.ofNat n).toUpper ≠ '_' ∧
        (Char.ofNat n).toUpper.toLower = Char.ofNat n) := by
    decide
  have hc := hascii c.toNat (toNat_lt_of_isAlphanum h)
  rw [Char.ofNat_toNat] at hc
  exact hc h

/-- What is spelled in upper case with underscores, in camel case again.  A letter behind an
underscore is a capital, and any other one is small. -/
def camelChars : List Char → List Char
  | [] => []
  | [c] => [c.toLower]
  | c :: d :: rest => if c = '_' then d :: camelChars rest else c.toLower :: camelChars (d :: rest)

lemma camelChars_capital (c : Char) (s : List Char) :
    camelChars ('_' :: c :: s) = c :: camelChars s := by
  rw [camelChars, if_pos rfl]

lemma camelChars_small {c : Char} (h : c ≠ '_') (s : List Char) :
    camelChars (c :: s) = c.toLower :: camelChars s := by
  cases s with
  | nil => rfl
  | cons d s => rw [camelChars, if_neg h]

lemma isCapital_eq_isUpper {c : Char} (h : c.toNat < 128) : Text.isCapital c = c.isUpper := by
  rw [Text.isCapital, if_pos h]

lemma upper_eq_toUpper {c : Char} (h : c.toNat < 128) : Text.upper c = [c.toUpper] := by
  rw [Text.upper, if_pos h]

/-- **Characters.**  What a letter or a digit is turned into is turned back, whatever follows. -/
theorem camelChars_snakeChar_append {c : Char} (h : c.isAlphanum = true) (s : List Char) :
    camelChars (snakeChar c ++ s) = c :: camelChars s := by
  have hascii := toNat_lt_of_isAlphanum h
  rw [snakeChar, isCapital_eq_isUpper hascii, upper_eq_toUpper hascii]
  rcases isUpper_or_toLower_toUpper h with ⟨hupper, hsame⟩ | ⟨hupper, hne, hback⟩
  · rw [hupper, if_pos rfl, hsame]
    exact camelChars_capital c s
  · rw [hupper, if_neg Bool.false_ne_true, List.singleton_append, camelChars_small hne, hback]

lemma camelChars_flatMap {s : List Char} (h : ∀ c ∈ s, c.isAlphanum = true) :
    camelChars (s.flatMap snakeChar) = s := by
  induction s with
  | nil => rfl
  | cons c s ih =>
      rw [List.forall_mem_cons] at h
      rw [List.flatMap_cons, camelChars_snakeChar_append h.1, ih h.2]

/-! ## Labels -/

/-- A name in camel case from its spelling in upper case with underscores; the first character
stays. -/
def camel (name : String) : String :=
  match name.toList with
  | [] => ""
  | c :: rest => String.ofList (c :: camelChars rest)

/-- The label of a grammar rule: a capital, then letters and digits, all of them in ASCII, and then
the suffix. -/
def IsRuleLabel (label : String) : Prop :=
  ∃ (first : Char) (others : String), first.isUpper = true ∧
    (∀ c ∈ others.toList, c.isAlphanum = true) ∧
    label = String.singleton first ++ others ++ "Context"

/-- **Labels.**  The name of a rule comes back from its spelling. -/
theorem camel_upperSnake {first : Char} {others : String} (hfirst : first.isUpper = true)
    (hothers : ∀ c ∈ others.toList, c.isAlphanum = true) :
    camel (upperSnake (String.singleton first ++ others)) = String.singleton first ++ others := by
  have halnum : first.isAlphanum = true := by
    change ((first.isUpper || first.isLower) || first.isDigit) = true
    rw [hfirst]
    rfl
  have hsame : first.toUpper = first := by
    rcases isUpper_or_toLower_toUpper halnum with ⟨-, hsame⟩ | ⟨hsmall, -⟩
    · exact hsame
    · rw [hfirst] at hsmall
      cases hsmall
  have hspelled : (upperSnake (String.singleton first ++ others)).toList
      = first :: others.toList.flatMap snakeChar := by
    rw [upperSnake, String.toList_ofList, String.toList_append, String.toList_singleton,
      List.singleton_append, upperSnakeChars, upper_eq_toUpper (toNat_lt_of_isAlphanum halnum),
      hsame, List.singleton_append]
  rw [camel, hspelled, ← String.toList_inj]
  simp [camelChars_flatMap hothers]

lemma stripSuffix?_append (suffix stem : List Char) :
    stripSuffix? suffix (stem ++ suffix) = some stem := by
  have hsuffix : suffix.isSuffixOf (stem ++ suffix) = true := by
    rw [List.isSuffixOf_iff_suffix]
    exact List.suffix_append _ _
  rw [stripSuffix?, if_pos hsuffix, List.length_append, Nat.add_sub_cancel, List.take_left]

lemma canonicalName?_append (stem : String) :
    canonicalName? (stem ++ "Context") = some (upperSnake stem) := by
  have hstrip : stripSuffix? contextSuffix (stem ++ "Context").toList = some stem.toList := by
    rw [String.toList_append]
    exact stripSuffix?_append _ _
  rw [canonicalName?, stripContext?, hstrip, Option.map_some, Option.map_some, String.ofList_toList]

/-! ## The whole -/

/-- **The whole.**  The label of a rule has a canonical name, and two such labels have the same name
only if they are the same. -/
theorem canonicalName?_inj {label label' : String} (h : IsRuleLabel label)
    (h' : IsRuleLabel label') :
    (∃ name, canonicalName? label = some name) ∧
    (canonicalName? label = canonicalName? label' ↔ label = label') := by
  obtain ⟨first, others, hfirst, hothers, rfl⟩ := h
  obtain ⟨first', others', hfirst', hothers', rfl⟩ := h'
  refine ⟨⟨_, canonicalName?_append _⟩, fun hname => ?_,
    fun hlabel => congrArg canonicalName? hlabel⟩
  rw [canonicalName?_append, canonicalName?_append] at hname
  have hstem := congrArg camel (Option.some.inj hname)
  rw [camel_upperSnake hfirst hothers, camel_upperSnake hfirst' hothers'] at hstem
  rw [hstem]

/-- A small letter behind a digit is told from a capital there. -/
theorem canonicalName?_inj_digit : IsRuleLabel "Expr2tailContext" ∧ IsRuleLabel "Expr2TailContext" ∧
    canonicalName? "Expr2tailContext" = some "EXPR2TAIL" ∧
    canonicalName? "Expr2tailContext" ≠ canonicalName? "Expr2TailContext" := by
  have hsmall : IsRuleLabel "Expr2tailContext" := ⟨'E', "xpr2tail", rfl, by simp, rfl⟩
  have hcapital : IsRuleLabel "Expr2TailContext" := ⟨'E', "xpr2Tail", rfl, by simp, rfl⟩
  refine ⟨hsmall, hcapital, by decide, fun hname => ?_⟩
  exact absurd ((canonicalName?_inj hsmall hcapital).2.mp hname) (by decide)

end ParseTree.Label
