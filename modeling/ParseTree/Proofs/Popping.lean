import Mathlib.Data.List.Basic
import ParseTree.Flat.Span

/-!
# Popping keys

Walks over a flattened tree take the keys of a span one by one, and between two keys they ask
whether any are to come.  They may go on asking when there are none.  All this is said through the
list of keys: a call takes the head and leaves the tail, on a span that starts after it stops as
well as on any other.

* **One call** — `fst_popFront`, `keys_popFront` say what a call returns and what it leaves.
* **Calls in a row** — `fst_popTimes`, `keys_popTimes`, by induction over the number of calls.
* **The whole** — `popTimes_words` adds what matters for ends of 32 bits: the start never passes the
  stop, so it can be incremented even if the stop is the largest of all.
-/

namespace ParseTree.Span

/-! ## One call -/

/-- A call that takes the first key, if there is one: what it returns, and the span that is left. -/
def popFront (s : Span) : Option Nat × Span :=
  match s.pop? with
  | none => (none, s)
  | some (key, rest) => (some key, rest)

section OneCall

variable {s : Span}

lemma length_keys (s : Span) : s.keys.length = s.size :=
  List.length_range'

lemma isEmpty_iff : s.isEmpty = true ↔ s.stop ≤ s.start :=
  decide_eq_true_iff

/-- A span is empty exactly if it has no keys. -/
lemma isEmpty_iff_keys : s.isEmpty = true ↔ s.keys = [] := by
  rw [isEmpty_iff, ← List.length_eq_zero_iff, length_keys, size]
  omega

lemma keys_of_lt (h : s.start < s.stop) :
    s.keys = s.start :: (⟨s.start + 1, s.stop⟩ : Span).keys := by
  have hsize : s.size = (⟨s.start + 1, s.stop⟩ : Span).size + 1 := by
    simp only [size]
    omega
  rw [keys, hsize, List.range'_succ]
  rfl

/-- What a call can do: it changes nothing, or it takes the start and increments it. -/
lemma popFront_cases (s : Span) :
    s.keys = [] ∧ s.popFront = (none, s) ∨
    s.start < s.stop ∧ s.keys = s.start :: (⟨s.start + 1, s.stop⟩ : Span).keys ∧
      s.popFront = (some s.start, ⟨s.start + 1, s.stop⟩) := by
  rw [popFront, pop?]
  by_cases h : s.isEmpty = true
  · rw [if_pos h]
    exact .inl ⟨isEmpty_iff_keys.mp h, rfl⟩
  · have hlt : s.start < s.stop := Nat.lt_of_not_le (mt isEmpty_iff.mpr h)
    rw [if_neg h]
    exact .inr ⟨hlt, keys_of_lt hlt, rfl⟩

/-- **One call** returns the first key. -/
lemma fst_popFront (s : Span) : s.popFront.1 = s.keys.head? := by
  obtain ⟨hkeys, hcall⟩ | ⟨-, hkeys, hcall⟩ := popFront_cases s
  · rw [hcall, hkeys, List.head?_nil]
  · rw [hcall, hkeys, List.head?_cons]

/-- **One call** leaves the other keys. -/
lemma keys_popFront (s : Span) : s.popFront.2.keys = s.keys.tail := by
  obtain ⟨hkeys, hcall⟩ | ⟨-, hkeys, hcall⟩ := popFront_cases s
  · rw [hcall, hkeys, List.tail_nil]
  · rw [hcall, hkeys, List.tail_cons]

lemma stop_popFront (s : Span) : s.popFront.2.stop = s.stop := by
  obtain ⟨-, hcall⟩ | ⟨-, -, hcall⟩ := popFront_cases s <;> rw [hcall]

/-- The start is incremented only if it comes before the stop. -/
lemma start_popFront_le (s : Span) : s.popFront.2.start ≤ max s.start s.stop := by
  obtain ⟨-, hcall⟩ | ⟨hlt, -, hcall⟩ := popFront_cases s
  · rw [hcall]
    exact Nat.le_max_left _ _
  · rw [hcall]
    exact Nat.le_trans hlt (Nat.le_max_right _ _)

lemma popFront_of_isEmpty (h : s.isEmpty = true) : s.popFront = (none, s) := by
  rw [popFront, pop?, if_pos h]

end OneCall

/-! ## Calls in a row -/

/-- So many calls one after the other: what they return, and the span that is left. -/
def popTimes (s : Span) : Nat → List (Option Nat) × Span
  | 0 => ([], s)
  | k + 1 =>
    let (key, rest) := s.popFront
    let (keys, left) := rest.popTimes k
    (key :: keys, left)

section Calls

variable (s : Span) (k : Nat)

lemma popTimes_succ : s.popTimes (k + 1)
    = (s.popFront.1 :: (s.popFront.2.popTimes k).1, (s.popFront.2.popTimes k).2) := rfl

/-- **Calls in a row** return the keys in order, and nothing once there are no more. -/
theorem fst_popTimes :
    (s.popTimes k).1 = (s.keys.take k).map some ++ List.replicate (k - s.keys.length) none := by
  induction k generalizing s with
  | zero => simp [popTimes]
  | succ k ih =>
      rw [popTimes_succ, ih, fst_popFront, keys_popFront]
      -- Without a key the call returns nothing, and so do all calls after it.
      cases s.keys with
      | nil => simp [List.replicate_succ]
      | cons key keys => simp

/-- **Calls in a row** leave the keys that they did not return. -/
theorem keys_popTimes : (s.popTimes k).2.keys = s.keys.drop k := by
  induction k generalizing s with
  | zero => rfl
  | succ k ih => rw [popTimes_succ, ih, keys_popFront, List.drop_tail]

lemma stop_popTimes : (s.popTimes k).2.stop = s.stop := by
  induction k generalizing s with
  | zero => rfl
  | succ k ih => rw [popTimes_succ, ih, stop_popFront]

lemma start_popTimes_le : (s.popTimes k).2.start ≤ max s.start s.stop := by
  induction k generalizing s with
  | zero => exact Nat.le_max_left _ _
  | succ k ih =>
      have hrun := ih s.popFront.2
      rw [stop_popFront] at hrun
      exact Nat.le_trans hrun (Nat.max_le.mpr ⟨start_popFront_le s, Nat.le_max_right _ _⟩)

lemma popTimes_of_isEmpty {s : Span} (h : s.isEmpty = true) : (s.popTimes k).2 = s := by
  induction k with
  | zero => rfl
  | succ k ih => rw [popTimes_succ, popFront_of_isEmpty h, ih]

end Calls

/-! ## The whole -/

/-- **The whole.**  Let a span have ends of 32 bits, in any order.  Any number of calls return its
first keys in order, and nothing once there are no more.  What is left has the remaining keys, and
they tell its size and whether it is empty.  It stops where it did and starts at a word of 32 bits
again; as long as there is a key, this word can be incremented.  A span that has no keys stays as it
is. -/
theorem popTimes_words (start stop : UInt32) (k : Nat) :
    let s : Span := ⟨start.toNat, stop.toNat⟩
    ∃ (results : List (Option Nat)) (left : Span) (word : UInt32), s.popTimes k = (results, left) ∧
      results = (s.keys.take k).map some ++ List.replicate (k - s.keys.length) none ∧
      left.keys = s.keys.drop k ∧
      left.size = (s.keys.drop k).length ∧
      (left.isEmpty = true ↔ s.keys.drop k = []) ∧
      left = ⟨word.toNat, stop.toNat⟩ ∧
      (left.isEmpty = false → (word + 1).toNat = word.toNat + 1) ∧
      (stop ≤ start → left = s) := by
  intro s
  have hkeys := keys_popTimes s k
  have hstop : (s.popTimes k).2.stop = stop.toNat := stop_popTimes s k
  have hword : (s.popTimes k).2.start < UInt32.size :=
    Nat.lt_of_le_of_lt (start_popTimes_le s k) (Nat.max_lt.mpr ⟨start.toNat_lt, stop.toNat_lt⟩)
  have htoNat := UInt32.toNat_ofNat_of_lt' hword
  refine ⟨_, _, .ofNat (s.popTimes k).2.start, rfl, fst_popTimes s k, hkeys, ?_, ?_, ?_,
    fun h => ?_, fun h => ?_⟩
  · rw [← hkeys, length_keys]
  · rw [isEmpty_iff_keys, hkeys]
  · rw [htoNat, ← hstop]
  · -- The start comes before the stop, so the next word is at most the stop and the sum does not
    -- wrap.
    have hlt : (s.popTimes k).2.start < stop.toNat := by
      rw [← hstop, ← Nat.not_le, ← isEmpty_iff, h]
      exact Bool.false_ne_true
    rw [UInt32.toNat_add, htoNat]
    exact Nat.mod_eq_of_lt (Nat.lt_of_le_of_lt hlt stop.toNat_lt)
  · exact popTimes_of_isEmpty k (isEmpty_iff.mpr (UInt32.le_iff_toNat_le.mp h))

/-- At the top of the range of 32 bits, four calls take the three keys and leave none.  A span that
starts after it stops is not changed. -/
theorem popTimes_words_top :
    (∃ left, (⟨4294967292, 4294967295⟩ : Span).popTimes 4
      = ([some 4294967292, some 4294967293, some 4294967294, none], left) ∧ left.keys = []) ∧
    ((⟨4294967295, 0⟩ : Span).popTimes 2).2 = ⟨4294967295, 0⟩ := by
  obtain ⟨results, left, _, hcalls, hresults, hkeys, -⟩ := popTimes_words 4294967292 4294967295 4
  obtain ⟨_, _, _, hinverted, -, -, -, -, -, -, hsame⟩ := popTimes_words 4294967295 0 2
  refine ⟨⟨left, ?_, hkeys⟩, (congrArg Prod.snd hinverted).trans (hsame (by decide))⟩
  exact hcalls.trans (congrArg (·, left) hresults)

end ParseTree.Span
