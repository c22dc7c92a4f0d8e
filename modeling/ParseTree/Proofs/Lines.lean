import Mathlib.Data.List.Basic
import ParseTree.Text.Lines

/-!
# Cutting a text into lines

`cutLines` cuts a text after each line feed.  `IsLine` says what a piece looks like: characters
without a line feed, with or without one at the end.

* **Pieces are lines** — `isLine_of_mem_cutLines`.
* **Lines are pieces** — `cutLines_terminated`: a text made of lines that are ended by a line feed
  each is cut into these lines again, whatever else they hold.
* **Sizes** — `utf8ByteSize_ofList`: the size of a text is counted character by character.
-/

namespace ParseTree.Text

/-- Characters without a line feed, with or without one at the end. -/
def IsLine (piece : List Char) : Prop :=
  ∃ body, '\n' ∉ body ∧ (piece = body ∨ piece = body ++ ['\n'])

lemma cutLinesFrom_done (line : List Char) (done : List (List Char)) (s : List Char) :
    cutLinesFrom line done s = done.reverse ++ cutLinesFrom line [] s := by
  induction s generalizing line done with
  | nil =>
      rw [cutLinesFrom, cutLinesFrom]
      split <;> simp
  | cons c rest ih =>
      rw [cutLinesFrom, cutLinesFrom]
      split
      · rw [ih [] [_], ih]
        simp
      · exact ih _ _

lemma cutLinesFrom_append {body : List Char} (h : '\n' ∉ body) (line : List Char)
    (done : List (List Char)) (rest : List Char) :
    cutLinesFrom line done (body ++ rest) = cutLinesFrom (body.reverse ++ line) done rest := by
  induction body generalizing line with
  | nil => rfl
  | cons c body ih =>
      rw [List.mem_cons, not_or] at h
      rw [List.cons_append, cutLinesFrom, if_neg (Ne.symm h.1), ih h.2]
      simp

lemma cutLines_append {body : List Char} (h : '\n' ∉ body) (rest : List Char) :
    cutLines (body ++ '\n' :: rest) = (body ++ ['\n']) :: cutLines rest := by
  rw [cutLines, cutLinesFrom_append h, cutLinesFrom, if_pos rfl, cutLinesFrom_done]
  simp [cutLines]

/-- **Lines are pieces.**  Lines that are ended by a line feed each are cut apart again. -/
theorem cutLines_terminated {lines : List (List Char)} (h : ∀ line ∈ lines, '\n' ∉ line) :
    cutLines (lines.flatMap (· ++ ['\n'])) = lines.map (· ++ ['\n']) := by
  induction lines with
  | nil => rfl
  | cons line rest ih =>
      rw [List.forall_mem_cons] at h
      rw [List.flatMap_cons, List.append_assoc, List.singleton_append, cutLines_append h.1, ih h.2,
        List.map_cons]

lemma isLine_of_mem_cutLinesFrom {line : List Char} {done : List (List Char)} {s piece : List Char}
    (hline : '\n' ∉ line) (hdone : ∀ piece ∈ done, IsLine piece)
    (h : piece ∈ cutLinesFrom line done s) : IsLine piece := by
  induction s generalizing line done with
  | nil =>
      rw [cutLinesFrom, List.mem_reverse] at h
      split at h
      · exact hdone piece h
      · rcases List.mem_cons.mp h with rfl | h
        · exact ⟨line.reverse, by simpa using hline, Or.inl rfl⟩
        · exact hdone piece h
  | cons c rest ih =>
      rw [cutLinesFrom] at h
      split at h
      · next hc =>
          refine ih (by simp) (fun other hother => ?_) h
          rcases List.mem_cons.mp hother with rfl | hother
          · exact ⟨line.reverse, by simpa using hline, Or.inr (by simp [hc])⟩
          · exact hdone other hother
      · next hc =>
          refine ih ?_ hdone h
          rw [List.mem_cons, not_or]
          exact ⟨Ne.symm hc, hline⟩

/-- **Pieces are lines.** -/
theorem isLine_of_mem_cutLines {s piece : List Char} (h : piece ∈ cutLines s) : IsLine piece :=
  isLine_of_mem_cutLinesFrom (by simp) (by simp) h

/-! ## Sizes -/

lemma foldl_utf8Size (s : List Char) (bytes : Nat) :
    s.foldl (fun bytes c => bytes + c.utf8Size) bytes = bytes + byteSize s := by
  induction s generalizing bytes with
  | nil => rfl
  | cons c s ih => rw [byteSize, List.foldl_cons, List.foldl_cons, ih, ih]; omega

lemma byteSize_append (left right : List Char) :
    byteSize (left ++ right) = byteSize left + byteSize right := by
  rw [byteSize, List.foldl_append, foldl_utf8Size]; rfl

/-- **Sizes.**  The size of a text is that of its UTF-8 form. -/
theorem utf8ByteSize_ofList (s : List Char) : (String.ofList s).utf8ByteSize = byteSize s := by
  induction s with
  | nil => rfl
  | cons c s ih =>
      have hchar : byteSize [c] = c.utf8Size := Nat.zero_add _
      have hcons : String.ofList ([c] ++ s) = String.singleton c ++ String.ofList s := by
        rw [← String.toList_inj]; simp
      rw [← List.singleton_append, hcons, String.utf8ByteSize_append, String.utf8ByteSize_singleton,
        ih, byteSize_append, hchar]

end ParseTree.Text
