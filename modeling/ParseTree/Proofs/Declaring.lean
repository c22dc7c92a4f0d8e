import Mathlib.Data.List.Nodup
import ParseTree.Proofs.Names

/-!
# What a table declares

A vocabulary is built from a table entry by entry, and the index from kinds to names is filled slot
by slot.  Both are described here by the entries alone.

* **Declaring** — `exists_build_iff`: a table declares a vocabulary exactly if it is `Declarable`:
  no kind is too large, and no name has two of them.  `Declarations.Holds` is the invariant: after
  some entries, the kind of a name is looked up exactly if they have it, and each entry is listed
  once, in the order of first declaration.
* **The index** — `getElem?_firstNames`: the index has a slot for every kind up to the largest one,
  and in it stands the name of the first entry with this kind.
-/

namespace ParseTree

/-! ## Declaring -/

/-- No kind is too large to be declared, and no name has two kinds. -/
structure Declarable (entries : List Entry) : Prop where
  kind_le : ∀ e ∈ entries, e.kind ≤ maxKind
  kind_unique : ∀ e ∈ entries, ∀ e' ∈ entries, e.name = e'.name → e.kind = e'.kind

section Duplicates

variable {α : Type} [BEq α] [LawfulBEq α] {as : List α} {a : α}

lemma nodup_eraseDups (as : List α) : as.eraseDups.Nodup := by
  induction hlength : as.length using Nat.strongRecOn generalizing as with
  | ind n ih =>
      cases as with
      | nil => simp
      | cons a as =>
          have hshort : (as.filter fun b => !b == a).length < n := by
            rw [← hlength, List.length_cons]
            exact Nat.lt_succ_of_le (List.length_filter_le _ _)
          rw [List.eraseDups_cons, List.nodup_cons, List.mem_eraseDups]
          exact ⟨by simp, ih _ hshort _ rfl⟩

lemma eraseDups_concat_of_mem (h : a ∈ as) : (as ++ [a]).eraseDups = as.eraseDups := by
  simp [List.eraseDups_append, List.removeAll, h]

lemma eraseDups_concat_of_notMem (h : a ∉ as) : (as ++ [a]).eraseDups = as.eraseDups ++ [a] := by
  simp [List.eraseDups_append, List.removeAll, h, List.eraseDups_cons]

end Duplicates

lemma Declarable.of_subset {es es' : List Entry} (h : Declarable es') (hsub : es ⊆ es') :
    Declarable es :=
  ⟨fun e he => h.kind_le e (hsub he), fun e he e' he' => h.kind_unique e (hsub he) e' (hsub he')⟩

lemma declarable_concat {es : List Entry} {e : Entry} (hes : Declarable es)
    (hmax : e.kind ≤ maxKind)
    (hname : ∀ e' ∈ es, e'.name = e.name → e'.kind = e.kind) : Declarable (es ++ [e]) := by
  constructor
  · simpa [or_imp, forall_and] using ⟨hes.kind_le, hmax⟩
  · intro a ha b hb hab
    rw [List.mem_append, List.mem_singleton] at ha hb
    rcases ha with ha | rfl
    · rcases hb with hb | rfl
      · exact hes.kind_unique a ha b hb hab
      · exact hname a ha hab
    · rcases hb with hb | rfl
      · exact (hname b hb hab.symm).symm
      · rfl

namespace Declarations

/-- After these entries, the kind of a name is looked up exactly if one of them has it, and each of
them is listed once, in the order of first declaration. -/
structure Holds (d : Declarations) (entries : List Entry) : Prop where
  kindOf_iff : ∀ {name : String} {kind : Kind}, d.kindOf[name]? = some kind ↔ ⟨name, kind⟩ ∈ entries
  declared_eq : d.declared.toList = entries.eraseDups

variable {d d' : Declarations} {done rest : List Entry} {e : Entry}

lemma holds_nil : Holds {} [] := by
  constructor
  · simp
  · rfl

/-- **A step.**  An entry is declared exactly if it goes with those before it, and then it holds as
they do. -/
lemma declare_eq_ok (hd : d.Holds done) (hdone : Declarable done) (h : d.declare e = .ok d') :
    Declarable (done ++ [e]) ∧ d'.Holds (done ++ [e]) := by
  revert h
  fun_cases declare d e with
  | case2 hmax hsame =>
      intro h
      cases h
      have hmem : e ∈ done := hd.kindOf_iff.mp hsame
      refine ⟨hdone.of_subset (by simp [hmem]), ?_,
        by rw [hd.declared_eq, eraseDups_concat_of_mem hmem]⟩
      intro name kind
      rw [hd.kindOf_iff, List.mem_append, List.mem_singleton]
      exact ⟨Or.inl, fun h => h.elim id fun heq => heq ▸ hmem⟩
  | case4 hmax hnew =>
      intro h
      cases h
      -- The name is new, so no entry before has it.
      have hname : ∀ e' ∈ done, e'.name ≠ e.name := by
        intro e' he' heq
        have hfound : d.kindOf[e'.name]? = some e'.kind := hd.kindOf_iff.mpr he'
        rw [heq, hnew] at hfound
        cases hfound
      have hnotMem : e ∉ done := fun hmem => hname e hmem rfl
      refine ⟨declarable_concat hdone (Int32.not_lt.mp hmax) ?_, ?_,
        by simp [hd.declared_eq, eraseDups_concat_of_notMem hnotMem]⟩
      · exact fun e' he' heq => absurd heq (hname e' he')
      intro name kind
      rw [Std.HashMap.getElem?_insert, List.mem_append, List.mem_singleton]
      split
      · next heq =>
          rw [beq_iff_eq] at heq
          subst heq
          have hbefore : ⟨e.name, kind⟩ ∉ done := fun hmem => hname _ hmem rfl
          obtain ⟨name, own⟩ := e
          simp [hbefore, eq_comm]
      · next hne =>
          rw [beq_iff_eq] at hne
          have hother : (⟨name, kind⟩ : Entry) ≠ e := fun heq => hne (by rw [← heq])
          rw [hd.kindOf_iff]
          simp [hother]
  | _ => intro h; cases h

lemma exists_declare (hd : d.Holds done) (h : Declarable (done ++ [e])) :
    ∃ d', d.declare e = .ok d' := by
  have hmem : e ∈ done ++ [e] := by simp
  fun_cases declare d e with
  | case1 hmax => exact absurd (h.kind_le e hmem) (Int32.not_le.mpr hmax)
  | case3 hmax first hfirst hne =>
      have hdone : ⟨e.name, first⟩ ∈ done ++ [e] := List.mem_append_left _ (hd.kindOf_iff.mp hfirst)
      exact absurd (h.kind_unique _ hdone e hmem rfl) hne
  | case2 | case4 => exact ⟨_, rfl⟩

/-- **A run.**  What has been declared entry by entry holds, and goes together. -/
lemma foldlM_declare_eq_ok (hd : d.Holds done) (hdone : Declarable done)
    (h : rest.foldlM declare d = .ok d') : Declarable (done ++ rest) ∧ d'.Holds (done ++ rest) := by
  induction rest generalizing d done with
  | nil =>
      cases h
      simpa using ⟨hdone, hd⟩
  | cons e rest ih =>
      rw [List.foldlM_cons] at h
      cases hstep : d.declare e with
      | error fault => simp [hstep, bind, Except.bind] at h
      | ok next =>
          simp only [hstep, bind, Except.bind] at h
          obtain ⟨hnext, hholds⟩ := declare_eq_ok hd hdone hstep
          simpa using ih hholds hnext h

lemma exists_foldlM_declare (hd : d.Holds done) (h : Declarable (done ++ rest)) :
    ∃ d', rest.foldlM declare d = .ok d' := by
  induction rest generalizing d done with
  | nil => exact ⟨d, rfl⟩
  | cons e rest ih =>
      have hfront : Declarable (done ++ [e]) := h.of_subset (by simp [List.append_subset])
      obtain ⟨next, hstep⟩ := exists_declare hd hfront
      have hdone : Declarable done := h.of_subset (by simp)
      obtain ⟨d', hrest⟩ := ih (declare_eq_ok hd hdone hstep).2 (by simpa using h)
      exact ⟨d', by simp only [List.foldlM_cons, hstep, bind, Except.bind]; exact hrest⟩

end Declarations

namespace Vocabulary

variable {table : Table} {v : Vocabulary}

/-- What a vocabulary that a table declares looks like. -/
lemma of_build (h : build table = .ok v) :
    Declarable table.entries ∧ v.Holds table.entries ∧ v.names = firstNames v.declared.toList := by
  rw [build] at h
  split at h
  · cases h
  · next d hd =>
      cases h
      have hnil : Declarable [] := ⟨by simp, by simp⟩
      obtain ⟨hdeclarable, hholds⟩ :=
        Declarations.foldlM_declare_eq_ok Declarations.holds_nil hnil hd
      exact ⟨hdeclarable, hholds, rfl⟩

/-- **Declaring.**  A table declares a vocabulary exactly if its entries go together. -/
theorem exists_build_iff : (∃ v, build table = .ok v) ↔ Declarable table.entries := by
  constructor
  · rintro ⟨v, h⟩
    exact (of_build h).1
  · intro h
    obtain ⟨d, hd⟩ := Declarations.exists_foldlM_declare Declarations.holds_nil h
    exact ⟨_, by rw [build, hd]⟩

end Vocabulary

/-! ## The index -/

lemma getElem?_enterName (names : Array (Option String)) (e : Entry) (slot : Nat) :
    (enterName names e)[slot]? = names[slot]?.map fun name =>
      if e.kind.slot? = some slot then name.or (some e.name) else name := by
  rw [enterName]
  cases hslot : e.kind.slot? with
  | none => simp
  | some own =>
      simp only [Array.getElem?_modify, Option.some.injEq]
      split <;> simp

/-- Filling the index puts a name in each slot that has none, that of the first entry with this
slot. -/
lemma getElem?_foldl_enterName (names : Array (Option String)) (es : List Entry) (slot : Nat) :
    (es.foldl enterName names)[slot]? = names[slot]?.map fun name =>
      name.or ((es.find? (·.kind.slot? = some slot)).map (·.name)) := by
  induction es generalizing names with
  | nil => simp
  | cons e es ih =>
      rw [List.foldl_cons, ih, getElem?_enterName, Option.map_map, List.find?_cons]
      congr 1
      funext name
      rw [Function.comp_apply]
      split
      · next hslot => simp [hslot]
      · next hslot => simp [hslot]

lemma lt_foldl_slotCount_iff (es : List Entry) (count slot : Nat) :
    slot < es.foldl (fun count e => match e.kind.slot? with
        | some own => max count (own + 1)
        | none => count) count ↔
      slot < count ∨ ∃ e ∈ es, ∃ own, e.kind.slot? = some own ∧ slot ≤ own := by
  induction es generalizing count with
  | nil => simp
  | cons e es ih =>
      rw [List.foldl_cons, ih]
      cases hslot : e.kind.slot? with
      | none => simp [hslot]
      | some own =>
          have hmax : slot < max count (own + 1) ↔ slot < count ∨ slot ≤ own := by omega
          simp [hslot, hmax, or_assoc]

lemma lt_slotCount_iff {es : List Entry} {slot : Nat} :
    slot < slotCount es ↔ ∃ e ∈ es, ∃ own, e.kind.slot? = some own ∧ slot ≤ own := by
  refine (lt_foldl_slotCount_iff es 0 slot).trans ?_
  simp

/-- **The index.**  Up to the largest slot of the entries, each slot has the name of the first entry
that it belongs to, if there is one. -/
theorem getElem?_firstNames (es : List Entry) (slot : Nat) :
    (firstNames es)[slot]? = if slot < slotCount es then
        some ((es.find? (·.kind.slot? = some slot)).map (·.name)) else none := by
  rw [firstNames, getElem?_foldl_enterName, Array.getElem?_replicate]
  split <;> simp

end ParseTree
