import ParseTree.Proofs.Batch
import ParseTree.Proofs.Declaring

/-!
# The order of a table

Tables that declare the same entries, in any order and as often as they like, declare vocabularies
that are `Interchangeable`: trees are flattened and drawn with one as with the other, to the id and
to the error.  Much of a vocabulary depends on the order all the same (which of two faults is
reported, how names are listed, which name is chosen for a kind), but nothing of that takes part in
looking up a label.

* **Flattening** — `Tree.flatten_congr`: of a vocabulary, flattening uses the kinds of names and
  nothing else.
* **Chosen names** — `isSome_firstNames_congr`: whether a kind has a name at all does not depend on
  the order.
* **The whole** — `build_of_same_entries`.
-/

namespace ParseTree

/-! ## Flattening -/

section Flattening

variable {v w : Vocabulary} (h : ∀ name, v.resolve name = w.resolve name)
include h

lemma Vocabulary.classify_congr (label : String) : v.classify label = w.classify label := by
  simp only [Vocabulary.classify, h]

lemma Tree.laidOut_congr (base : LineBase) (t : Tree) : t.laidOut v base = t.laidOut w base := by
  have hplace : Cell.place v base = Cell.place w base := by
    funext c
    rw [Cell.place, Cell.place]
    cases c.outline.value with
    | token token => rfl
    | rule label => rw [Symbol.payload, Symbol.payload, Vocabulary.classify_congr h]
  rw [Tree.laidOut, Tree.laidOut, hplace]

/-- **Flattening.**  With vocabularies in which each name has the same kind, trees are flattened
alike. -/
theorem Tree.flatten_congr (base : LineBase) (before before' : List Tree) (t : Tree) :
    ((Flattener.used v base before).flatten t).1
      = ((Flattener.used w base before').flatten t).1 := by
  rw [(Flattener.flatten_answers (Flattener.faithful_used v base before) t).result,
    (Flattener.flatten_answers (Flattener.faithful_used w base before') t).result,
    t.laidOut_congr h]

lemma Batch.drawOn_congr (workers : Nat) (base : LineBase) (ts : List Tree) :
    drawOn workers v base ts = drawOn workers w base ts := by
  have hflatten : Tree.flatten v base = Tree.flatten w base :=
    funext fun t => Tree.flatten_congr h base [] [] t
  simp only [drawOn_eq_drawEach, drawEach, hflatten]

end Flattening

/-! ## Chosen names -/

section Names

variable {es es' : List Entry} (h : ∀ e, e ∈ es ↔ e ∈ es')
include h

/-- **Chosen names.**  The index has the same slots for the same entries, and names in the same of
them. -/
theorem isSome_firstNames_congr :
    (firstNames es).toList.map Option.isSome = (firstNames es').toList.map Option.isSome := by
  apply List.ext_getElem?
  intro slot
  have hcount : slot < slotCount es ↔ slot < slotCount es' := by simp only [lt_slotCount_iff, h]
  have hfound : (es.find? (·.kind.slot? = some slot)).isSome
      = (es'.find? (·.kind.slot? = some slot)).isSome := by
    rw [Bool.eq_iff_iff]
    simp only [List.find?_isSome, h]
  simp only [List.getElem?_map, Array.getElem?_toList, getElem?_firstNames, hcount]
  split <;> simp [hfound]

lemma perm_eraseDups : es.eraseDups.Perm es'.eraseDups := by
  rw [List.perm_ext_iff_of_nodup (nodup_eraseDups es) (nodup_eraseDups es')]
  simpa only [List.mem_eraseDups] using h

end Names

namespace Vocabulary

/-- The kinds in a listing are those whose slots have a name. -/
lemma kinds_map_fst (v : Vocabulary) :
    v.kinds.map Prod.fst = (v.names.toList.map Option.isSome).zipIdx.filterMap fun (named, slot) =>
      if named then some (Int32.ofNat slot) else none := by
  rw [kinds, List.map_filterMap, List.zipIdx_map, List.filterMap_map]
  apply List.filterMap_congr
  rintro ⟨name, slot⟩ -
  cases name <;> rfl

lemma isSome_name? (v : Vocabulary) (kind : Kind) :
    (v.name? kind).isSome
      = (kind.slot?.bind ((v.names.toList.map Option.isSome)[·]?)).getD false := by
  rw [name?]
  cases kind.slot? with
  | none => rfl
  | some slot =>
      rw [Option.bind_some, Option.bind_some, List.getElem?_map, Array.getElem?_toList]
      rcases v.names[slot]? with _ | _ | name <;> rfl

/-- Vocabularies that can be told apart by the order of declaration only, and by which of its names
they choose for a kind. -/
structure Interchangeable (v w : Vocabulary) : Prop where
  resolve : ∀ name, v.resolve name = w.resolve name
  contains : ∀ name, v.contains name = w.contains name
  declared : v.declared.toList.Perm w.declared.toList
  size : v.size = w.size
  /-- The same kinds have a name, in one the same as in the other or not. -/
  named : ∀ kind, (v.name? kind).isSome = (w.name? kind).isSome
  kinds : v.kinds.map Prod.fst = w.kinds.map Prod.fst
  flatten : ∀ base before before' t,
    ((Flattener.used v base before).flatten t).1 = ((Flattener.used w base before').flatten t).1
  drawn : ∀ workers base ts, Batch.drawOn workers v base ts = Batch.drawOn workers w base ts

/-- **The whole.**  Of two tables with the same entries, in whatever order and however often, both
declare a vocabulary or neither does; and the vocabularies are interchangeable. -/
theorem build_of_same_entries (table table' : Table)
    (h : ∀ e, e ∈ table.entries ↔ e ∈ table'.entries) :
    (∃ fault fault', build table = .error fault ∧ build table' = .error fault') ∨
    ∃ v w, build table = .ok v ∧ build table' = .ok w ∧ v.Interchangeable w := by
  have hdeclarable : Declarable table.entries ↔ Declarable table'.entries :=
    ⟨fun hd => hd.of_subset fun e he => (h e).mpr he,
      fun hd => hd.of_subset fun e he => (h e).mp he⟩
  rw [← exists_build_iff, ← exists_build_iff] at hdeclarable
  cases hv : build table with
  | error fault =>
      cases hw : build table' with
      | error fault' => exact Or.inl ⟨fault, fault', rfl, rfl⟩
      | ok w => simp [hv, hw] at hdeclarable
  | ok v =>
      cases hw : build table' with
      | error fault' => simp [hv, hw] at hdeclarable
      | ok w =>
          obtain ⟨-, hholds, hnames⟩ := of_build hv
          obtain ⟨-, hholds', hnames'⟩ := of_build hw
          have hkind : ∀ name : String, v.kindOf[name]? = w.kindOf[name]? := fun name =>
            Option.ext fun kind => by rw [hholds.kindOf_iff, hholds'.kindOf_iff, h]
          have hresolve : ∀ name, v.resolve name = w.resolve name := fun name => by
            rw [resolve, resolve, hkind]
          have hperm : v.declared.toList.Perm w.declared.toList := by
            rw [hholds.declared_eq, hholds'.declared_eq]
            exact perm_eraseDups h
          have hsome : v.names.toList.map Option.isSome = w.names.toList.map Option.isSome := by
            rw [hnames, hnames']
            exact isSome_firstNames_congr fun e => hperm.mem_iff
          refine Or.inr ⟨v, w, rfl, rfl, hresolve, fun name => ?_, hperm, ?_, fun kind => ?_, ?_,
            Tree.flatten_congr hresolve, Batch.drawOn_congr hresolve⟩
          · rw [contains, contains, Std.HashMap.contains_eq_isSome_getElem?,
              Std.HashMap.contains_eq_isSome_getElem?, hkind]
          · simpa [size] using hperm.length_eq
          · rw [isSome_name?, isSome_name?, hsome]
          · rw [kinds_map_fst, kinds_map_fst, hsome]

/-- Two names for one kind and the end of input, as a table and in another order with a repetition:
only which of the two names is chosen for the kind is different. -/
theorem build_of_same_entries_aliases : ∃ v w,
    build ⟨[⟨"LIST", 100⟩, ⟨"'l'", 100⟩, ⟨"EOF", -1⟩]⟩ = .ok v ∧
    build ⟨[⟨"'l'", 100⟩, ⟨"EOF", -1⟩, ⟨"LIST", 100⟩, ⟨"'l'", 100⟩]⟩ = .ok w ∧
    v.Interchangeable w ∧ v.name? 100 = some "LIST" ∧ w.name? 100 = some "'l'" := by
  have hmax : ¬ maxKind < 100 ∧ ¬ maxKind < -1 := by decide
  rcases build_of_same_entries ⟨[⟨"LIST", 100⟩, ⟨"'l'", 100⟩, ⟨"EOF", -1⟩]⟩
      ⟨[⟨"'l'", 100⟩, ⟨"EOF", -1⟩, ⟨"LIST", 100⟩, ⟨"'l'", 100⟩]⟩
      (fun e => by simp only [List.mem_cons, List.not_mem_nil]; tauto) with
    ⟨fault, -, hfault, -⟩ | ⟨v, w, hv, hw, hvw⟩
  · simp [build, Declarations.declare, hmax, bind, Except.bind, pure, Except.pure] at hfault
  · have hname : ∀ {table : Table} {u : Vocabulary}, build table = .ok u →
        u.name? 100 = (firstNames table.entries.eraseDups)[100]?.join := fun hu => by
      rw [name?, (of_build hu).2.2, (of_build hu).2.1.declared_eq]
      rfl
    refine ⟨v, w, hv, hw, hvw, ?_, ?_⟩
    · rw [hname hv]
      decide
    · rw [hname hw]
      decide

end Vocabulary

end ParseTree
