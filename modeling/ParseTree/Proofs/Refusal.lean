import ParseTree.Proofs.Preorder

/-!
# Which label is refused

Flattening fails if a rule that stays has a label that the vocabulary refuses, and it reports one
such label only: the first in the order in which nodes are placed (`Tree.placed`).  That order goes
neither deep first nor level by level, as all children of a node are placed before anything below
them.

* **Refusing** — `classify_eq_error_iff`: what is wrong with a label, said without looking it up.
* **Placing** — `values_cells_skeleton`: the cells of the layout stand for the nodes in
  `Tree.placed`, which are the nodes that stay in another order (`placed_perm_kept`).
* **The whole** — `flatten_eq_error_iff`.
-/

namespace ParseTree

/-! ## Refusing -/

/-- What is wrong with a label: it lacks the suffix of structural labels, or its canonical name is
not declared. -/
inductive Vocabulary.Refuses (v : Vocabulary) (label : String) : LabelError → Prop
  | malformed (suffix : ¬ Label.contextSuffix <:+ label.toList) : v.Refuses label (.malformed label)
  | unknown {name : String} (canonical : Label.canonicalName? label = some name)
      (undeclared : v.contains name = false) : v.Refuses label (.unknownName name)

lemma Label.canonicalName?_eq_none_iff {label : String} :
    canonicalName? label = none ↔ ¬ contextSuffix <:+ label.toList := by
  simp [canonicalName?, stripContext?, stripSuffix?]

namespace Vocabulary

variable {v : Vocabulary} {base : LineBase} {label : String} {e : LabelError}

lemma resolve_eq_error_iff {name : String} :
    v.resolve name = .error e ↔ v.contains name = false ∧ e = .unknownName name := by
  rw [resolve, contains, Std.HashMap.contains_eq_isSome_getElem?]
  cases v.kindOf[name]? <;> simp [eq_comm]

lemma classify_of_canonicalName?_eq_none (h : Label.canonicalName? label = none) :
    v.classify label = .error (.malformed label) := by
  simp [classify, Label.canonicalName, h]

lemma classify_eq_error_iff_resolve {name : String} (h : Label.canonicalName? label = some name) :
    v.classify label = .error e ↔ v.resolve name = .error e := by
  simp only [classify, Label.canonicalName, h]
  cases v.resolve name <;> simp

/-- **Refusing.**  A label is refused for what is wrong with it. -/
theorem classify_eq_error_iff : v.classify label = .error e ↔ v.Refuses label e := by
  cases hname : Label.canonicalName? label with
  | none =>
      rw [classify_of_canonicalName?_eq_none hname, Except.error.injEq]
      constructor
      · rintro rfl
        exact .malformed (Label.canonicalName?_eq_none_iff.mp hname)
      · rintro (_ | ⟨hsome, _⟩)
        · rfl
        · rw [hname] at hsome
          cases hsome
  | some name =>
      rw [classify_eq_error_iff_resolve hname, resolve_eq_error_iff]
      constructor
      · rintro ⟨hundeclared, rfl⟩
        exact .unknown hname hundeclared
      · rintro (hsuffix | ⟨hsome, hundeclared⟩)
        · rw [Label.canonicalName?_eq_none_iff.mpr hsuffix] at hname
          cases hname
        · rw [hname, Option.some.injEq] at hsome
          subst hsome
          exact ⟨hundeclared, rfl⟩

end Vocabulary

/-! ## Placing -/

/-- The nodes that stay, in the order in which they are placed: the root, and then for each node
that stays, in preorder, its children from left to right. -/
def Tree.placed (t : Tree) : List Tree :=
  t.elide :: t.kept.flatMap fun s => s.children.map Tree.elide

lemma Tree.elide_eq_self {t : Tree} (h : t.children.length ≠ 1) : t.elide = t := by
  fun_cases Tree.elide t with
  | case1 label only => simp [Tree.children] at h
  | case2 => rfl

lemma Tree.symbol_elide (t : Tree) : t.elide.symbol = t.skeleton.value := by
  rw [t.skeleton_eq_node_elide, Outline.value_node]

/-- The cells of the layout stand for the nodes in the order of placing. -/
lemma Tree.values_cells_skeleton (t : Tree) :
    t.skeleton.cells.map (·.outline.value) = t.placed.map Tree.symbol := by
  have houtlines := congrArg (List.map Outline.value) t.skeleton.outlines_cells
  rw [List.map_map] at houtlines
  refine houtlines.trans ?_
  rw [t.preorder_skeleton, Tree.placed, List.map_cons, List.map_cons, t.symbol_elide,
    List.flatMap_map, List.map_flatMap, List.map_flatMap]
  congr 1
  apply List.flatMap_congr
  intro s hs
  simp [Tree.skeleton_eq_node (Tree.mem_kept.mp hs).2, Tree.symbol_elide]

lemma forest_placed_perm_kept (ts : List Tree) :
    (ts.map Tree.elide ++ (forestKept ts).flatMap fun s => s.children.map Tree.elide).Perm
      (forestKept ts) := by
  induction ts using Tree.forest_induction with
  | nil => exact .nil
  | token t rest ih =>
      rw [forestKept_token_cons]
      exact ih.cons _
  | rule label kids rest ihkids ihrest =>
      by_cases hkids : kids.length = 1
      · -- A single-child rule is placed as its child.
        obtain ⟨only, rfl⟩ := List.length_eq_one_iff.mp hkids
        rw [forestKept_single_cons, List.flatMap_append]
        exact ((List.perm_append_comm_assoc _ _ _).cons _).trans (ihkids.append ihrest)
      · -- The trees after this one are placed before its children, and kept after them.
        have hself : (Tree.rule label kids).elide = .rule label kids := Tree.elide_eq_self hkids
        rw [forestKept_rule_cons hkids, List.map_cons, hself, List.flatMap_cons,
          List.flatMap_append, ← List.append_assoc (List.map _ _)]
        exact ((List.perm_append_comm_assoc _ _ _).trans (ihkids.append ihrest)).cons _

/-- Every node that stays is placed once. -/
lemma Tree.placed_perm_kept (t : Tree) : t.placed.Perm t.kept := by
  have h := forest_placed_perm_kept [t]
  rwa [forestKept_singleton] at h

/-! ## The whole -/

section Whole

variable {v : Vocabulary} {base : LineBase} {t : Tree} {e : LabelError}

/-- What is done with an element after it has been looked up does not bear on the faults. -/
lemma mapM_map_eq_error_iff {α β γ : Type} {g : α → Except LabelError β} {make : α → β → γ}
    {xs : List α} :
    xs.mapM (fun x => (g x).map (make x)) = .error e ↔ xs.mapM g = .error e := by
  induction xs with
  | nil => simp [pure, Except.pure]
  | cons x rest ih =>
      rw [mapM_cons_eq_error_iff, mapM_cons_eq_error_iff, ih]
      cases g x <;> simp [Except.map]

lemma exists_mapM_eq_error_iff {α β : Type} {g : α → Except LabelError β} {xs : List α} :
    (∃ e, xs.mapM g = .error e) ↔ ∃ x ∈ xs, ∃ e, g x = .error e := by
  induction xs with
  | nil => simp [pure, Except.pure]
  | cons x rest ih =>
      simp only [mapM_cons_eq_error_iff, exists_or, exists_and_left, List.mem_cons,
        exists_eq_or_imp, ih]
      cases g x <;> simp

lemma Tree.laidOut_eq_error_iff :
    t.laidOut v base = .error e ↔
      t.placed.mapM (Symbol.payload v base ∘ Tree.symbol) = .error e := by
  have hlaid : t.laidOut v base = .error e ↔
      t.skeleton.cells.mapM (Cell.place v base) = .error e := by
    rw [Tree.laidOut]
    cases t.skeleton.cells.mapM (Cell.place v base) <;> simp [Except.map]
  have hvalues := congrArg (List.mapM (Symbol.payload v base)) t.values_cells_skeleton
  rw [List.mapM_map, List.mapM_map] at hvalues
  rw [hlaid, ← hvalues]
  exact mapM_map_eq_error_iff

lemma Tree.payload_symbol_eq_error_iff {s : Tree} :
    s.symbol.payload v base = .error e ↔
      ∃ label children, s = .rule label children ∧ v.Refuses label e := by
  cases s with
  | token token => simp [Tree.symbol, Symbol.payload]
  | rule label children =>
      simp only [Tree.symbol, Symbol.payload, Tree.rule.injEq, and_assoc, exists_eq_left',
        exists_and_left, ← Vocabulary.classify_eq_error_iff]
      cases v.classify label <;> simp [Except.map]

lemma Tree.exists_payload_symbol_iff {s : Tree} :
    (∃ p, s.symbol.payload v base = .ok p) ↔
      ∀ label children, s = .rule label children → ∀ e, ¬ v.Refuses label e := by
  have hok : (∃ p, s.symbol.payload v base = .ok p) ↔ ∀ e, s.symbol.payload v base ≠ .error e := by
    cases s.symbol.payload v base <;> simp
  simp only [hok, ne_eq, Tree.payload_symbol_eq_error_iff, not_exists, not_and]
  exact ⟨fun h label children hs e => h e label children hs,
    fun h e label children hs => h label children hs e⟩

end Whole

/-- **The whole.**  Flattening fails exactly if the label of some rule that stays is refused; what
is reported is the first such label in the order of placing, as malformed if it lacks the suffix and
else as an unknown name; and labels of single-child rules have no part in it. -/
theorem flatten_eq_error_iff (v : Vocabulary) (base : LineBase) (before : List Tree) (t : Tree) :
    ((∃ e, ((Flattener.used v base before).flatten t).1 = .error e) ↔
      ∃ label children, Tree.rule label children ∈ t.subtrees ∧ children.length ≠ 1 ∧
        ∃ e, v.Refuses label e) ∧
    (∀ e, ((Flattener.used v base before).flatten t).1 = .error e ↔
      ∃ earlier label children later, t.placed = earlier ++ .rule label children :: later ∧
        (∀ s ∈ earlier, ∀ other kids, s = .rule other kids → ∀ e', ¬ v.Refuses other e') ∧
        v.Refuses label e) ∧
    ∀ t' : Tree, t'.skeleton = t.skeleton →
      ((Flattener.used v base before).flatten t').1
        = ((Flattener.used v base before).flatten t).1 := by
  have hresult : ∀ t, ((Flattener.used v base before).flatten t).1 = t.laidOut v base := fun t =>
    (Flattener.flatten_answers (Flattener.faithful_used v base before) t).result
  simp only [hresult, Tree.laidOut_eq_error_iff]
  refine ⟨?_, fun e => ?_, fun t' hskeleton => ?_⟩
  · rw [exists_mapM_eq_error_iff]
    simp only [Function.comp_apply, Tree.payload_symbol_eq_error_iff, t.placed_perm_kept.mem_iff,
      Tree.mem_kept]
    constructor
    · rintro ⟨_, ⟨hmem, hkept⟩, e, label, children, rfl, hrefuses⟩
      exact ⟨label, children, hmem, hkept, e, hrefuses⟩
    · rintro ⟨label, children, hmem, hkept, e, hrefuses⟩
      exact ⟨_, ⟨hmem, hkept⟩, e, label, children, rfl, hrefuses⟩
  · simp only [mapM_eq_error_iff, Function.comp_apply, Tree.payload_symbol_eq_error_iff,
      Tree.exists_payload_symbol_iff]
    constructor
    · rintro ⟨earlier, _, later, hplaced, hearlier, label, children, rfl, hrefuses⟩
      exact ⟨earlier, label, children, later, hplaced, hearlier, hrefuses⟩
    · rintro ⟨earlier, label, children, later, hplaced, hearlier, hrefuses⟩
      exact ⟨earlier, _, later, hplaced, hearlier, label, children, rfl, hrefuses⟩
  · rw [Tree.laidOut, Tree.laidOut, hskeleton]

/-- Deep first, `c` would come before `e`; level by level, `f` before `d`. -/
example : (Tree.rule "a" [.rule "b" [.rule "c" [.rule "d" [], .rule "d" []], .rule "c" []],
      .rule "e" [.rule "f" [], .rule "f" []]]).placed.map Tree.label?
    = ["a", "b", "e", "c", "c", "d", "d", "f", "f"].map some := by
  decide

end ParseTree
