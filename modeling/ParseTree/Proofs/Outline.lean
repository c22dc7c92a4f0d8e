import ParseTree.Proofs.Flatten

/-!
# What becomes of a tree

`Tree.outline` says by recursion over a tree what it is flattened to, as an ordered tree: tokens are
leaves, a single-child rule gives way to its child, and every other rule stays, with its canonical
name and the kind declared for it.  There is none if some rule that stays cannot be looked up.

* **Looking up** — `traverse_cells`: looking up the cells of a layout one after the other is looking
  up the tree and laying out the result.  The two go through the values in different orders, so this
  speaks of success only; which fault comes first is another matter.
* **Starts** — `settleStarts_unsettled`: the sweep through the ids from the greatest down gives each
  node the start of its outline, as its children have greater ids.
* **The whole** — `flatten_toOption`: flattening succeeds exactly if the tree has an outline, and
  gives the outline laid out.
-/

namespace ParseTree

variable {α β γ : Type}

/-! ## Looking up every value -/

mutual

/-- Looks up every value of an ordered tree; fails if one cannot be looked up. -/
def Outline.traverse (g : α → Option β) : Outline α → Option (Outline β)
  | .node a children => do
    let b ← g a
    let os ← traverseForest g children
    return .node b os

/-- Looks up every value of ordered trees side by side. -/
def traverseForest (g : α → Option β) : List (Outline α) → Option (List (Outline β))
  | [] => some []
  | o :: rest => do
    let o' ← o.traverse g
    let rest' ← traverseForest g rest
    return o' :: rest'

end

section Traverse

/- What is made of a cell may depend on its value and on how it is linked, not on what is below
it. -/
variable (g : α → Option β) (make : Option Nat → Nat → Span → β → γ)

/-- What is made of a cell whose value has been looked up. -/
def Cell.fill (c : Cell β) : γ := make c.parent c.index c.span c.outline.value

/-- What is made of a cell whose value is looked up now. -/
def Cell.fillWith (c : Cell α) : Option γ :=
  (g c.outline.value).map (make c.parent c.index c.span)

/-- The parts of an ordered tree whose values have been looked up. -/
structure Traversed (o : Outline α) (o' : Outline β) : Prop where
  value : g o.value = some o'.value
  length_children : o'.children.length = o.children.length
  sizeBelow : o'.sizeBelow = o.sizeBelow
  cellsBelow : ∀ id first, (o.cellsBelow id first).mapM (Cell.fillWith g make)
    = some ((o'.cellsBelow id first).map (Cell.fill make))

/-- The same for trees side by side. -/
structure TraversedForest (os : List (Outline α)) (os' : List (Outline β)) : Prop where
  length : os'.length = os.length
  size : forestSize os' = forestSize os
  block : ∀ parent index first, (block parent index first os).mapM (Cell.fillWith g make)
    = some ((block parent index first os').map (Cell.fill make))
  forestCells : ∀ id first, (forestCells os id first).mapM (Cell.fillWith g make)
    = some ((forestCells os' id first).map (Cell.fill make))

variable {g make}

lemma Traversed.span {o : Outline α} {o' : Outline β} (h : Traversed g make o o')
    (parent : Option Nat) (index first : Nat) :
    Cell.span ⟨o', parent, index, first⟩ = Cell.span ⟨o, parent, index, first⟩ := by
  have hempty : o'.children.isEmpty = o.children.isEmpty := by
    rw [Bool.eq_iff_iff, List.isEmpty_iff_length_eq_zero, List.isEmpty_iff_length_eq_zero,
      h.length_children]
  rw [Cell.span, Cell.span, hempty, h.length_children]

/-- A tree looked up in front of trees looked up. -/
lemma TraversedForest.cons {o : Outline α} {o' : Outline β} {os : List (Outline α)}
    {os' : List (Outline β)} (ho : Traversed g make o o') (hos : TraversedForest g make os os') :
    TraversedForest g make (o :: os) (o' :: os') := by
  refine ⟨by simp [hos.length], by simp [forestSize, ho.sizeBelow, hos.size], ?_, ?_⟩
  · intro parent index first
    rw [ParseTree.block, ParseTree.block, List.mapM_cons, hos.block, ho.sizeBelow]
    simp [Cell.fillWith, Cell.fill, ho.value, ho.span]
  · intro id first
    rw [ParseTree.forestCells, ParseTree.forestCells, List.mapM_append, ho.cellsBelow,
      hos.forestCells, ho.sizeBelow]
    simp

mutual

lemma traversed_of_traverse : ∀ {o : Outline α} {o' : Outline β}, o.traverse g = some o' →
    Traversed g make o o'
  | .node a os, o', h => by
      simp only [Outline.traverse, Option.bind_eq_bind, Option.bind_eq_some_iff, Option.pure_def,
        Option.some.injEq] at h
      obtain ⟨b, hb, os', hos, rfl⟩ := h
      have hforest := traversedForest_of_traverseForest hos
      refine ⟨hb, hforest.length, by simp [Outline.sizeBelow, hforest.size], fun id first => ?_⟩
      rw [Outline.cellsBelow, Outline.cellsBelow, List.mapM_append, hforest.block,
        hforest.forestCells, hforest.length]
      simp

lemma traversedForest_of_traverseForest : ∀ {os : List (Outline α)} {os' : List (Outline β)},
    traverseForest g os = some os' → TraversedForest g make os os'
  | [], os', h => by
      rw [traverseForest, Option.some.injEq] at h
      subst h
      exact ⟨rfl, rfl, fun _ _ _ => rfl, fun _ _ => rfl⟩
  | o :: rest, os', h => by
      simp only [traverseForest, Option.bind_eq_bind, Option.bind_eq_some_iff, Option.pure_def,
        Option.some.injEq] at h
      obtain ⟨o', ho, rest', hrest, rfl⟩ := h
      exact .cons (traversed_of_traverse ho) (traversedForest_of_traverseForest hrest)

end

mutual

/-- If a tree cannot be looked up, then neither can its cells. -/
lemma mapM_cells_of_traverse_eq_none : ∀ {o : Outline α}, o.traverse g = none →
    g o.value = none ∨ ∀ id first, (o.cellsBelow id first).mapM (Cell.fillWith g make) = none
  | .node a os, h => by
      rw [Outline.traverse] at h
      cases hb : g a with
      | none => exact Or.inl hb
      | some b =>
          cases hos : traverseForest g os with
          | some os' => simp [hb, hos] at h
          | none =>
              refine Or.inr fun id first => ?_
              rw [Outline.cellsBelow, List.mapM_append]
              rcases mapM_forest_of_traverseForest_eq_none hos id 0 (first + os.length) first
                (first + os.length) with hnone | hnone
              · rw [hnone]; rfl
              · rw [hnone]; simp

lemma mapM_forest_of_traverseForest_eq_none : ∀ {os : List (Outline α)},
    traverseForest g os = none → ∀ parent index start id first,
    (block parent index start os).mapM (Cell.fillWith g make) = none ∨
      (forestCells os id first).mapM (Cell.fillWith g make) = none
  | [], h => by simp [traverseForest] at h
  | o :: rest, h => by
      intro parent index start id first
      rw [block, forestCells, List.mapM_cons, List.mapM_append]
      rw [traverseForest] at h
      cases ho : o.traverse g with
      | none =>
          rcases mapM_cells_of_traverse_eq_none ho with hnone | hnone
          · refine Or.inl ?_
            simp [Cell.fillWith, hnone]
          · refine Or.inr ?_
            rw [hnone]; rfl
      | some o' =>
          cases hrest : traverseForest g rest with
          | some rest' => simp [ho, hrest] at h
          | none =>
              rcases mapM_forest_of_traverseForest_eq_none hrest parent (index + 1)
                (start + o.sizeBelow) (id + 1) (first + o.sizeBelow) with hnone | hnone
              · exact Or.inl (by rw [hnone]; simp)
              · exact Or.inr (by rw [hnone]; simp)

end

/-- **Looking up.**  Looking up the cells one after the other is looking up the tree and laying it
out. -/
theorem traverse_cells (o : Outline α) :
    o.cells.mapM (Cell.fillWith g make)
      = (o.traverse g).map fun o' => o'.cells.map (Cell.fill make) := by
  rw [Outline.cells, List.mapM_cons]
  cases ho : o.traverse g with
  | none =>
      rcases mapM_cells_of_traverse_eq_none ho with hnone | hnone
      · simp [Cell.fillWith, hnone]
      · rw [hnone]; simp
  | some o' =>
      have h : Traversed g make o o' := traversed_of_traverse ho
      rw [h.cellsBelow]
      simp [Cell.fillWith, Cell.fill, h.value, h.span, Outline.cells]

end Traverse

/-! ## What becomes of a tree -/

mutual

/-- What a tree is flattened to.  A single-child rule gives way to its child, whatever its label. -/
def Tree.outline (v : Vocabulary) (base : LineBase) : Tree → Option (Outline Payload)
  | .token t => some (.node (.token { t with position := base.adjust t.position }) [])
  | .rule _ [only] => only.outline v base
  | .rule label children => do
    let name ← Label.canonicalName? label
    let kind ← (v.resolve name).toOption
    let os ← forestOutline v base children
    return .node (.rule ⟨name, kind⟩) os

/-- What trees side by side are flattened to. -/
def forestOutline (v : Vocabulary) (base : LineBase) : List Tree → Option (List (Outline Payload))
  | [] => some []
  | t :: rest => do
    let o ← t.outline v base
    let os ← forestOutline v base rest
    return o :: os

end

section Lookup

variable {v : Vocabulary} {base : LineBase}

/-- A rule that stays, looked up: its canonical name and the kind declared for it. -/
lemma payload_rule_toOption (label : String) :
    ((Symbol.rule label).payload v base).toOption
      = (Label.canonicalName? label).bind fun name =>
          (v.resolve name).toOption.map fun kind => .rule ⟨name, kind⟩ := by
  rw [Symbol.payload, Vocabulary.classify, Label.canonicalName]
  cases Label.canonicalName? label with
  | none => rfl
  | some name =>
      simp only [Option.bind_some]
      cases v.resolve name with
      | error e => rfl
      | ok kind => rfl

/-- What becomes of a rule that stays. -/
lemma outline_rule {label : String} {children : List Tree} (h : children.length ≠ 1) :
    (Tree.rule label children).outline v base = (do
      let p ← ((Symbol.rule label).payload v base).toOption
      let os ← forestOutline v base children
      return .node p os) := by
  have houtline : (Tree.rule label children).outline v base = (do
      let name ← Label.canonicalName? label
      let kind ← (v.resolve name).toOption
      let os ← forestOutline v base children
      return .node (.rule ⟨name, kind⟩) os) := by
    rcases children with _ | ⟨first, _ | ⟨second, rest⟩⟩
    · rfl
    · simp at h
    · rfl
  rw [houtline, payload_rule_toOption]
  simp only [Option.bind_eq_bind, Option.bind_assoc, Option.bind_map, Function.comp_def]

mutual

/-- What becomes of a tree is what becomes of its skeleton. -/
lemma Tree.outline_eq_traverse : ∀ t : Tree,
    t.outline v base = t.skeleton.traverse fun s => (s.payload v base).toOption
  | .token t => rfl
  | .rule label [only] => by
      rw [Tree.outline, Tree.skeleton, only.outline_eq_traverse]
  | .rule label [] => by
      rw [outline_rule (by simp), forestOutline_eq_traverse []]
      rfl
  | .rule label (first :: second :: rest) => by
      rw [outline_rule (by simp), forestOutline_eq_traverse (first :: second :: rest)]
      rfl

lemma forestOutline_eq_traverse : ∀ ts : List Tree,
    forestOutline v base ts
      = traverseForest (fun s => (s.payload v base).toOption) (forestSkeleton ts)
  | [] => rfl
  | t :: rest => by
      rw [forestOutline, forestSkeleton, traverseForest, t.outline_eq_traverse,
        forestOutline_eq_traverse rest]

end

end Lookup

/-! ## Starts -/

mutual

/-- The start of a node: its own if it is a leaf, else the first among its children. -/
def Outline.start : Outline Payload → Option Position
  | .node p [] => p.ownStart
  | .node _ (o :: rest) => o.start.or (forestStart rest)

/-- The first start among trees side by side. -/
def forestStart : List (Outline Payload) → Option Position
  | [] => none
  | o :: rest => o.start.or (forestStart rest)

end

lemma forestStart_eq_findSome? (os : List (Outline Payload)) :
    forestStart os = os.findSome? Outline.start := by
  induction os with
  | nil => rfl
  | cons o rest ih =>
      rw [forestStart, ih, List.findSome?_cons]
      cases o.start <;> rfl

namespace Outline

lemma start_of_children_nil {o : Outline Payload} (h : o.children = []) :
    o.start = o.value.ownStart := by
  obtain ⟨p, os⟩ := o
  rw [children_node] at h
  rw [h, start, value_node]

lemma start_of_children_ne_nil {o : Outline Payload} (h : o.children ≠ []) :
    o.start = o.children.findSome? start := by
  obtain ⟨p, _ | ⟨first, rest⟩⟩ := o
  · exact absurd rfl h
  · rw [start, children_node, ← forestStart_eq_findSome?, forestStart]

end Outline

/-- The node of a cell in a flattened tree. -/
def Cell.node (c : Cell Payload) : FlatNode :=
  ⟨c.outline.value, c.parent, c.index, c.span, c.outline.start⟩

/-- The flattened tree that an outline is laid out to. -/
def Outline.flat (o : Outline Payload) : FlatTree := ⟨(o.cells.map Cell.node).toArray⟩

lemma Outline.getElem?_flat (o : Outline Payload) (id : Nat) :
    o.flat.nodes[id]? = o.cells[id]?.map Cell.node := by
  rw [Outline.flat, List.getElem?_toArray, List.getElem?_map]

lemma Outline.size_flat (o : Outline Payload) : o.flat.size = o.size := by
  simp [Outline.flat, FlatTree.size, Outline.length_cells]

/-- The nodes of a flattened tree, those with an id below `count` as they were placed. -/
def Outline.unsettled (o : Outline Payload) (count : Nat) : Array FlatNode :=
  (o.cells.mapIdx fun id c => if id < count then c.fill Payload.bareNode else c.node).toArray

namespace Outline

variable (o : Outline Payload)

lemma getElem?_unsettled (count id : Nat) :
    (o.unsettled count)[id]? = o.cells[id]?.map fun c =>
      if id < count then c.fill Payload.bareNode else c.node := by
  rw [unsettled, List.getElem?_toArray, List.getElem?_mapIdx]

lemma unsettled_zero : o.unsettled 0 = o.flat.nodes := by
  apply Array.ext_getElem?
  intro id
  rw [getElem?_unsettled, getElem?_flat]
  simp

lemma unsettled_length : o.unsettled o.cells.length
    = (o.cells.map (Cell.fill Payload.bareNode)).toArray := by
  apply Array.ext_getElem?
  intro id
  rw [getElem?_unsettled, List.getElem?_toArray, List.getElem?_map]
  cases hc : o.cells[id]? with
  | none => rfl
  | some c => simp [(List.getElem?_eq_some_iff.mp hc).1]

variable {o}

/-- Where the node with this id needs no settling, nothing is left to do for it. -/
lemma unsettled_succ_of_eq {id : Nat}
    (h : ∀ c, o.cells[id]? = some c → c.fill Payload.bareNode = c.node) :
    o.unsettled (id + 1) = o.unsettled id := by
  apply Array.ext_getElem?
  intro k
  rw [getElem?_unsettled, getElem?_unsettled]
  cases hc : o.cells[k]? with
  | none => rfl
  | some c =>
      rcases Nat.lt_trichotomy k id with hk | rfl | hk
      · simp [hk, Nat.lt_succ_of_lt hk]
      · simp [h c hc]
      · simp [Nat.not_lt_of_lt hk, Nat.not_lt.mpr (Nat.succ_le_of_lt hk)]

/-- Giving the node with this id the start of its outline settles it. -/
lemma modify_unsettled_succ {id : Nat} {c : Cell Payload} (hc : o.cells[id]? = some c) :
    (o.unsettled (id + 1)).modify id (fun n => { n with start := c.outline.start })
      = o.unsettled id := by
  apply Array.ext_getElem?
  intro k
  rw [Array.getElem?_modify, getElem?_unsettled, getElem?_unsettled]
  rcases Nat.lt_trichotomy k id with hk | rfl | hk
  · simp [hk, Nat.lt_succ_of_lt hk, Nat.ne_of_gt hk]
  · simp [hc, Cell.fill, Payload.bareNode, Cell.node]
  · simp [Nat.not_lt_of_lt hk, Nat.not_lt.mpr (Nat.succ_le_of_lt hk), Nat.ne_of_lt hk]

/-- The start that the sweep takes from the children, which are settled already, is the right
one. -/
lemma firstStart_unsettled {id : Nat} {c : Cell Payload} (hc : o.cells[id]? = some c)
    (h : c.outline.children ≠ []) :
    firstStart (o.unsettled (id + 1)) c.span = c.outline.start := by
  have hlinked := cells_linked hc
  have hstarts : c.span.keys.map (fun key => (o.unsettled (id + 1))[key]?.bind (·.start))
      = c.outline.children.map start := by
    apply Cell.map_keys_span
    intro j child hj
    obtain ⟨next, hnext⟩ := hlinked.child j child hj
    have hlater : ¬ c.first + j < id + 1 := by
      have hlt := hlinked.lt_first
      omega
    rw [getElem?_unsettled, hnext, Option.map_some, if_neg hlater]
    rfl
  rw [firstStart, start_of_children_ne_nil h]
  have hfirst := congrArg (List.findSome? fun start => start) hstarts
  rwa [List.findSome?_map, List.findSome?_map] at hfirst

variable (o)

/-- **Starts.**  One sweep down from `count` settles all nodes below it. -/
theorem settleStarts_unsettled (count : Nat) :
    settleStarts count (o.unsettled count) = o.flat.nodes := by
  induction count with
  | zero => rw [settleStarts, unsettled_zero]
  | succ id ih =>
      rw [settleStarts, getElem?_unsettled]
      cases hc : o.cells[id]? with
      | none =>
          rw [Option.map_none, unsettled_succ_of_eq (by simp [hc])]
          exact ih
      | some c =>
          have hspan : (c.fill Payload.bareNode).children = c.span := rfl
          rw [Option.map_some, if_pos (Nat.lt_succ_self id)]
          simp only [hspan, c.isEmpty_span, List.isEmpty_iff]
          split
          · next hnil =>
              have hnode : c.fill Payload.bareNode = c.node := by
                rw [Cell.node, start_of_children_nil hnil]; rfl
              rw [unsettled_succ_of_eq fun d hd => ?_]
              · exact ih
              · rw [hc, Option.some.injEq] at hd
                rw [← hd, hnode]
          · next hne =>
              rw [firstStart_unsettled hc hne, modify_unsettled_succ hc]
              exact ih

end Outline

/-! ## The whole -/

lemma toOption_mapM {ε : Type} (g : α → Except ε β) (xs : List α) :
    (xs.mapM g).toOption = xs.mapM fun x => (g x).toOption := by
  induction xs with
  | nil => rfl
  | cons x rest ih =>
      rw [List.mapM_cons, List.mapM_cons, ← ih]
      cases g x with
      | error e => rfl
      | ok y => cases rest.mapM g <;> rfl

/-- The layout of a tree succeeds exactly if the tree has an outline, and is the outline laid
out. -/
lemma Tree.laidOut_toOption (v : Vocabulary) (base : LineBase) (t : Tree) :
    (t.laidOut v base).toOption = (t.outline v base).map Outline.flat := by
  have hplace : (t.skeleton.cells.mapM (Cell.place v base)).toOption
      = (t.outline v base).map fun o => o.cells.map (Cell.fill Payload.bareNode) := by
    have hcell : (fun c : Cell Symbol => (c.place v base).toOption)
        = Cell.fillWith (fun s => (s.payload v base).toOption) Payload.bareNode := by
      funext c
      rw [Cell.place, Cell.fillWith]
      cases c.outline.value.payload v base <;> rfl
    rw [toOption_mapM, hcell, traverse_cells, ← t.outline_eq_traverse]
  rw [Tree.laidOut]
  cases hnodes : t.skeleton.cells.mapM (Cell.place v base) with
  | error e =>
      rw [hnodes] at hplace
      cases ho : t.outline v base with
      | none => rfl
      | some o => simp [ho, Except.toOption] at hplace
  | ok nodes =>
      rw [hnodes] at hplace
      cases ho : t.outline v base with
      | none => simp [ho, Except.toOption] at hplace
      | some o =>
          have hbare : nodes = o.cells.map (Cell.fill Payload.bareNode) := by
            simpa [ho, Except.toOption] using hplace
          have hsettle := o.settleStarts_unsettled o.cells.length
          rw [o.unsettled_length] at hsettle
          simp [Except.map, Except.toOption, hbare, hsettle]

/-- **The whole.**  A flattener, whatever it has flattened before, succeeds exactly if the tree has
an outline, and gives the outline laid out. -/
theorem flatten_toOption (v : Vocabulary) (base : LineBase) (before : List Tree) (t : Tree) :
    ((Flattener.used v base before).flatten t).1.toOption
      = (t.outline v base).map Outline.flat := by
  rw [(Flattener.flatten_answers (Flattener.faithful_used v base before) t).result,
    t.laidOut_toOption]

lemma flatten_eq_ok_iff {v : Vocabulary} {base : LineBase} {before : List Tree} {t : Tree}
    {flat : FlatTree} :
    ((Flattener.used v base before).flatten t).1 = .ok flat ↔
      ∃ o, t.outline v base = some o ∧ o.flat = flat := by
  rw [← Option.map_eq_some_iff, ← flatten_toOption v base before]
  cases ((Flattener.used v base before).flatten t).1 <;> simp [Except.toOption]

end ParseTree
