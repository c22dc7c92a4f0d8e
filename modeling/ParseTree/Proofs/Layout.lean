import Mathlib.Data.List.Basic
import ParseTree.Flat.Basic

/-!
# Laying out ordered trees

An ordered tree is laid out in one list, **block by block**: the root comes first; then, for each
node in preorder, all its children side by side.  A node knows its `Cell`: the tree that it is the
root of, its parent, its place among its siblings, and the id from which its children stand.

The ids of the layout are neither depth-first nor breadth-first, so what holds of them is said
locally.

* **Linking** — `cells_linked`: the children of a cell stand from its `first` on, in order, they
  know their parent and their place, and they come after it.
* **Owning** — `cells_owned`: every cell but the root's stands among the children of its parent.

Both are one induction over the tree, over all the lists in which the part that is laid out for it
may stand; `Each` is the form of such statements.  `cells_induction` turns owning into a way to
carry a property from the root to every cell.
-/

namespace ParseTree

variable {α β : Type}

/-! ## Ordered trees -/

/-- An ordered tree: a value, and the trees below it from left to right. -/
inductive Outline (α : Type)
  | node (value : α) (children : List (Outline α))
deriving Repr

namespace Outline

/-- The value at the root. -/
def value : Outline α → α
  | .node value _ => value

/-- The trees right below the root. -/
def children : Outline α → List (Outline α)
  | .node _ children => children

@[simp] lemma value_node (a : α) (os : List (Outline α)) : (node a os).value = a := rfl

@[simp] lemma children_node (a : α) (os : List (Outline α)) : (node a os).children = os := rfl

end Outline

mutual

/-- The number of nodes below the root. -/
def Outline.sizeBelow : Outline α → Nat
  | .node _ children => forestSize children

/-- The number of nodes of trees side by side. -/
def forestSize : List (Outline α) → Nat
  | [] => 0
  | o :: rest => o.sizeBelow + 1 + forestSize rest

end

/-- The number of nodes. -/
def Outline.size (o : Outline α) : Nat := o.sizeBelow + 1

/-- A tree among others is no larger than all of them. -/
lemma size_le_forestSize {o : Outline α} {os : List (Outline α)} (h : o ∈ os) :
    o.size ≤ forestSize os := by
  induction os with
  | nil => simp at h
  | cons head rest ih =>
      rw [forestSize]
      rcases List.mem_cons.mp h with rfl | h
      · simp only [Outline.size]; omega
      · exact Nat.le_trans (ih h) (Nat.le_add_left _ _)

/-- A child is smaller than its parent. -/
lemma Outline.size_lt_of_mem_children {o child : Outline α} (h : child ∈ o.children) :
    child.size < o.size := by
  cases o with
  | node a os =>
      rw [Outline.children_node] at h
      have hle := size_le_forestSize h
      simp only [Outline.size, Outline.sizeBelow] at hle ⊢
      omega

/-! ## Cells -/

lemma Span.mem_keys {s : Span} {key : Nat} : key ∈ s.keys ↔ s.start ≤ key ∧ key < s.stop := by
  rw [Span.keys, List.mem_range'_1, Span.size]
  omega

/-- A node of a laid out tree. -/
structure Cell (α : Type) where
  /-- The node with all that is below it. -/
  outline : Outline α
  parent : Option Nat
  /-- The place among the children of the parent. -/
  index : Nat
  /-- The id from which the children stand. -/
  first : Nat

/-- The span of the children of a node. -/
def Cell.span (c : Cell α) : Span :=
  if c.outline.children.isEmpty then .empty
  else ⟨c.first, c.first + c.outline.children.length⟩

lemma Cell.span_of_children_ne_nil {c : Cell α} (h : c.outline.children ≠ []) :
    c.span = ⟨c.first, c.first + c.outline.children.length⟩ := by
  rw [Cell.span, if_neg (by simpa using h)]

/-- The span is empty exactly if there are no children. -/
lemma Cell.isEmpty_span (c : Cell α) : c.span.isEmpty = c.outline.children.isEmpty := by
  rw [Cell.span]
  cases c.outline.children with
  | nil => rfl
  | cons o rest => simp [Span.isEmpty]

lemma Cell.span_of_isEmpty {c : Cell α} (h : c.span.isEmpty = true) : c.span = .empty := by
  rw [c.isEmpty_span] at h
  rw [Cell.span, if_pos h]

lemma Cell.keys_span (c : Cell α) :
    c.span.keys = List.range' c.first c.outline.children.length := by
  rw [Cell.span]
  cases c.outline.children with
  | nil => rfl
  | cons o rest => simp [Span.keys, Span.size]

lemma Cell.size_span (c : Cell α) : c.span.size = c.outline.children.length := by
  simpa [Span.keys] using congrArg List.length c.keys_span

lemma Cell.mem_keys_span {c : Cell α} {id : Nat} :
    id ∈ c.span.keys ↔ ∃ j < c.outline.children.length, id = c.first + j := by
  rw [c.keys_span, List.mem_range']
  simp

/-- Going over the keys of the span is going over the children. -/
lemma Cell.map_keys_span {c : Cell α} {byId : Nat → β} {byTree : Outline α → β}
    (h : ∀ j o, c.outline.children[j]? = some o → byId (c.first + j) = byTree o) :
    c.span.keys.map byId = c.outline.children.map byTree := by
  rw [c.keys_span]
  apply List.ext_getElem?
  intro j
  rw [List.getElem?_map, List.getElem?_map]
  cases ho : c.outline.children[j]? with
  | none =>
      have hj : c.outline.children.length ≤ j := List.getElem?_eq_none_iff.mp ho
      rw [List.getElem?_eq_none (by simpa using hj)]; rfl
  | some o =>
      have hj : j < c.outline.children.length := (List.getElem?_eq_some_iff.mp ho).1
      rw [List.getElem?_range' hj, Option.map_some, Option.map_some, Nat.one_mul, h j o ho]

/-- The cells of trees side by side that are children of `parent`.  What is below the first one is
laid out from `first` on, and what is below the next one right after it. -/
def block (parent index first : Nat) : List (Outline α) → List (Cell α)
  | [] => []
  | o :: rest =>
    ⟨o, some parent, index, first⟩ :: block parent (index + 1) (first + o.sizeBelow) rest

mutual

/-- The cells of what is below a node with this `id`, to be laid out from `first` on. -/
def Outline.cellsBelow : Outline α → (id first : Nat) → List (Cell α)
  | .node _ children, id, first =>
    block id 0 (first + children.length) children
      ++ forestCells children first (first + children.length)

/-- The cells of what is below trees side by side, which have the ids from `id` on. -/
def forestCells : List (Outline α) → (id first : Nat) → List (Cell α)
  | [], _, _ => []
  | o :: rest, id, first => o.cellsBelow id first ++ forestCells rest (id + 1) (first + o.sizeBelow)

end

/-- The cells of a tree, by id. -/
def Outline.cells (o : Outline α) : List (Cell α) :=
  ⟨o, none, 0, 1⟩ :: o.cellsBelow 0 1

@[simp] lemma length_block (parent index first : Nat) (os : List (Outline α)) :
    (block parent index first os).length = os.length := by
  induction os generalizing index first with
  | nil => rfl
  | cons o rest ih => simp [block, ih]

mutual

lemma Outline.length_cellsBelow : ∀ (o : Outline α) (id first : Nat),
    (o.cellsBelow id first).length = o.sizeBelow
  | .node a os, id, first => by
      have hforest := length_forestCells os first (first + os.length)
      simp only [Outline.cellsBelow, Outline.sizeBelow, List.length_append, length_block]
      omega

lemma length_forestCells : ∀ (os : List (Outline α)) (id first : Nat),
    (forestCells os id first).length + os.length = forestSize os
  | [], _, _ => rfl
  | o :: rest, id, first => by
      have hfirst := o.length_cellsBelow id first
      have hrest := length_forestCells rest (id + 1) (first + o.sizeBelow)
      simp only [forestCells, forestSize, List.length_append, List.length_cons]
      omega

end

/-- A tree takes as many cells as it has nodes. -/
lemma Outline.length_cells (o : Outline α) : o.cells.length = o.size := by
  simp [Outline.cells, Outline.size, Outline.length_cellsBelow]

/-- Among trees side by side, each has its cell at its place. -/
lemma getElem?_block (parent index first : Nat) {j : Nat} {os : List (Outline α)} {o : Outline α}
    (h : os[j]? = some o) :
    ∃ next, (block parent index first os)[j]? = some ⟨o, some parent, index + j, next⟩ := by
  induction os generalizing index first j with
  | nil => simp at h
  | cons head rest ih =>
      cases j with
      | zero =>
          simp only [List.getElem?_cons_zero, Option.some.injEq] at h
          exact ⟨first, by rw [block, h]; rfl⟩
      | succ j =>
          obtain ⟨next, hnext⟩ := ih (index + 1) (first + head.sizeBelow) h
          have hplace : index + 1 + j = index + (j + 1) := by omega
          refine ⟨next, ?_⟩
          rw [block, List.getElem?_cons_succ, hnext, hplace]

/-- A cell of trees side by side is that of the tree at its place. -/
lemma of_getElem?_block {parent index first j : Nat} {os : List (Outline α)} {c : Cell α}
    (h : (block parent index first os)[j]? = some c) :
    c.parent = some parent ∧ c.index = index + j ∧ os[j]? = some c.outline := by
  have hj : j < os.length := by
    simpa using (List.getElem?_eq_some_iff.mp h).1
  have ho : os[j]? = some os[j] := List.getElem?_eq_getElem hj
  obtain ⟨next, hnext⟩ := getElem?_block parent index first ho
  rw [h, Option.some.injEq] at hnext
  subst hnext
  exact ⟨rfl, rfl, ho⟩

/-! ## Statements about all cells of a part

`Each P n part` says that `P` holds of every cell of `part`, together with the id that it has if the
part stands from `n` on. -/

/-- What holds of every element and its id, if the first one has id `n`. -/
def Each (P : Nat → β → Prop) (n : Nat) (part : List β) : Prop :=
  ∀ k c, part[k]? = some c → P (n + k) c

@[simp] lemma each_nil (P : Nat → β → Prop) (n : Nat) : Each P n [] := by
  intro k c h
  simp at h

lemma each_cons {P : Nat → β → Prop} {n : Nat} {c : β} {part : List β} :
    Each P n (c :: part) ↔ P n c ∧ Each P (n + 1) part := by
  constructor
  · intro h
    refine ⟨h 0 c rfl, fun k d hd => ?_⟩
    have hid : n + 1 + k = n + (k + 1) := by omega
    rw [hid]
    exact h (k + 1) d hd
  · rintro ⟨hc, hpart⟩ k d hd
    cases k with
    | zero =>
        rw [List.getElem?_cons_zero, Option.some.injEq] at hd
        rw [← hd]; exact hc
    | succ k =>
        have hid : n + (k + 1) = n + 1 + k := by omega
        rw [hid]
        exact hpart k d hd

lemma each_append {P : Nat → β → Prop} {n : Nat} {left right : List β} :
    Each P n (left ++ right) ↔ Each P n left ∧ Each P (n + left.length) right := by
  induction left generalizing n with
  | nil => simp
  | cons c left ih =>
      have hid : n + (c :: left).length = n + 1 + left.length := by
        rw [List.length_cons]; omega
      rw [List.cons_append, each_cons, each_cons, ih, hid, and_assoc]

lemma Each.imp {P Q : Nat → β → Prop} {n : Nat} {part : List β} (h : Each P n part)
    (himp : ∀ id c, P id c → Q id c) : Each Q n part :=
  fun k c hc => himp _ c (h k c hc)

/-! ## Linking and owning -/

/-- The children of a cell stand after it, in order and next to each other, and know it. -/
structure Cell.Linked (cells : List (Cell α)) (id : Nat) (c : Cell α) : Prop where
  lt_first : id < c.first
  child : ∀ j o, c.outline.children[j]? = some o →
    ∃ next, cells[c.first + j]? = some ⟨o, some id, j, next⟩

/-- A cell stands at its place among the children of its parent. -/
def Cell.Owned (cells : List (Cell α)) (id : Nat) (c : Cell α) : Prop :=
  ∃ p owner, c.parent = some p ∧ cells[p]? = some owner ∧
    owner.outline.children[c.index]? = some c.outline ∧ id = owner.first + c.index

/-- The part stands in the cells from `n` on. -/
abbrev Stands (cells : List (Cell α)) (n : Nat) (part : List (Cell α)) : Prop :=
  Each (fun id c => cells[id]? = some c) n part

/-- Trees side by side are owned by the node they were laid out for. -/
lemma owned_block {cells : List (Cell α)} {id : Nat} {c : Cell α} (hc : cells[id]? = some c)
    (start : Nat) :
    Each (Cell.Owned cells) c.first (block id 0 start c.outline.children) := by
  intro k d hd
  obtain ⟨hparent, hindex, hchild⟩ := of_getElem?_block hd
  rw [Nat.zero_add] at hindex
  exact ⟨id, c, hparent, hc, by rw [hindex]; exact hchild, by rw [hindex]⟩

mutual

/-- What is below a node is linked and owned wherever it stands, and so is linked the node
itself. -/
lemma placed_cellsBelow (cells : List (Cell α)) : ∀ (o : Outline α) (id : Nat) (c : Cell α),
    c.outline = o → cells[id]? = some c → id < c.first →
    Stands cells c.first (o.cellsBelow id c.first) →
    c.Linked cells id ∧
      Each (fun i d => d.Linked cells i ∧ d.Owned cells i) c.first (o.cellsBelow id c.first)
  | .node a os, id, c, ho, hc, hlt, hstands => by
      have hos : c.outline.children = os := by rw [ho]; rfl
      rw [Outline.cellsBelow] at hstands ⊢
      obtain ⟨hblock, hforest⟩ := each_append.mp hstands
      rw [length_block] at hforest
      obtain ⟨hlinked, hrest⟩ := placed_forestCells cells os id 0 c.first (c.first + os.length)
        (Nat.le_refl _) hblock hforest
      have howned := owned_block hc (c.first + os.length)
      rw [hos] at howned
      rw [each_append, length_block]
      refine ⟨⟨hlt, fun j child hj => ?_⟩, fun k d hd => ⟨hlinked k d hd, howned k d hd⟩, hrest⟩
      rw [hos] at hj
      obtain ⟨next, hnext⟩ := getElem?_block id 0 (c.first + os.length) hj
      rw [Nat.zero_add] at hnext
      exact ⟨next, hblock j _ hnext⟩

/-- The same for trees side by side, which stand from `id` on. -/
lemma placed_forestCells (cells : List (Cell α)) :
    ∀ (os : List (Outline α)) (parent index id first : Nat), id + os.length ≤ first →
    Stands cells id (block parent index first os) →
    Stands cells first (forestCells os id first) →
    Each (Cell.Linked cells) id (block parent index first os) ∧
      Each (fun i d => d.Linked cells i ∧ d.Owned cells i) first (forestCells os id first)
  | [], _, _, _, _, _, _, _ => ⟨each_nil _ _, each_nil _ _⟩
  | o :: rest, parent, index, id, first, hle, hblock, hforest => by
      rw [List.length_cons] at hle
      rw [block] at hblock
      rw [forestCells] at hforest
      obtain ⟨hhead, htail⟩ := each_cons.mp hblock
      obtain ⟨hleft, hright⟩ := each_append.mp hforest
      rw [o.length_cellsBelow] at hright
      obtain ⟨hlinked, hbelow⟩ := placed_cellsBelow cells o id ⟨o, some parent, index, first⟩ rfl
        hhead (by show id < first; omega) hleft
      obtain ⟨hlinkeds, hbelows⟩ := placed_forestCells cells rest parent (index + 1) (id + 1)
        (first + o.sizeBelow) (by omega) htail hright
      rw [block, forestCells, each_cons, each_append, o.length_cellsBelow]
      exact ⟨⟨hlinked, hlinkeds⟩, hbelow, hbelows⟩

end

namespace Outline

variable (o : Outline α)

lemma getElem?_cells_zero : o.cells[0]? = some ⟨o, none, 0, 1⟩ := rfl

/-- Every cell of a layout is linked to its children; all but the root's are owned. -/
lemma placed_cells :
    Each (Cell.Linked o.cells) 0 o.cells ∧
      Each (Cell.Owned o.cells) 1 (o.cellsBelow 0 1) := by
  have hstands : Stands o.cells 0 o.cells := fun k c hc => by rw [Nat.zero_add]; exact hc
  have hbelow : Stands o.cells 1 (o.cellsBelow 0 1) := (each_cons.mp hstands).2
  obtain ⟨hroot, hrest⟩ := placed_cellsBelow o.cells o 0 ⟨o, none, 0, 1⟩ rfl
    o.getElem?_cells_zero Nat.zero_lt_one hbelow
  exact ⟨each_cons.mpr ⟨hroot, hrest.imp fun _ _ h => h.1⟩, hrest.imp fun _ _ h => h.2⟩

variable {o}

/-- **Linking.**  The children of a cell stand from its `first` on, and know it. -/
theorem cells_linked {id : Nat} {c : Cell α} (h : o.cells[id]? = some c) :
    c.Linked o.cells id := by
  have hlinked := o.placed_cells.1 id c h
  rwa [Nat.zero_add] at hlinked

/-- **Owning.**  Every cell but the root's stands among the children of its parent. -/
theorem cells_owned {id : Nat} {c : Cell α} (h : o.cells[id]? = some c) (hid : 0 < id) :
    c.Owned o.cells id := by
  obtain ⟨k, rfl⟩ : ∃ k, id = 1 + k := ⟨id - 1, by omega⟩
  refine o.placed_cells.2 k c ?_
  rwa [Outline.cells, Nat.add_comm, List.getElem?_cons_succ] at h

/-- A property of the whole tree that passes from trees to their children holds of every cell. -/
theorem cells_induction {P : Outline α → Prop} (hroot : P o)
    (hchild : ∀ t child, P t → child ∈ t.children → P child) {id : Nat} {c : Cell α}
    (h : o.cells[id]? = some c) : P c.outline := by
  -- the parent of a cell has a smaller id, so strong induction on the id follows the way up
  induction id using Nat.strongRecOn generalizing c with
  | _ id ih =>
      rcases Nat.eq_zero_or_pos id with rfl | hid
      · rw [getElem?_cells_zero, Option.some.injEq] at h
        subst h; exact hroot
      · obtain ⟨p, owner, _, howner, hmem, hplace⟩ := cells_owned h hid
        have hlt := (cells_linked howner).lt_first
        exact hchild _ _ (ih p (by omega) howner) (List.mem_of_getElem? hmem)

end Outline

end ParseTree
