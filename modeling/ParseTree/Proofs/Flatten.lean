import Mathlib.Data.List.Forall2
import ParseTree.Proofs.Skeleton

/-!
# What flattening computes

The flattener works through a list of nodes whose children are not placed yet, in an array that
grows and whose spans are filled in afterwards, with a memory of the labels it has met.  None of
this shows in the result: it is the layout of the skeleton, cell by cell.

* **The memory does not show** — `Flattener.Faithful` says that every remembered label has the rule
  that the vocabulary gives it.  Each operation keeps this, also when it fails, and `Answers` what a
  faithful flattener answers without looking at the memory.
* **The work does not show** — `placeAll_answers`: at any moment, what is left to do will add the
  cells of the pending trees (`workCells`) and fill in the spans of their nodes (`linkWork`).
* **The whole** — `flatten_answers`.
-/

namespace ParseTree

variable {β : Type} {v : Vocabulary} {base : LineBase} {f : Flattener}

/-! ## The memory -/

/-- A flattener for this vocabulary and line base that remembers only what the vocabulary says. -/
structure Flattener.Faithful (v : Vocabulary) (base : LineBase) (f : Flattener) : Prop where
  vocabulary_eq : f.vocabulary = v
  lineBase_eq : f.lineBase = base
  known_classify : ∀ {label rule}, f.known[label]? = some rule → v.classify label = .ok rule

/-- A step of flattening gives what is expected and leaves a faithful flattener behind. -/
structure Answers (v : Vocabulary) (base : LineBase) (step : Except LabelError β × Flattener)
    (expected : Except LabelError β) : Prop where
  result : step.1 = expected
  faithful : step.2.Faithful v base

namespace Flattener

/-- A flattener that has met no label. -/
def fresh (v : Vocabulary) (base : LineBase) : Flattener := { vocabulary := v, lineBase := base }

lemma faithful_fresh (v : Vocabulary) (base : LineBase) : (fresh v base).Faithful v base :=
  ⟨rfl, rfl, fun h => by simp [fresh] at h⟩

/-- Remembering what the vocabulary says keeps a flattener faithful. -/
lemma Faithful.remember (hf : f.Faithful v base) {label : String} {rule : Rule}
    (h : v.classify label = .ok rule) :
    Faithful v base { f with known := f.known.insert label rule } := by
  refine ⟨hf.vocabulary_eq, hf.lineBase_eq, fun {other found} hfound => ?_⟩
  rw [Std.HashMap.getElem?_insert] at hfound
  split at hfound
  · next heq =>
      rw [beq_iff_eq] at heq
      rw [Option.some.injEq] at hfound
      rw [← heq, ← hfound]; exact h
  · exact hf.known_classify hfound

/-- A label has the rule that the vocabulary gives it, remembered or not. -/
lemma classify_answers (hf : f.Faithful v base) (label : String) :
    Answers v base (f.classify label) (v.classify label) := by
  unfold classify
  cases hknown : f.known[label]? with
  | some rule => exact ⟨(hf.known_classify hknown).symm, hf⟩
  | none =>
      have hvoc : f.vocabulary.classify label = v.classify label := by rw [hf.vocabulary_eq]
      simp only [hvoc]
      cases hrule : v.classify label with
      | error e => exact ⟨rfl, hf⟩
      | ok rule => exact ⟨rfl, hf.remember hrule⟩

end Flattener

/-- A node before its children are placed. -/
def FlatNode.childless (n : FlatNode) : FlatNode := { n with children := .empty }

namespace Flattener

/-- The node that is made for a tree is that of its cell, but for the children. -/
lemma node_answers (hf : f.Faithful v base) (t : Tree) (parent : Option Nat) (index first : Nat) :
    Answers v base (f.node t.elide parent index)
      ((Cell.place v base ⟨t.skeleton, parent, index, first⟩).map FlatNode.childless) := by
  rw [Cell.place, t.skeleton_eq_node_elide, Outline.value_node]
  cases t.elide with
  | token token =>
      refine ⟨?_, hf⟩
      simp [node, Tree.symbol, Symbol.payload, Except.map, FlatNode.childless, Payload.bareNode,
        Payload.ownStart, hf.lineBase_eq]
  | rule label children =>
      have hrule := classify_answers hf label
      rcases hstep : f.classify label with ⟨found, f'⟩
      rw [hstep] at hrule
      obtain ⟨rfl, hf'⟩ := hrule
      simp only [node, hstep, Tree.symbol, Symbol.payload]
      cases v.classify label with
      | error e => exact ⟨rfl, hf'⟩
      | ok rule => exact ⟨rfl, hf'⟩

/-- Trees placed side by side get the nodes of their block, but for the children. -/
lemma placeChildren_answers (hf : f.Faithful v base) (parent index first : Nat)
    (nodes : Array FlatNode) (ts : List Tree) :
    Answers v base (f.placeChildren parent index nodes ts)
      (((block parent index first (ts.map Tree.skeleton)).mapM (Cell.place v base)).map
        fun new => nodes ++ (new.map FlatNode.childless).toArray) := by
  induction ts generalizing f index first nodes with
  | nil =>
      refine ⟨?_, hf⟩
      simp [placeChildren, block, Except.map, pure, Except.pure]
  | cons t rest ih =>
      have hnode := node_answers hf t (some parent) index first
      rcases hstep : f.node t.elide (some parent) index with ⟨found, f'⟩
      rw [hstep] at hnode
      obtain ⟨rfl, hf'⟩ := hnode
      rw [placeChildren, hstep, List.map_cons, block, List.mapM_cons]
      cases Cell.place v base ⟨t.skeleton, some parent, index, first⟩ with
      | error e => exact ⟨rfl, hf'⟩
      | ok node =>
          have hrest := ih hf' (index + 1) (first + t.skeleton.sizeBelow)
            (nodes.push node.childless)
          simp only [Except.map] at hrest ⊢
          refine ⟨hrest.result.trans ?_, hrest.faithful⟩
          cases (block parent (index + 1) (first + t.skeleton.sizeBelow)
            (rest.map Tree.skeleton)).mapM (Cell.place v base) with
          | error e => rfl
          | ok new => simp [bind, Except.bind, pure, Except.pure]

end Flattener

/-! ## The work -/

lemma error_of_map {α : Type} {x : Except LabelError α} {g : α → β} {e : LabelError}
    (h : .error e = x.map g) : x = .error e := by
  cases x with
  | error e' => simpa [Except.map] using h.symm
  | ok a => simp [Except.map] at h

lemma ok_of_map {α : Type} {x : Except LabelError α} {g : α → β} {b : β} (h : .ok b = x.map g) :
    ∃ a, x = .ok a ∧ b = g a := by
  cases x with
  | error e => simp [Except.map] at h
  | ok a => exact ⟨a, rfl, by simpa [Except.map] using h⟩

section LookUp

variable {ε α : Type} {g : α → Except ε β}

lemma mapM_cons_eq_ok_iff {x : α} {rest : List α} {ys : List β} :
    (x :: rest).mapM g = .ok ys ↔
      ∃ y ys', g x = .ok y ∧ rest.mapM g = .ok ys' ∧ ys = y :: ys' := by
  rw [List.mapM_cons]
  cases g x with
  | error e => simp [bind, Except.bind]
  | ok y => cases rest.mapM g <;> simp [bind, Except.bind, pure, Except.pure, eq_comm]

lemma mapM_cons_eq_error_iff {x : α} {rest : List α} {e : ε} :
    (x :: rest).mapM g = .error e ↔
      g x = .error e ∨ (∃ y, g x = .ok y) ∧ rest.mapM g = .error e := by
  rw [List.mapM_cons]
  cases g x with
  | error e => simp [bind, Except.bind]
  | ok y => cases rest.mapM g <;> simp [bind, Except.bind, pure, Except.pure]

/-- Looking up a list without fault is looking up each of its elements without fault. -/
lemma mapM_eq_ok_iff {xs : List α} {ys : List β} :
    xs.mapM g = .ok ys ↔ List.Forall₂ (fun x y => g x = .ok y) xs ys := by
  induction xs generalizing ys with
  | nil => simp [pure, Except.pure, eq_comm]
  | cons x rest ih => simp only [mapM_cons_eq_ok_iff, List.forall₂_cons_left_iff, ih]

/-- Looking up a list fails with the fault of its first element at fault. -/
lemma mapM_eq_error_iff {xs : List α} {e : ε} :
    xs.mapM g = .error e ↔ ∃ before x after, xs = before ++ x :: after ∧
      (∀ y ∈ before, ∃ z, g y = .ok z) ∧ g x = .error e := by
  induction xs with
  | nil => simp [pure, Except.pure]
  | cons x rest ih =>
      rw [mapM_cons_eq_error_iff, ih]
      constructor
      · rintro (hx | ⟨hx, before, y, after, rfl, hbefore, hy⟩)
        · exact ⟨[], x, rest, rfl, by simp, hx⟩
        · exact ⟨x :: before, y, after, rfl, List.forall_mem_cons.mpr ⟨hx, hbefore⟩, hy⟩
      · rintro ⟨_ | ⟨z, before⟩, y, after, hsplit, hbefore, hy⟩
        · obtain ⟨rfl, rfl⟩ := List.cons.inj hsplit
          exact Or.inl hy
        · obtain ⟨rfl, rfl⟩ := List.cons.inj hsplit
          obtain ⟨hx, hbefore⟩ := List.forall_mem_cons.mp hbefore
          exact Or.inr ⟨hx, before, y, after, rfl, hbefore, hy⟩

end LookUp

/-- The cells of all that is below the nodes of the list, to be placed from `first` on. -/
def workCells (first : Nat) : List (Nat × Tree) → List (Cell Symbol)
  | [] => []
  | (id, t) :: rest =>
    t.skeleton.cellsBelow id first ++ workCells (first + t.skeleton.sizeBelow) rest

/-- Fills in the spans of the nodes of the list, whose children are placed from `first` on. -/
def linkWork (first : Nat) (nodes : Array FlatNode) : List (Nat × Tree) → Array FlatNode
  | [] => nodes
  | (id, t) :: rest =>
    linkWork (first + t.skeleton.sizeBelow)
      (if t.children.isEmpty then nodes
        else nodes.modify id fun n => { n with children := ⟨first, first + t.children.length⟩ })
      rest

lemma childWork_cons (first : Nat) (t : Tree) (rest : List Tree) :
    childWork first (t :: rest) = (first, t.elide) :: childWork (first + 1) rest := rfl

/-- The children of a node are placed, and they are not skipped. -/
lemma of_mem_childWork {first : Nat} {ts : List Tree} {w : Nat × Tree}
    (h : w ∈ childWork first ts) : w.1 < first + ts.length ∧ w.2.children.length ≠ 1 := by
  induction ts generalizing first with
  | nil => simp [childWork] at h
  | cons t rest ih =>
      rw [childWork_cons, List.mem_cons] at h
      rw [List.length_cons]
      rcases h with rfl | h
      · exact ⟨by show first < _; omega, t.length_children_elide⟩
      · obtain ⟨hlt, hchildren⟩ := ih h
        exact ⟨by omega, hchildren⟩

/-- The children of a node are the work that its cells below the block stand for. -/
lemma workCells_childWork_append (id first : Nat) (ts : List Tree) (work : List (Nat × Tree)) :
    workCells first (childWork id ts ++ work)
      = forestCells (ts.map Tree.skeleton) id first
        ++ workCells (first + (forestCells (ts.map Tree.skeleton) id first).length) work := by
  induction ts generalizing id first with
  | nil => simp [childWork, forestCells]
  | cons t rest ih =>
      rw [childWork_cons, List.cons_append, workCells, ih, Tree.skeleton_elide, List.map_cons,
        forestCells, List.append_assoc, List.length_append, Outline.length_cellsBelow,
        ← Nat.add_assoc]

lemma modify_append_of_lt {nodes new : Array FlatNode} {id : Nat} (h : id < nodes.size)
    (g : FlatNode → FlatNode) : (nodes ++ new).modify id g = nodes.modify id g ++ new := by
  apply Array.ext_getElem?
  intro k
  grind

lemma modify_append_cons (nodes : Array FlatNode) (n : FlatNode) (new : List FlatNode)
    (g : FlatNode → FlatNode) :
    (nodes ++ (n :: new).toArray).modify nodes.size g = nodes.push (g n) ++ new.toArray := by
  apply Array.ext_getElem?
  intro k
  grind

/-- Filling in spans does not reach the nodes placed later. -/
lemma linkWork_append {first : Nat} {nodes new : Array FlatNode} {work : List (Nat × Tree)}
    (h : ∀ w ∈ work, w.1 < nodes.size) :
    linkWork first (nodes ++ new) work = linkWork first nodes work ++ new := by
  induction work generalizing first nodes with
  | nil => rfl
  | cons w rest ih =>
      obtain ⟨id, t⟩ := w
      have hid : id < nodes.size := h (id, t) List.mem_cons_self
      have hrest : ∀ w ∈ rest, w.1 < nodes.size := fun w hw => h w (List.mem_cons_of_mem _ hw)
      rw [linkWork, linkWork]
      split
      · exact ih hrest
      · rw [modify_append_of_lt hid]
        exact ih (by simpa using hrest)

/-- The node of a cell has the span that filling in gives it. -/
lemma span_of_place {t : Tree} {parent : Option Nat} {index first : Nat} {n : FlatNode}
    (h : Cell.place v base ⟨t.skeleton, parent, index, first⟩ = .ok n) :
    n.children = if t.elide.children.isEmpty then .empty
      else ⟨first, first + t.elide.children.length⟩ := by
  rw [Cell.place] at h
  cases hp : t.skeleton.value.payload v base with
  | error e => simp [hp, Except.map] at h
  | ok p =>
      simp only [hp, Except.map, Except.ok.injEq] at h
      rw [← h, Payload.bareNode, Cell.span, t.skeleton_eq_node_elide, Outline.children_node,
        List.isEmpty_map, List.length_map]

/-- Filling in the span of the node placed last but for `new` makes it the node of its cell. -/
lemma link_childless {t : Tree} {parent : Option Nat} {index first : Nat} {n : FlatNode}
    (h : Cell.place v base ⟨t.skeleton, parent, index, first⟩ = .ok n) (nodes : Array FlatNode)
    (new : List FlatNode) :
    (if t.elide.children.isEmpty then nodes ++ (n.childless :: new).toArray
      else (nodes ++ (n.childless :: new).toArray).modify nodes.size
        fun n => { n with children := ⟨first, first + t.elide.children.length⟩ })
      = nodes.push n ++ new.toArray := by
  have hspan := span_of_place h
  split
  · next hempty =>
      rw [if_pos hempty] at hspan
      have hn : n.childless = n := by rw [FlatNode.childless, ← hspan]
      simp [hn]
  · next hempty =>
      rw [if_neg hempty] at hspan
      rw [modify_append_cons, FlatNode.childless, ← hspan]

/-- Filling in the spans of trees side by side makes their nodes those of their cells. -/
lemma linkWork_childWork_append {parent index first : Nat} {ts : List Tree} {new : List FlatNode}
    (h : (block parent index first (ts.map Tree.skeleton)).mapM (Cell.place v base) = .ok new)
    (nodes : Array FlatNode) (work : List (Nat × Tree)) :
    linkWork first (nodes ++ (new.map FlatNode.childless).toArray) (childWork nodes.size ts ++ work)
      = linkWork (first + (forestCells (ts.map Tree.skeleton) nodes.size first).length)
          (nodes ++ new.toArray) work := by
  induction ts generalizing index first nodes new with
  | nil =>
      simp only [List.map_nil, block, List.mapM_nil, pure, Except.pure, Except.ok.injEq] at h
      subst h
      simp [childWork, forestCells]
  | cons t rest ih =>
      rw [List.map_cons, block, mapM_cons_eq_ok_iff] at h
      obtain ⟨n, new', hnode, hrest, rfl⟩ := h
      -- once the first node is put right, the rest stands in an array that is one longer
      have hsize : nodes.size + 1 = (nodes.push n).size := by simp
      rw [childWork_cons, List.cons_append, linkWork, List.map_cons, link_childless hnode, hsize,
        Tree.skeleton_elide, ih hrest, List.map_cons, forestCells, List.length_append,
        Outline.length_cellsBelow, hsize, ← Nat.add_assoc]
      simp

/-- Below a node that is not skipped are its children and what is below them. -/
lemma sizeBelow_skeleton {t : Tree} (h : t.children.length ≠ 1) (id first : Nat) :
    t.skeleton.sizeBelow
      = t.children.length + (forestCells (t.children.map Tree.skeleton) id first).length := by
  have hlength := length_forestCells (t.children.map Tree.skeleton) id first
  rw [List.length_map] at hlength
  rw [Tree.skeleton_eq_node h, Outline.sizeBelow]
  omega

/-- The first cells below a node that is not skipped are the block of its children. -/
lemma workCells_cons {t : Tree} (h : t.children.length ≠ 1) (id first : Nat)
    (work : List (Nat × Tree)) :
    workCells first ((id, t) :: work)
      = block id 0 (first + t.children.length) (t.children.map Tree.skeleton)
        ++ workCells (first + t.children.length) (childWork first t.children ++ work) := by
  rw [workCells, sizeBelow_skeleton h first (first + t.children.length), Tree.skeleton_eq_node h,
    Outline.cellsBelow, List.length_map, workCells_childWork_append, List.append_assoc,
    ← Nat.add_assoc]

/-- Once the children of a node are placed, linking it to them and doing the rest of the work is
doing the whole work. -/
lemma linkWork_modify_append {t : Tree} {id : Nat} {nodes : Array FlatNode} {new : List FlatNode}
    {work : List (Nat × Tree)} (ht : t.children.length ≠ 1) (hempty : ¬ t.children.isEmpty)
    (hlater : ∀ w ∈ work, w.1 < nodes.size)
    (hblock : (block id 0 (nodes.size + t.children.length) (t.children.map Tree.skeleton)).mapM
      (Cell.place v base) = .ok new) :
    linkWork (nodes.size + t.children.length)
        (nodes.modify id (fun n =>
          { n with children := ⟨nodes.size, nodes.size + t.children.length⟩ })
          ++ (new.map FlatNode.childless).toArray)
        (childWork nodes.size t.children ++ work)
      = linkWork nodes.size nodes ((id, t) :: work) ++ new.toArray := by
  set linked := nodes.modify id fun n =>
    { n with children := ⟨nodes.size, nodes.size + t.children.length⟩ } with hlinked
  have hsize : linked.size = nodes.size := by simp [hlinked]
  have hchildren := linkWork_childWork_append hblock linked work
  rw [hsize] at hchildren
  rw [hchildren, linkWork_append (by rw [hsize]; exact hlater), linkWork, if_neg hempty,
    sizeBelow_skeleton ht nodes.size (nodes.size + t.children.length), ← Nat.add_assoc]

namespace Flattener

/-- **The work.**  With trees pending whose nodes are placed already, the flattener adds the cells
of what is below them and fills in the spans of their nodes; the first label at fault, in the order
of the cells, is the error. -/
theorem placeAll_answers (hf : f.Faithful v base) (nodes : Array FlatNode)
    (work : List (Nat × Tree)) (hids : ∀ w ∈ work, w.1 < nodes.size)
    (helided : ∀ w ∈ work, w.2.children.length ≠ 1) :
    Answers v base (f.placeAll nodes work)
      (((workCells nodes.size work).mapM (Cell.place v base)).map
        fun new => linkWork nodes.size nodes work ++ new.toArray) := by
  fun_induction placeAll f nodes work with
  | case1 f nodes =>
      refine ⟨?_, hf⟩
      simp [workCells, linkWork, Except.map, pure, Except.pure]
  | case2 f nodes id t work hempty ih =>
      have hnil : t.children = [] := List.isEmpty_iff.mp hempty
      have hsize : t.skeleton.sizeBelow = 0 := by
        rw [Tree.skeleton_eq_node (helided (id, t) List.mem_cons_self), hnil]; rfl
      have hrest := ih hf (fun w hw => hids w (List.mem_cons_of_mem _ hw))
        (fun w hw => helided w (List.mem_cons_of_mem _ hw))
      rw [workCells_cons (helided (id, t) List.mem_cons_self), linkWork, if_pos hempty, hnil, hsize]
      exact hrest
  | case3 f nodes id t work hempty e f' hstep =>
      have hplace := placeChildren_answers hf id 0 (nodes.size + t.children.length) nodes t.children
      rw [hstep] at hplace
      have hblock := error_of_map hplace.result
      rw [workCells_cons (helided (id, t) List.mem_cons_self), List.mapM_append, hblock]
      exact ⟨rfl, hplace.faithful⟩
  | case4 f nodes id t work hempty placed f' hstep span ih =>
      have hid : id < nodes.size := hids (id, t) List.mem_cons_self
      have helided' : t.children.length ≠ 1 := helided (id, t) List.mem_cons_self
      have hplace := placeChildren_answers hf id 0 (nodes.size + t.children.length) nodes t.children
      rw [hstep] at hplace
      obtain ⟨new, hblock, rfl⟩ := ok_of_map hplace.result
      have hlength : new.length = t.children.length := by
        simpa using (mapM_eq_ok_iff.mp hblock).length_eq.symm
      have hspan : span = ⟨nodes.size, nodes.size + t.children.length⟩ := by
        simp [span, hlength]
      clear_value span
      subst hspan
      have hlater : ∀ w ∈ work, w.1 < nodes.size :=
        fun w hw => hids w (List.mem_cons_of_mem _ hw)
      rw [modify_append_of_lt hid] at ih ⊢
      set placed := nodes.modify id (fun n =>
        { n with children := ⟨nodes.size, nodes.size + t.children.length⟩ })
        ++ (new.map FlatNode.childless).toArray with hplaced
      have hsize : placed.size = nodes.size + t.children.length := by simp [hplaced, hlength]
      have hrest := ih hplace.faithful ?_ ?_
      · rw [hsize, hplaced, linkWork_modify_append helided' hempty hlater hblock] at hrest
        refine ⟨hrest.result.trans ?_, hrest.faithful⟩
        rw [workCells_cons helided', List.mapM_append, hblock]
        cases (workCells (nodes.size + t.children.length)
            (childWork nodes.size t.children ++ work)).mapM (Cell.place v base) with
        | error e => rfl
        | ok later => simp [Except.map, bind, Except.bind, pure, Except.pure]
      · intro w hw
        rw [hsize]
        rcases List.mem_append.mp hw with hw | hw
        · exact (of_mem_childWork hw).1
        · exact Nat.lt_add_right _ (hlater w hw)
      · intro w hw
        rcases List.mem_append.mp hw with hw | hw
        · exact (of_mem_childWork hw).2
        · exact helided w (List.mem_cons_of_mem _ hw)

end Flattener

/-! ## The whole -/

/-- The layout of a tree without its single-child rules, with every label looked up; the first label
at fault, in the order of the cells, is the error. -/
def Tree.laidOut (v : Vocabulary) (base : LineBase) (t : Tree) : Except LabelError FlatTree :=
  (t.skeleton.cells.mapM (Cell.place v base)).map fun nodes =>
    ⟨settleStarts nodes.length nodes.toArray⟩

namespace Flattener

/-- **The whole.**  A faithful flattener lays the tree out. -/
theorem flatten_answers (hf : f.Faithful v base) (t : Tree) :
    Answers v base (f.flatten t) (t.laidOut v base) := by
  have hnode := node_answers hf t none 0 1
  rcases hstep : f.node t.elide none 0 with ⟨found, f'⟩
  rw [hstep] at hnode
  obtain ⟨rfl, hf'⟩ := hnode
  rw [flatten, hstep, Tree.laidOut, Outline.cells, List.mapM_cons]
  cases hroot : Cell.place v base ⟨t.skeleton, none, 0, 1⟩ with
  | error e => exact ⟨rfl, hf'⟩
  | ok root =>
      have hrest := placeAll_answers hf' #[root.childless] [(0, t.elide)]
        (by simp) (by simpa using t.length_children_elide)
      have hlink : linkWork 1 #[root.childless] [(0, t.elide)] = #[root] := by
        simpa [linkWork] using link_childless hroot #[] []
      have hcells : workCells 1 [(0, t.elide)] = t.skeleton.cellsBelow 0 1 := by
        simp [workCells, Tree.skeleton_elide]
      rcases hplaced : f'.placeAll #[root.childless] [(0, t.elide)] with ⟨placed, f''⟩
      rw [hplaced, show #[root.childless].size = 1 from rfl, hlink, hcells] at hrest
      obtain ⟨rfl, hf''⟩ := hrest
      simp only [Except.map, hplaced]
      cases (t.skeleton.cellsBelow 0 1).mapM (Cell.place v base) with
      | error e => exact ⟨rfl, hf''⟩
      | ok new =>
          refine ⟨?_, hf''⟩
          simp [bind, Except.bind, pure, Except.pure]

/-- What a session gives for each tree, failed ones included, and the flattener it ends with. -/
lemma flattenAll_answers (hf : f.Faithful v base) (ts : List Tree) :
    (f.flattenAll ts).1 = ts.map (Tree.laidOut v base) ∧ (f.flattenAll ts).2.Faithful v base := by
  induction ts generalizing f with
  | nil => exact ⟨rfl, hf⟩
  | cons t rest ih =>
      obtain ⟨hresult, hf'⟩ := flatten_answers hf t
      obtain ⟨hresults, hf''⟩ := ih hf'
      refine ⟨?_, hf''⟩
      rw [List.map_cons, ← hresult, ← hresults]
      rfl

/-- A flattener that has flattened these trees before, some of which may have failed. -/
def used (v : Vocabulary) (base : LineBase) (before : List Tree) : Flattener :=
  ((fresh v base).flattenAll before).2

lemma faithful_used (v : Vocabulary) (base : LineBase) (before : List Tree) :
    (used v base before).Faithful v base :=
  (flattenAll_answers (faithful_fresh v base) before).2

end Flattener

/-- A tree flattened on its own is laid out. -/
lemma Tree.flatten_eq_laidOut (v : Vocabulary) (base : LineBase) (t : Tree) :
    t.flatten v base = t.laidOut v base :=
  (Flattener.flatten_answers (Flattener.faithful_fresh v base) t).result

/-- **The memory does not show.**  A session in which one flattener takes trees one after the other,
whether or not some of them fail, gives for each tree what a flattener of its own gives. -/
theorem flattenAll_eq_map_flatten (v : Vocabulary) (base : LineBase) (ts : List Tree) :
    ((Flattener.fresh v base).flattenAll ts).1 = ts.map (Tree.flatten v base) := by
  rw [(Flattener.flattenAll_answers (Flattener.faithful_fresh v base) ts).1]
  exact List.map_congr_left fun t _ => (t.flatten_eq_laidOut v base).symm

end ParseTree
