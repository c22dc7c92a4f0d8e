import ParseTree.Proofs.Batch
import ParseTree.Proofs.Diagram

/-!
# Counting lines from 0

Flattening with lines counted from 0 is flattening with the lines that the parser counted, and
recounting afterwards.  Positions are recounted when nodes are placed, and the starts of rules are
taken from their children only then, so the first start has to be found in both counts in the same
place.

* **Moving** — `FlatTree.move` exchanges the positions of a flattened tree, those of tokens and the
  starts, and leaves all else as it is.
* **Placing** — `Cell.place_eq_map`: with either count, labels are looked up alike; only tokens
  differ.
* **Starts** — `settleStarts_move`: the sweep for the starts does not look at positions, so they may
  be moved before it or after it.
* **Drawing** — `FlatTree.draw_move`: positions do not show in a diagram.
* **The whole** — `flatten_zero_eq`.
-/

namespace ParseTree

/-! ## Moving -/

/-- A node with another position if it is a token. -/
def Payload.move (g : Position → Position) : Payload → Payload
  | .token t => .token { t with position := g t.position }
  | .rule r => .rule r

/-- A node with its own position and its start moved. -/
def FlatNode.move (g : Position → Position) (n : FlatNode) : FlatNode :=
  { n with payload := n.payload.move g, start := n.start.map g }

/-- A flattened tree with all its positions moved. -/
def FlatTree.move (g : Position → Position) (t : FlatTree) : FlatTree :=
  ⟨t.nodes.map (FlatNode.move g)⟩

variable (g : Position → Position)

lemma Payload.ownStart_move (p : Payload) : (p.move g).ownStart = p.ownStart.map g := by
  cases p <;> rfl

/-! ## Placing -/

section Placing

variable (v : Vocabulary) (base : LineBase)

lemma Symbol.payload_eq_map (s : Symbol) :
    s.payload v base = (s.payload v .one).map (Payload.move base.adjust) := by
  cases s with
  | token t => rfl
  | rule label =>
      rw [Symbol.payload, Symbol.payload]
      cases v.classify label <;> rfl

/-- **Placing.**  The node of a cell is the one with the parser's count, moved. -/
theorem Cell.place_eq_map (c : Cell Symbol) :
    c.place v base = (c.place v .one).map (FlatNode.move base.adjust) := by
  rw [Cell.place, Cell.place, Symbol.payload_eq_map]
  cases c.outline.value.payload v .one with
  | error e => rfl
  | ok p => simp [Except.map, Payload.bareNode, FlatNode.move, Payload.ownStart_move]

/-- What is done with each element that has been looked up can be done with the list. -/
lemma mapM_map_eq {ε α β γ : Type} (look : α → Except ε β) (make : β → γ) (xs : List α) :
    xs.mapM (fun x => (look x).map make) = (xs.mapM look).map (List.map make) := by
  induction xs with
  | nil => rfl
  | cons x rest ih =>
      rw [List.mapM_cons, List.mapM_cons, ih]
      cases look x with
      | error e => rfl
      | ok y => cases rest.mapM look <;> rfl

end Placing

/-! ## Starts -/

lemma firstStart_move (nodes : Array FlatNode) (span : Span) :
    firstStart (nodes.map (FlatNode.move g)) span = (firstStart nodes span).map g := by
  rw [firstStart, firstStart, List.map_findSome?]
  congr 1
  funext id
  rw [Array.getElem?_map, Function.comp_apply]
  cases nodes[id]? <;> rfl

/-- A node gets a start and is moved then, or it is moved first and gets the moved start. -/
lemma modify_start_move (nodes : Array FlatNode) (id : Nat) (start : Option Position) :
    (nodes.map (FlatNode.move g)).modify id (fun n => { n with start := start.map g })
      = (nodes.modify id fun n => { n with start }).map (FlatNode.move g) := by
  apply Array.ext_getElem?
  intro k
  simp only [Array.getElem?_map, Array.getElem?_modify]
  split
  · cases nodes[k]? <;> rfl
  · rfl

/-- **Starts.**  Positions may be moved before the starts are settled or after it. -/
theorem settleStarts_move (count : Nat) (nodes : Array FlatNode) :
    settleStarts count (nodes.map (FlatNode.move g))
      = (settleStarts count nodes).map (FlatNode.move g) := by
  induction count generalizing nodes with
  | zero => rfl
  | succ id ih =>
      rw [settleStarts, settleStarts, Array.getElem?_map]
      cases hnode : nodes[id]? with
      | none => exact ih nodes
      | some node =>
          have hchildren : (node.move g).children = node.children := rfl
          simp only [Option.map_some, hchildren]
          split
          · exact ih nodes
          · rw [firstStart_move, modify_start_move]
            exact ih _

/-- The layout of a tree is that with the parser's count, moved. -/
lemma Tree.laidOut_eq_map (v : Vocabulary) (base : LineBase) (t : Tree) :
    t.laidOut v base = (t.laidOut v .one).map (FlatTree.move base.adjust) := by
  have hplace : Cell.place v base = fun c => (c.place v .one).map (FlatNode.move base.adjust) :=
    funext (Cell.place_eq_map v base)
  rw [Tree.laidOut, Tree.laidOut, hplace, mapM_map_eq]
  cases t.skeleton.cells.mapM (Cell.place v .one) with
  | error e => rfl
  | ok nodes =>
      simp only [Except.map, FlatTree.move, List.length_map, ← settleStarts_move, List.map_toArray]

/-! ## Drawing -/

namespace Diagram

lemma caption_move (p : Payload) : caption (p.move g) = caption p := by
  cases p <;> rfl

lemma line_move (indent : String) (last : Bool) (p : Payload) :
    line indent last (p.move g) = line indent last p := by
  rw [line, line, caption_move]

lemma drawFrom_move (nodes : Array FlatNode) (left : Nat) (levels : List Level) (text : String) :
    drawFrom (nodes.map (FlatNode.move g)) left levels text = drawFrom nodes left levels text := by
  fun_induction drawFrom nodes left levels text with
  | case1 => rw [drawFrom]
  | case2 left text indent siblings above hpop ih => rw [drawFrom_of_pop?_none hpop, ih]
  | case3 text indent siblings above id rest hpop left node hnode last ih =>
      have hmoved : (nodes.map (FlatNode.move g))[id]? = some (node.move g) := by
        rw [Array.getElem?_map, hnode, Option.map_some]
      have hspan : (node.move g).children = node.children := rfl
      have hpayload : (node.move g).payload = node.payload.move g := rfl
      rw [drawFrom_of_pop?_some hpop hmoved, hspan, hpayload, line_move]
      exact ih
  | case4 left text indent siblings above id rest hpop hstuck =>
      rw [drawFrom, hpop]
      cases left with
      | zero => rfl
      | succ left =>
          cases hnode : nodes[id]? with
          | none => simp [Array.getElem?_map, hnode]
          | some node => exact absurd hnode (hstuck left node rfl)

end Diagram

/-- **Drawing.**  Positions do not show in a diagram. -/
theorem FlatTree.draw_move (t : FlatTree) : (t.move g).draw = t.draw := by
  have hsize : (t.move g).size = t.size := by simp [FlatTree.move, FlatTree.size]
  rw [FlatTree.draw, FlatTree.draw, hsize]
  exact Diagram.drawFrom_move g t.nodes _ _ _

/-! ## The whole -/

/-- The diagram of a tree, or the error, does not depend on the count of lines. -/
lemma Tree.map_draw_laidOut (v : Vocabulary) (base : LineBase) (t : Tree) :
    (t.laidOut v base).map FlatTree.draw = (t.laidOut v .one).map FlatTree.draw := by
  rw [t.laidOut_eq_map v base]
  cases t.laidOut v .one with
  | error e => rfl
  | ok flat => exact congrArg Except.ok (flat.draw_move _)

lemma Batch.drawOn_base (workers : Nat) (v : Vocabulary) (base : LineBase) (ts : List Tree) :
    drawOn workers v base ts = drawOn workers v .one ts := by
  simp only [drawOn_eq_drawEach, drawEach, Tree.flatten_eq_laidOut, Tree.map_draw_laidOut v base]

/-- **The whole.**  With lines counted from 0, a tree is flattened exactly if it is with lines as
the parser counts them, and fails with the same error if it is not.  The flattened trees differ in
positions only: each one, that of a token or a start, is recounted, which takes 1 from its line
unless that is 0 and leaves its column.  So the diagrams are the same, and all that is drawn for a
batch of trees is. -/
theorem flatten_zero_eq (v : Vocabulary) (before before' : List Tree) (t : Tree) :
    ((Flattener.used v .zero before).flatten t).1
      = ((Flattener.used v .one before').flatten t).1.map (FlatTree.move Position.zeroBased) ∧
    (∀ p : Position, p.zeroBased.line.toNat = p.line.toNat - 1 ∧ p.zeroBased.column = p.column) ∧
    ((Flattener.used v .zero before).flatten t).1.map FlatTree.draw
      = ((Flattener.used v .one before').flatten t).1.map FlatTree.draw ∧
    ∀ workers ts, Batch.drawOn workers v .zero ts = Batch.drawOn workers v .one ts := by
  have hzero := (Flattener.flatten_answers (Flattener.faithful_used v .zero before) t).result
  have hone := (Flattener.flatten_answers (Flattener.faithful_used v .one before') t).result
  rw [hzero, hone]
  exact ⟨t.laidOut_eq_map v .zero, fun p => ⟨p.zeroBased_line, p.zeroBased_column⟩,
    t.map_draw_laidOut v .zero, fun workers ts => Batch.drawOn_base workers v .zero ts⟩

end ParseTree
