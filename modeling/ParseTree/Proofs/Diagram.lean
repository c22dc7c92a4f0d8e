import Mathlib.Data.List.Forall2
import ParseTree.Diagram
import ParseTree.Proofs.Names
import ParseTree.Proofs.Preorder

/-!
# What a diagram shows

A diagram is drawn by a walk that keeps, for every level, the siblings still to be drawn and how
their lines begin.  `forestRows` says by recursion which lines this gives, and what each of them
tells of its node.

* **Captions** — `newline_notMem_caption`: the caption of a node takes one line.  For tokens this is
  the escaping of line feeds; for rules it rests on the table that declared the name
  (`legible_of_outline`).
* **Drawing** — `drawFrom_forestRows`: with siblings pending, the walk draws them, each with all
  that is below it, and then goes on with the levels above.  So a diagram is made of its rows
  (`draw_flat`).
* **Rows along the walk** — `shows_forestWalk`: the row of a node is told by its ancestors, which
  are reached from parent to parent, and by which of them are the last of their siblings.
* **The whole** — `lines_draw`.
-/

namespace ParseTree

/-! ## Captions -/

/-- What a diagram asks of a node: the name of a rule takes one line, and has no small letter as
captions of tokens have. -/
def Payload.Legible : Payload → Prop
  | .token _ => True
  | .rule r => '\n' ∉ r.name.toList ∧ ∀ c ∈ r.name.toList, c.isLower = false

lemma Vocabulary.of_classify_eq_ok {v : Vocabulary} {label : String} {r : Rule}
    (h : v.classify label = .ok r) :
    Label.canonicalName? label = some r.name ∧ v.resolve r.name = .ok r.kind := by
  rw [Vocabulary.classify, Label.canonicalName] at h
  cases hname : Label.canonicalName? label with
  | none => simp [hname] at h
  | some name =>
      cases hkind : v.resolve name with
      | error e => simp [hname, hkind] at h
      | ok kind =>
          simp only [hname, hkind, Except.ok.injEq] at h
          subst h
          exact ⟨rfl, hkind⟩

/-- With a vocabulary read from a text, every node of a flattened tree is legible. -/
lemma legible_of_outline {v : Vocabulary} {source : String} (hread : v.ReadFrom source)
    {base : LineBase} {t : Tree} {o : Outline Payload} (h : t.outline v base = some o) :
    ∀ p ∈ o.values, p.Legible := by
  intro p hp
  have hmem : some p ∈ o.values.map some := List.mem_map_of_mem hp
  rw [← Tree.values_outline h] at hmem
  obtain ⟨s, _, hs⟩ := List.mem_map.mp hmem
  cases s with
  | token token =>
      cases hs
      trivial
  | rule label children =>
      rw [Tree.symbol, Symbol.payload] at hs
      cases hrule : v.classify label with
      | error e => simp [hrule, Except.map, Except.toOption] at hs
      | ok r =>
          simp only [hrule, Except.map, Except.toOption, Option.some.injEq] at hs
          subst hs
          obtain ⟨hname, hkind⟩ := Vocabulary.of_classify_eq_ok hrule
          exact ⟨hread.newline_notMem hkind,
            fun c hc => Label.isLower_of_mem_canonicalName? hname hc⟩

namespace Diagram

lemma isDigit_of_mem_repr {n : Nat} {c : Char} (h : c ∈ n.repr.toList) : c.isDigit = true := by
  rw [Nat.repr_eq_ofList_toDigits, String.toList_ofList] at h
  exact Nat.isDigit_of_mem_toDigits (by decide) (by decide) h

/-- The decimal form of a kind is made of digits and the minus sign. -/
lemma notMem_kindText {c : Char} (hdigit : c.isDigit = false) (hminus : c ≠ '-') (k : Kind) :
    c ∉ k.text.toList := by
  have hrepr : ∀ n : Nat, c ∉ n.repr.toList :=
    fun n hc => by simp [isDigit_of_mem_repr hc] at hdigit
  rw [Kind.text]
  split
  · exact hrepr _
  · rw [String.toList_append, List.mem_append, not_or]
    exact ⟨by simpa using hminus, hrepr _⟩

lemma newline_notMem_captionText (text : String) : '\n' ∉ (captionText text).toList := by
  rw [captionText, String.toList_ofList, List.mem_flatMap]
  rintro ⟨c, _, hc⟩
  rw [captionChar] at hc
  split at hc
  · simp at hc
  · next hne => exact hne (List.mem_singleton.mp hc).symm

lemma caption_token (t : Token) :
    caption (.token t)
      = "TOKEN[type: " ++ t.kind.text ++ ", text: " ++ captionText t.text ++ "]" := by
  -- Its equation would be checked by evaluating strings.
  delta caption
  rfl

/-- **Captions.**  The caption of a legible node takes one line. -/
theorem newline_notMem_caption {p : Payload} (h : p.Legible) : '\n' ∉ (caption p).toList := by
  cases p with
  | token t =>
      have hkind := notMem_kindText (c := '\n') (by decide) (by decide) t.kind
      simp [caption_token, hkind, newline_notMem_captionText]
  | rule r => exact h.1

/-! ## Rows -/

/-- What a line of a diagram tells: for each ancestor of its node, from the root down, whether it is
the last of its siblings; whether the node itself is; and what is said about the node. -/
structure Row where
  above : List Bool
  last : Bool
  caption : String
deriving Repr, DecidableEq

/-- How a line begins: a rail for each ancestor. -/
def indentation (above : List Bool) : String := String.join (above.map rail)

/-- A line without the line feed at its end. -/
def Row.body (r : Row) : String := indentation r.above ++ branch r.last ++ r.caption

/-- The line that a row gives. -/
def Row.text (r : Row) : String := r.body ++ "\n"

mutual

/-- The rows of a tree of captions whose ancestors are given: its own, and then those of its
children. -/
def treeRows : Outline String → (above : List Bool) → (last : Bool) → List Row
  | .node caption children, above, last =>
    ⟨above, last, caption⟩ :: forestRows children (above ++ [last])

def forestRows : List (Outline String) → (above : List Bool) → List Row
  | [], _ => []
  | o :: rest, above => treeRows o above rest.isEmpty ++ forestRows rest above

end

def rowsText (rows : List Row) : String := String.join (rows.map Row.text)

lemma indentation_append (above : List Bool) (last : Bool) :
    indentation (above ++ [last]) = indentation above ++ rail last := by
  simp [indentation, String.join_append]

lemma length_indentation (above : List Bool) : (indentation above).length = 3 * above.length := by
  induction above with
  | nil => rfl
  | cons last above ih =>
      have hrail : (rail last).length = 3 := by cases last <;> rfl
      have hcons : indentation (last :: above) = rail last ++ indentation above := by
        simp [indentation]
      rw [hcons, String.length_append, hrail, ih, List.length_cons]
      omega

lemma newline_notMem_indentation (above : List Bool) : '\n' ∉ (indentation above).toList := by
  rw [indentation, String.toList_join, List.flatMap_map, List.mem_flatMap]
  rintro ⟨last, _, hlast⟩
  cases last <;> simp [rail] at hlast

lemma Row.toList_text (r : Row) : r.text.toList = r.body.toList ++ ['\n'] := by
  simp [Row.text]

lemma Row.newline_notMem_body {r : Row} (h : '\n' ∉ r.caption.toList) : '\n' ∉ r.body.toList := by
  have hbranch : '\n' ∉ (branch r.last).toList := by cases r.last <;> simp [branch]
  simp [Row.body, newline_notMem_indentation, hbranch, h]

lemma toList_rowsText (rows : List Row) :
    (rowsText rows).toList = (rows.map (·.body.toList)).flatMap (· ++ ['\n']) := by
  simp [rowsText, String.toList_join, List.flatMap_map, Row.toList_text]

lemma rowsText_cons (r : Row) (rows : List Row) :
    rowsText (r :: rows) = r.text ++ rowsText rows := by
  simp [rowsText]

lemma rowsText_append (left right : List Row) :
    rowsText (left ++ right) = rowsText left ++ rowsText right := by
  simp [rowsText, String.join_append]

/-- Rows whose captions take one line are the lines of their text. -/
lemma cutLines_rowsText {rows : List Row} (h : ∀ r ∈ rows, '\n' ∉ r.caption.toList) :
    Text.cutLines (rowsText rows).toList = rows.map (·.text.toList) := by
  rw [toList_rowsText, Text.cutLines_terminated, List.map_map]
  · exact List.map_congr_left fun r _ => r.toList_text.symm
  · intro body hbody
    obtain ⟨r, hr, rfl⟩ := List.mem_map.mp hbody
    exact r.newline_notMem_body (h r hr)

section Steps

variable {nodes : Array FlatNode} {siblings rest : Span} {indent : String} {id left : Nat}
  {levels : List Level} {text : String}

lemma drawFrom_of_pop?_none (h : siblings.pop? = none) :
    drawFrom nodes left (⟨indent, siblings⟩ :: levels) text = drawFrom nodes left levels text := by
  rw [drawFrom, h]

lemma drawFrom_of_pop?_some (h : siblings.pop? = some (id, rest)) {node : FlatNode}
    (hnode : nodes[id]? = some node) :
    drawFrom nodes (left + 1) (⟨indent, siblings⟩ :: levels) text
      = drawFrom nodes left
          (⟨indent ++ rail rest.isEmpty, node.children⟩ :: ⟨indent, rest⟩ :: levels)
          (text ++ line indent rest.isEmpty node.payload) := by
  rw [drawFrom, h]
  simp only [hnode]

lemma drawFrom_congr_span (h : siblings.pop? = rest.pop?) :
    drawFrom nodes left (⟨indent, siblings⟩ :: levels) text
      = drawFrom nodes left (⟨indent, rest⟩ :: levels) text := by
  rw [drawFrom, h]
  conv_rhs => rw [drawFrom]

end Steps

/-- **Drawing.**  With siblings pending, the walk draws them, each with all that is below it, and
goes on with the levels above. -/
theorem drawFrom_forestRows {nodes : Array FlatNode} {os : List (Outline Payload)}
    {parent : Option Nat} {index id first : Nat}
    (hnodes : ∀ e ∈ forestWalk os parent index id first, nodes[e.1]? = some e.2.node)
    (left : Nat) (above : List Bool) (levels : List Level) (text : String) :
    drawFrom nodes (left + forestSize os) (⟨indentation above, ⟨id, id + os.length⟩⟩ :: levels) text
      = drawFrom nodes left levels
        (text ++ rowsText (forestRows (mapForest caption os) above)) := by
  induction os using forest_induction generalizing parent index id first left above levels text with
  | nil => simp [drawFrom_of_pop?_none, forestSize, mapForest, forestRows, rowsText]
  | cons p kids rest ihkids ihrest =>
      rw [forestWalk, List.forall_mem_cons, List.forall_mem_append, Outline.walkBelow] at hnodes
      obtain ⟨hnode, hkids, hrest⟩ := hnodes
      have hspan : (Cell.node ⟨.node p kids, parent, index, first⟩).children.pop?
          = (⟨first, first + kids.length⟩ : Span).pop? := Cell.pop?_span _
      have hlast : (⟨id + 1, id + 1 + rest.length⟩ : Span).isEmpty = rest.isEmpty := by
        cases rest <;> simp [Span.isEmpty]
      -- The children are pending before the siblings that are left, one rail further to the right.
      rw [forestSize_node_cons, ← Nat.add_assoc, ← Nat.add_assoc, List.length_cons,
        drawFrom_of_pop?_some (Span.pop?_succ id rest.length) hnode, hlast, ← indentation_append,
        drawFrom_congr_span hspan, ihkids hkids, ihrest hrest, mapForest, forestRows, Outline.map,
        treeRows, isEmpty_mapForest, rowsText_append, rowsText_cons, ← String.append_assoc,
        ← String.append_assoc]
      rfl

end Diagram

namespace Outline

open Diagram

variable (o : Outline Payload)

/-- The diagram of a flattened tree is made of the rows of its outline. -/
theorem draw_flat : o.flat.draw = rowsText (treeRows (o.map caption) [] true) := by
  have hdraw := drawFrom_forestRows (fun e he => o.getElem?_flat_of_mem_walk he) 0 [] [] ""
  calc o.flat.draw
      = drawFrom o.flat.nodes (0 + forestSize [o]) [⟨indentation [], ⟨0, 0 + [o].length⟩⟩] "" := by
        rw [FlatTree.draw, size_flat, ← forestSize_singleton, Nat.zero_add]; rfl
    _ = rowsText (treeRows (o.map caption) [] true) := by
        rw [hdraw, drawFrom, String.empty_append, mapForest, mapForest, forestRows, forestRows,
          List.append_nil]
        rfl

end Outline

/-! ## Rows along the walk -/

namespace FlatTree

open Diagram

/-- Whether no sibling comes after a node.  The root has no siblings. -/
def isLast (t : FlatTree) (id : Nat) : Bool :=
  match t.nodes[id]?.bind (·.parent) with
  | none => true
  | some p => (childSpan t.nodes p).stop == id + 1

/-- The ancestors of a node from the root down, as they are met going from parent to parent. -/
inductive Lineage (t : FlatTree) : Nat → List Nat → Prop
  | root {id : Nat} (parent : t.parent id = .ok none) : t.Lineage id []
  | child {id p : Nat} {ancestors : List Nat} (parent : t.parent id = .ok (some p))
      (lineage : t.Lineage p ancestors) : t.Lineage id (ancestors ++ [p])

/-- The row of a node. -/
def Shows (t : FlatTree) (id : Nat) (r : Row) : Prop :=
  ∃ node ancestors, t.get id = .ok node ∧ t.Lineage id ancestors ∧
    r = ⟨ancestors.map t.isLast, t.isLast id, caption node.payload⟩

variable {t : FlatTree} {id : Nat} {node : FlatNode}

lemma parent_of_getElem? (h : t.nodes[id]? = some node) : t.parent id = .ok node.parent := by
  rw [parent, get_of_getElem? h]; rfl

lemma stop_childSpan {c : Cell Payload} (hc : t.nodes[id]? = some c.node)
    (h : c.outline.children ≠ []) :
    (childSpan t.nodes id).stop = c.first + c.outline.children.length := by
  simp only [childSpan, hc, Cell.node, Cell.span_of_children_ne_nil h]

/-- Along a walk over trees side by side below `p`, the rows of the nodes are those of the trees. -/
theorem shows_forestWalk {os : List (Outline Payload)} {p index id first : Nat}
    {ancestors : List Nat}
    (hnodes : ∀ e ∈ forestWalk os (some p) index id first, t.nodes[e.1]? = some e.2.node)
    (hp : t.Lineage p ancestors) (hstop : os ≠ [] → (childSpan t.nodes p).stop = id + os.length) :
    List.Forall₂ (fun e r => t.Shows e.1 r) (forestWalk os (some p) index id first)
      (forestRows (mapForest caption os) ((ancestors ++ [p]).map t.isLast)) := by
  induction os using forest_induction generalizing p index id first ancestors with
  | nil => exact .nil
  | cons a kids rest ihkids ihrest =>
      rw [forestWalk, List.forall_mem_cons, List.forall_mem_append, Outline.walkBelow] at hnodes
      obtain ⟨hnode, hkids, hrest⟩ := hnodes
      have hstop := hstop (by simp)
      rw [List.length_cons] at hstop
      have hlineage : t.Lineage id (ancestors ++ [p]) := .child (parent_of_getElem? hnode) hp
      have hlast : t.isLast id = rest.isEmpty := by
        simp only [isLast, hnode, Option.bind_some, Cell.node, hstop]
        cases rest <;> simp
      have hrows := ihkids hkids hlineage (stop_childSpan hnode)
      rw [List.map_append, List.map_singleton, hlast] at hrows
      rw [forestWalk, Outline.walkBelow, mapForest, Outline.map, forestRows, treeRows,
        isEmpty_mapForest]
      refine .cons ⟨_, _, get_of_getElem? hnode, hlineage, by rw [hlast]; rfl⟩ ?_
      exact List.rel_append hrows (ihrest hrest hp fun _ => by rw [hstop]; omega)

end FlatTree

namespace Outline

open Diagram

/-- The rows of a diagram belong to the nodes of the flattened tree in preorder. -/
theorem shows_flat (o : Outline Payload) :
    List.Forall₂ o.flat.Shows o.flat.preorder (treeRows (o.map caption) [] true) := by
  have hnodes : ∀ e ∈ o.walk, o.flat.nodes[e.1]? = some e.2.node :=
    fun e he => o.getElem?_flat_of_mem_walk he
  rw [o.preorder_flat, List.forall₂_map_left_iff]
  -- The root has no parent whose span could tell that it is the last, so its row comes by itself.
  set flat := o.flat
  obtain ⟨p, os⟩ := o
  rw [walk, forestWalk, forestWalk, List.append_nil, walkBelow] at hnodes ⊢
  obtain ⟨hroot, hbelow⟩ := List.forall_mem_cons.mp hnodes
  have hlineage : flat.Lineage 0 [] := .root (FlatTree.parent_of_getElem? hroot)
  have hlast : flat.isLast 0 = true := by simp [FlatTree.isLast, hroot, Cell.node]
  have hrows := FlatTree.shows_forestWalk hbelow hlineage (FlatTree.stop_childSpan hroot)
  rw [List.nil_append, List.map_singleton, hlast] at hrows
  exact .cons ⟨_, _, FlatTree.get_of_getElem? hroot, hlineage, by rw [hlast]; rfl⟩ hrows

end Outline

/-! ## The whole -/

namespace Diagram

lemma captions_forestRows (os : List (Outline String)) (above : List Bool) :
    (forestRows os above).map Row.caption = (forestPreorder os).map Outline.value := by
  induction os using forest_induction generalizing above with
  | nil => rfl
  | cons caption kids rest ihkids ihrest =>
      simp [forestRows, treeRows, forestPreorder, Outline.preorder, ihkids, ihrest]

lemma captions_treeRows (o : Outline String) (above : List Bool) (last : Bool) :
    (treeRows o above last).map Row.caption = o.values := by
  cases o with
  | node caption os => simp [treeRows, Outline.values, Outline.preorder, captions_forestRows]

lemma newline_notMem_of_mem_treeRows {o : Outline Payload} (h : ∀ p ∈ o.values, p.Legible) {r : Row}
    (hr : r ∈ treeRows (o.map caption) [] true) : '\n' ∉ r.caption.toList := by
  have hmem := List.mem_map_of_mem (f := Row.caption) hr
  rw [captions_treeRows, Outline.values_map] at hmem
  obtain ⟨p, hp, hcaption⟩ := List.mem_map.mp hmem
  exact hcaption ▸ newline_notMem_caption (h p hp)

lemma count_newline_rowsText {rows : List Row} (h : ∀ r ∈ rows, '\n' ∉ r.caption.toList) :
    (rowsText rows).toList.count '\n' = rows.length := by
  induction rows with
  | nil => rfl
  | cons r rows ih =>
      rw [List.forall_mem_cons] at h
      have hbody := List.count_eq_zero.mpr (r.newline_notMem_body h.1)
      rw [rowsText_cons, String.toList_append, r.toList_text]
      simp [hbody, ih h.2]

lemma getLast?_rowsText {rows : List Row} (h : rows ≠ []) :
    (rowsText rows).toList.getLast? = some '\n' := by
  obtain ⟨init, r, rfl⟩ := List.eq_nil_or_concat' rows |>.resolve_left h
  simp [rowsText, Row.toList_text]

end Diagram

/-- **The whole.**  If the vocabulary was read from a text, the diagram of a flattened tree has one
line for each node, in preorder, and each line ends in the only line feed it has: three characters
for each ancestor, what the node hangs on, and its caption. -/
theorem lines_draw {source : String} {v : Vocabulary} (hread : v.ReadFrom source) (base : LineBase)
    (before : List Tree) (t : Tree) (flat : FlatTree)
    (h : ((Flattener.used v base before).flatten t).1 = .ok flat) :
    flat.draw.toList.count '\n' = flat.size ∧
    flat.draw.toList.getLast? = some '\n' ∧
    List.Forall₂ (fun id line => ∃ node ancestors indent,
        flat.get id = .ok node ∧ flat.Lineage id ancestors ∧
        indent = Diagram.indentation (ancestors.map flat.isLast) ∧
        indent.length = 3 * ancestors.length ∧
        line = (indent ++ Diagram.branch (flat.isLast id) ++ Diagram.caption node.payload
          ++ "\n").toList)
      flat.preorder (Text.cutLines flat.draw.toList) := by
  obtain ⟨o, ho, rfl⟩ := flatten_eq_ok_iff.mp h
  have hcaptions :=
    fun r => Diagram.newline_notMem_of_mem_treeRows (r := r) (legible_of_outline hread ho)
  have hlength : (Diagram.treeRows (o.map Diagram.caption) [] true).length = o.size := by
    rw [← List.length_map Diagram.Row.caption, Diagram.captions_treeRows, Outline.values_map,
      List.length_map, o.length_values]
  have hne : Diagram.treeRows (o.map Diagram.caption) [] true ≠ [] := by
    rw [← List.length_pos_iff, hlength]
    exact Nat.succ_pos _
  rw [o.draw_flat, o.size_flat]
  refine ⟨?_, Diagram.getLast?_rowsText hne, ?_⟩
  · rw [Diagram.count_newline_rowsText hcaptions, hlength]
  · rw [Diagram.cutLines_rowsText hcaptions, List.forall₂_map_right_iff]
    refine o.shows_flat.imp ?_
    rintro id _ ⟨node, ancestors, hnode, hlineage, rfl⟩
    refine ⟨node, ancestors, _, hnode, hlineage, rfl, ?_, rfl⟩
    rw [Diagram.length_indentation, List.length_map]

lemma readFrom_listVocabulary : listVocabulary.ReadFrom "LIST=100\nPAIR = 101\r\n\nEMPTY=+102" := by
  refine ⟨⟨[⟨"LIST", 100⟩, ⟨"PAIR", 101⟩, ⟨"EMPTY", 102⟩]⟩, by decide, ?_⟩
  have hmax : ¬ maxKind < 100 ∧ ¬ maxKind < 101 ∧ ¬ maxKind < 102 := by decide
  simp [Vocabulary.build, Declarations.declare, hmax, bind, Except.bind, pure, Except.pure,
    listVocabulary]

/-- A list is drawn in six lines, as the line feed in the text of a token is written in two
characters. -/
theorem lines_draw_listTree : ∃ flat : FlatTree,
    ((Flattener.used listVocabulary .zero []).flatten (listTree "a\nb")).1 = .ok flat ∧
    flat.draw = "'- LIST\n   |- PAIR\n   |  |- TOKEN[type: 1, text: x]\n"
      ++ "   |  '- TOKEN[type: -1, text: y]\n   |- EMPTY\n   '- TOKEN[type: 1, text: a\\nb]\n" ∧
    flat.draw.toList.count '\n' = 6 := by
  have hflat : ((Flattener.used listVocabulary .zero []).flatten (listTree "a\nb")).1 = .ok _ :=
    flatten_eq_ok_iff.mpr ⟨_, outline_listTree _ _, rfl⟩
  refine ⟨_, hflat, ?_, (lines_draw readFrom_listVocabulary _ _ _ _ hflat).1⟩
  rw [Outline.draw_flat]
  rfl

end ParseTree
