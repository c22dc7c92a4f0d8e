import Mathlib.Logic.Relation
import ParseTree.Proofs.Diagram
import ParseTree.Proofs.Flattened

/-!
# Diagrams by recursion

A diagram has a short description by recursion: the line of a node, and then the diagrams of its
children, whose lines begin as that of the node does, with a rail or blanks after it.  A walk that
draws line after line has no recursion to hand this down.

* **By recursion** — `rowsText_forestRows`: the rows of trees side by side make up their diagrams,
  so the diagram of a flattened tree is that of its outline (`draw_flat_eq_diagram`).
* **By pending siblings** — a `Sketch` keeps for each level the siblings still to come and nothing
  else.  How a line begins is seen from which of the levels above have siblings left at that moment;
  levels that have none stay until everything below them is drawn.  `draws_forest` is the invariant:
  trees side by side are drawn while the levels above stay as they are.
* **The whole** — `draw_flatten`: the walk comes to an end by itself, and the three texts are the
  same.
-/

namespace ParseTree

/-! ## By recursion -/

mutual

/-- The diagram of a tree whose lines begin with `indent`. -/
def Outline.diagram : Outline Payload → (indent : String) → (last : Bool) → String
  | .node p children, indent, last =>
    indent ++ (if last then "'- " else "|- ") ++ Diagram.caption p ++ "\n"
      ++ forestDiagram children (indent ++ if last then "   " else "|  ")

/-- The diagrams of trees side by side, of which the last one is the last of its siblings. -/
def forestDiagram : List (Outline Payload) → (indent : String) → String
  | [], _ => ""
  | o :: rest, indent => o.diagram indent rest.isEmpty ++ forestDiagram rest indent

end

namespace Diagram

variable {p : Payload} {kids rest : List (Outline Payload)} {indent : String}

/-- The first of trees side by side is drawn as its line, what is below it, and the trees after
it. -/
lemma forestDiagram_node_cons : forestDiagram (.node p kids :: rest) indent
    = line indent rest.isEmpty p ++ forestDiagram kids (indent ++ rail rest.isEmpty)
      ++ forestDiagram rest indent := rfl

/-- **By recursion.**  The rows of trees side by side make up their diagrams. -/
theorem rowsText_forestRows (os : List (Outline Payload)) (above : List Bool) :
    rowsText (forestRows (mapForest caption os) above) = forestDiagram os (indentation above) := by
  induction os using forest_induction generalizing above with
  | nil => rfl
  | cons p kids rest ihkids ihrest =>
      rw [mapForest, Outline.map, forestRows, treeRows, isEmpty_mapForest, rowsText_append,
        rowsText_cons, ihkids, ihrest, indentation_append, forestDiagram_node_cons]
      rfl

end Diagram

/-- The diagram of a flattened tree is that of its outline. -/
theorem Outline.draw_flat_eq_diagram (o : Outline Payload) : o.flat.draw = o.diagram "" true := by
  have hrows := Diagram.rowsText_forestRows [o] []
  rw [mapForest, mapForest, Diagram.forestRows, Diagram.forestRows, List.append_nil, forestDiagram,
    forestDiagram, String.append_empty] at hrows
  rw [o.draw_flat]
  exact hrows

/-! ## By pending siblings -/

namespace Diagram

/-- A diagram under way: for each level the siblings still to come, the lowest level first, and the
text drawn so far. -/
structure Sketch where
  pending : List Span
  text : String

namespace Sketch

/-- Draws the next node, or leaves a level that has no siblings to come.  A line begins with a rail
for each level above that has some. -/
def step (nodes : Array FlatNode) : Sketch → Option Sketch
  | ⟨[], _⟩ => none
  | ⟨siblings :: above, text⟩ =>
    match siblings.pop? with
    | none => some ⟨above, text⟩
    | some (id, rest) => nodes[id]?.map fun node =>
      ⟨if node.children.isEmpty then rest :: above else node.children :: rest :: above,
        text ++ line (indentation (above.reverse.map Span.isEmpty)) rest.isEmpty node.payload⟩

/-- What a diagram under way comes to, step by step. -/
def Draws (nodes : Array FlatNode) : Sketch → Sketch → Prop :=
  Relation.ReflTransGen fun s s' => s.step nodes = some s'

variable {nodes : Array FlatNode} {siblings rest : Span} {above : List Span} {text : String}

lemma draws_of_pop?_none (h : siblings.pop? = none) :
    Draws nodes ⟨siblings :: above, text⟩ ⟨above, text⟩ := by
  refine .single ?_
  simp only [step, h]

lemma draws_of_pop?_some {id : Nat} {node : FlatNode} (h : siblings.pop? = some (id, rest))
    (hnode : nodes[id]? = some node) (above : List Span) (text : String) :
    Draws nodes ⟨siblings :: above, text⟩
      ⟨if node.children.isEmpty then rest :: above else node.children :: rest :: above,
        text ++ line (indentation (above.reverse.map Span.isEmpty)) rest.isEmpty node.payload⟩ := by
  refine .single ?_
  simp only [step, h, hnode, Option.map_some]

/-- Below a node, lines begin with one more rail, or with blanks if its level has no siblings to
come. -/
lemma indentation_cons (siblings : Span) (above : List Span) :
    indentation ((siblings :: above).reverse.map Span.isEmpty)
      = indentation (above.reverse.map Span.isEmpty) ++ rail siblings.isEmpty := by
  rw [List.reverse_cons, List.map_append, List.map_singleton, indentation_append]

/-- The children of a node are pending only if there are any.  In both cases the walk comes back to
the level of the node when they are drawn. -/
lemma draws_children {c : Cell Payload} {stop : Nat} {indent : String}
    (h : Draws nodes ⟨⟨c.first, c.first + c.outline.children.length⟩ :: above, text⟩
      ⟨⟨stop, stop⟩ :: above, text ++ forestDiagram c.outline.children indent⟩) :
    Draws nodes ⟨if c.span.isEmpty then above else c.span :: above, text⟩
      ⟨above, text ++ forestDiagram c.outline.children indent⟩ := by
  rw [c.isEmpty_span]
  cases hkids : c.outline.children with
  | nil =>
      rw [forestDiagram, String.append_empty]
      exact .refl
  | cons o rest =>
      have hne : c.outline.children ≠ [] := by simp [hkids]
      rw [← hkids, List.isEmpty_eq_false_iff.mpr hne, Cell.span_of_children_ne_nil hne]
      exact h.trans (draws_of_pop?_none (Span.pop?_nil stop))

/-- **By pending siblings.**  From trees side by side the walk comes to where their level has no
siblings to come, with all levels above as they were, and has drawn their diagrams. -/
theorem draws_forest {os : List (Outline Payload)} {parent : Option Nat} {index id first : Nat}
    (hnodes : ∀ e ∈ forestWalk os parent index id first, nodes[e.1]? = some e.2.node)
    (above : List Span) (text : String) :
    Draws nodes ⟨⟨id, id + os.length⟩ :: above, text⟩
      ⟨⟨id + os.length, id + os.length⟩ :: above,
        text ++ forestDiagram os (indentation (above.reverse.map Span.isEmpty))⟩ := by
  induction os using forest_induction generalizing parent index id first above text with
  | nil =>
      rw [forestDiagram, String.append_empty]
      exact .refl
  | cons p kids rest ihkids ihrest =>
      rw [forestWalk, List.forall_mem_cons, List.forall_mem_append, Outline.walkBelow] at hnodes
      obtain ⟨hnode, hkids, hrest⟩ := hnodes
      set level : Span := ⟨id + 1, id + 1 + rest.length⟩ with hlevel
      have hlast : level.isEmpty = rest.isEmpty := by cases rest <;> simp [hlevel, Span.isEmpty]
      have hstop : id + (Outline.node p kids :: rest).length = id + 1 + rest.length := by
        rw [List.length_cons]; omega
      have hpop : (⟨id, id + 1 + rest.length⟩ : Span).pop? = some (id, level) := by
        rw [← hstop]; exact Span.pop?_succ id rest.length
      -- While the children are drawn, the level of the node shows whether the node is the last one.
      have hline := draws_of_pop?_some hpop hnode above text
      have hbelow :=
        draws_children (c := ⟨.node p kids, parent, index, first⟩)
          (ihkids hkids (level :: above)
            (text ++ line (indentation (above.reverse.map Span.isEmpty)) level.isEmpty p))
      have hafter := ihrest hrest above
      rw [indentation_cons] at hbelow
      rw [hstop, forestDiagram_node_cons, ← hlast, ← String.append_assoc, ← String.append_assoc]
      exact (hline.trans hbelow).trans (hafter _)

end Sketch

end Diagram

/-! ## The whole -/

/-- **The whole.**  A flattened tree is drawn as its nodes tell by recursion, from the root down and
with the root as the last of its siblings; and the walk that looks at pending siblings only comes to
the same text when nothing is pending any more. -/
theorem draw_flatten (v : Vocabulary) (base : LineBase) (before : List Tree) (t : Tree)
    (flat : FlatTree) (h : ((Flattener.used v base before).flatten t).1 = .ok flat) :
    (∃ o, flat.readBack = some o ∧ flat.draw = o.diagram "" true) ∧
    Diagram.Sketch.Draws flat.nodes ⟨[.single flat.root], ""⟩ ⟨[], flat.draw⟩ := by
  obtain ⟨o, -, rfl⟩ := flatten_eq_ok_iff.mp h
  refine ⟨⟨o, o.readBack_flat, o.draw_flat_eq_diagram⟩, ?_⟩
  have hroot := Diagram.Sketch.draws_forest (fun e he => o.getElem?_flat_of_mem_walk he) [] ""
  have hdiagram : "" ++ forestDiagram [o] (Diagram.indentation ([].reverse.map Span.isEmpty))
      = o.flat.draw := by
    rw [o.draw_flat_eq_diagram, forestDiagram, forestDiagram, String.empty_append,
      String.append_empty]
    rfl
  rw [hdiagram] at hroot
  exact hroot.trans (Diagram.Sketch.draws_of_pop?_none (Span.pop?_nil 1))

/-- A pair that has siblings to come puts a rail before the lines of its tokens, and a rule that
matched nothing is drawn in one line. -/
theorem draw_flatten_listTree : ∃ flat : FlatTree,
    ((Flattener.used listVocabulary .one []).flatten (listTree "z")).1 = .ok flat ∧
    Diagram.Sketch.Draws flat.nodes ⟨[.single 0], ""⟩
      ⟨[], "'- LIST\n   |- PAIR\n   |  |- TOKEN[type: 1, text: x]\n"
        ++ "   |  '- TOKEN[type: -1, text: y]\n   |- EMPTY\n   '- TOKEN[type: 1, text: z]\n"⟩ := by
  have hflat : ((Flattener.used listVocabulary .one []).flatten (listTree "z")).1 = .ok _ :=
    flatten_eq_ok_iff.mpr ⟨_, outline_listTree _ _, rfl⟩
  have hdraws := (draw_flatten _ _ _ _ _ hflat).2
  rw [Outline.draw_flat_eq_diagram] at hdraws
  exact ⟨_, hflat, hdraws⟩

end ParseTree
