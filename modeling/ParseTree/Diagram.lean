import ParseTree.Flat.Preorder

/-!
# Diagrams

A flattened tree drawn as text, one line a node, in preorder:

```
'- FIELD_DECLARATION
   |- TOKEN[type: 102, text: int]
   |- VARIABLE_DECLARATOR
   |  |- TOKEN[type: 102, text: x]
   |  '- TOKEN[type: 60, text: 1]
   '- TOKEN[type: 67, text: ;]
```

A node that has siblings to come hangs on `|-`, the last one on `'-`.  Below a node, each line
begins with a rail if the node has siblings to come, and with blanks if it is the last.  Line feeds
in the text of a token are written as a backslash and an `n`, so every node takes one line.
-/

namespace ParseTree.Diagram

/-! ## Lines -/

/-- What a node hangs on. -/
def branch (last : Bool) : String := if last then "'- " else "|- "

/-- How lines below a node begin. -/
def rail (last : Bool) : String := if last then "   " else "|  "

/-- A character of a token on its line. -/
def captionChar (c : Char) : List Char :=
  if c = '\n' then ['\\', 'n'] else [c]

/-- The text of a token on its line. -/
def captionText (text : String) : String :=
  String.ofList (text.toList.flatMap captionChar)

/-- What a line says about its node. -/
def caption : Payload → String
  | .token t => "TOKEN[type: " ++ t.kind.text ++ ", text: " ++ captionText t.text ++ "]"
  | .rule r => r.name

/-- The line of a node. -/
def line (indent : String) (last : Bool) (payload : Payload) : String :=
  indent ++ branch last ++ caption payload ++ "\n"

/-! ## Drawing -/

/-- Siblings still to be drawn, and how their lines begin. -/
structure Level where
  indent : String
  siblings : Span
deriving Repr

/-- Draws at most `left` nodes: those of the first level, each followed by what is below it, and
then those of the levels after it. -/
def drawFrom (nodes : Array FlatNode) (left : Nat) (levels : List Level) (text : String) : String :=
  match levels with
  | [] => text
  | ⟨indent, siblings⟩ :: above =>
    match siblings.pop? with
    | none => drawFrom nodes left above text
    | some (id, siblings) =>
      match left, nodes[id]? with
      | left + 1, some node =>
        let last := siblings.isEmpty
        drawFrom nodes left (⟨indent ++ rail last, node.children⟩ :: ⟨indent, siblings⟩ :: above)
          (text ++ line indent last node.payload)
      | _, _ => text
termination_by (left, levels.length)

end ParseTree.Diagram

namespace ParseTree

/-- The diagram of a tree. -/
def FlatTree.draw (t : FlatTree) : String :=
  Diagram.drawFrom t.nodes t.size [⟨"", .single t.root⟩] ""

end ParseTree
