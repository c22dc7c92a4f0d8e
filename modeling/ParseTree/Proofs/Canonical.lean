import Mathlib.Data.List.TFAE
import Mathlib.Tactic.TFAE
import ParseTree.Proofs.Likeness

/-!
# One flattened form for each tree

Flattened trees are compared node by node, in all that a node holds.  This compares the trees that
they stand for: where nodes stand, how they are linked and where they start is settled by the
ordered tree that is read back from the root, whatever parse tree, vocabulary and count of lines it
comes from.

* **Shapes** — `Outline.alike_eq_iff`: ordered trees of one shape with equal values are equal.
* **Reading** — `readBack_congr`: what is read back depends on the payloads and the spans of the
  nodes only; the other links and the starts follow from these.
* **The whole** — `flattened_eq_tfae`.
-/

namespace ParseTree

/-! ## Shapes -/

lemma forestAlike_eq_iff {α : Type} {os os' : List (Outline α)} :
    forestAlike Eq os os' ↔ os = os' := by
  induction os using forest_induction generalizing os' with
  | nil => cases os' <;> simp [forestAlike]
  | cons a kids rest ihkids ihrest =>
      rcases os' with _ | ⟨⟨b, kids'⟩, rest'⟩
      · simp [forestAlike]
      · simp only [forestAlike, Outline.Alike, ihkids, ihrest, List.cons.injEq, Outline.node.injEq]

/-- **Shapes.**  Ordered trees of one shape with equal values place by place are equal. -/
theorem Outline.alike_eq_iff {α : Type} {o o' : Outline α} : o.Alike Eq o' ↔ o = o' := by
  have h : forestAlike Eq [o] [o'] ↔ [o] = [o'] := forestAlike_eq_iff
  simpa [forestAlike] using h

namespace FlatTree

/-- Two flattened trees that stand for the same tree: read back from their roots, they have one
shape, and place by place equal payloads. -/
def SameTree (a b : FlatTree) : Prop :=
  ∃ o o', a.readBack = some o ∧ b.readBack = some o' ∧ o.Alike Eq o'

/-- Two flattened trees with the same ids, and under each of them nodes that agree in all they
hold. -/
def SameNodes (a b : FlatTree) : Prop :=
  a.size = b.size ∧ ∀ (id : Nat) (m n : FlatNode), a.nodes[id]? = some m → b.nodes[id]? = some n →
    m.payload = n.payload ∧ m.parent = n.parent ∧ m.index = n.index ∧ m.children = n.children ∧
      m.start = n.start

/-! ## Reading -/

/-- What a flattened tree keeps of its nodes if only their payloads and spans are kept. -/
def bare (t : FlatTree) : Array (Payload × Span) :=
  t.nodes.map fun n => (n.payload, n.children)

lemma readFrom_congr {a b : FlatTree} (h : a.bare = b.bare) (depth id : Nat) :
    a.readFrom depth id = b.readFrom depth id := by
  induction depth generalizing id with
  | zero => rfl
  | succ depth ih =>
      have hdepth : a.readFrom depth = b.readFrom depth := funext ih
      have hnode := congrArg (·[id]?) h
      simp only [bare, Array.getElem?_map] at hnode
      rw [readFrom, readFrom, hdepth]
      cases ha : a.nodes[id]? with
      | none =>
          cases hb : b.nodes[id]? with
          | none => rfl
          | some n => simp [ha, hb] at hnode
      | some m =>
          cases hb : b.nodes[id]? with
          | none => simp [ha, hb] at hnode
          | some n =>
              rw [ha, hb] at hnode
              simp only [Option.map_some, Option.some.injEq, Prod.mk.injEq] at hnode
              simp [hnode.1, hnode.2]

/-- **Reading.**  What is read back depends on payloads and spans only. -/
theorem readBack_congr {a b : FlatTree} (h : a.bare = b.bare) : a.readBack = b.readBack := by
  have hsize : a.size = b.size := by simpa [bare, size] using congrArg Array.size h
  rw [readBack, readBack, hsize]
  exact readFrom_congr h _ _

lemma eq_of_sameNodes {a b : FlatTree} (h : a.SameNodes b) : a = b := by
  obtain ⟨hsize, hnodes⟩ := h
  obtain ⟨a⟩ := a
  obtain ⟨b⟩ := b
  congr 1
  refine Array.ext hsize fun id ha hb => ?_
  obtain ⟨hpayload, hparent, hindex, hchildren, hstart⟩ :=
    hnodes id a[id] b[id] (Array.getElem?_eq_getElem ha) (Array.getElem?_eq_getElem hb)
  rw [FlatNode.mk.injEq]
  exact ⟨hpayload, hparent, hindex, hchildren, hstart⟩

end FlatTree

/-! ## The whole -/

/-- **The whole.**  Two flattened trees are equal exactly if the trees read back from them have one
shape and equal payloads place by place; and this is so exactly if they agree in all that their
nodes hold, or only in payloads and spans.  The parse trees, vocabularies and counts of lines need
not be the same, nor what has been flattened before. -/
theorem flattened_eq_tfae (v₁ v₂ : Vocabulary) (base₁ base₂ : LineBase)
    (before₁ before₂ : List Tree) (t₁ t₂ : Tree) (flat₁ flat₂ : FlatTree)
    (h₁ : ((Flattener.used v₁ base₁ before₁).flatten t₁).1 = .ok flat₁)
    (h₂ : ((Flattener.used v₂ base₂ before₂).flatten t₂).1 = .ok flat₂) :
    [(flat₁ == flat₂) = true, flat₁.SameTree flat₂, flat₁.SameNodes flat₂,
      flat₁.bare = flat₂.bare].TFAE := by
  obtain ⟨o₁, -, rfl⟩ := flatten_eq_ok_iff.mp h₁
  obtain ⟨o₂, -, rfl⟩ := flatten_eq_ok_iff.mp h₂
  have hsame : o₁.flat.SameTree o₂.flat ↔ o₁ = o₂ := by
    rw [FlatTree.SameTree, o₁.readBack_flat, o₂.readBack_flat]
    simp [Outline.alike_eq_iff]
  tfae_have 1 → 4 := by
    intro h
    rw [beq_iff_eq.mp h]
  tfae_have 4 → 2 := by
    intro h
    have hread := FlatTree.readBack_congr h
    rw [o₁.readBack_flat, o₂.readBack_flat, Option.some.injEq] at hread
    exact hsame.mpr hread
  tfae_have 2 → 3 := by
    intro h
    rw [hsame.mp h]
    refine ⟨rfl, fun id m n hm hn => ?_⟩
    rw [hm, Option.some.injEq] at hn
    rw [hn]
    exact ⟨rfl, rfl, rfl, rfl, rfl⟩
  tfae_have 3 → 1 := by
    intro h
    exact beq_iff_eq.mpr (FlatTree.eq_of_sameNodes h)
  tfae_finish

/-- A pair whose tokens stand on this line. -/
def pairOnLine (line : UInt32) : Tree :=
  .rule "PairContext" [.token ⟨1, "a", ⟨line, 0⟩⟩, .token ⟨2, "b", ⟨line, 1⟩⟩]

lemma outline_pairOnLine (base : LineBase) (line : UInt32) :
    (pairOnLine line).outline listVocabulary base
      = some (.node (.rule ⟨"PAIR", 101⟩)
          [.node (.token ⟨1, "a", base.adjust ⟨line, 0⟩⟩) [],
            .node (.token ⟨2, "b", base.adjust ⟨line, 1⟩⟩) []]) := by
  have hpair : Label.canonicalName? "PairContext" = some "PAIR" := by decide
  simp [pairOnLine, Tree.outline, forestOutline, hpair, Vocabulary.resolve, listVocabulary,
    Std.HashMap.getElem_insert, Except.toOption]

/-- A pair on line 2, counted from 0 and looked up among other rules, is the pair on line 1 that
stands below a single-child rule; counted from 1 it is not. -/
theorem flattened_eq_tfae_pairTree : ∃ pair moved other : FlatTree,
    ((Flattener.used pairVocabulary .one []).flatten pairTree).1 = .ok pair ∧
    ((Flattener.used listVocabulary .zero [listTree "z"]).flatten (pairOnLine 2)).1 = .ok moved ∧
    ((Flattener.used listVocabulary .one []).flatten (pairOnLine 2)).1 = .ok other ∧
    (pair == moved) = true ∧ (pair == other) = false := by
  have hpair : ((Flattener.used pairVocabulary .one []).flatten pairTree).1 = .ok _ :=
    flatten_eq_ok_iff.mpr ⟨_, outline_pairTree, rfl⟩
  have hflat : ∀ base before,
      ((Flattener.used listVocabulary base before).flatten (pairOnLine 2)).1 = .ok _ :=
    fun base before => flatten_eq_ok_iff.mpr ⟨_, outline_pairOnLine base 2, rfl⟩
  refine ⟨_, _, _, hpair, hflat _ _, hflat _ _, ?_, ?_⟩
  · refine
      ((flattened_eq_tfae _ _ _ _ _ _ _ _ _ _ hpair (hflat .zero [listTree "z"])).out 0 1).mpr ?_
    rw [FlatTree.SameTree, Outline.readBack_flat, Outline.readBack_flat]
    exact ⟨_, _, rfl, rfl, Outline.alike_eq_iff.mpr rfl⟩
  · rw [← Bool.not_eq_true]
    intro heq
    have hsame : FlatTree.SameTree _ _ :=
      ((flattened_eq_tfae _ _ _ _ _ _ _ _ _ _ hpair (hflat .one [])).out 0 1).mp heq
    rw [FlatTree.SameTree, Outline.readBack_flat, Outline.readBack_flat] at hsame
    obtain ⟨_, _, ho, ho', h⟩ := hsame
    cases ho
    cases ho'
    simp [Outline.Alike, forestAlike, LineBase.adjust] at h

end ParseTree
