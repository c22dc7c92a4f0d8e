import ParseTree.Proofs.Diagram
import ParseTree.Proofs.Flattened

/-!
# What a diagram leaves open

Positions and the kinds of rules do not show in a diagram, nor whether the text of a token has a
line feed or a backslash and an `n`; all else does.  Two flattened trees have the same diagram
exactly if they look alike, and then even their ids agree.

* **Captions** — `looksLike_iff_caption`: a caption tells a token from a rule, as the names of rules
  have no small letters, and the kind of a token from its text, as a kind has no comma.
* **Rows** — `Row.body_injective`: the columns before a caption can be told from the caption
  whatever it says, since a rail has a blank where a branch has a dash.
* **Shapes** — `forestRows_append_inj`: the rows below a node end where a row is indented no more
  than its own, so rows determine the trees they were made of.
* **The whole** — `draw_eq_iff_looksLike`.
-/

namespace ParseTree

variable {α β γ : Type}

/-! ## Looking alike -/

/-- What a diagram shows of a node: the kind of a token and its text on one line, or the name of a
rule. -/
def Payload.LooksLike : Payload → Payload → Prop
  | .token s, .token t => s.kind = t.kind ∧ Diagram.captionText s.text = Diagram.captionText t.text
  | .rule r, .rule r' => r.name = r'.name
  | _, _ => False

mutual

/-- Two ordered trees of one shape whose values are related place by place. -/
def Outline.Alike (R : α → α → Prop) : Outline α → Outline α → Prop
  | .node a os, .node b os' => R a b ∧ forestAlike R os os'

def forestAlike (R : α → α → Prop) : List (Outline α) → List (Outline α) → Prop
  | [], [] => True
  | o :: os, o' :: os' => o.Alike R o' ∧ forestAlike R os os'
  | _, _ => False

end

/-- Two flattened trees that look alike: read back from their roots, they have one shape, and place
by place their nodes look alike. -/
def FlatTree.LooksLike (a b : FlatTree) : Prop :=
  ∃ o o', a.readBack = some o ∧ b.readBack = some o' ∧ o.Alike Payload.LooksLike o'

section Alike

variable {R : α → α → Prop} {g : α → β} {P : α → Prop}

lemma forestAlike_iff_mapForest (hR : ∀ a b, P a → P b → (R a b ↔ g a = g b))
    {os os' : List (Outline α)} (hos : ∀ o ∈ forestPreorder os, P o.value)
    (hos' : ∀ o ∈ forestPreorder os', P o.value) :
    forestAlike R os os' ↔ mapForest g os = mapForest g os' := by
  induction os using forest_induction generalizing os' with
  | nil => cases os' <;> simp [forestAlike, mapForest]
  | cons a kids rest ihkids ihrest =>
      rcases os' with _ | ⟨⟨b, kids'⟩, rest'⟩
      · simp [forestAlike, mapForest]
      · simp only [forestPreorder, Outline.preorder, List.cons_append, List.forall_mem_cons,
          List.forall_mem_append, Outline.value_node] at hos hos'
        obtain ⟨ha, hkids, hrest⟩ := hos
        obtain ⟨hb, hkids', hrest'⟩ := hos'
        simp only [forestAlike, Outline.Alike, mapForest, Outline.map, List.cons.injEq,
          Outline.node.injEq, hR a b ha hb, ihkids hkids hkids', ihrest hrest hrest']

/-- Trees are alike if they are equal once each value gives way to what counts of it. -/
lemma Outline.alike_iff_map (hR : ∀ a b, P a → P b → (R a b ↔ g a = g b)) {o o' : Outline α}
    (ho : ∀ a ∈ o.values, P a) (ho' : ∀ a ∈ o'.values, P a) :
    o.Alike R o' ↔ o.map g = o'.map g := by
  have hos : ∀ s ∈ forestPreorder [o], P s.value := by simpa [forestPreorder, values] using ho
  have hos' : ∀ s ∈ forestPreorder [o'], P s.value := by simpa [forestPreorder, values] using ho'
  simpa [forestAlike, mapForest] using forestAlike_iff_mapForest hR hos hos'

end Alike

/-! ## Captions -/

namespace Diagram

lemma repr_injective {m n : Nat} (h : m.repr = n.repr) : m = n := by
  rw [Nat.repr_eq_ofList_toDigits, Nat.repr_eq_ofList_toDigits, String.ofList_inj] at h
  have hvalue := congrArg (Nat.ofDigitChars 10 · 0) h
  simpa [Nat.ofDigitChars_toDigits] using hvalue

lemma kindText_injective {j k : Kind} (h : j.text = k.text) : j = k := by
  have hsign : ∀ m n : Nat, m.repr ≠ "-" ++ n.repr := by
    intro m n hmn
    have hminus : '-' ∈ m.repr.toList := by simp [hmn]
    exact absurd (isDigit_of_mem_repr hminus) (by decide)
  rw [← Int32.toInt_inj]
  rw [Kind.text, Kind.text] at h
  cases hj : j.toInt with
  | ofNat m =>
      cases hk : k.toInt with
      | ofNat n =>
          rw [hj, hk] at h
          exact congrArg Int.ofNat (repr_injective h)
      | negSucc n =>
          rw [hj, hk] at h
          exact absurd h (hsign _ _)
  | negSucc m =>
      cases hk : k.toInt with
      | ofNat n =>
          rw [hj, hk] at h
          exact absurd h.symm (hsign _ _)
      | negSucc n =>
          rw [hj, hk] at h
          have hsucc := repr_injective ((String.append_right_inj "-").mp h)
          rw [Nat.succ.inj hsucc]

lemma append_comma_inj {left left' right right' : List Char} (hleft : ',' ∉ left)
    (hleft' : ',' ∉ left')
    (h : left ++ ',' :: right = left' ++ ',' :: right') : left = left' ∧ right = right' := by
  induction left generalizing left' with
  | nil =>
      cases left' with
      | nil => simpa using h
      | cons c left' => simp at h hleft'; exact absurd h.1 hleft'.1
  | cons c left ih =>
      cases left' with
      | nil => simp at h hleft; exact absurd h.1.symm hleft.1
      | cons c' left' =>
          simp only [List.mem_cons, not_or, List.cons_append, List.cons.injEq] at h hleft hleft' ⊢
          obtain ⟨rfl, rfl⟩ := ih hleft.2 hleft'.2 h.2
          exact ⟨⟨h.1, rfl⟩, rfl⟩

lemma caption_token_inj {s t : Token} (h : caption (.token s) = caption (.token t)) :
    s.kind = t.kind ∧ captionText s.text = captionText t.text := by
  have hlist := congrArg String.toList h
  simp only [caption_token, String.toList_append, List.append_assoc,
    List.append_cancel_left_eq] at hlist
  -- The text of the token may hold commas too; only the first one counts.
  have hcomma := notMem_kindText (c := ',') (by decide) (by decide)
  obtain ⟨hkind, hrest⟩ := append_comma_inj (hcomma s.kind) (hcomma t.kind) hlist
  refine ⟨kindText_injective (String.toList_inj.mp hkind), ?_⟩
  simpa [String.toList_inj] using hrest

lemma caption_token_ne_name {t : Token} {r : Rule} (h : (Payload.rule r).Legible) :
    caption (.token t) ≠ r.name := by
  intro heq
  have hmem : 't' ∈ r.name.toList := by simp [← heq, caption_token]
  exact absurd (h.2 _ hmem) (by decide)

/-- **Captions.**  Legible nodes look alike exactly if they have the same caption. -/
theorem looksLike_iff_caption {p q : Payload} (hp : p.Legible) (hq : q.Legible) :
    p.LooksLike q ↔ caption p = caption q := by
  cases p with
  | token s =>
      cases q with
      | token t =>
          constructor
          · rintro ⟨hkind, htext⟩
            rw [caption_token, caption_token, hkind, htext]
          · exact caption_token_inj
      | rule r => exact ⟨False.elim, fun h => absurd h (caption_token_ne_name hq)⟩
  | rule r =>
      cases q with
      | token t => exact ⟨False.elim, fun h => absurd h.symm (caption_token_ne_name hp)⟩
      | rule r' => exact Iff.rfl

/-! ## Rows -/

lemma Row.toList_body (r : Row) :
    r.body.toList = r.above.flatMap (fun last => (rail last).toList) ++
      ((branch r.last).toList ++ r.caption.toList) := by
  simp [Row.body, indentation, String.toList_join, List.flatMap_map]

/-- **Rows.**  A row can be read off its line: in the second column of a rail stands a blank, in
that of a branch a dash. -/
theorem Row.body_injective {r r' : Row} (h : r.body = r'.body) : r = r' := by
  obtain ⟨above, last, text⟩ := r
  obtain ⟨above', last', text'⟩ := r'
  have hlist := congrArg String.toList h
  rw [Row.toList_body, Row.toList_body] at hlist
  simp only at hlist
  clear h
  induction above generalizing above' with
  | nil =>
      cases above' with
      | nil => cases last <;> cases last' <;> simp_all [branch, String.toList_inj]
      | cons mark above' => cases last <;> cases mark <;> simp [branch, rail] at hlist
  | cons mark above ih =>
      cases above' with
      | nil => cases last' <;> cases mark <;> simp [branch, rail] at hlist
      | cons mark' above' =>
          cases mark <;> cases mark' <;> simp [rail] at hlist
          · simpa using ih _ hlist
          · simpa using ih _ hlist

lemma rowsText_injective {rows rows' : List Row} (hrows : ∀ r ∈ rows, '\n' ∉ r.caption.toList)
    (hrows' : ∀ r ∈ rows', '\n' ∉ r.caption.toList) (h : rowsText rows = rowsText rows') :
    rows = rows' := by
  have hlines : rows.map (·.text.toList) = rows'.map (·.text.toList) := by
    rw [← cutLines_rowsText hrows, ← cutLines_rowsText hrows', h]
  have htext : Function.Injective fun r : Row => r.text.toList := by
    intro r r' hr
    apply Row.body_injective
    simpa [Row.toList_text, String.toList_inj] using hr
  exact List.map_injective_iff.mpr htext hlines

/-! ## Shapes -/

lemma head?_forestRows_append {os : List (Outline String)} {above : List Bool} {rows : List Row}
    (hrows : ∀ r ∈ rows.head?, r.above.length < above.length) :
    ∀ r ∈ (forestRows os above ++ rows).head?, r.above.length ≤ above.length := by
  rcases os with _ | ⟨⟨caption, kids⟩, rest⟩
  · exact fun r hr => Nat.le_of_lt (hrows r hr)
  · simp [forestRows, treeRows]

/-- **Shapes.**  The rows of trees side by side determine the trees, whatever rows follow, as long
as these are those of nodes higher up. -/
theorem forestRows_append_inj {os os' : List (Outline String)} {above : List Bool}
    {rows rows' : List Row} (h : forestRows os above ++ rows = forestRows os' above ++ rows')
    (hrows : ∀ r ∈ rows.head?, r.above.length < above.length)
    (hrows' : ∀ r ∈ rows'.head?, r.above.length < above.length) :
    os = os' ∧ rows = rows' := by
  induction os using forest_induction generalizing os' above rows rows' with
  | nil =>
      rcases os' with _ | ⟨⟨caption, kids⟩, rest⟩
      · exact ⟨rfl, h⟩
      · simp only [forestRows, treeRows, List.nil_append] at h
        simp [h] at hrows
  | cons caption kids rest ihkids ihrest =>
      rcases os' with _ | ⟨⟨caption', kids'⟩, rest'⟩
      · simp only [forestRows, treeRows, List.nil_append] at h
        simp [← h] at hrows'
      · simp only [forestRows, treeRows, List.cons_append, List.append_assoc, List.cons.injEq,
          Row.mk.injEq, true_and] at h
        obtain ⟨⟨hlast, rfl⟩, hbelow⟩ := h
        -- What follows the rows of the children is not indented as far as they are.
        rw [hlast] at hbelow
        obtain ⟨rfl, hafter⟩ := ihkids hbelow
          (fun r hr => by simpa using Nat.lt_succ_of_le (head?_forestRows_append hrows r hr))
          (fun r hr => by simpa using Nat.lt_succ_of_le (head?_forestRows_append hrows' r hr))
        obtain ⟨rfl, rfl⟩ := ihrest hafter hrows hrows'
        exact ⟨rfl, rfl⟩

lemma treeRows_injective {o o' : Outline String} (h : treeRows o [] true = treeRows o' [] true) :
    o = o' := by
  have hforest : forestRows [o] [] ++ [] = forestRows [o'] [] ++ [] := by simpa [forestRows] using h
  simpa using (forestRows_append_inj hforest (by simp) (by simp)).1

end Diagram

/-! ## The whole -/

/-- Exchanging the values of a tree leaves the links between its cells as they are. -/
lemma Outline.map_cells (g : α → β) (make : Option Nat → Nat → Span → β → γ) (o : Outline α) :
    o.cells.map (fun c => make c.parent c.index c.span (g c.outline.value))
      = (o.map g).cells.map (Cell.fill make) := by
  have h : o.cells.mapM (Cell.fillWith (fun a => some (g a)) make) = _ := traverse_cells o
  have hpure : Cell.fillWith (fun a => some (g a)) make
      = fun c => pure (make c.parent c.index c.span (g c.outline.value)) := rfl
  rw [o.traverse_some, Option.map_some, hpure, List.mapM_pure] at h
  exact Option.some.inj h

/-- Trees with the same captions are laid out in the same way. -/
lemma Outline.links_of_map_eq {o o' : Outline Payload}
    (h : o.map Diagram.caption = o'.map Diagram.caption)
    {id : Nat} {c c' : Cell Payload} (hc : o.cells[id]? = some c) (hc' : o'.cells[id]? = some c') :
    c.parent = c'.parent ∧ c.index = c'.index ∧ c.span = c'.span ∧
      Diagram.caption c.outline.value = Diagram.caption c'.outline.value := by
  have hcells :=
    o.map_cells Diagram.caption (fun parent index span text => (parent, index, span, text))
  rw [h, ← o'.map_cells] at hcells
  have hcell := congrArg (·[id]?) hcells
  simpa [hc, hc'] using hcell

/-- Trees of legible nodes have the same diagram exactly if they have the same captions in one
shape. -/
lemma Outline.draw_flat_eq_iff {o o' : Outline Payload} (ho : ∀ p ∈ o.values, p.Legible)
    (ho' : ∀ p ∈ o'.values, p.Legible) :
    o.flat.draw = o'.flat.draw ↔ o.map Diagram.caption = o'.map Diagram.caption := by
  rw [o.draw_flat, o'.draw_flat]
  refine ⟨fun h => Diagram.treeRows_injective (Diagram.rowsText_injective ?_ ?_ h),
    fun h => by rw [h]⟩
  · exact fun r hr => Diagram.newline_notMem_of_mem_treeRows ho hr
  · exact fun r hr => Diagram.newline_notMem_of_mem_treeRows ho' hr

/-- **The whole.**  If the vocabularies were read from texts, two flattened trees have the same
diagram exactly if they look alike.  They then have the same ids, and under each of them nodes that
are linked in the same way and look alike. -/
theorem draw_eq_iff_looksLike {source₁ source₂ : String} {v₁ v₂ : Vocabulary}
    (hread₁ : v₁.ReadFrom source₁) (hread₂ : v₂.ReadFrom source₂) (base₁ base₂ : LineBase)
    (before₁ before₂ : List Tree) (t₁ t₂ : Tree) (flat₁ flat₂ : FlatTree)
    (h₁ : ((Flattener.used v₁ base₁ before₁).flatten t₁).1 = .ok flat₁)
    (h₂ : ((Flattener.used v₂ base₂ before₂).flatten t₂).1 = .ok flat₂) :
    (flat₁.draw = flat₂.draw ↔ flat₁.LooksLike flat₂) ∧
    (flat₁.LooksLike flat₂ → flat₁.size = flat₂.size ∧
      ∀ (id : Nat) (n₁ n₂ : FlatNode), flat₁.nodes[id]? = some n₁ → flat₂.nodes[id]? = some n₂ →
        n₁.parent = n₂.parent ∧ n₁.index = n₂.index ∧ n₁.children = n₂.children ∧
          n₁.payload.LooksLike n₂.payload) := by
  obtain ⟨o₁, ho₁, rfl⟩ := flatten_eq_ok_iff.mp h₁
  obtain ⟨o₂, ho₂, rfl⟩ := flatten_eq_ok_iff.mp h₂
  have hlegible₁ := legible_of_outline hread₁ ho₁
  have hlegible₂ := legible_of_outline hread₂ ho₂
  have hlike : o₁.flat.LooksLike o₂.flat ↔ o₁.map Diagram.caption = o₂.map Diagram.caption := by
    rw [← Outline.alike_iff_map (fun _ _ => Diagram.looksLike_iff_caption) hlegible₁ hlegible₂,
      FlatTree.LooksLike, o₁.readBack_flat, o₂.readBack_flat]
    simp
  refine ⟨?_, ?_⟩
  · rw [hlike, Outline.draw_flat_eq_iff hlegible₁ hlegible₂]
  · rw [hlike]
    intro h
    refine ⟨?_, fun id n₁ n₂ hn₁ hn₂ => ?_⟩
    · have hvalues := congrArg (·.values.length) h
      simpa [Outline.values_map, Outline.length_values, Outline.size_flat] using hvalues
    · obtain ⟨c₁, hc₁, rfl⟩ := Outline.cell_of_flat hn₁
      obtain ⟨c₂, hc₂, rfl⟩ := Outline.cell_of_flat hn₂
      obtain ⟨hparent, hindex, hspan, hcaption⟩ := Outline.links_of_map_eq h hc₁ hc₂
      refine ⟨hparent, hindex, hspan, (Diagram.looksLike_iff_caption ?_ ?_).mpr hcaption⟩
      · exact hlegible₁ _ (Outline.value_mem_values (List.mem_of_getElem? hc₁))
      · exact hlegible₂ _ (Outline.value_mem_values (List.mem_of_getElem? hc₂))

/-- A line feed in the text of a token looks like a backslash and an `n`, and the count of lines
does not show; but a blank in its place does. -/
theorem draw_eq_iff_looksLike_listTree : ∃ feed escaped blank : FlatTree,
    ((Flattener.used listVocabulary .zero []).flatten (listTree "a\nb")).1 = .ok feed ∧
    ((Flattener.used listVocabulary .one []).flatten (listTree "a\\nb")).1 = .ok escaped ∧
    ((Flattener.used listVocabulary .one []).flatten (listTree "a b")).1 = .ok blank ∧
    feed.draw = escaped.draw ∧ feed.draw ≠ blank.draw := by
  have hflat :
      ∀ base text, ((Flattener.used listVocabulary base []).flatten (listTree text)).1 = .ok _ :=
    fun base text => flatten_eq_ok_iff.mpr ⟨_, outline_listTree base text, rfl⟩
  have hdraw :=
    fun base text => draw_eq_iff_looksLike readFrom_listVocabulary readFrom_listVocabulary
    .zero base [] [] (listTree "a\nb") (listTree text) _ _ (hflat _ _) (hflat _ _)
  refine ⟨_, _, _, hflat _ _, hflat _ _, hflat _ _, (hdraw _ _).1.mpr ?_, ?_⟩
  · rw [FlatTree.LooksLike, Outline.readBack_flat, Outline.readBack_flat]
    refine ⟨_, _, rfl, rfl, ?_⟩
    simp only [Outline.Alike, forestAlike, Payload.LooksLike]
    decide
  · rw [Ne, (hdraw _ _).1, FlatTree.LooksLike, Outline.readBack_flat, Outline.readBack_flat]
    rintro ⟨_, _, ho, ho', h⟩
    cases ho
    cases ho'
    simp only [Outline.Alike, forestAlike, Payload.LooksLike] at h
    exact absurd h (by decide)

end ParseTree
