import Mathlib.Data.List.Basic
import ParseTree.Proofs.Lexemes
import ParseTree.Tree.Basic

/-!
# Trees as they may be written

A `Draft` is a tree the way somebody may write it down: the fields of a token or a rule in any
order, left out or repeated, and among them fields that nobody asks for.  Its `lexemes` are what it
looks like in a document.

* **Meaning** — `Writes` says which tree a draft is a writing of: up to the order, the fields are
  those of the tree and others of unknown names.  `Flawed` says that at one node a required field is
  missing or a known one is repeated.
* **Computing** — `tree?` finds the tree.  It does so for every writing of a tree
  (`tree?_of_writes`), and fails if some node is flawed, however deep (`tree?_of_flawed`).
-/

namespace ParseTree.Json

/-! ## Entries -/

/-- The names of the fields of a token. -/
def tokenNames : List String := ["kind", "text", "line", "column"]

/-- The names of the fields of a rule. -/
def ruleNames : List String := ["label", "children"]

/-- A field of a token as it is written.  Numbers may be of any size. -/
inductive TokenEntry
  | kind (n : Int)
  | text (s : String)
  | line (n : Int)
  | column (n : Int)
  | other (name : String) (value : Scalar) (unknown : name ∉ tokenNames) (fits : value.Fits)

/-- A field of a rule as it is written. -/
inductive RuleEntry (α : Type)
  | label (s : String)
  | children (nodes : List α)
  | other (name : String) (value : Scalar) (unknown : name ∉ ruleNames) (fits : value.Fits)

/-- A tree as it is written. -/
inductive Draft
  | token (entries : List TokenEntry)
  | rule (entries : List (RuleEntry Draft))

/-- What holds of a rule if it holds of all drafts among its children holds of all drafts. -/
@[elab_as_elim]
theorem Draft.induction {P : Draft → Prop} (token : ∀ entries, P (.token entries))
    (rule : ∀ entries, (∀ nodes, .children nodes ∈ entries → ∀ d ∈ nodes, P d) →
      P (.rule entries)) :
    ∀ d, P d
  | .token entries => token entries
  | .rule entries => rule entries fun _ _hnodes d _hd => Draft.induction token rule d
termination_by d => sizeOf d
decreasing_by
  have hentry := List.sizeOf_lt_of_mem _hnodes
  have hnode := List.sizeOf_lt_of_mem _hd
  rw [RuleEntry.children.sizeOf_spec] at hentry
  rw [Draft.rule.sizeOf_spec]
  omega

/-! ## Lexemes -/

def TokenEntry.name : TokenEntry → String
  | .kind _ => "kind"
  | .text _ => "text"
  | .line _ => "line"
  | .column _ => "column"
  | .other name .. => name

def TokenEntry.value : TokenEntry → Scalar
  | .kind n => .integer n
  | .text s => .string s
  | .line n => .integer n
  | .column n => .integer n
  | .other _ value .. => value

def RuleEntry.name {α : Type} : RuleEntry α → String
  | .label _ => "label"
  | .children _ => "children"
  | .other name .. => name

/-- An entry: its name, a colon and its value. -/
def entryLexemes (name : String) (value : List Lexeme) : List Lexeme :=
  .scalar (.string name) :: .mark ':' :: value

/-- Parts with commas in between, and in front if they are not the first. -/
def separated (first : Bool) : List (List Lexeme) → List Lexeme
  | [] => []
  | ls :: rest => comma first ++ (ls ++ separated false rest)

/-- A node: an object with one key whose value is an object. -/
def nodeLexemes (key : String) (entries : List (List Lexeme)) : List Lexeme :=
  .mark '\x7b' :: .scalar (.string key) :: .mark ':' :: .mark '\x7b' ::
    (separated true entries ++ [.mark '\x7d', .mark '\x7d'])

def TokenEntry.lexemes (e : TokenEntry) : List Lexeme := entryLexemes e.name [.scalar e.value]

mutual

/-- The lexical elements of a draft. -/
def Draft.lexemes : Draft → List Lexeme
  | .token entries => nodeLexemes "token" (entries.map TokenEntry.lexemes)
  | .rule entries => nodeLexemes "rule" (ruleEntriesLexemes entries)

def ruleEntriesLexemes : List (RuleEntry Draft) → List (List Lexeme)
  | [] => []
  | e :: rest => entryLexemes e.name (ruleValueLexemes e) :: ruleEntriesLexemes rest

def ruleValueLexemes : RuleEntry Draft → List Lexeme
  | .label s => [.scalar (.string s)]
  | .children nodes => .mark '[' :: (separated true (draftsLexemes nodes) ++ [.mark ']'])
  | .other _ value _ _ => [.scalar value]

def draftsLexemes : List Draft → List (List Lexeme)
  | [] => []
  | d :: rest => d.lexemes :: draftsLexemes rest

end

/-! ## Meaning -/

/-- The entries of a token. -/
def tokenEntries (t : Token) : List TokenEntry :=
  [.kind t.kind.toInt, .text t.text, .line t.position.line.toNat, .column t.position.column.toNat]

/-- A draft is a writing of a tree: up to the order, its entries are those of the tree and others
whose names say nothing.  A rule without children need not have an entry for them. -/
inductive Draft.Writes : Draft → Tree → Prop
  | token {entries others : List TokenEntry} {t : Token}
      (h : entries.Perm (tokenEntries t ++ others))
      (hothers : ∀ e ∈ others, e.name ∉ tokenNames) : Draft.Writes (.token entries) (.token t)
  | rule {entries others : List (RuleEntry Draft)} {label : String} {nodes : List Draft}
      {ts : List Tree} (h : entries.Perm ([.label label, .children nodes] ++ others))
      (hothers : ∀ e ∈ others, e.name ∉ ruleNames) (hnodes : List.Forall₂ Draft.Writes nodes ts) :
      Draft.Writes (.rule entries) (.rule label ts)
  | bare {entries others : List (RuleEntry Draft)} {label : String}
      (h : entries.Perm ([.label label] ++ others)) (hothers : ∀ e ∈ others, e.name ∉ ruleNames) :
      Draft.Writes (.rule entries) (.rule label [])

/-- A required name is missing, or a known one occurs twice. -/
def Lacking (required known names : List String) : Prop :=
  (∃ name ∈ required, name ∉ names) ∨ ∃ name ∈ known, 2 ≤ names.count name

/-- A required field of the node is missing, or a known one is repeated. -/
def Draft.Flawed : Draft → Prop
  | .token entries => Lacking tokenNames tokenNames (entries.map TokenEntry.name)
  | .rule entries => Lacking ["label"] ruleNames (entries.map RuleEntry.name)

/-- A node of a draft, at any depth. -/
inductive Draft.Within : Draft → Draft → Prop
  | self (d : Draft) : Draft.Within d d
  | child {n d : Draft} {nodes : List Draft} {entries : List (RuleEntry Draft)}
      (hn : n.Within d) (hd : d ∈ nodes) (hnodes : .children nodes ∈ entries) :
      Draft.Within n (.rule entries)

/-! ## Computing -/

def TokenEntry.kind? : TokenEntry → Option Int
  | .kind n => some n
  | _ => none

def TokenEntry.text? : TokenEntry → Option String
  | .text s => some s
  | _ => none

def TokenEntry.line? : TokenEntry → Option Int
  | .line n => some n
  | _ => none

def TokenEntry.column? : TokenEntry → Option Int
  | .column n => some n
  | _ => none

def RuleEntry.label? {α : Type} : RuleEntry α → Option String
  | .label s => some s
  | _ => none

def RuleEntry.nodes? {α : Type} : RuleEntry α → Option (List α)
  | .children nodes => some nodes
  | _ => none

/-- The token of kinds, texts, lines and columns, if there is one of each and the numbers are in
range. -/
def tokenOfParts? : List Int → List String → List Int → List Int → Option Token
  | [kind], [text], [line], [column] =>
    if int32.Fits kind ∧ uint32.Fits line ∧ uint32.Fits column then
      some ⟨Int32.ofInt kind, text, ⟨UInt32.ofNat line.toNat, UInt32.ofNat column.toNat⟩⟩
    else none
  | _, _, _, _ => none

/-- The token that entries stand for. -/
def tokenOf? (entries : List TokenEntry) : Option Token :=
  tokenOfParts? (entries.filterMap TokenEntry.kind?) (entries.filterMap TokenEntry.text?)
    (entries.filterMap TokenEntry.line?) (entries.filterMap TokenEntry.column?)

/-- The rule of labels and lists of children, if there is one label and one list at most. -/
def ruleOf? : List String → List (Option (List Tree)) → Option Tree
  | [label], [] => some (.rule label [])
  | [label], [some ts] => some (.rule label ts)
  | _, _ => none

mutual

/-- The tree that a draft stands for. -/
def Draft.tree? : Draft → Option Tree
  | .token entries => (tokenOf? entries).map .token
  | .rule entries => ruleOf? (entries.filterMap RuleEntry.label?) (childTrees entries)

/-- The children that the entries of a rule stand for, for each entry that holds children. -/
def childTrees : List (RuleEntry Draft) → List (Option (List Tree))
  | [] => []
  | .children nodes :: rest => draftsTrees? nodes :: childTrees rest
  | _ :: rest => childTrees rest

def draftsTrees? : List Draft → Option (List Tree)
  | [] => some []
  | d :: rest => d.tree?.bind fun t => (draftsTrees? rest).map (t :: ·)

end

lemma childTrees_eq (entries : List (RuleEntry Draft)) :
    childTrees entries = (entries.filterMap RuleEntry.nodes?).map draftsTrees? := by
  induction entries with
  | nil => rfl
  | cons e rest ih => cases e <;> simp [childTrees, List.filterMap_cons, RuleEntry.nodes?, ih]

/-! ### Numbers in range -/

lemma fits_toInt (k : Int32) : int32.Fits k.toInt := by
  have hlow := k.le_toInt
  have hhigh := k.toInt_lt
  simp only [IntegerType.Fits, int32]
  omega

lemma fits_toNat (n : UInt32) : uint32.Fits n.toNat := by
  have hhigh := n.toNat_lt
  simp only [IntegerType.Fits, uint32]
  omega

lemma toNat_ofNat {n : Int} (h : uint32.Fits n) : ((UInt32.ofNat n.toNat).toNat : Int) = n := by
  simp only [IntegerType.Fits, uint32] at h
  rw [UInt32.toNat_ofNat_of_lt' (show n.toNat < 2 ^ 32 by omega)]
  omega

/-- A token is understood exactly if there is one of each part, and it has these parts. -/
lemma tokenOfParts?_eq_some_iff {kinds lines columns : List Int} {texts : List String} {t : Token} :
    tokenOfParts? kinds texts lines columns = some t ↔ kinds = [t.kind.toInt] ∧ texts = [t.text] ∧
      lines = [(t.position.line.toNat : Int)] ∧ columns = [(t.position.column.toNat : Int)] := by
  constructor
  · intro h
    unfold tokenOfParts? at h
    split at h
    · split at h
      · next hfits =>
          obtain ⟨hkind, hline, hcolumn⟩ := hfits
          cases h
          simp only [Kind.toInt_ofInt hkind.1 hkind.2, toNat_ofNat hline, toNat_ofNat hcolumn,
            and_self]
      · cases h
    · cases h
  · rintro ⟨rfl, rfl, rfl, rfl⟩
    rw [tokenOfParts?, if_pos ⟨fits_toInt _, fits_toNat _, fits_toNat _⟩]
    simp

/-! ### Writings of trees -/

/-- Neither the order of entries nor those that have no part of some sort matter, if there is one
such part at most. -/
lemma filterMap_of_perm {α β : Type} {f : α → Option β} {entries known others : List α}
    (h : entries.Perm (known ++ others)) (hothers : ∀ e ∈ others, f e = none)
    (hknown : (known.filterMap f).length ≤ 1) : entries.filterMap f = known.filterMap f := by
  have hparts := h.filterMap f
  rw [List.filterMap_append, List.filterMap_eq_nil_iff.mpr hothers, List.append_nil] at hparts
  match hparts' : known.filterMap f with
  | [] => exact List.perm_nil.mp (hparts' ▸ hparts)
  | [b] => exact List.perm_singleton.mp (hparts' ▸ hparts)
  | b :: b' :: bs => simp [hparts'] at hknown

lemma TokenEntry.of_unknown {e : TokenEntry} (h : e.name ∉ tokenNames) :
    e.kind? = none ∧ e.text? = none ∧ e.line? = none ∧ e.column? = none := by
  cases e with
  | other => exact ⟨rfl, rfl, rfl, rfl⟩
  | _ => exact absurd h (by simp [TokenEntry.name, tokenNames])

lemma RuleEntry.of_unknown {α : Type} {e : RuleEntry α} (h : e.name ∉ ruleNames) :
    e.label? = none ∧ e.nodes? = none := by
  cases e with
  | other => exact ⟨rfl, rfl⟩
  | _ => exact absurd h (by simp [RuleEntry.name, ruleNames])

lemma tokenOf?_of_perm {entries others : List TokenEntry} {t : Token}
    (h : entries.Perm (tokenEntries t ++ others)) (hothers : ∀ e ∈ others, e.name ∉ tokenNames) :
    tokenOf? entries = some t := by
  have hunknown e (he : e ∈ others) := TokenEntry.of_unknown (hothers e he)
  have hkinds := filterMap_of_perm h (fun e he => (hunknown e he).1) (Nat.le_refl 1)
  have htexts := filterMap_of_perm h (fun e he => (hunknown e he).2.1) (Nat.le_refl 1)
  have hlines := filterMap_of_perm h (fun e he => (hunknown e he).2.2.1) (Nat.le_refl 1)
  have hcolumns := filterMap_of_perm h (fun e he => (hunknown e he).2.2.2) (Nat.le_refl 1)
  rw [tokenOf?, hkinds, htexts, hlines, hcolumns]
  exact tokenOfParts?_eq_some_iff.mpr ⟨rfl, rfl, rfl, rfl⟩

lemma draftsTrees?_of_writes {nodes : List Draft} {ts : List Tree}
    (h : List.Forall₂ Draft.Writes nodes ts)
    (htree : ∀ d ∈ nodes, ∀ {t : Tree}, d.Writes t → d.tree? = some t) :
    draftsTrees? nodes = some ts := by
  induction h with
  | nil => rfl
  | cons hd _ ih =>
      rw [draftsTrees?, htree _ List.mem_cons_self hd,
        ih fun d hd => htree d (List.mem_cons_of_mem _ hd)]
      rfl

/-- **Writings are understood.** -/
theorem tree?_of_writes {d : Draft} : ∀ {t : Tree}, d.Writes t → d.tree? = some t := by
  induction d using Draft.induction with
  | token entries =>
      rintro _ ⟨h, hothers⟩
      rw [Draft.tree?, tokenOf?_of_perm h hothers]
      rfl
  | rule entries ih =>
      intro t h
      rw [Draft.tree?, childTrees_eq]
      cases h with
      | rule h hothers hnodes =>
          have hunknown e (he : e ∈ _) := RuleEntry.of_unknown (hothers e he)
          rw [filterMap_of_perm h (fun e he => (hunknown e he).1) (Nat.le_refl 1),
            filterMap_of_perm h (fun e he => (hunknown e he).2) (Nat.le_refl 1)]
          have hmem : .children _ ∈ entries :=
            h.mem_iff.mpr (List.mem_append_left _ (List.mem_cons_of_mem _ List.mem_cons_self))
          simp [List.filterMap_cons, RuleEntry.label?, RuleEntry.nodes?,
            draftsTrees?_of_writes hnodes (ih _ hmem), ruleOf?]
      | bare h hothers =>
          have hunknown e (he : e ∈ _) := RuleEntry.of_unknown (hothers e he)
          rw [filterMap_of_perm h (fun e he => (hunknown e he).1) (Nat.le_refl 1),
            filterMap_of_perm h (fun e he => (hunknown e he).2) (Nat.zero_le 1)]
          rfl

/-! ### Flaws -/

/-- A name occurs as often as there are parts of its sort. -/
lemma count_name {α β : Type} {f : α → Option β} {name : α → String} {n : String}
    (hf : ∀ e, (f e).isSome = true ↔ name e = n) (entries : List α) :
    (entries.map name).count n = (entries.filterMap f).length := by
  induction entries with
  | nil => rfl
  | cons e entries ih =>
      rw [List.map_cons, List.count_cons, ih, List.filterMap_cons]
      cases hpart : f e with
      | none =>
          have hname : name e ≠ n := fun h => by simpa [hpart] using (hf e).mpr h
          simp [hname]
      | some b =>
          have hname : name e = n := (hf e).mp (by simp [hpart])
          simp [hname]

lemma not_lacking {required known names : List String}
    (hrequired : ∀ n ∈ required, names.count n = 1)
    (hknown : ∀ n ∈ known, names.count n ≤ 1) : ¬ Lacking required known names := by
  rintro (⟨n, hn, hmissing⟩ | ⟨n, hn, htwice⟩)
  · have hone := hrequired n hn
    rw [List.count_eq_zero.mpr hmissing] at hone
    cases hone
  · exact Nat.not_lt.mpr (hknown n hn) htwice

lemma length_of_ruleOf? {labels : List String} {children : List (Option (List Tree))} {t : Tree}
    (h : ruleOf? labels children = some t) :
    labels.length = 1 ∧ children.length ≤ 1 ∧ none ∉ children := by
  unfold ruleOf? at h
  split at h <;> simp_all

/-- What a token entry holds is told by its name. -/
lemma TokenEntry.isSome_iff (e : TokenEntry) :
    (e.kind?.isSome = true ↔ e.name = "kind") ∧ (e.text?.isSome = true ↔ e.name = "text") ∧
      (e.line?.isSome = true ↔ e.name = "line") ∧
      (e.column?.isSome = true ↔ e.name = "column") := by
  cases e with
  | other name value unknown =>
      simp only [tokenNames, List.mem_cons, List.not_mem_nil, or_false, not_or] at unknown
      simp [TokenEntry.kind?, TokenEntry.text?, TokenEntry.line?, TokenEntry.column?,
        TokenEntry.name, unknown]
  | _ =>
      simp [TokenEntry.kind?, TokenEntry.text?, TokenEntry.line?, TokenEntry.column?,
        TokenEntry.name]

lemma RuleEntry.isSome_iff {α : Type} (e : RuleEntry α) :
    (e.label?.isSome = true ↔ e.name = "label") ∧
    (e.nodes?.isSome = true ↔ e.name = "children") := by
  cases e with
  | other name value unknown =>
      simp only [ruleNames, List.mem_cons, List.not_mem_nil, or_false, not_or] at unknown
      simp [RuleEntry.label?, RuleEntry.nodes?, RuleEntry.name, unknown]
  | _ => simp [RuleEntry.label?, RuleEntry.nodes?, RuleEntry.name]

lemma not_flawed_of_tree? {d : Draft} {t : Tree} (h : d.tree? = some t) : ¬ d.Flawed := by
  cases d with
  | token entries =>
      rw [Draft.tree?, Option.map_eq_some_iff] at h
      obtain ⟨token, htoken, -⟩ := h
      obtain ⟨hkind, htext, hline, hcolumn⟩ := tokenOfParts?_eq_some_iff.mp htoken
      apply not_lacking <;> simp [tokenNames, count_name fun e => (TokenEntry.isSome_iff e).1,
        count_name fun e => (TokenEntry.isSome_iff e).2.1,
        count_name fun e => (TokenEntry.isSome_iff e).2.2.1,
        count_name fun e => (TokenEntry.isSome_iff e).2.2.2, hkind, htext, hline, hcolumn]
  | rule entries =>
      rw [Draft.tree?, childTrees_eq] at h
      obtain ⟨hlabel, hchildren, -⟩ := length_of_ruleOf? h
      rw [← count_name fun e => e.isSome_iff.1] at hlabel
      rw [List.length_map, ← count_name fun e => e.isSome_iff.2] at hchildren
      apply not_lacking <;> simp [ruleNames, hlabel, hchildren]

lemma draftsTrees?_eq_none {nodes : List Draft} {d : Draft} (hd : d ∈ nodes) (h : d.tree? = none) :
    draftsTrees? nodes = none := by
  induction nodes with
  | nil => cases hd
  | cons d' nodes ih =>
      rw [draftsTrees?]
      rcases List.mem_cons.mp hd with rfl | hd
      · rw [h]
        rfl
      · simp [ih hd]

/-- **Flaws are noticed.** One flawed node is enough, however deep it is. -/
theorem tree?_of_flawed {n d : Draft} (hn : n.Within d) (h : n.Flawed) : d.tree? = none := by
  induction hn with
  | self =>
      rw [Option.eq_none_iff_forall_ne_some]
      exact fun t ht => not_flawed_of_tree? ht h
  | child _ hd hnodes ih =>
      rw [Option.eq_none_iff_forall_ne_some]
      intro t ht
      rw [Draft.tree?, childTrees_eq] at ht
      obtain ⟨-, -, hnone⟩ := length_of_ruleOf? ht
      refine hnone (List.mem_map.mpr ⟨_, List.mem_filterMap.mpr ⟨_, hnodes, rfl⟩, ?_⟩)
      exact draftsTrees?_eq_none hd ih

end ParseTree.Json
