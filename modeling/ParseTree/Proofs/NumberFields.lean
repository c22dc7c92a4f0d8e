import ParseTree.Proofs.Reading
import ParseTree.Proofs.Wrapping

/-!
# Numbers are read exactly

Three fields of a token hold numbers, and each is 32 bits wide.  In a document there may be an
integer of any size: one that fits in 64 bits but not in 32, and one that fits in no machine integer
and is a decimal fraction to the reader.  No such integer is taken for another one.

* **Fields** — `NumberField` names the three fields.  `tokenOf?_eq_some_iff`: entries make up a
  token if there is one entry for each field, with the number that the token has there.
* **Forms** — a `Form` is a draft in which one entry of one token is left open, at any depth.  If
  one number makes it a writing of a tree, then `tree?_fill_eq_some_iff` says what all others make
  it: the same tree up to this field, or nothing.
* **The whole** — `ofJson_number`.
-/

namespace ParseTree.Json

/-! ## Fields -/

/-- The fields of a token that hold numbers. -/
inductive NumberField
  | kind
  | line
  | column
deriving Repr, DecidableEq

namespace NumberField

/-- The numbers of the type of a field. -/
def InRange : NumberField → Int → Prop
  | .kind, n => -2147483648 ≤ n ∧ n ≤ 2147483647
  | .line, n => 0 ≤ n ∧ n ≤ 4294967295
  | .column, n => 0 ≤ n ∧ n ≤ 4294967295

/-- A field as it is written. -/
def entry : NumberField → Int → TokenEntry
  | .kind, n => .kind n
  | .line, n => .line n
  | .column, n => .column n

/-- The number that a token has in a field. -/
def value : NumberField → Token → Int
  | .kind, t => t.kind.toInt
  | .line, t => t.position.line.toNat
  | .column, t => t.position.column.toNat

/-- The token with another number in a field, which is in range. -/
def put : NumberField → Int → Token → Token
  | .kind, n, t => { t with kind := Int32.ofInt n }
  | .line, n, t => { t with position.line := UInt32.ofNat n.toNat }
  | .column, n, t => { t with position.column := UInt32.ofNat n.toNat }

/-- The number in an entry for a field. -/
def part? : NumberField → TokenEntry → Option Int
  | .kind => TokenEntry.kind?
  | .line => TokenEntry.line?
  | .column => TokenEntry.column?

variable {f g : NumberField} {n : Int} {t t' : Token}

@[simp] lemma part?_entry (f : NumberField) (n : Int) : f.part? (f.entry n) = some n := by
  cases f <;> rfl

lemma part?_entry_of_ne (h : g ≠ f) (n : Int) : g.part? (f.entry n) = none := by
  revert h
  cases f <;> cases g <;>
    simp [part?, entry, TokenEntry.kind?, TokenEntry.line?, TokenEntry.column?]

@[simp] lemma text?_entry (f : NumberField) (n : Int) : (f.entry n).text? = none := by
  cases f <;> rfl

lemma inRange_value (f : NumberField) (t : Token) : f.InRange (f.value t) := by
  cases f with
  | kind => exact fits_toInt _
  | line => exact fits_toNat _
  | column => exact fits_toNat _

lemma value_put (h : f.InRange n) (t : Token) : f.value (f.put n t) = n := by
  cases f with
  | kind => exact Kind.toInt_ofInt h.1 h.2
  | line => exact toNat_ofNat h
  | column => exact toNat_ofNat h

lemma value_put_of_ne (h : g ≠ f) (n : Int) (t : Token) : g.value (f.put n t) = g.value t := by
  revert h
  cases f <;> cases g <;> simp [value, put]

lemma text_put (f : NumberField) (n : Int) (t : Token) : (f.put n t).text = t.text := by
  cases f <;> rfl

/-- A token is told by its text and its numbers. -/
lemma token_ext (htext : t.text = t'.text) (h : ∀ f : NumberField, f.value t = f.value t') :
    t = t' := by
  have hkind : t.kind = t'.kind := Int32.toInt_inj.mp (h .kind)
  have hline : t.position.line = t'.position.line := UInt32.toNat_inj.mp (Int.ofNat.inj (h .line))
  have hcolumn : t.position.column = t'.position.column :=
    UInt32.toNat_inj.mp (Int.ofNat.inj (h .column))
  obtain ⟨kind, text, line, column⟩ := t
  obtain ⟨kind', text', line', column'⟩ := t'
  simp_all

end NumberField

/-- **Fields.**  Entries make up a token if they have its text and its numbers, each once. -/
theorem tokenOf?_eq_some_iff {entries : List TokenEntry} {t : Token} :
    tokenOf? entries = some t ↔ entries.filterMap TokenEntry.text? = [t.text] ∧
      ∀ f : NumberField, entries.filterMap f.part? = [f.value t] := by
  rw [tokenOf?, tokenOfParts?_eq_some_iff]
  constructor
  · rintro ⟨hkind, htext, hline, hcolumn⟩
    refine ⟨htext, fun f => ?_⟩
    cases f with
    | kind => exact hkind
    | line => exact hline
    | column => exact hcolumn
  · rintro ⟨htext, hparts⟩
    exact ⟨hparts .kind, htext, hparts .line, hparts .column⟩

section Entries

variable {f : NumberField} {m : Int} {before after : List TokenEntry} {token : Token}

/-- With another number for one field, entries make up the token with this number, if it is in
range. -/
lemma tokenOf?_entry_eq_some_iff (h : tokenOf? (before ++ f.entry m :: after) = some token)
    (n : Int) (t : Token) :
    tokenOf? (before ++ f.entry n :: after) = some t ↔ f.InRange n ∧ t = f.put n token := by
  obtain ⟨htext, hparts⟩ := tokenOf?_eq_some_iff.mp h
  have htext' : (before ++ f.entry n :: after).filterMap TokenEntry.text? = [token.text] := by
    rw [← htext]
    simp [List.filterMap_append]
  have hothers : ∀ g ≠ f, (before ++ f.entry n :: after).filterMap g.part? = [g.value token] := by
    intro g hg
    rw [← hparts g]
    simp [List.filterMap_append, NumberField.part?_entry_of_ne hg]
  have hfield : (before ++ f.entry n :: after).filterMap f.part? = [n] := by
    have hpart := hparts f
    simp only [List.filterMap_append, List.filterMap_cons_some (f.part?_entry _)] at hpart ⊢
    obtain ⟨hbefore, -, hafter⟩ :
        before.filterMap f.part? = [] ∧ m = f.value token ∧ after.filterMap f.part? = [] := by
      simpa [List.append_eq_singleton_iff] using hpart
    rw [hbefore, hafter, List.nil_append]
  rw [tokenOf?_eq_some_iff, htext']
  constructor
  · rintro ⟨hsame, hvalues⟩
    obtain rfl : n = f.value t := by simpa [hfield] using hvalues f
    refine ⟨f.inRange_value t, NumberField.token_ext ?_ fun g => ?_⟩
    · rw [f.text_put]
      exact (List.cons.inj hsame).1.symm
    · by_cases hg : g = f
      · rw [hg, NumberField.value_put (f.inRange_value t)]
      · rw [NumberField.value_put_of_ne hg]
        simpa [hothers g hg, eq_comm] using hvalues g
  · rintro ⟨hn, rfl⟩
    refine ⟨by rw [f.text_put], fun g => ?_⟩
    by_cases hg : g = f
    · rw [hg, hfield, NumberField.value_put hn]
    · rw [hothers g hg, NumberField.value_put_of_ne hg]

end Entries

/-! ## Forms -/

/-- A draft in which one entry of one token is left open, at any depth. -/
inductive Form
  | token (before after : List TokenEntry)
  | rule (before after : List (RuleEntry Draft)) (left right : List Draft) (inner : Form)

/-- The draft with this entry in the open place. -/
def Form.fill : Form → TokenEntry → Draft
  | .token before after, e => .token (before ++ e :: after)
  | .rule before after left right inner, e =>
    .rule (before ++ .children (left ++ inner.fill e :: right) :: after)

lemma ruleOf?_eq_some_iff {labels : List String} {children : List (Option (List Tree))} {t : Tree} :
    ruleOf? labels children = some t ↔ ∃ label, labels = [label] ∧
      ((children = [] ∧ t = .rule label []) ∨ ∃ ts, children = [some ts] ∧ t = .rule label ts) := by
  fun_cases ruleOf? labels children with
  | case1 label => simp [eq_comm]
  | case2 label ts => simp [eq_comm]
  | case3 _ _ hbare hfull =>
      refine iff_of_false (by simp) ?_
      rintro ⟨label, rfl, ⟨rfl, -⟩ | ⟨ts, rfl, -⟩⟩
      · exact hbare label rfl rfl
      · exact hfull label ts rfl rfl

lemma draftsTrees?_cons_eq_some_iff {d : Draft} {ds : List Draft} {ts : List Tree} :
    draftsTrees? (d :: ds) = some ts ↔ ∃ t rest, d.tree? = some t ∧ draftsTrees? ds = some rest ∧
      ts = t :: rest := by
  simp only [draftsTrees?, Option.bind_eq_some_iff, Option.map_eq_some_iff]
  constructor
  · rintro ⟨t, ht, rest, hrest, rfl⟩
    exact ⟨t, rest, ht, hrest, rfl⟩
  · rintro ⟨t, rest, ht, hrest, rfl⟩
    exact ⟨t, ht, rest, hrest, rfl⟩

/-- Of drafts side by side that stand for trees, one may be exchanged. -/
lemma draftsTrees?_exchange {left right : List Draft} {d : Draft} {ts : List Tree}
    (h : draftsTrees? (left ++ d :: right) = some ts) :
    ∃ lefts t rights, ts = lefts ++ t :: rights ∧ d.tree? = some t ∧
      ∀ (d' : Draft) (ts' : List Tree), draftsTrees? (left ++ d' :: right) = some ts' ↔
        ∃ t', d'.tree? = some t' ∧ ts' = lefts ++ t' :: rights := by
  induction left generalizing ts with
  | nil =>
      obtain ⟨t, rights, ht, hrights, rfl⟩ := draftsTrees?_cons_eq_some_iff.mp h
      refine ⟨[], t, rights, rfl, ht, fun d' ts' => ?_⟩
      simp [draftsTrees?_cons_eq_some_iff, hrights]
  | cons first left ih =>
      obtain ⟨t₀, rest, ht₀, hrest, rfl⟩ := draftsTrees?_cons_eq_some_iff.mp h
      obtain ⟨lefts, t, rights, rfl, ht, hexchange⟩ := ih hrest
      refine ⟨t₀ :: lefts, t, rights, rfl, ht, fun d' ts' => ?_⟩
      rw [List.cons_append, draftsTrees?_cons_eq_some_iff]
      simp only [hexchange, ht₀]
      constructor
      · rintro ⟨_, _, ⟨⟩, ⟨t', ht', rfl⟩, rfl⟩
        exact ⟨t', ht', rfl⟩
      · rintro ⟨t', ht', rfl⟩
        exact ⟨t₀, _, rfl, ⟨t', ht', rfl⟩, rfl⟩

/-- The same for what stands below a rule. -/
lemma tree?_rule_exchange {before after : List (RuleEntry Draft)} {nodes : List Draft} {t : Tree}
    (h : (Draft.rule (before ++ .children nodes :: after)).tree? = some t) :
    ∃ label ts, t = .rule label ts ∧
      draftsTrees? nodes = some ts ∧ ∀ (nodes' : List Draft) (t' : Tree),
        (Draft.rule (before ++ .children nodes' :: after)).tree? = some t'
          ↔ ∃ ts', draftsTrees? nodes' = some ts' ∧ t' = .rule label ts' := by
  have hlabels :
      ∀ nodes' : List Draft, (before ++ .children nodes' :: after).filterMap RuleEntry.label?
      = before.filterMap RuleEntry.label? ++ after.filterMap RuleEntry.label? := by
    intro nodes'
    rw [List.filterMap_append, List.filterMap_cons_none rfl]
  have hchildren : ∀ nodes' : List Draft, childTrees (before ++ .children nodes' :: after)
      = childTrees before ++ draftsTrees? nodes' :: childTrees after := by
    intro nodes'
    simp only [childTrees_eq, List.filterMap_append, List.filterMap_cons, RuleEntry.nodes?,
      List.map_append, List.map_cons]
  simp only [Draft.tree?, hlabels, hchildren, ruleOf?_eq_some_iff] at h ⊢
  obtain ⟨label, hlabel, ⟨hnil, -⟩ | ⟨ts, hts, rfl⟩⟩ := h
  · simp at hnil
  -- The rule has one entry for its children, so there is none on either side.
  obtain ⟨hbefore, hnodes, hafter⟩ :
      childTrees before = [] ∧ draftsTrees? nodes = some ts ∧ childTrees after = [] := by
    simpa [List.append_eq_singleton_iff] using hts
  refine ⟨label, ts, rfl, hnodes, fun nodes' t' => ?_⟩
  simp [hlabel, hbefore, hafter]

/-- **Forms.**  From one number that makes a form a writing it is seen what all others make it: the
same tree with another number in the field, if this is in range. -/
theorem tree?_fill_eq_some_iff {p : Form} {f : NumberField} {m : Int} {t : Tree}
    (h : (p.fill (f.entry m)).tree? = some t) :
    ∃ (around : Surroundings) (token : Token), around.fill (.token token) = t ∧ f.value token = m ∧
      ∀ (n : Int) (t' : Tree), (p.fill (f.entry n)).tree? = some t' ↔
        f.InRange n ∧ t' = around.fill (.token (f.put n token)) := by
  induction p generalizing t with
  | token before after =>
      rw [Form.fill, Draft.tree?, Option.map_eq_some_iff] at h
      obtain ⟨token, htoken, rfl⟩ := h
      refine ⟨.none, token, rfl, ?_, fun n t' => ?_⟩
      · obtain ⟨hm, hput⟩ := (tokenOf?_entry_eq_some_iff htoken m token).mp htoken
        rw [hput, NumberField.value_put hm]
      · rw [Form.fill, Draft.tree?, Option.map_eq_some_iff]
        simp only [tokenOf?_entry_eq_some_iff htoken, Surroundings.fill]
        constructor
        · rintro ⟨_, ⟨hn, rfl⟩, rfl⟩
          exact ⟨hn, rfl⟩
        · rintro ⟨hn, rfl⟩
          exact ⟨_, ⟨hn, rfl⟩, rfl⟩
  | rule before after left right inner ih =>
      obtain ⟨label, ts, rfl, hts, hrule⟩ := tree?_rule_exchange h
      obtain ⟨lefts, t, rights, rfl, ht, hsiblings⟩ := draftsTrees?_exchange hts
      obtain ⟨around, token, rfl, hvalue, hinner⟩ := ih ht
      refine ⟨.under label lefts around rights, token, rfl, hvalue, fun n t' => ?_⟩
      simp only [Form.fill, Surroundings.fill, hrule, hsiblings, hinner]
      constructor
      · rintro ⟨_, ⟨_, ⟨hn, rfl⟩, rfl⟩, rfl⟩
        exact ⟨hn, rfl⟩
      · rintro ⟨hn, rfl⟩
        exact ⟨_, ⟨_, ⟨hn, rfl⟩, rfl⟩, rfl⟩

/-! ## The whole -/

/-- **The whole.**  Let a document be a writing of a tree, with the number `m` in one field of a
token, and let any integer stand in its place.  Then a tree is read exactly if this integer is in
the range of the field.  It is the same tree but for the token, whose other fields are as before,
and which has this integer in the field. -/
theorem ofJson_number (p : Form) (f : NumberField) (m : Int) (t : Tree)
    (h : (p.fill (f.entry m)).Writes t) :
    ∃ (around : Surroundings) (token : Token), around.fill (.token token) = t ∧ f.value token = m ∧
      ∀ (n : Int) (text : String), Spaced (p.fill (f.entry n)).lexemes text.toList →
        ((∃ t', Tree.ofJson text = .ok t') ↔ f.InRange n) ∧
        ∀ t', Tree.ofJson text = .ok t' → ∃ token', t' = around.fill (.token token') ∧
          f.value token' = n ∧ token'.text = token.text ∧
          ∀ g ≠ f, g.value token' = g.value token := by
  obtain ⟨around, token, haround, hvalue, htree⟩ := tree?_fill_eq_some_iff (tree?_of_writes h)
  refine ⟨around, token, haround, hvalue, fun n text hspaced => ?_⟩
  obtain ⟨blanks, hblanks, hbegins⟩ := hspaced.begins
  by_cases hn : f.InRange n
  · have hread := ofJson_eq_ok_iff ((htree n _).mpr ⟨hn, rfl⟩) hbegins
    refine ⟨iff_of_true ⟨_, (hread _).mpr ⟨rfl, hblanks⟩⟩ hn, fun t' ht' => ?_⟩
    refine ⟨f.put n token, ((hread t').mp ht').1, NumberField.value_put hn token,
      f.text_put n token, fun g hg => ?_⟩
    exact NumberField.value_put_of_ne hg n token
  · have hnone : (p.fill (f.entry n)).tree? = none := by
      rw [Option.eq_none_iff_forall_ne_some]
      exact fun t' ht' => hn ((htree n t').mp ht').1
    obtain ⟨e, he⟩ := ofJson_of_tree?_eq_none hnone hbegins
    have hrefused : ∀ t', Tree.ofJson text ≠ .ok t' := fun t' ht' => by simp [he] at ht'
    refine ⟨iff_of_false ?_ hn, fun t' ht' => absurd ht' (hrefused t')⟩
    rintro ⟨t', ht'⟩
    exact hrefused t' ht'

/-- A token below a rule, with its column left open. -/
def columnForm : Form :=
  .rule [.label "S"] [] [] [] (.token [] [.line 1, .text "a", .kind 2])

/-- The largest column is read, and one that is larger by one is refused. -/
theorem ofJson_number_columnForm :
    (columnForm.fill (.column 0)).Writes (.rule "S" [.token ⟨2, "a", ⟨1, 0⟩⟩]) ∧
    (∃ t, Tree.ofJson ("\x7b\"rule\":\x7b\"label\":\"S\"," ++ "\"children\":[\x7b\"token\":\x7b" ++
      "\"column\":4294967295,\"line\":1," ++
      "\"text\":\"a\",\"kind\":2\x7d\x7d]\x7d\x7d") = .ok t) ∧
    ¬ ∃ t, Tree.ofJson ("\x7b\"rule\":\x7b\"label\":\"S\"," ++ "\"children\":[\x7b\"token\":\x7b" ++
      "\"column\":4294967296,\"line\":1," ++
      "\"text\":\"a\",\"kind\":2\x7d\x7d]\x7d\x7d") = .ok t := by
  have hwrites : (columnForm.fill (.column 0)).Writes (.rule "S" [.token ⟨2, "a", ⟨1, 0⟩⟩]) := by
    have htoken := List.reverse_perm (tokenEntries ⟨2, "a", ⟨1, 0⟩⟩ ++ [])
    exact .rule (.of_eq (List.append_nil _).symm) (by simp) (.cons (.token htoken (by simp)) .nil)
  have hspaced := fun n : Int =>
    spaced_text (show ∀ c ∈ [], isBlank c = true by simp)
      (columnForm.fill (NumberField.column.entry n)).lexemes
  obtain ⟨_, _, -, -, hread⟩ := ofJson_number columnForm .column 0 _ hwrites
  refine ⟨hwrites, (hread 4294967295 _ ?_).1.mpr ?_, mt (hread 4294967296 _ ?_).1.mp ?_⟩
  · convert hspaced 4294967295 using 1
    simp only [String.toList_append]
    decide +kernel
  · simp [NumberField.InRange]
  · convert hspaced 4294967296 using 1
    simp only [String.toList_append]
    decide +kernel
  · simp [NumberField.InRange]

end ParseTree.Json
