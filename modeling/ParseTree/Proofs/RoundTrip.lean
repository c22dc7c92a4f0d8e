import ParseTree.Proofs.Events
import ParseTree.Proofs.Reading

/-!
# Written trees are read back

The writer puts down a tree as one of its drafts, the `plainDraft`, without blanks.

* **Writing** — `toList_toJson`: the text is made of the lexemes of that draft and nothing else.
* **Reading back** — `ofJson_toJson`: the tree is read back from the text.
* **One complete value** — `ofJson_complete`: a text that is cut short anywhere is told from a wrong
  one, and nothing but blanks may follow a whole one.
-/

namespace ParseTree.Json

/-! ## Plain drafts -/

mutual

/-- A tree with its fields in the usual order and no others. -/
def plainDraft : Tree → Draft
  | .token t => .token (tokenEntries t)
  | .rule label children => .rule [.label label, .children (plainDrafts children)]

def plainDrafts : List Tree → List Draft
  | [] => []
  | t :: ts => plainDraft t :: plainDrafts ts

end

lemma writes_plainDrafts (ts : List Tree) : List.Forall₂ Draft.Writes (plainDrafts ts) ts := by
  induction ts using Tree.forest_induction with
  | nil => exact .nil
  | token t rest ih => exact .cons (.token (.of_eq (List.append_nil _).symm) (by simp)) ih
  | rule label kids rest ihkids ih =>
      exact .cons (.rule (.of_eq (List.append_nil _).symm) (by simp) ihkids) ih

lemma tree?_plainDraft (t : Tree) : (plainDraft t).tree? = some t := by
  have hwrites := writes_plainDrafts [t]
  cases hwrites with
  | cons ht _ => exact tree?_of_writes ht

lemma Draft.Firm.rule {entries : List (RuleEntry Draft)}
    (hentries : ∀ e ∈ entries, e.name ∈ ruleNames)
    (hnodes : ∀ nodes, .children nodes ∈ entries → ∀ d ∈ nodes, d.Firm) :
    (Draft.rule entries).Firm := by
  constructor
  · intro es hes
    cases hes with
    | child hes hd hmem => exact (hnodes _ hmem _ hd).1 es hes
  · intro es hes
    cases hes with
    | self => exact hentries
    | child hes hd hmem => exact (hnodes _ hmem _ hd).2 es hes

lemma firm_token (t : Token) : (Draft.token (tokenEntries t)).Firm := by
  constructor
  · rintro entries ⟨⟩
    simp [tokenEntries, TokenEntry.Firm, fits_toInt, fits_toNat]
  · rintro entries ⟨⟩

lemma firm_plainDrafts (ts : List Tree) : ∀ d ∈ plainDrafts ts, d.Firm := by
  induction ts using Tree.forest_induction with
  | nil => simp [plainDrafts]
  | token t rest ih => exact List.forall_mem_cons.mpr ⟨firm_token t, ih⟩
  | rule label kids rest ihkids ih =>
      refine List.forall_mem_cons.mpr ⟨.rule ?_ ?_, ih⟩
      · simp [RuleEntry.name, ruleNames]
      · intro nodes hnodes
        obtain rfl : nodes = plainDrafts kids := by simpa using hnodes
        exact ihkids

lemma firm_plainDraft (t : Tree) : (plainDraft t).Firm :=
  firm_plainDrafts [t] _ List.mem_cons_self

/-! ## Writing -/

/-- What lexemes look like without blanks. -/
def plainText (ls : List Lexeme) : List Char := ls.flatMap Lexeme.text

@[simp]
lemma plainText_append (ls ls' : List Lexeme) :
    plainText (ls ++ ls') = plainText ls ++ plainText ls' :=
  List.flatMap_append

lemma toList_writeString (text : String) :
    (writeString text).toList = plainText [.scalar (.string text)] := by
  simp [writeString, plainText, Lexeme.text, Scalar.text]

lemma toList_text (k : Kind) : k.text.toList = plainText [.scalar (.integer k.toInt)] := by
  rw [Kind.text]
  cases hk : k.toInt <;> simp [plainText, Lexeme.text, Scalar.text, integerText]

lemma toList_repr (n : Nat) : n.repr.toList = plainText [.scalar (.integer n)] := by
  simp [plainText, Lexeme.text, Scalar.text, integerText]

lemma toList_writeToken (t : Token) :
    (writeToken t).toList = plainText (Draft.token (tokenEntries t)).lexemes := by
  have hkind : "\x7b\"token\":\x7b\"kind\":".toList = plainText
      [.mark '\x7b', .scalar (.string "token"), .mark ':', .mark '\x7b', .scalar (.string "kind"),
        .mark ':'] := rfl
  have htext : ",\"text\":".toList =
      plainText [.mark ',', .scalar (.string "text"), .mark ':'] := rfl
  have hline : ",\"line\":".toList =
      plainText [.mark ',', .scalar (.string "line"), .mark ':'] := rfl
  have hcolumn : ",\"column\":".toList =
      plainText [.mark ',', .scalar (.string "column"), .mark ':'] := rfl
  have hend : "\x7d\x7d".toList = plainText [.mark '\x7d', .mark '\x7d'] := rfl
  -- Its equation would be checked by evaluating strings.
  delta writeToken
  simp only [String.toList_append, hkind, htext, hline, hcolumn, hend, toList_text, toList_repr,
    toList_writeString, ← plainText_append]
  simp [Draft.lexemes, nodeLexemes, tokenEntries, TokenEntry.lexemes, entryLexemes, TokenEntry.name,
    TokenEntry.value, separated, comma]

lemma toList_writeRuleStart (label : String) :
    (writeRuleStart label).toList = plainText
      [.mark '\x7b', .scalar (.string "rule"), .mark ':', .mark '\x7b', .scalar (.string "label"),
        .mark ':', .scalar (.string label), .mark ',', .scalar (.string "children"), .mark ':',
        .mark '['] := by
  have hlabel : "\x7b\"rule\":\x7b\"label\":".toList = plainText
      [.mark '\x7b', .scalar (.string "rule"), .mark ':', .mark '\x7b', .scalar (.string "label"),
        .mark ':'] := rfl
  have hchildren : ",\"children\":[".toList =
      plainText [.mark ',', .scalar (.string "children"), .mark ':', .mark '['] := rfl
  delta writeRuleStart
  simp only [String.toList_append, hlabel, hchildren, toList_writeString, ← plainText_append,
    List.cons_append, List.nil_append]

lemma toList_putNode (w : Writer) (node : String) :
    (w.putNode node).toList = w.text.toList ++ plainText (comma w.first) ++ node.toList := by
  rw [Writer.putNode]
  cases w.first <;> simp [comma, plainText, Lexeme.text]

/-- Trees side by side are written with commas in between, after what has been written before. -/
lemma foldl_write_events (ts : List Tree) (w : Writer) :
    ((ts.flatMap Tree.events).foldl Writer.write w).text.toList =
        w.text.toList ++ plainText (separated w.first (draftsLexemes (plainDrafts ts))) ∧
      ((ts.flatMap Tree.events).foldl Writer.write w).first = (w.first && ts.isEmpty) := by
  induction ts using Tree.forest_induction generalizing w with
  | nil => simp [plainDrafts, draftsLexemes, separated, plainText]
  | token t rest ih =>
      obtain ⟨htext, hfirst⟩ := ih (w.write (.token t))
      rw [List.flatMap_cons, Tree.events_token, List.singleton_append, List.foldl_cons]
      refine ⟨?_, by simpa [Writer.write] using hfirst⟩
      rw [htext]
      simp only [Writer.write, toList_putNode, toList_writeToken, plainDrafts, plainDraft,
        draftsLexemes, separated, plainText_append, List.append_assoc]
  | rule label kids rest ihkids ih =>
      rw [List.flatMap_cons, Tree.events_rule, List.cons_append, List.foldl_cons, List.append_assoc,
        List.foldl_append, List.singleton_append, List.foldl_cons]
      obtain ⟨hkids, -⟩ := ihkids (w.write (.start label))
      set inner := (kids.flatMap Tree.events).foldl Writer.write (w.write (.start label))
      obtain ⟨htext, hfirst⟩ := ih (inner.write .finish)
      refine ⟨?_, by simpa [Writer.write] using hfirst⟩
      have hend : writeRuleEnd.toList = plainText [.mark ']', .mark '\x7d', .mark '\x7d'] := rfl
      rw [htext]
      simp only [Writer.write, String.toList_append, hkids, hend, toList_putNode,
        toList_writeRuleStart]
      simp [plainDrafts, plainDraft, draftsLexemes, Draft.lexemes, nodeLexemes, ruleEntriesLexemes,
        ruleValueLexemes, entryLexemes, RuleEntry.name, separated, comma, ← plainText_append]

lemma toList_toJson (t : Tree) : t.toJson.toList = plainText (plainDraft t).lexemes := by
  have hwritten := (foldl_write_events [t] {}).1
  simpa [Tree.toJson, plainDrafts, draftsLexemes, separated, comma] using hwritten

lemma begins_toJson (t : Tree) (after : List Char) :
    Begins (some after) (plainDraft t).lexemes (t.toJson.toList ++ after) := by
  rw [toList_toJson]
  exact begins_text _ after

end ParseTree.Json

namespace ParseTree

open Json

/-! ## Reading back -/

/-- **Reading back.** From the text that is written for a tree the same tree is read. -/
theorem Tree.ofJson_toJson (t : Tree) : Tree.ofJson t.toJson = .ok t := by
  have hbegins := begins_toJson t []
  rw [List.append_nil] at hbegins
  exact (ofJson_eq_ok_iff (tree?_plainDraft t) hbegins t).mpr ⟨rfl, by simp⟩

/-- **One complete value.** A text that is cut short is refused because it ends too early, wherever
it is cut; and a text that goes on is read only if it goes on with blanks. -/
theorem Tree.ofJson_complete (t : Tree) :
    (∀ p q : String, p ++ q = t.toJson → q ≠ "" →
      ∃ e, Tree.ofJson p = .error e ∧ e.cause.category = .eof) ∧
    ∀ (s : String) (t' : Tree), Tree.ofJson (t.toJson ++ s) = .ok t' ↔
      t' = t ∧ ∀ c ∈ s.toList, c = ' ' ∨ c = '\n' ∨ c = '\t' ∨ c = '\r' := by
  constructor
  · intro p q hcut hq
    have hbegins := begins_toJson t []
    rw [List.append_nil, ← hcut, String.toList_append] at hbegins
    have hlength : 0 < q.toList.length := List.length_pos_of_ne_nil (by simpa using hq)
    exact ofJson_cut (tree?_plainDraft t) (firm_plainDraft t) (hbegins.cut hlength)
  · intro s t'
    have hbegins := begins_toJson t s.toList
    rw [← String.toList_append] at hbegins
    rw [ofJson_eq_ok_iff (tree?_plainDraft t) hbegins t']
    simp [isBlank, or_assoc]

/-- A token is cut short after the first digit of a number, and followed by blanks. -/
theorem Tree.ofJson_complete_token :
    (∃ e, Tree.ofJson "\x7b\"token\":\x7b\"kind\":1" = .error e ∧ e.cause.category = .eof) ∧
      Tree.ofJson ((Tree.token ⟨12, "a", ⟨1, 0⟩⟩).toJson ++ " \n")
        = .ok (.token ⟨12, "a", ⟨1, 0⟩⟩) := by
  constructor
  · refine (Tree.ofJson_complete (.token ⟨12, "a", ⟨1, 0⟩⟩)).1 _
      ("2,\"text\":\"a\",\"line\":" ++ "1,\"column\":0\x7d\x7d") ?_ ?_
    · rw [← String.toList_inj, toList_toJson, String.toList_append, String.toList_append]
      decide +kernel
    · decide
  · exact ((Tree.ofJson_complete _).2 " \n" _).mpr ⟨rfl, by simp⟩

end ParseTree
