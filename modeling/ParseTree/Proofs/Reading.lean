import Mathlib.Data.List.TakeWhile
import ParseTree.Proofs.TokenReading
import ParseTree.Tree.Reader

/-!
# Reading drafts

The reader of trees comes to what a draft stands for.  By `Begins` and `Leads`, each lemma speaks of
whole texts and of texts that are cut short at once.

* **Children** — `children_begin`: the children of a rule are read one after the other if each of
  them is read whatever rules are waiting.
* **Rules** — `readRuleFields_begins`, by induction over the entries that are left, with the label
  and the children that have been found before.
* **Nodes** — `nodeReads`, by induction over drafts.
* **Documents** — `ofJson_eq_ok_iff`, `ofJson_of_tree?_eq_none` and `ofJson_cut`, and from the first
  two that neither the order of fields nor blanks nor other fields matter: `ofJson_spaced`.
-/

namespace ParseTree.Json

variable {rest : Option (List Char)} {ls : List Lexeme} {s : List Char}

/-! ## Nodes -/

lemma readNodes_after (t : Tree) (frame : Frame) (frames : List Frame) (s : List Char) :
    readNodes ⟨.after t, frame :: frames, s⟩ = (takeNext t frame frames s).bind readNodes := by
  rw [readNodes]
  split <;> simp [*, Except.bind]

lemma readNodes_node (frames : List Frame) (s : List Char) :
    readNodes ⟨.node, frames, s⟩ = (takeNode frames s).bind readNodes := by
  rw [readNodes]
  split <;> simp [*, Except.bind]

lemma readNodes_resume (form : RuleForm) (children : List Tree) (frames : List Frame)
    (s : List Char) :
    readNodes ⟨.resume form children, frames, s⟩ =
      (takeResumed form children frames s).bind readNodes := by
  rw [readNodes]
  split <;> simp [*, Except.bind]

/-- Goes on with a rule as far as it has been read. -/
def goOn (frames : List Frame) (r : RuleStage × List Char) : Reading Tree :=
  (takeRule frames r.1 r.2).bind readNodes

lemma readNodes_resume_object (label : Option String) (children : List Tree) (frames : List Frame)
    (s : List Char) :
    readNodes ⟨.resume (.object label) children, frames, s⟩ =
      (readRuleFields false label (some children) s).bind (goOn frames) := by
  rw [readNodes_resume, takeResumed, resumeRule]
  cases readRuleFields false label (some children) s <;> rfl

/-- The key of a sort of nodes. -/
def Variant.key : Variant → String
  | .token => "token"
  | .rule => "rule"

lemma readVariant_begins {variant : Variant}
    (h : Leads rest ls (some variant.key) (readString s) (fun text s => .ok (text, s))) :
    Leads rest ls (some variant) (readVariant s) (fun v s => .ok (v, s)) := by
  rw [readVariant]
  cases h with
  | reads hx hr hs =>
      cases hx
      refine .reads rfl ?_ hs
      rw [hr]
      cases variant <;> rfl
  | refuses hx => cases hx
  | runsOut hrest hr =>
      obtain ⟨fault, hr, hfault⟩ := hr
      rw [hr]
      exact .runsOut hrest (runsOut_error hfault)

lemma openNode_begins (variant : Variant) (nested : Bool)
    (h : Begins rest (.mark '\x7b' :: .scalar (.string variant.key) :: .mark ':' :: ls) s) :
    Leads rest ls (some variant) (openNode nested s) (fun v s => .ok (v, s)) := by
  rcases h.mark rfl with ⟨s', hs, hs'⟩ | ⟨hrest, hs⟩
  · rcases hs'.string with ⟨s'', hs', hkey⟩ | ⟨hrest, hs'⟩
    · have hopen : openNode nested s = (readVariant s'').bind fun r =>
          (readColon r.2).bind fun s => .ok (r.1, s) := by
        simp only [openNode, hs, hs']
        cases readVariant s'' <;> rfl
      rw [hopen]
      refine (readVariant_begins hkey).andThen fun s hs => ?_
      exact (readColon_begins hs).andThen fun s hs => .reads rfl rfl hs
    · simp only [openNode, hs, hs']
      exact .runsOut hrest (runsOut_error rfl)
  · rw [openNode, hs]
    exact .runsOut hrest (runsOut_error rfl)

lemma closeNode_begins (h : Begins rest (.mark '\x7d' :: ls) s) :
    Leads rest ls (some ()) (closeNode s) (fun _ s => .ok s) := by
  refine h.leads rfl (fun s' hs => ?_) (fun hs => ?_) <;> rw [closeNode, hs]
  · rfl
  · exact runsOut_error rfl

lemma openChildren_begins (h : Begins rest (.mark '[' :: ls) s) :
    Leads rest ls (some ()) (openChildren s) (fun _ s => .ok s) := by
  refine h.leads rfl (fun s' hs => ?_) (fun hs => ?_) <;> rw [openChildren, hs]
  · rfl
  · exact runsOut_error rfl

lemma takeNode_eq (frames : List Frame) (s : List Char) :
    takeNode frames s = (openNode (!frames.isEmpty) s).bind fun node =>
      match node.1 with
      | .token => (readToken node.2).bind fun r => takeRule frames (.complete (.token r.1)) r.2
      | .rule => (readRule node.2).bind fun r => takeRule frames r.1 r.2 := by
  rw [takeNode]
  cases openNode (!frames.isEmpty) s with
  | error fault => rfl
  | ok node =>
      obtain ⟨variant | variant, s⟩ := node
      · simp only [Except.bind]
        cases readToken s <;> rfl
      · simp only [Except.bind]
        cases readRule s <;> rfl

lemma takeRule_complete {t : Tree} (frames : List Frame) (h : Begins rest (.mark '\x7d' :: ls) s) :
    Leads rest ls (some t) (goOn frames (.complete t, s))
      (fun t s => readNodes ⟨.after t, frames, s⟩) := by
  have hgo : goOn frames (.complete t, s) =
      (closeNode s).bind fun s => readNodes ⟨.after t, frames, s⟩ := by
    simp only [goOn, takeRule]
    cases closeNode s <;> rfl
  rw [hgo]
  exact (closeNode_begins h).andThen fun s hs => .reads rfl rfl hs

/-! ### Children -/

/-- What a draft stands for is read, whatever rules are waiting for their children. -/
def NodeReads (rest : Option (List Char)) (d : Draft) : Prop :=
  ∀ (frames : List Frame) (ls : List Lexeme) (s : List Char), Begins rest (d.lexemes ++ ls) s →
    Leads rest ls d.tree? (readNodes ⟨.node, frames, s⟩)
      (fun t s => readNodes ⟨.after t, frames, s⟩)

lemma Draft.lexemes_head (d : Draft) : ∃ tail, d.lexemes = .mark '\x7b' :: tail := by
  cases d <;> exact ⟨_, rfl⟩

/-- The blanks in front of a node may be passed over. -/
lemma NodeReads.skipBlanks {d : Draft} (hd : NodeReads rest d) (frames : List Frame)
    (h : Begins rest (d.lexemes ++ ls) s) :
    (∃ s', skipBlanks s = '\x7b' :: s' ∧
      Leads rest ls d.tree? (readNodes ⟨.node, frames, '\x7b' :: s'⟩)
        (fun t s => readNodes ⟨.after t, frames, s⟩)) ∨ (rest = none ∧ Json.skipBlanks s = []) := by
  obtain ⟨tail, htail⟩ := d.lexemes_head
  rw [htail] at h
  rcases h.mark rfl with ⟨s', hs, hs'⟩ | ⟨hrest, hs⟩
  · refine Or.inl ⟨s', hs, hd frames ls _ ?_⟩
    rw [htail]
    exact hs'.mark_cons _
  · exact Or.inr ⟨hrest, hs⟩

lemma siblings_begin {nodes : List Draft} (hnodes : ∀ d ∈ nodes, NodeReads rest d) (t : Tree)
    (form : RuleForm) (done : List Tree) (frames : List Frame)
    (h : Begins rest (separated false (draftsLexemes nodes) ++ .mark ']' :: ls) s) :
    Leads rest ls (draftsTrees? nodes) (readNodes ⟨.after t, ⟨form, done⟩ :: frames, s⟩)
      (fun ts s => readNodes ⟨.resume form ((t :: done).reverse ++ ts), frames, s⟩) := by
  induction nodes generalizing t done s with
  | nil =>
      rw [readNodes_after]
      rcases Begins.mark rfl h with ⟨s', hs, hs'⟩ | ⟨hrest, hs⟩
      · refine .reads rfl ?_ hs'
        simp [takeNext, hs, Except.bind]
      · refine .runsOut hrest ?_
        rw [takeNext, hs]
        exact runsOut_error rfl
  | cons d nodes ih =>
      simp only [draftsLexemes, separated, comma, List.append_assoc] at h
      rcases Begins.mark rfl h with ⟨s', hs, hs'⟩ | ⟨hrest, hs⟩
      · rcases (hnodes d List.mem_cons_self).skipBlanks (⟨form, t :: done⟩ :: frames) hs' with
          ⟨s'', hs', hd⟩ | ⟨hrest, hs'⟩
        · have hnode : readNodes ⟨.after t, ⟨form, done⟩ :: frames, s⟩ =
              readNodes ⟨.node, ⟨form, t :: done⟩ :: frames, '\x7b' :: s''⟩ := by
            rw [readNodes_after]
            simp [takeNext, hs, hs', Except.bind]
          rw [hnode, draftsTrees?]
          refine hd.trans fun t' s _ hs => .convert (t' :: ·) ?_
          have hrest := ih (fun d hd => hnodes d (List.mem_cons_of_mem _ hd)) t' (t :: done) hs
          simpa using hrest
        · refine .runsOut hrest ?_
          rw [readNodes_after]
          simp only [takeNext, hs, hs']
          exact runsOut_error rfl
      · refine .runsOut hrest ?_
        rw [readNodes_after, takeNext, hs]
        exact runsOut_error rfl

/-- **Children.** From the bracket that opens them to the one that closes them. -/
lemma children_begin {nodes : List Draft} (hnodes : ∀ d ∈ nodes, NodeReads rest d) (form : RuleForm)
    (frames : List Frame)
    (h : Begins rest (separated true (draftsLexemes nodes) ++ .mark ']' :: ls) s) :
    Leads rest ls (draftsTrees? nodes) (goOn frames (.children form, s))
      (fun ts s => readNodes ⟨.resume form ts, frames, s⟩) := by
  rw [goOn]
  cases nodes with
  | nil =>
      rcases Begins.mark rfl h with ⟨s', hs, hs'⟩ | ⟨hrest, hs⟩
      · refine .reads rfl ?_ hs'
        simp [takeRule, hs, Except.bind]
      · refine .runsOut hrest ?_
        rw [takeRule, hs]
        exact runsOut_error rfl
  | cons d nodes =>
      simp only [draftsLexemes, separated, comma, List.append_assoc] at h
      rcases (hnodes d List.mem_cons_self).skipBlanks (⟨form, []⟩ :: frames) h with
        ⟨s', hs, hd⟩ | ⟨hrest, hs⟩
      · have hnode : (takeRule frames (.children form) s).bind readNodes =
            readNodes ⟨.node, ⟨form, []⟩ :: frames, '\x7b' :: s'⟩ := by
          simp [takeRule, hs, Except.bind]
        rw [hnode, draftsTrees?]
        refine hd.trans fun t s _ hs => .convert (t :: ·) ?_
        exact siblings_begin (fun d hd => hnodes d (List.mem_cons_of_mem _ hd)) t form [] frames hs
      · refine .runsOut hrest ?_
        rw [takeRule, hs]
        exact runsOut_error rfl

/-! ### Rules -/

/-- What follows the next key of a rule, or its end. -/
def afterKey (frames : List Frame) (label : Option String) (children : Option (List Tree))
    (key : Option String × List Char) : Reading Tree :=
  match key with
  | (none, s) =>
    match label with
    | none => .error (.before (.missingField .label) s)
    | some label => goOn frames (.complete (.rule label (children.getD [])), s)
  | (some name, s) =>
    match RuleField.ofName name with
    | .label =>
      if label.isSome then .error ⟨.duplicateField .label, some (closingPlace .object s)⟩
      else (readColon s).bind fun s => (readText s).bind fun r =>
        (readRuleFields false (some r.1) children r.2).bind (goOn frames)
    | .children =>
      if children.isSome then .error ⟨.duplicateField .children, some (closingPlace .object s)⟩
      else (readColon s).bind fun s => (openChildren s).bind fun s =>
        goOn frames (.children (.object label), s)
    | .other => (readColon s).bind fun s => (skipValue s).bind fun s =>
        (readRuleFields false label children s).bind (goOn frames)

lemma except_bind_assoc {ε α β γ : Type} (r : Except ε α) (f : α → Except ε β)
    (g : β → Except ε γ) :
    (r.bind f).bind g = r.bind fun a => (f a).bind g := by
  cases r <;> rfl

lemma readRuleFields_bind_goOn (frames : List Frame) (first : Bool) (label : Option String)
    (children : Option (List Tree)) (s : List Char) :
    (readRuleFields first label children s).bind (goOn frames) =
      (readKey first s).bind (afterKey frames label children) := by
  rw [readRuleFields]
  split
  · next hkey => rw [hkey]; rfl
  · next hkey =>
      rw [hkey]
      cases label <;> rfl
  · next name s' hkey =>
      rw [hkey]
      change _ = afterKey frames label children (some name, s')
      cases hfield : RuleField.ofName name with
      | label =>
          simp only [afterKey, hfield]
          split
          · rfl
          · rw [← except_bind_assoc]
            split
            · next hread => rw [hread]; rfl
            · next hread => rw [hread]; rfl
      | children =>
          simp only [afterKey, hfield]
          split
          · rfl
          · rw [← except_bind_assoc]
            cases (readColon s').bind openChildren <;> rfl
      | other =>
          simp only [afterKey, hfield]
          rw [← except_bind_assoc]
          split
          · next hread => rw [hread]; rfl
          · next hread => rw [hread]; rfl

/-- What follows the children of a rule matters only if all of them can be read. -/
lemma bind_ruleOf? (labels : List String) (ts? : Option (List Tree))
    (later : List (Option (List Tree))) :
    (ts?.bind fun ts => ruleOf? labels (some ts :: later)) = ruleOf? labels (ts? :: later) := by
  cases ts? with
  | some ts => rfl
  | none =>
      refine (Option.eq_none_iff_forall_ne_some.mpr ?_).symm
      intro t ht
      exact (length_of_ruleOf? ht).2.2 List.mem_cons_self

/-- **Entries of rules.** The label and the children that have been found count with those to
come. -/
lemma readRuleFields_begins {entries : List (RuleEntry Draft)}
    (hnodes : ∀ nodes, .children nodes ∈ entries → ∀ d ∈ nodes, NodeReads rest d)
    (hfirm : rest = none → ∀ e ∈ entries, e.name ∈ ruleNames) (frames : List Frame) {first : Bool}
    (label : Option String) (children : Option (List Tree))
    (h : Begins rest (separated first (ruleEntriesLexemes entries) ++
      .mark '\x7d' :: .mark '\x7d' :: ls) s) :
    Leads rest ls
      (ruleOf? (label.toList ++ entries.filterMap RuleEntry.label?)
        (children.toList.map some ++ childTrees entries))
      ((readRuleFields first label children s).bind (goOn frames))
      (fun t s => readNodes ⟨.after t, frames, s⟩) := by
  induction entries generalizing first label children s with
  | nil =>
      rw [readRuleFields_bind_goOn]
      refine (readKey_close first h).andThen fun s hs => ?_
      cases label with
      | none => exact .refuses rfl ⟨_, rfl⟩
      | some label =>
          have hclose := takeRule_complete (t := .rule label (children.getD [])) frames hs
          cases children <;> exact hclose
  | cons e entries ih =>
      have hnodes' nodes (hmem : .children nodes ∈ entries) :=
        hnodes nodes (List.mem_cons_of_mem e hmem)
      have hfirm' hrest (e' : RuleEntry Draft) (he : e' ∈ entries) :=
        hfirm hrest e' (List.mem_cons_of_mem e he)
      simp only [ruleEntriesLexemes, separated, entryLexemes, List.append_assoc,
        List.cons_append] at h
      rw [readRuleFields_bind_goOn]
      refine (readKey_begins h).andThen fun s hs => ?_
      cases e with
      | label x =>
          cases label with
          | some label => exact .refuses (by cases children <;> rfl) ⟨_, rfl⟩
          | none =>
              refine (readColon_begins hs).andThen fun s hs => ?_
              refine (readText_begins hs).andThen fun s hs => ?_
              exact ih hnodes' hfirm' (some x) children hs
      | children nodes =>
          cases children with
          | some ts =>
              refine .refuses ?_ ⟨_, rfl⟩
              rw [Option.eq_none_iff_forall_ne_some]
              intro t ht
              have hone := (length_of_ruleOf? ht).2.1
              simp [childTrees] at hone
          | none =>
              refine (readColon_begins hs).andThen fun s hs => ?_
              simp only [ruleValueLexemes, List.append_assoc, List.cons_append] at hs
              refine (openChildren_begins hs).andThen fun s hs => ?_
              simp only [childTrees, List.filterMap_cons, RuleEntry.label?, Option.toList_none,
                List.map_nil, List.nil_append]
              rw [← bind_ruleOf?]
              refine (children_begin (hnodes nodes List.mem_cons_self) (.object label) frames
                hs).trans
                fun ts s _ hs => ?_
              rw [readNodes_resume_object]
              exact ih hnodes' hfirm' label (some ts) hs
      | other name value unknown fits =>
          cases rest with
          | none => exact absurd (hfirm rfl _ List.mem_cons_self) unknown
          | some after =>
              have hname : RuleField.ofName name = .other := by
                simp only [ruleNames, List.mem_cons, List.not_mem_nil, or_false, not_or] at unknown
                simp [RuleField.ofName, Field.name, unknown]
              simp only [afterKey, RuleEntry.name, hname]
              refine (readColon_begins hs).andThen fun s hs => ?_
              obtain ⟨s', hskip, hs'⟩ := skipValue_begins hs (closes_separated _ _)
              rw [hskip]
              exact ih hnodes' hfirm' label children hs'

/-! ### Whole drafts -/

/-- A draft that may be cut short: at every node there are only entries that the reader asks for,
and all numbers are in range. -/
def Draft.Firm (d : Draft) : Prop :=
  (∀ entries, Draft.Within (.token entries) d → ∀ e ∈ entries, e.Firm) ∧
    ∀ entries, Draft.Within (.rule entries) d → ∀ e ∈ entries, e.name ∈ ruleNames

lemma Draft.Firm.child {nodes : List Draft} {entries : List (RuleEntry Draft)} {d : Draft}
    (h : (Draft.rule entries).Firm) (hnodes : .children nodes ∈ entries) (hd : d ∈ nodes) :
    d.Firm :=
  ⟨fun es hes => h.1 es (hes.child hd hnodes), fun es hes => h.2 es (hes.child hd hnodes)⟩

/-- **Nodes.** A draft is read as what it stands for, whole or cut short, whatever rules are waiting
for their children. -/
theorem nodeReads {d : Draft} (hfirm : rest = none → d.Firm) : NodeReads rest d := by
  induction d using Draft.induction with
  | token entries =>
      intro frames ls s h
      simp only [Draft.lexemes, nodeLexemes, List.cons_append, List.append_assoc,
        List.nil_append] at h
      rw [readNodes_node, takeNode_eq, except_bind_assoc]
      refine (openNode_begins .token _ h).andThen fun s hs => ?_
      rw [Draft.tree?, Option.map_eq_bind, except_bind_assoc]
      refine (readToken_begins (fun hrest => (hfirm hrest).1 entries (.self _)) hs).bind
        fun t s _ hs => ?_
      exact takeRule_complete frames hs
  | rule entries ih =>
      intro frames ls s h
      simp only [Draft.lexemes, nodeLexemes, List.cons_append, List.append_assoc,
        List.nil_append] at h
      rw [readNodes_node, takeNode_eq, except_bind_assoc]
      refine (openNode_begins .rule _ h).andThen fun s hs => ?_
      rw [except_bind_assoc]
      rcases hs.mark rfl with ⟨s', hs, hs'⟩ | ⟨hrest, hs⟩
      · have hread : readRule s = readRuleFields true none none s' := by
          rw [readRule, hs]
          rfl
        rw [hread, Draft.tree?]
        refine readRuleFields_begins ?_ ?_ frames none none hs'
        · exact fun nodes hnodes d hd => ih nodes hnodes d hd fun hrest => (hfirm hrest).child
            hnodes hd
        · exact fun hrest => (hfirm hrest).2 entries (.self _)
      · refine .runsOut hrest ?_
        rw [readRule, hs]
        exact runsOut_error rfl

/-! ## Documents -/

lemma readNodes_done (t : Tree) (s : List Char) : readNodes ⟨.after t, [], s⟩ = .ok (t, s) := by
  rw [readNodes]

lemma readNodes_begins {d : Draft} (hfirm : rest = none → d.Firm) (h : Begins rest d.lexemes s) :
    Leads rest [] d.tree? (readNodes ⟨.node, [], s⟩) (fun t s => .ok (t, s)) := by
  have hread := nodeReads hfirm [] [] s (by rwa [List.append_nil])
  simpa only [readNodes_done] using hread

lemma skipBlanks_eq_nil_iff : skipBlanks s = [] ↔ ∀ c ∈ s, isBlank c = true :=
  List.dropWhile_eq_nil_iff

variable {d : Draft} {text : String} {after : List Char}

/-- **Documents.** What follows a draft that stands for a tree has to be blank. -/
theorem ofJson_eq_ok_iff {t : Tree} (ht : d.tree? = some t)
    (h : Begins (some after) d.lexemes text.toList) (t' : Tree) :
    Tree.ofJson text = .ok t' ↔ t' = t ∧ ∀ c ∈ after, isBlank c = true := by
  cases readNodes_begins (fun hrest => by cases hrest) h with
  | reads hx hr hs =>
      rw [ht] at hx
      cases hx
      cases hs
      rw [← skipBlanks_eq_nil_iff]
      simp only [Tree.ofJson, readDocument, hr]
      cases skipBlanks after with
      | nil => simp [eq_comm]
      | cons c s => simp
  | refuses hx =>
      rw [ht] at hx
      cases hx
  | runsOut hrest => cases hrest

/-- A draft that stands for no tree is refused. -/
theorem ofJson_of_tree?_eq_none (ht : d.tree? = none)
    (h : Begins (some after) d.lexemes text.toList) : ∃ e, Tree.ofJson text = .error e := by
  cases readNodes_begins (fun hrest => by cases hrest) h with
  | reads hx =>
      rw [ht] at hx
      cases hx
  | refuses hx hr =>
      obtain ⟨fault, hr⟩ := hr
      simp only [Tree.ofJson, readDocument, hr]
      exact ⟨_, rfl⟩
  | runsOut hrest => cases hrest

/-- Of a draft that is cut short the reader meets the end. -/
theorem ofJson_cut {t : Tree} (ht : d.tree? = some t) (hfirm : d.Firm)
    (h : Begins none d.lexemes text.toList) :
    ∃ e, Tree.ofJson text = .error e ∧ e.cause.category = .eof := by
  cases readNodes_begins (fun _ => hfirm) h with
  | reads hx hr hs => cases hs
  | refuses hx =>
      rw [ht] at hx
      cases hx
  | runsOut hrest hr =>
      obtain ⟨fault, hr, hfault⟩ := hr
      simp only [Tree.ofJson, readDocument, hr]
      exact ⟨_, rfl, hfault⟩

/-- **Any order, any blanks, any other fields.** A writing of a tree is read as that tree, and what
is flawed at some node, however deep, is refused. -/
theorem ofJson_spaced (h : Spaced d.lexemes text.toList) :
    (∀ t, d.Writes t → Tree.ofJson text = .ok t) ∧
      ∀ n : Draft, n.Within d → n.Flawed → ∃ e, Tree.ofJson text = .error e := by
  obtain ⟨blanks, hblanks, hbegins⟩ := h.begins
  refine ⟨fun t ht => ?_, fun n hn hflawed => ?_⟩
  · exact (ofJson_eq_ok_iff (tree?_of_writes ht) hbegins t).mpr ⟨rfl, hblanks⟩
  · exact ofJson_of_tree?_eq_none (tree?_of_flawed hn hflawed) hbegins

/-- A rule and a token that are written backwards, after fields that mean nothing there. -/
def shuffledDraft : Draft :=
  .rule (List.reverse [.label "S",
    .children [
      .token (List.reverse (tokenEntries ⟨-5, "a", ⟨1, 2⟩⟩ ++
        [.other "label" (.boolean true) (by decide) trivial])),
      .rule [.label "E"]],
    .other "note" .null (by decide) trivial])

/-- A token without a column, below a rule. -/
def maimedDraft : Draft :=
  .rule [.label "S", .children [.token [.kind 1, .text "b", .line 3]]]

theorem ofJson_spaced_shuffledDraft :
    Tree.ofJson (" \x7b \"rule\" : \x7b" ++ " \"note\" : null ," ++ " \"children\" : [" ++
        " \x7b \"token\" : \x7b" ++ " \"label\" : true ," ++ " \"column\" : 2 ," ++
        " \"line\" : 1 ," ++ " \"text\" : \"a\" ," ++ " \"kind\" : -5 \x7d \x7d ," ++
        " \x7b \"rule\" : \x7b" ++ " \"label\" : \"E\" \x7d \x7d ] ," ++
        " \"label\" : \"S\" \x7d \x7d")
      = .ok (.rule "S" [.token ⟨-5, "a", ⟨1, 2⟩⟩, .rule "E" []]) ∧
    ∃ e, Tree.ofJson ("\x7b\"rule\":\x7b\"label\":\"S\"," ++ "\"children\":[\x7b\"token\":\x7b" ++
        "\"kind\":1,\"text\":\"b\"," ++ "\"line\":3\x7d\x7d]\x7d\x7d") = .error e := by
  constructor
  · refine (ofJson_spaced (d := shuffledDraft) ?_).1 _ ?_
    · have hspaced :=
        spaced_text (show ∀ c ∈ [' '], isBlank c = true by simp [isBlank]) shuffledDraft.lexemes
      convert hspaced using 1
      simp only [String.toList_append]
      decide +kernel
    · refine .rule (List.reverse_perm _) ?_ (.cons (.token (List.reverse_perm _) ?_)
        (.cons (.bare (List.Perm.refl _) ?_) .nil))
      · simp [RuleEntry.name, ruleNames]
      · simp [TokenEntry.name, tokenNames]
      · simp
  · refine (ofJson_spaced (d := maimedDraft) ?_).2 (.token [.kind 1, .text "b", .line 3]) ?_ ?_
    · have hspaced := spaced_text (show ∀ c ∈ [], isBlank c = true by simp) maimedDraft.lexemes
      convert hspaced using 1
      simp only [String.toList_append]
      decide +kernel
    · exact (Draft.Within.self _).child List.mem_cons_self
        (List.mem_cons_of_mem _ List.mem_cons_self)
    · exact Or.inl ⟨"column", by decide, by decide⟩

end ParseTree.Json
