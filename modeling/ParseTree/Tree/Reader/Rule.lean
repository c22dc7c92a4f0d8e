import ParseTree.Json.Typed
import ParseTree.Tree.Basic

/-!
# Reading a rule

A rule is an object with the fields `label` and `children`, in any order, or a list of the two.  The
children may be left out, and fields of other names are passed over.

Reading a rule stops where its children begin.  What it stops with, a `RuleForm`, says how the rule
is to be gone on with when they have ended; so the reader of nodes can keep the rules that are
waiting for their children in a list.
-/

namespace ParseTree.Json

/-! ## Stages -/

/-- How a rule is to be gone on with when its children have ended. -/
inductive RuleForm
  /-- As an object, with the label if it stands before the children. -/
  | object (label : Option String)
  /-- As a list that begins with the label. -/
  | list (label : String)
deriving Repr

/-- How far reading a rule has come. -/
inductive RuleStage
  /-- The bracket of its children has been opened. -/
  | children (form : RuleForm)
  /-- The rule has ended. -/
  | complete (t : Tree)
deriving Repr

/-- The opening bracket of the children. -/
def openChildren (s : List Char) : Except Fault (List Char) :=
  match skipBlanks s with
  | [] => .error (.after .endInValue [])
  | c :: rest => if c = '[' then .ok rest else .error (wrongType .sequence (c :: rest))

theorem openChildren_length_lt {s r : List Char} (h : openChildren s = .ok r) :
    r.length < s.length := by
  unfold openChildren at h
  split at h
  · cases h
  · next c rest hskip =>
    split at h
    · cases h
      exact length_lt_of_skipBlanks hskip
    · cases h

/-- Opening the children leaves a shorter rest. -/
theorem openChildren_map_length_lt {s r : List Char} {form : RuleForm} {stage : RuleStage}
    (h : (openChildren s).map (RuleStage.children form, ·) = .ok (stage, r)) :
    r.length < s.length := by
  obtain ⟨rest, hopen, hrest⟩ := exists_of_map_ok h
  cases hrest
  exact openChildren_length_lt hopen

/-- What the name of a field of a rule calls for. -/
inductive RuleField
  | label
  | children
  | other
deriving Repr, DecidableEq

/-- The field of a rule with this name. -/
def RuleField.ofName (name : String) : RuleField :=
  if name = Field.label.name then .label
  else if name = Field.children.name then .children
  else .other

/-- The fields of a rule in object form, up to its children or the end of the object. -/
def readRuleFields (first : Bool) (label : Option String) (children : Option (List Tree))
    (s : List Char) : Reading RuleStage :=
  match _h : readKey first s with
  | .error fault => .error fault
  | .ok (none, rest) =>
    match label with
    | none => .error (.before (.missingField .label) rest)
    | some label => .ok (.complete (.rule label (children.getD [])), rest)
  | .ok (some name, rest) =>
    match RuleField.ofName name with
    | .label =>
      if label.isSome then .error ⟨.duplicateField .label, some (closingPlace .object rest)⟩
      else
        match _h' : (readColon rest).bind readText with
        | .error fault => .error fault
        | .ok (label, rest) => readRuleFields false (some label) children rest
    | .children =>
      if children.isSome then .error ⟨.duplicateField .children, some (closingPlace .object rest)⟩
      else ((readColon rest).bind openChildren).map (.children (.object label), ·)
    | .other =>
      match _h' : (readColon rest).bind skipValue with
      | .error fault => .error fault
      | .ok rest => readRuleFields false label children rest
termination_by s.length
decreasing_by
  · have hvalue :=
      readColon_bind_length_lt Prod.snd (fun htext => Nat.le_of_lt (readText_length_lt htext)) _h'
    exact Nat.lt_trans hvalue (readKey_length_lt _h)
  · have hvalue := readColon_bind_length_lt id skipValue_length_le _h'
    exact Nat.lt_trans hvalue (readKey_length_lt _h)

/-- The end of a rule in list form, after its children. -/
def closeRuleList (s : List Char) : Except Fault (List Char) :=
  match skipBlanks s with
  | [] => .error (.after .endInList [])
  | c :: rest =>
    if c = ']' then .ok rest
    else if c = ',' then
      match skipBlanks rest with
      | ']' :: tail => .error (.after .trailingComma (']' :: tail))
      | tail => .error (.after .trailingCharacters tail)
    else .error (.after .trailingCharacters (c :: rest))

/-- What follows the label of a rule in list form. -/
def afterRuleLabel (label : String) (s : List Char) : Reading RuleStage :=
  match skipBlanks s with
  | [] => .error (.after .endInList [])
  | c :: rest =>
    if c = ']' then .ok (.complete (.rule label []), rest)
    else if c = ',' then
      match skipBlanks rest with
      | [] => .error (.after .endInValue [])
      | c :: rest =>
        if c = ']' then .error (.after .trailingComma (c :: rest))
        else (openChildren (c :: rest)).map (.children (.list label), ·)
    else .error (.after .noListNext (c :: rest))

/-- A rule in list form, after its opening bracket. -/
def readRuleList (s : List Char) : Reading RuleStage :=
  match skipBlanks s with
  | [] => .error (.after .endInList [])
  | c :: rest =>
    if c = ']' then .error (.before .emptyRule rest)
    else
      match readText (c :: rest) with
      | .error fault => .error fault
      | .ok (label, rest) => afterRuleLabel label rest

/-- A rule, up to its children or its end. -/
def readRule (s : List Char) : Reading RuleStage :=
  match skipBlanks s with
  | [] => .error (.after .endInValue [])
  | c :: rest =>
    if c = '\x7b' then readRuleFields true none none rest
    else if c = '[' then readRuleList rest
    else .error (wrongType .rule (c :: rest))

/-- Goes on with a rule whose children have ended. -/
def resumeRule (form : RuleForm) (children : List Tree) (s : List Char) : Reading RuleStage :=
  match form with
  | .object label => readRuleFields false label (some children) s
  | .list label => (closeRuleList s).map (.complete (.rule label children), ·)

/-! ## Progress -/

theorem readRuleFields_length_lt {first : Bool} {label : Option String}
    {children : Option (List Tree)} {s r : List Char} {stage : RuleStage}
    (h : readRuleFields first label children s = .ok (stage, r)) : r.length < s.length := by
  fun_induction readRuleFields first label children s with
  | case1 => cases h
  | case2 => cases h
  | case3 first s rest hkey label =>
    cases h
    exact readKey_length_lt hkey
  | case4 => cases h
  | case5 => cases h
  | case6 first label s name rest hkey _ _ label' rest' hlabel ih =>
    have hrest' : rest'.length < rest.length :=
      readColon_bind_length_lt Prod.snd (fun htext => Nat.le_of_lt (readText_length_lt htext))
        hlabel
    exact Nat.lt_trans (ih h) (Nat.lt_trans hrest' (readKey_length_lt hkey))
  | case7 => cases h
  | case8 first label s name rest hkey _ _ =>
    obtain ⟨rest', hopen, hrest'⟩ := exists_of_map_ok h
    cases hrest'
    have hr : r.length < rest.length :=
      readColon_bind_length_lt id (fun hopen => Nat.le_of_lt (openChildren_length_lt hopen)) hopen
    exact Nat.lt_trans hr (readKey_length_lt hkey)
  | case9 => cases h
  | case10 first label s name rest hkey _ rest' hskip ih =>
    have hrest' : rest'.length < rest.length :=
      readColon_bind_length_lt id skipValue_length_le hskip
    exact Nat.lt_trans (ih h) (Nat.lt_trans hrest' (readKey_length_lt hkey))

theorem closeRuleList_length_lt {s r : List Char} (h : closeRuleList s = .ok r) :
    r.length < s.length := by
  unfold closeRuleList at h
  split at h
  · cases h
  · next c rest hskip =>
    split at h
    · cases h
      exact length_lt_of_skipBlanks hskip
    · split at h
      · split at h <;> cases h
      · cases h

theorem afterRuleLabel_length_lt {label : String} {s r : List Char} {stage : RuleStage}
    (h : afterRuleLabel label s = .ok (stage, r)) : r.length < s.length := by
  unfold afterRuleLabel at h
  split at h
  · cases h
  · next c rest hskip =>
    have hrest : rest.length < s.length := length_lt_of_skipBlanks hskip
    split at h
    · cases h
      exact hrest
    · split at h
      · split at h
        · cases h
        · next c' left hskip' =>
          have hleft : left.length < rest.length := length_lt_of_skipBlanks hskip'
          split at h
          · cases h
          · have hr : r.length < (c' :: left).length := openChildren_map_length_lt h
            exact Nat.lt_trans (Nat.lt_of_lt_of_le hr hleft) hrest
      · cases h

theorem readRuleList_length_lt {s r : List Char} {stage : RuleStage}
    (h : readRuleList s = .ok (stage, r)) : r.length < s.length := by
  unfold readRuleList at h
  split at h
  · cases h
  · next c rest hskip =>
    have hrest : (c :: rest).length ≤ s.length := length_lt_of_skipBlanks hskip
    split at h
    · cases h
    · split at h
      · cases h
      · next label left htext =>
        have hleft : left.length < (c :: rest).length := readText_length_lt htext
        exact Nat.lt_trans (afterRuleLabel_length_lt h) (Nat.lt_of_lt_of_le hleft hrest)

theorem readRule_length_lt {s r : List Char} {stage : RuleStage}
    (h : readRule s = .ok (stage, r)) : r.length < s.length := by
  unfold readRule at h
  split at h
  · cases h
  · next c rest hskip =>
    have hrest : rest.length < s.length := length_lt_of_skipBlanks hskip
    split at h
    · exact Nat.lt_trans (readRuleFields_length_lt h) hrest
    · split at h
      · exact Nat.lt_trans (readRuleList_length_lt h) hrest
      · cases h

theorem resumeRule_length_lt {form : RuleForm} {children : List Tree} {s r : List Char}
    {stage : RuleStage} (h : resumeRule form children s = .ok (stage, r)) :
    r.length < s.length := by
  unfold resumeRule at h
  split at h
  · exact readRuleFields_length_lt h
  · obtain ⟨rest, hclose, hrest⟩ := exists_of_map_ok h
    cases hrest
    exact closeRuleList_length_lt hclose

end ParseTree.Json
