import ParseTree.Tree.Reader.Rule
import ParseTree.Tree.Reader.Token

/-!
# Reading a tree

The JSON form of a tree.  A node is an object with one key, `token` or `rule`, and the token or the
rule as its value.

`readNodes` keeps the rules whose children are being read in a list of `Frame`s, so trees of any
depth can be read.  Each of its steps takes at least one character, which is why it ends.
`Tree.ofJson` reads a whole text: one tree, with nothing but blanks around it.
-/

namespace ParseTree.Json

/-! ## Nodes -/

/-- The two sorts of nodes. -/
inductive Variant
  | token
  | rule
deriving Repr, DecidableEq

/-- The name of a sort of nodes, after its opening quote. -/
def readVariant (s : List Char) : Reading Variant :=
  match readString s with
  | .error fault => .error fault
  | .ok (name, rest) =>
    if name = "token" then .ok (.token, rest)
    else if name = "rule" then .ok (.rule, rest)
    else .error (.before (.unknownVariant name) rest)

/-- The beginning of a node up to the colon after its key.  The name of a sort of nodes that stands
alone has a place only if it is `nested` in a list. -/
def openNode (nested : Bool) (s : List Char) : Reading Variant :=
  match skipBlanks s with
  | [] => .error (.after .endInValue [])
  | c :: rest =>
    if c = '"' then
      match readVariant rest with
      | .error fault => .error fault
      | .ok (_, rest) =>
        .error ⟨.bareVariant, if nested then some (closingPlace .list rest) else none⟩
    else if c = '\x7b' then
      match skipBlanks rest with
      | [] => .error (.after .endInObject [])
      | c :: rest =>
        if c = '\x7d' then .error (.after .noValue (c :: rest))
        else if c = '"' then
          match readVariant rest with
          | .error fault => .error fault
          | .ok (variant, rest) => (readColon rest).map (variant, ·)
        else .error (.after .keyNotString (c :: rest))
    else .error (.after .noValue (c :: rest))

/-- The end of a node. -/
def closeNode (s : List Char) : Except Fault (List Char) :=
  match skipBlanks s with
  | [] => .error (.before .endInObject [])
  | c :: rest => if c = '\x7d' then .ok rest else .error (.before .noValue (c :: rest))

/-- A rule whose children are being read, with those read so far, the last one first. -/
structure Frame where
  form : RuleForm
  done : List Tree := []
deriving Repr

/-- What comes next. -/
inductive Control
  /-- A node. -/
  | node
  /-- Whatever follows this node. -/
  | after (t : Tree)
  /-- Whatever follows the children of a rule. -/
  | resume (form : RuleForm) (children : List Tree)
deriving Repr

/-- A stage of reading a tree. -/
structure Stage where
  control : Control
  /-- The rules whose children are being read, innermost first. -/
  frames : List Frame
  rest : List Char
deriving Repr

/-- Takes up what reading a rule has come to: its end, or the first of its children. -/
def takeRule (frames : List Frame) (stage : RuleStage) (s : List Char) : Except Fault Stage :=
  match stage with
  | .complete t => (closeNode s).map (⟨.after t, frames, ·⟩)
  | .children form =>
    match skipBlanks s with
    | [] => .error (.after .endInList [])
    | c :: rest =>
      if c = ']' then .ok ⟨.resume form [], frames, rest⟩
      else .ok ⟨.node, ⟨form, []⟩ :: frames, c :: rest⟩

/-- Reads a token, or a rule up to its children. -/
def takeNode (frames : List Frame) (s : List Char) : Except Fault Stage :=
  match openNode (!frames.isEmpty) s with
  | .error fault => .error fault
  | .ok (.token, rest) =>
    match readToken rest with
    | .error fault => .error fault
    | .ok (t, rest) => (closeNode rest).map (⟨.after (.token t), frames, ·⟩)
  | .ok (.rule, rest) =>
    match readRule rest with
    | .error fault => .error fault
    | .ok (stage, rest) => takeRule frames stage rest

/-- What follows a node among the children of a rule. -/
def takeNext (t : Tree) (frame : Frame) (frames : List Frame) (s : List Char) :
    Except Fault Stage :=
  match skipBlanks s with
  | [] => .error (.after .endInList [])
  | c :: rest =>
    if c = ']' then .ok ⟨.resume frame.form (t :: frame.done).reverse, frames, rest⟩
    else if c = ',' then
      match skipBlanks rest with
      | [] => .error (.after .endInValue [])
      | c :: rest =>
        if c = ']' then .error (.after .trailingComma (c :: rest))
        else .ok ⟨.node, ⟨frame.form, t :: frame.done⟩ :: frames, c :: rest⟩
    else .error (.after .noListNext (c :: rest))

/-- Goes on with a rule whose children have ended. -/
def takeResumed (form : RuleForm) (children : List Tree) (frames : List Frame) (s : List Char) :
    Except Fault Stage :=
  match resumeRule form children s with
  | .error fault => .error fault
  | .ok (stage, rest) => takeRule frames stage rest

/-! ## Progress -/

theorem readVariant_length_lt {s r : List Char} {v : Variant} (h : readVariant s = .ok (v, r)) :
    r.length < s.length := by
  unfold readVariant at h
  split at h
  · cases h
  · next hname =>
    split at h
    · cases h
      exact readString_length_lt hname
    · split at h
      · cases h
        exact readString_length_lt hname
      · cases h

theorem openNode_length_lt {nested : Bool} {s r : List Char} {v : Variant}
    (h : openNode nested s = .ok (v, r)) : r.length < s.length := by
  unfold openNode at h
  split at h
  · cases h
  · next c rest hskip =>
    have hrest : rest.length < s.length := length_lt_of_skipBlanks hskip
    split at h
    · split at h <;> cases h
    · split at h
      · split at h
        · cases h
        · next c' left hskip' =>
          have hleft : left.length < rest.length := length_lt_of_skipBlanks hskip'
          split at h
          · cases h
          · split at h
            · split at h
              · cases h
              · next variant after hvariant =>
                have hafter : after.length < left.length := readVariant_length_lt hvariant
                obtain ⟨rest', hcolon, hrest'⟩ := exists_of_map_ok h
                cases hrest'
                have hr : r.length < after.length := readColon_length_lt hcolon
                exact Nat.lt_trans hr (Nat.lt_trans hafter (Nat.lt_trans hleft hrest))
            · cases h
      · cases h

theorem closeNode_length_lt {s r : List Char} (h : closeNode s = .ok r) : r.length < s.length := by
  unfold closeNode at h
  split at h
  · cases h
  · next c rest hskip =>
    split at h
    · cases h
      exact length_lt_of_skipBlanks hskip
    · cases h

/-- The end of a node leaves a shorter rest. -/
theorem closeNode_map_length_lt {frames : List Frame} {t : Tree} {s : List Char} {next : Stage}
    (h : (closeNode s).map (Stage.mk (.after t) frames) = .ok next) :
    next.rest.length < s.length := by
  obtain ⟨rest, hclose, rfl⟩ := exists_of_map_ok h
  exact closeNode_length_lt hclose

theorem takeRule_length_le {frames : List Frame} {stage : RuleStage} {s : List Char} {next : Stage}
    (h : takeRule frames stage s = .ok next) : next.rest.length ≤ s.length := by
  unfold takeRule at h
  split at h
  · exact Nat.le_of_lt (closeNode_map_length_lt h)
  · split at h
    · cases h
    · next c rest hskip =>
      have hrest : rest.length < s.length := length_lt_of_skipBlanks hskip
      split at h
      · cases h
        exact Nat.le_of_lt hrest
      · cases h
        exact hrest

theorem takeNode_length_lt {frames : List Frame} {s : List Char} {next : Stage}
    (h : takeNode frames s = .ok next) : next.rest.length < s.length := by
  unfold takeNode at h
  split at h
  · cases h
  · next rest hopen =>
    have hrest : rest.length < s.length := openNode_length_lt hopen
    split at h
    · cases h
    · next token left htoken =>
      have hleft : left.length < rest.length := readToken_length_lt htoken
      exact Nat.lt_trans (closeNode_map_length_lt h) (Nat.lt_trans hleft hrest)
  · next rest hopen =>
    have hrest : rest.length < s.length := openNode_length_lt hopen
    split at h
    · cases h
    · next stage left hrule =>
      have hleft : left.length < rest.length := readRule_length_lt hrule
      exact Nat.lt_of_le_of_lt (takeRule_length_le h) (Nat.lt_trans hleft hrest)

theorem takeNext_length_lt {t : Tree} {frame : Frame} {frames : List Frame} {s : List Char}
    {next : Stage} (h : takeNext t frame frames s = .ok next) : next.rest.length < s.length := by
  unfold takeNext at h
  split at h
  · cases h
  · next c rest hskip =>
    have hrest : rest.length < s.length := length_lt_of_skipBlanks hskip
    split at h
    · cases h
      exact hrest
    · split at h
      · split at h
        · cases h
        · next c' left hskip' =>
          have hleft : left.length < rest.length := length_lt_of_skipBlanks hskip'
          split at h
          · cases h
          · cases h
            exact Nat.lt_of_le_of_lt hleft hrest
      · cases h

theorem takeResumed_length_lt {form : RuleForm} {children : List Tree} {frames : List Frame}
    {s : List Char} {next : Stage} (h : takeResumed form children frames s = .ok next) :
    next.rest.length < s.length := by
  unfold takeResumed at h
  split at h
  · cases h
  · next hresumed =>
    exact Nat.lt_of_le_of_lt (takeRule_length_le h) (resumeRule_length_lt hresumed)

/-! ## Whole trees -/

/-- Reads on until a node has ended that is in no list. -/
def readNodes (stage : Stage) : Reading Tree :=
  match stage with
  | ⟨.after t, [], rest⟩ => .ok (t, rest)
  | ⟨.after t, frame :: frames, rest⟩ =>
    match _h : takeNext t frame frames rest with
    | .error fault => .error fault
    | .ok next => readNodes next
  | ⟨.node, frames, rest⟩ =>
    match _h : takeNode frames rest with
    | .error fault => .error fault
    | .ok next => readNodes next
  | ⟨.resume form children, frames, rest⟩ =>
    match _h : takeResumed form children frames rest with
    | .error fault => .error fault
    | .ok next => readNodes next
termination_by stage.rest.length
decreasing_by
  · exact takeNext_length_lt _h
  · exact takeNode_length_lt _h
  · exact takeResumed_length_lt _h

/-- A tree and nothing else but blanks. -/
def readDocument (s : List Char) : Except Fault Tree :=
  match readNodes ⟨.node, [], s⟩ with
  | .error fault => .error fault
  | .ok (t, rest) =>
    match skipBlanks rest with
    | [] => .ok t
    | c :: rest => .error (.after .trailingCharacters (c :: rest))

end ParseTree.Json

namespace ParseTree

/-- Reads a tree from its JSON form. -/
def Tree.ofJson (text : String) : Except Json.ReadError Tree :=
  match Json.readDocument text.toList with
  | .error fault => .error (fault.toError text.toList)
  | .ok t => .ok t

end ParseTree
