/-!
# Arguments

The command line in its parts.  There are three commands: `print` draws trees, `tokens` lists a
vocabulary, and `name` gives canonical names.

* **Scanning** — `scan` tells options from the rest.  An option that takes a value takes it from the
  same argument (`--tokens=t`, `-ot`) or from the next one, which then must not look like an option.
  After `--` no argument is an option.
* **Gathering** — `Command.parse` accepts an option once at most and wants every command to be
  complete.
-/

namespace ParseTree

namespace Command

/-! ## Scanning -/

/-- The options of `print`. -/
inductive Name
  | tokens
  | output
  | zeroBasedLines
deriving Repr, DecidableEq

/-- The option of this long name. -/
def Name.ofLong? (name : String) : Option Name :=
  if name = "tokens" then some .tokens
  else if name = "output" then some .output
  else if name = "zero-based-lines" then some .zeroBasedLines
  else none

/-- The option of this short name. -/
def Name.ofShort? (c : Char) : Option Name :=
  if c = 'o' then some .output else none

/-- Whether an option takes a value. -/
def Name.takesValue : Name → Bool
  | .zeroBasedLines => false
  | _ => true

/-- A part of a command line. -/
inductive Item
  | word (text : String)
  | flag (name : Name)
  | value (name : Name) (text : String)
deriving Repr, DecidableEq

/-- The form of a single argument. -/
inductive Form
  /-- The mark after which nothing is an option. -/
  | terminator
  /-- A long option, with the value after its equals sign. -/
  | long (name : String) (attached : Option String)
  /-- A short option, with the characters after it. -/
  | short (name : Char) (attached : List Char)
  | word
deriving Repr, DecidableEq

/-- The form of an argument.  A dash alone is a word. -/
def Form.of (argument : String) : Form :=
  match argument.toList with
  | ['-', '-'] => .terminator
  | '-' :: '-' :: rest =>
    match rest.span (· != '=') with
    | (name, []) => .long (String.ofList name) none
    | (name, _ :: value) => .long (String.ofList name) (some (String.ofList value))
  | '-' :: c :: rest => .short c rest
  | _ => .word

/-- The value in the characters after a short option; an equals sign before it is left out. -/
def shortValue? : List Char → Option String
  | [] => none
  | '=' :: value => some (String.ofList value)
  | value => some (String.ofList value)

/-- What an option comes to, with the value attached to it and the arguments after it. -/
def takeOption (name : Name) (attached : Option String) (rest : List String) :
    Option (Item × List String) :=
  match name.takesValue, attached, rest with
  | false, none, _ => some (.flag name, rest)
  | false, some _, _ => none
  | true, some value, _ => some (.value name value, rest)
  | true, none, [] => none
  | true, none, next :: rest =>
    match Form.of next with
    | .word => some (.value name next, rest)
    | _ => none

/-- What is left after an option is an end of what stood there. -/
theorem suffix_of_takeOption {name : Name} {attached : Option String} {rest left : List String}
    {item : Item} (h : takeOption name attached rest = some (item, left)) : left <:+ rest := by
  unfold takeOption at h
  split at h
  · cases h; exact List.suffix_rfl
  · cases h
  · cases h; exact List.suffix_rfl
  · cases h
  · split at h
    · cases h; exact List.suffix_cons _ _
    · cases h

/-- The parts of a command line, if every option is known and has its value. -/
def scan (arguments : List String) : Option (List Item) :=
  match arguments with
  | [] => some []
  | argument :: rest =>
    match Form.of argument with
    | .terminator => some (rest.map .word)
    | .word => (scan rest).map (.word argument :: ·)
    | .long name attached =>
      match _h : (Name.ofLong? name).bind (takeOption · attached rest) with
      | none => none
      | some (item, left) => (scan left).map (item :: ·)
    | .short name attached =>
      match _h : (Name.ofShort? name).bind (takeOption · (shortValue? attached) rest) with
      | none => none
      | some (item, left) => (scan left).map (item :: ·)
termination_by arguments.length
decreasing_by
  · simp
  all_goals
    obtain ⟨_, _, taken⟩ := Option.bind_eq_some_iff.1 _h
    exact Nat.lt_succ_of_le (suffix_of_takeOption taken).length_le

/-! ## Gathering -/

/-- What `print` is asked for. -/
structure PrintRequest where
  /-- The file of the vocabulary. -/
  tokens : String
  zeroBased : Bool
  /-- The file to write to, if not to the standard output. -/
  output : Option String
  /-- The files of the trees. -/
  trees : List String
deriving Repr, DecidableEq

/-- The words of a command line. -/
def words (items : List Item) : List String :=
  items.filterMap fun
    | .word text => some text
    | _ => none

/-- The words of a command line without options. -/
def onlyWords? (items : List Item) : Option (List String) :=
  items.mapM fun
    | .word text => some text
    | _ => none

/-- The values given for an option. -/
def valuesOf (name : Name) (items : List Item) : List String :=
  items.filterMap fun
    | .value other text => if other = name then some text else none
    | _ => none

/-- The request in the parts of a command line. -/
def PrintRequest.ofItems? (items : List Item) : Option PrintRequest :=
  let flags := items.count (.flag .zeroBasedLines)
  match valuesOf .tokens items, valuesOf .output items, words items with
  | [tokens], outputs, tree :: trees =>
    if flags ≤ 1 && outputs.length ≤ 1 then
      some ⟨tokens, flags == 1, outputs.head?, tree :: trees⟩
    else none
  | _, _, _ => none

end Command

/-- A command. -/
inductive Command
  | print (request : Command.PrintRequest)
  | tokens (path : String)
  | name (labels : List String)
  | version
deriving Repr, DecidableEq

namespace Command

/-- The command with this name, on these arguments. -/
def ofName? (name : String) (arguments : List String) : Option Command :=
  if name = "print" then ((scan arguments).bind PrintRequest.ofItems?).map .print
  else if name = "tokens" then
    match (scan arguments).bind onlyWords? with
    | some [path] => some (.tokens path)
    | _ => none
  else if name = "name" then
    match (scan arguments).bind onlyWords? with
    | some (label :: labels) => some (.name (label :: labels))
    | _ => none
  else none

/-- The command of a command line.  The version is told whatever follows. -/
def parse (arguments : List String) : Option Command :=
  match arguments with
  | [] => none
  | first :: rest =>
    match Form.of first with
    | .word => ofName? first rest
    | .long "version" none => some .version
    | .short 'V' _ => some .version
    | _ => none

end Command

end ParseTree
