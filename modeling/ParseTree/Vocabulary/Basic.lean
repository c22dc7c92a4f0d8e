import Std.Data.HashMap
import ParseTree.Vocabulary.Label
import ParseTree.Vocabulary.Table

/-!
# Vocabularies

A vocabulary is the two-way dictionary that a table declares: from names to kinds and, for the kinds
that are not negative, back to a name.

* **Declaring** — `Vocabulary.build` takes the entries of a table in order.  Declaring a name again
  with its kind changes nothing; with another kind it is an error, and so is a kind above the
  largest one.  An entry at fault in both ways is above the largest.
* **Looking up** — `resolve` goes from names to kinds, `name?` from kinds to the name declared
  first.
* **Listing** — `declared` keeps the order of first declaration, `kinds` is ascending.
* **Rules** — `classify` takes a structural label through its canonical name to a kind.
-/

namespace ParseTree

/-! ## Errors -/

/-- Why a table declares no vocabulary. -/
inductive DeclarationError
  /-- One name has two kinds. -/
  | twoKinds (name : String) (first second : Kind)
  /-- A kind exceeds the largest one. -/
  | aboveMax (name : String) (kind : Kind)
deriving Repr, DecidableEq

/-- The wording of a declaration error. -/
def DeclarationError.message : DeclarationError → String
  | .twoKinds name first second =>
    "token `" ++ name ++ "` is declared as both " ++ first.text ++ " and " ++ second.text
  | .aboveMax name kind =>
    "token `" ++ name ++ "` has kind " ++ kind.text ++ ", above the maximum of " ++ maxKind.text

/-- Why a label or a name cannot be looked up. -/
inductive LabelError
  /-- The label lacks the suffix of structural labels. -/
  | malformed (label : String)
  /-- The vocabulary does not declare the name. -/
  | unknownName (name : String)
deriving Repr, DecidableEq

/-- The wording of a label error. -/
def LabelError.message : LabelError → String
  | .malformed label => "malformed structural label `" ++ label ++ "`: expected a `Context` suffix"
  | .unknownName name => "unknown token name `" ++ name ++ "`"

/-- The structural label without its suffix, or the error that it is malformed. -/
def Label.strip (label : String) : Except LabelError String :=
  match stripContext? label with
  | some name => .ok name
  | none => .error (.malformed label)

/-- The canonical name of a structural label, or the error that it is malformed. -/
def Label.canonicalName (label : String) : Except LabelError String :=
  match canonicalName? label with
  | some name => .ok name
  | none => .error (.malformed label)

/-! ## Declaring -/

/-- The names declared so far. -/
structure Declarations where
  /-- The kind of each name. -/
  kindOf : Std.HashMap String Kind := ∅
  /-- Each name once, in the order of first declaration. -/
  declared : Array Entry := #[]

/-- Declares one more entry. -/
def Declarations.declare (d : Declarations) (e : Entry) : Except DeclarationError Declarations :=
  if maxKind < e.kind then .error (.aboveMax e.name e.kind)
  else
    match d.kindOf[e.name]? with
    | some first => if first = e.kind then .ok d else .error (.twoKinds e.name first e.kind)
    | none => .ok ⟨d.kindOf.insert e.name e.kind, d.declared.push e⟩

/-- The two-way dictionary between names and kinds. -/
structure Vocabulary extends Declarations where
  /-- The name declared first for each kind, by slot. -/
  names : Array (Option String)

/-- One more than the largest slot that the entries use. -/
def slotCount (entries : List Entry) : Nat :=
  entries.foldl (fun count e => match e.kind.slot? with
    | some slot => max count (slot + 1)
    | none => count) 0

/-- Enters a name at the slot of its kind unless the slot is taken. -/
def enterName (names : Array (Option String)) (e : Entry) : Array (Option String) :=
  match e.kind.slot? with
  | some slot => names.modify slot fun name => name.or (some e.name)
  | none => names

/-- The dense index from slots to the names declared first. -/
def firstNames (entries : List Entry) : Array (Option String) :=
  entries.foldl enterName (Array.replicate (slotCount entries) none)

namespace Vocabulary

/-- The vocabulary that a table declares. -/
def build (table : Table) : Except DeclarationError Vocabulary :=
  match table.entries.foldlM Declarations.declare {} with
  | .error e => .error e
  | .ok d => .ok { d with names := firstNames d.declared.toList }

/-! ## Looking up -/

/-- The kind of a name. -/
def resolve (v : Vocabulary) (name : String) : Except LabelError Kind :=
  match v.kindOf[name]? with
  | some kind => .ok kind
  | none => .error (.unknownName name)

/-- Whether a name is declared. -/
def contains (v : Vocabulary) (name : String) : Bool :=
  v.kindOf.contains name

/-- The name declared first for a kind. -/
def name? (v : Vocabulary) (kind : Kind) : Option String :=
  kind.slot?.bind fun slot => v.names[slot]?.join

/-! ## Listing -/

/-- The number of names. -/
def size (v : Vocabulary) : Nat :=
  v.declared.size

/-- The kinds that have a name, ascending, each with the name declared first. -/
def kinds (v : Vocabulary) : List (Kind × String) :=
  v.names.toList.zipIdx.filterMap fun (name, slot) => name.map fun n => (Int32.ofNat slot, n)

/-- One line of a listing: a kind, a tab and its name. -/
def listingLine (kind : Kind) (name : String) : String :=
  kind.text ++ "\t" ++ name ++ "\n"

/-- The kinds with their names, one a line, ascending. -/
def listing (v : Vocabulary) : String :=
  v.kinds.foldl (fun text (kind, name) => text ++ listingLine kind name) ""

end Vocabulary

/-! ## Rules -/

/-- What a structural label stands for: a canonical name and the kind declared for it. -/
structure Rule where
  name : String
  kind : Kind
deriving Repr, DecidableEq

/-- The rule of a structural label. -/
def Vocabulary.classify (v : Vocabulary) (label : String) : Except LabelError Rule :=
  match Label.canonicalName label with
  | .error e => .error e
  | .ok name =>
    match v.resolve name with
    | .error e => .error e
    | .ok kind => .ok ⟨name, kind⟩

end ParseTree
