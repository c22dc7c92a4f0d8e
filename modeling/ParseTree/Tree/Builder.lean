import ParseTree.Tree.Event

/-!
# Building a tree from events

A builder takes the events of a parser one by one and puts the tree together.  Tokens and finished
rules go into the rule started last; what is outermost becomes the root, and there is one root only.

An event that does not fit is refused with a `BuildError` and the builder stays usable: `step`
always gives the next builder.  What it keeps is as much as makes sense: a second root is lost, and
so is a rule that would have become one, but the first root stays.
-/

namespace ParseTree

/-- A rule that has been started, with the children it has so far, the last one first. -/
structure OpenRule where
  label : String
  children : List Tree := []
deriving Repr

/-- The rule with the children it has. -/
def OpenRule.close (r : OpenRule) : Tree :=
  .rule r.label r.children.reverse

/-- A tree being built. -/
structure Builder where
  /-- The rules that are not finished, innermost first. -/
  opened : List OpenRule := []
  root : Option Tree := none
deriving Repr

/-- What can be wrong with the use of a builder. -/
inductive BuildError
  /-- A rule is finished, and none was started. -/
  | nothingOpen
  /-- A tree is complete, and there already is one. -/
  | secondRoot
  /-- The tree is asked for while this many rules are open. -/
  | unfinished (count : Nat)
  /-- The tree is asked for, and there is none. -/
  | emptyTree
  /-- The builder is given up while rules are open. -/
  | abandoned
deriving Repr, DecidableEq

/-- The wording of an error. -/
def BuildError.message : BuildError → String
  | .nothingOpen => "no opened nodes?"
  | .secondRoot => "a tree has exactly one root"
  | .unfinished count => "unfinished nodes: " ++ count.repr
  | .emptyTree => "empty tree"
  | .abandoned => "you should call `Builder::finish()`"

namespace Builder

/-- Puts a complete tree where it belongs. -/
def attach (b : Builder) (t : Tree) : Builder × Option BuildError :=
  match b.opened with
  | parent :: outer =>
    ({ b with opened := { parent with children := t :: parent.children } :: outer }, none)
  | [] =>
    match b.root with
    | none => ({ b with root := some t }, none)
    | some _ => (b, some .secondRoot)

/-- Takes one event. -/
def step (b : Builder) : Event → Builder × Option BuildError
  | .start label => ({ b with opened := ⟨label, []⟩ :: b.opened }, none)
  | .token t => b.attach (.token t)
  | .finish =>
    match b.opened with
    | [] => (b, some .nothingOpen)
    | innermost :: outer => { b with opened := outer }.attach innermost.close

/-- The tree that was built. -/
def finish (b : Builder) : Except BuildError Tree :=
  if b.opened.isEmpty then
    match b.root with
    | some t => .ok t
    | none => .error .emptyTree
  else .error (.unfinished b.opened.length)

/-- The complaint about a builder that is given up. -/
def abandon (b : Builder) : Option BuildError :=
  if b.opened.isEmpty then none else some .abandoned

end Builder

end ParseTree
