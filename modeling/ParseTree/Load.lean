import ParseTree.Report
import ParseTree.Tree.Reader
import ParseTree.Vocabulary.Basic

/-!
# Loading files

Vocabularies and trees as they are loaded from files.  A file that cannot be read as a table or a
tree fails with a report on the place of the fault; a table that can be read but declares no
vocabulary fails with the error of the declaration.
-/

namespace ParseTree

/-- Why a file was not loaded. -/
inductive LoadError
  /-- The file is no table. -/
  | badTable (file : SourceFile) (report : Report)
  /-- The file is no tree. -/
  | badTree (file : SourceFile) (report : Report)
  /-- The table declares no vocabulary. -/
  | declaration (e : DeclarationError)
deriving Repr, DecidableEq

namespace LoadError

/-- The wording of an error, in one line. -/
def message : LoadError → String
  | .badTable file _ => "could not read token definitions from `" ++ file.path ++ "`"
  | .badTree file _ => "could not read a parse tree from `" ++ file.path ++ "`"
  | .declaration e => e.message

/-- The report that goes with an error, if it is about a place in a file. -/
def report? : LoadError → Option (SourceFile × Report)
  | .badTable file report => some (file, report)
  | .badTree file report => some (file, report)
  | .declaration _ => none

end LoadError

/-- The report on a line of a table. -/
def TableError.report (e : TableError) : Report :=
  ⟨e.fault.message, ⟨e.start, e.stop⟩⟩

/-- The report on a fault in the JSON form of a tree. -/
def Json.ReadError.report (e : Json.ReadError) (file : SourceFile) : Report :=
  ⟨e.message, file.charRange e.line e.column⟩

namespace SourceFile

/-- The vocabulary that a file declares. -/
def vocabulary (file : SourceFile) : Except LoadError Vocabulary :=
  match Table.parse file.text with
  | .error e => .error (.badTable file e.report)
  | .ok table =>
    match Vocabulary.build table with
    | .error e => .error (.declaration e)
    | .ok v => .ok v

/-- The tree in a file. -/
def tree (file : SourceFile) : Except LoadError Tree :=
  match Tree.ofJson file.text with
  | .error e => .error (.badTree file (e.report file))
  | .ok t => .ok t

end SourceFile

end ParseTree
