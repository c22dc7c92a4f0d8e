import ParseTree.Batch
import ParseTree.Command.Arguments
import ParseTree.Command.FileSystem
import ParseTree.Load

/-!
# Running a command

What a command does, as a pure function of its arguments and the files it works on.

* **Outcomes** — an `Outcome` holds what a command leaves behind apart from files: the exit code and
  the two streams.
* **Failures** — `print` does its work in stages (vocabulary, trees in order, diagrams) and stops at
  the first failure.  A file is created only when everything else has succeeded, and then the
  diagrams are added to it one after the other.
-/

namespace ParseTree.Command

variable {σ φ : Type}

/-! ## Failures -/

/-- Why a command fails. -/
inductive Failure
  | unreadable (path : String) (fault : FileFault)
  | uncreatable (path : String) (fault : FileFault)
  | load (e : LoadError)
  | label (e : LabelError)
deriving Repr, DecidableEq

/-- The error message for a file, with the reason on a line of its own. -/
def fileMessage (verb path : String) (fault : FileFault) : String :=
  "failed to " ++ verb ++ " `" ++ path ++ "`\n\nCaused by:\n    " ++ fault.message

/-- The wording of a failure. -/
def Failure.message : Failure → String
  | .unreadable path fault => fileMessage "read" path fault
  | .uncreatable path fault => fileMessage "create" path fault
  | .load e => e.message
  | .label e => e.message

/-- The report that comes before the message, if the failure is about a place in a file. -/
def Failure.report? : Failure → Option (SourceFile × Report)
  | .load e => e.report?
  | _ => none

/-- What a failure writes to the standard error stream. -/
def Failure.text (f : Failure) : String :=
  let report := match f.report? with
    | some (file, report) => report.render true file ++ "\n"
    | none => ""
  report ++ "Error: " ++ f.message ++ "\n"

/-! ## Outcomes -/

/-- What a command leaves behind. -/
structure Outcome where
  exit : UInt32 := 0
  stdout : String := ""
  stderr : String := ""
deriving Repr, DecidableEq

/-- The outcome of a failure, with what had been printed before it. -/
def Outcome.ofFailure (f : Failure) (printed : String) : Outcome :=
  { exit := 1, stdout := printed, stderr := f.text }

/-- How commands are given. -/
def usage : String :=
  "usage: print --tokens FILE [--zero-based-lines] [-o FILE] TREE...\n" ++
  "       tokens FILE\n" ++
  "       name LABEL...\n"

/-- What is printed for the version. -/
def versionText : String := "parseva 0.1.0\n"

/-! ## The commands -/

/-- The file at a path. -/
def readFile (disk : Disk) (path : String) : Except Failure SourceFile :=
  match disk.read path with
  | .error fault => .error (.unreadable path fault)
  | .ok text => .ok ⟨path, text⟩

/-- The vocabulary in the file at a path. -/
def readVocabulary (disk : Disk) (path : String) : Except Failure Vocabulary :=
  (readFile disk path).bind fun file => file.vocabulary.mapError .load

/-- The tree in the file at a path. -/
def readTree (disk : Disk) (path : String) : Except Failure Tree :=
  (readFile disk path).bind fun file => file.tree.mapError .load

/-- The trees in the files at these paths, up to the first failure.  The trees read before are
handed along in reverse. -/
def readTrees (disk : Disk) (done : List Tree) : List String → Except Failure (List Tree)
  | [] => .ok done.reverse
  | path :: rest =>
    match readTree disk path with
    | .error f => .error f
    | .ok t => readTrees disk (t :: done) rest

/-- The diagrams that `print` is asked for. -/
def drawRequest (disk : Disk) (r : PrintRequest) : Except Failure (List String) :=
  match readVocabulary disk r.tokens with
  | .error f => .error f
  | .ok v =>
    match readTrees disk [] r.trees with
    | .error f => .error f
    | .ok trees =>
      match Batch.drawAll v (if r.zeroBased then .zero else .one) trees with
      | .error e => .error (.label e)
      | .ok diagrams => .ok diagrams

/-- Draws trees and puts the diagrams where they belong. -/
def runPrint (fs : FileSystem σ φ) (s : σ) (r : PrintRequest) : Outcome × σ :=
  match drawRequest (fs.disk s) r with
  | .error f => (.ofFailure f "", s)
  | .ok diagrams =>
    match r.output with
    | none => ({ stdout := String.join diagrams }, s)
    | some path =>
      match fs.create s path with
      | .error fault => (.ofFailure (.uncreatable path fault) "", s)
      | .ok (file, s') => ({}, diagrams.foldl (fs.append · file ·) s')

/-- Lists a vocabulary. -/
def runTokens (disk : Disk) (path : String) : Outcome :=
  match readVocabulary disk path with
  | .error f => .ofFailure f ""
  | .ok v => { stdout := v.listing }

/-- Prints canonical names, each on a line, up to the first label that has none. -/
def runName (printed : String) : List String → Outcome
  | [] => { stdout := printed }
  | label :: rest =>
    match Label.canonicalName label with
    | .error e => .ofFailure (.label e) printed
    | .ok canonical => runName (printed ++ canonical ++ "\n") rest

/-- What a command leaves behind, and the files as they are afterwards. -/
def execute (fs : FileSystem σ φ) (s : σ) : Command → Outcome × σ
  | .print request => runPrint fs s request
  | .tokens path => (runTokens (fs.disk s) path, s)
  | .name labels => (runName "" labels, s)
  | .version => ({ stdout := versionText }, s)

/-- What a command line leaves behind, and the files as they are afterwards.  Nothing is done for
one that is no command. -/
def run (fs : FileSystem σ φ) (s : σ) (arguments : List String) : Outcome × σ :=
  match parse arguments with
  | some command => execute fs s command
  | none => ({ exit := 2, stderr := usage }, s)

/-- Runs a command line in a directory, and gives the directory as it is afterwards. -/
def runIn (d : Directory) (arguments : List String) : Outcome × Directory :=
  let (outcome, after) := run Volume.fileSystem d.volume arguments
  (outcome, after.directory)

end ParseTree.Command
