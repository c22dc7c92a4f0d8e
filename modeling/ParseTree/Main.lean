import ParseTree.Command.Run

/-!
# The command line

Reads the files that a command names, runs the command, and carries out what it leaves behind.
-/

namespace ParseTree

/-- The paths that a command reads. -/
def Command.inputs : Command → List String
  | .print request => request.tokens :: request.trees
  | .tokens path => [path]
  | _ => []

/-- The fault of an error of the system. -/
def FileFault.ofError (e : IO.Error) : FileFault :=
  match e with
  | .noFileOrDirectory .. => .notFound
  | e =>
    let text := e.toString
    if text.contains "Is a directory" || text.contains "is a directory" then .isDirectory
    else if text.contains "Not a directory" || text.contains "not a directory" then .notDirectory
    else .other text

/-- The text of the file at a path. -/
def readPath (path : String) : IO (Except FileFault String) := do
  try
    let bytes ← IO.FS.readBinFile path
    match String.fromUTF8? bytes with
    | some text => return .ok text
    | none => return .error .notUtf8
  catch e => return .error (.ofError e)

/-- What is to be written: the path of a file, and its text. -/
abbrev Plan := Option (String × String)

/-- The file system on which only these files are found.  What is written to it is planned. -/
def snapshot (files : List (String × Except FileFault String)) (creatable : Except FileFault Unit) :
    FileSystem Plan Unit where
  disk _ := ⟨fun path => (files.lookup path).getD (.error .notFound)⟩
  create _ path := creatable.map fun _ => ((), some (path, ""))
  append plan _ text := plan.map fun (path, written) => (path, written ++ text)

/-- Prints the streams of an outcome and gives its exit code. -/
def report (outcome : Command.Outcome) : IO UInt32 := do
  IO.print outcome.stdout
  IO.eprint outcome.stderr
  return outcome.exit

end ParseTree

/-- Runs the command line. -/
def main (arguments : List String) : IO UInt32 := do
  let inputs := ((ParseTree.Command.parse arguments).map (·.inputs)).getD []
  let files ← inputs.mapM fun path => return (path, ← ParseTree.readPath path)
  let (outcome, plan) := ParseTree.Command.run (ParseTree.snapshot files (.ok ())) none arguments
  match plan with
  | none => ParseTree.report outcome
  | some (path, text) =>
    try
      IO.FS.writeFile path text
      ParseTree.report outcome
    catch e =>
      let refused := ParseTree.snapshot files (.error (.ofError e))
      ParseTree.report (ParseTree.Command.run refused none arguments).1
