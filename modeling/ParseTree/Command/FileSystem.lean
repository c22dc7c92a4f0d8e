/-!
# File systems

The files that a command works on.

* **Calls** — a `FileSystem` is what a command can do with files: read the text of one, create one,
  and add to one that it has created.  What is behind these calls is left open, but what can be
  created can be written.
* **Volumes** — a `Volume` is a tree of files and directories, all of which can be read and written.
  The name of a file is made of the directories that lead to it from the root and its own name.  A
  directory is there if the name of something else goes through it, and so are those listed and the
  working directory.
* **Paths** — a path that begins with `/` starts from the root, and any other one from the working
  directory.  Its empty parts and `.` stay where they are, and `..` goes back, but not past the
  root.
* **Directories** — a `Directory` is the files below a working directory, named from there.
-/

namespace ParseTree

/-! ## Calls -/

/-- Why a file cannot be read or created. -/
inductive FileFault
  | notFound
  | isDirectory
  | notDirectory
  | nameTooLong
  | notUtf8
  /-- Anything else, in the words of the system. -/
  | other (reason : String)
deriving Repr, DecidableEq

/-- The wording of a fault. -/
def FileFault.message : FileFault → String
  | .notFound => "No such file or directory (os error 2)"
  | .isDirectory => "Is a directory (os error 21)"
  | .notDirectory => "Not a directory (os error 20)"
  | .nameTooLong => "File name too long (os error 36)"
  | .notUtf8 => "stream did not contain valid UTF-8"
  | .other reason => reason

/-- What can be read. -/
structure Disk where
  /-- The text of the file at a path. -/
  read : String → Except FileFault String

/-- The calls by which a command reaches files.  They take the files from one state `σ` to another,
and an open file is known by a handle `φ`. -/
structure FileSystem (σ φ : Type) where
  /-- What can be read in a state. -/
  disk : σ → Disk
  /-- Creates a file at a path, or empties the one that is there, and opens it. -/
  create : σ → String → Except FileFault (φ × σ)
  /-- Adds a text at the end of an open file. -/
  append : σ → φ → String → σ

/-! ## Volumes -/

/-- Contents are compared byte by byte, whatever other instances there are. -/
instance decEqContent : DecidableEq ByteArray := ByteArray.instDecidableEq

/-- A file with its name. -/
structure StoredFile where
  /-- The parts of its name. -/
  name : List String
  content : ByteArray
deriving DecidableEq

/-- A tree of files and directories, with names from the root. -/
structure Volume where
  files : List StoredFile := []
  /-- Directories that are there even if nothing is in them. -/
  folders : List (List String) := []
  /-- The working directory. -/
  here : List String := []

namespace Volume

/-- What is at a place. -/
inductive Found
  | file (content : ByteArray)
  | directory
  | nothing
deriving DecidableEq

/-- All names that directories lead to. -/
def names (v : Volume) : List (List String) :=
  v.here :: v.folders ++ v.files.map (·.name)

/-- What is at the place with this name. -/
def find (v : Volume) (name : List String) : Found :=
  match v.files.find? (·.name == name) with
  | some file => .file file.content
  | none => if v.names.any (name.isPrefixOf ·) then .directory else .nothing

/-! ## Paths -/

/-- The parts of a path between its slashes, the first of which continues `done` in reverse. -/
def partsFrom (done : List Char) : List Char → List String
  | [] => [String.ofList done.reverse]
  | c :: rest =>
    if c = '/' then String.ofList done.reverse :: partsFrom [] rest else partsFrom (c :: done) rest

/-- The parts of a path. -/
def parts (path : String) : List String :=
  partsFrom [] path.toList

/-- Whether a part of a path stays where it is. -/
def stays (part : String) : Bool :=
  part == "" || part == "."

/-- The most bytes in a part of a name. -/
def maxPart : Nat := 255

/-- The most bytes in a path. -/
def maxPath : Nat := 4095

/-- Whether the last part of a name is longer than parts can be. -/
def isTooLong (name : List String) : Bool :=
  name.getLast?.any (maxPart < ·.utf8ByteSize)

/-- The fault of a name at which there is nothing. -/
def missing (name : List String) : FileFault :=
  if isTooLong name then .nameTooLong else .notFound

/-- Where a path leads. -/
structure Place where
  name : List String
  /-- Whether the path insists on a directory there. -/
  asDirectory : Bool
deriving DecidableEq

/-- Follows the parts of a path from a place.  All but the last part must lead to directories. -/
def follow (v : Volume) (name : List String) : List String → Except FileFault Place
  | [] => .ok ⟨name, true⟩
  | part :: rest =>
    if stays part then v.follow name rest
    else if part = ".." then v.follow name.dropLast rest
    else
      let next := name ++ [part]
      if rest.isEmpty then .ok ⟨next, false⟩
      else
        match v.find next with
        | .directory => v.follow next rest
        | .file _ => if rest.all (· == "") then .ok ⟨next, true⟩ else .error .notDirectory
        | .nothing => if rest.all (· == "") then .ok ⟨next, true⟩ else .error (missing next)

/-- Where a path starts. -/
def origin (v : Volume) (path : String) : List String :=
  if path.toList.head? = some '/' then [] else v.here

/-- Where a path leads.  The empty path leads nowhere. -/
def locate (v : Volume) (path : String) : Except FileFault Place :=
  if path = "" then .error .notFound
  else if maxPath < path.utf8ByteSize then .error .nameTooLong
  else v.follow (v.origin path) (parts path)

/-! ## Reading and writing -/

/-- The text of the file at a path. -/
def read (v : Volume) (path : String) : Except FileFault String :=
  match v.locate path with
  | .error f => .error f
  | .ok ⟨name, asDirectory⟩ =>
    match v.find name, asDirectory with
    | .directory, _ => .error .isDirectory
    | .nothing, _ => .error (missing name)
    | .file _, true => .error .notDirectory
    | .file content, false =>
      match String.fromUTF8? content with
      | some text => .ok text
      | none => .error .notUtf8

/-- The name of the file that is created at a path.  A path that insists on a directory creates
nothing. -/
def createName (v : Volume) (path : String) : Except FileFault (List String) :=
  match v.locate path with
  | .error f => .error f
  | .ok ⟨name, asDirectory⟩ =>
    match v.find name, asDirectory with
    | .directory, _ => .error .isDirectory
    | _, true => .error .isDirectory
    | .nothing, false => if isTooLong name then .error .nameTooLong else .ok name
    | .file _, false => .ok name

/-- The content of the file of this name; nothing if there is none. -/
def contentOf (v : Volume) (name : List String) : ByteArray :=
  match v.find name with
  | .file content => content
  | _ => .empty

/-- The volume with a file that has this content, in place of what had its name. -/
def put (v : Volume) (name : List String) (content : ByteArray) : Volume :=
  { v with files := v.files.filter (·.name != name) ++ [⟨name, content⟩] }

/-- The calls on volumes.  An open file is known by its name. -/
def fileSystem : FileSystem Volume (List String) where
  disk v := ⟨v.read⟩
  create v path := (v.createName path).map fun name => (name, v.put name .empty)
  append v name text := v.put name (v.contentOf name ++ text.toUTF8)

end Volume

/-! ## Directories -/

/-- The files below a directory, named from there. -/
structure Directory where
  files : List StoredFile := []

namespace Directory

/-- Where a directory stands on a volume of its own. -/
def home : List String := ["tmp", "work"]

/-- The null device, from which nothing can be read.  What is written to it stays there, which no
command sees, since none reads after it has written. -/
def nullFile : StoredFile := ⟨["dev", "null"], .empty⟩

/-- The volume of a directory, which is the working directory.  There is nothing else but the null
device. -/
def volume (d : Directory) : Volume where
  files := nullFile :: d.files.map fun file => { file with name := home ++ file.name }
  here := home

/-- The files that are new since `before` or whose content has changed. -/
def changedSince (d before : Directory) : List StoredFile :=
  d.files.filter fun file => before.files.all (· != file)

end Directory

/-- The files below the working directory of a volume. -/
def Volume.directory (v : Volume) : Directory where
  files := (v.files.filter (v.here.isPrefixOf ·.name)).map fun file =>
    { file with name := file.name.drop v.here.length }

end ParseTree
