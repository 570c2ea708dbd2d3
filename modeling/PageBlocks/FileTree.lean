import PageBlocks.Error

/-!
# A tree of files

Directories and files by the names that lead to them from the root. Paths are followed one name at
a time, and each name in front must be a directory:

    a/b/../c    needs  a  and  a/b  to be directories
    a/          needs  a  to be one

Whatever is done to a tree leaves a tree; a failure is reported with the words of the system.
-/

namespace PageBlocks

/-- A place in a tree: the names from the root down. -/
abbrev Place := List Text

/-- What is found at a place. -/
inductive Node where
  | directory
  /-- A file; none stands for bytes that are no text. -/
  | file (content : Option Text)
  deriving DecidableEq, Repr

/-- Directories and files. The root is always a directory. -/
structure FileTree where
  nodes : List (Place × Node)
  /-- Where relative paths start. -/
  current : Place
  deriving DecidableEq, Repr

namespace FileTree

/-- Why something cannot be done to a tree. -/
inductive Fault where
  | missing
  | alreadyThere
  | notDirectory
  | isDirectory
  | nameTooLong
  | nulInName
  | notText
  deriving DecidableEq, Repr

/-- The words of the system. -/
def Fault.text : Fault → String
  | .missing => "No such file or directory (os error 2)"
  | .alreadyThere => "File exists (os error 17)"
  | .notDirectory => "Not a directory (os error 20)"
  | .isDirectory => "Is a directory (os error 21)"
  | .nameTooLong => "File name too long (os error 36)"
  | .nulInName => "file name contained an unexpected NUL byte"
  | .notText => "stream did not contain valid UTF-8"

/-- The greatest number of bytes of a name. -/
def maxNameLength : Nat := 255

/-- The greatest number of bytes of a path. -/
def maxPathLength : Nat := 4095

/-- What is found at a place. -/
def node? (t : FileTree) (place : Place) : Option Node :=
  if place.isEmpty then some .directory else t.nodes.lookup place

/-- Follows names from the place `here`. What is reached need not exist, but all before it must be
directories. -/
def walk (t : FileTree) (here : Place) : List Text → Except Fault Place
  | [] => .ok here
  | name :: names =>
    match t.node? here with
    | none => .error .missing
    | some (.file _) => .error .notDirectory
    | some .directory =>
      if Path.isIdle name then t.walk here names
      else if name = ['.', '.'] then t.walk here.dropLast names
      else if maxNameLength < Text.utf8Length name then .error .nameTooLong
      else t.walk (here ++ [name]) names

/-- The place that a path leads to. -/
def locate (t : FileTree) (p : Path) : Except Fault Place :=
  if p.isEmpty then .error .missing
  else if p.any fun c => c.toNat = 0 then .error .nulInName
  else if maxPathLength < Text.utf8Length p then .error .nameTooLong
  else t.walk (if Path.isAbsolute p then [] else t.current) (Text.splitOn '/' p)

/-- What a path leads to. -/
def find (t : FileTree) (p : Path) : Except Fault Node :=
  match t.locate p with
  | .error f => .error f
  | .ok place => (t.node? place).elim (.error .missing) .ok

/-- Does a path lead to anything? -/
def isPresent (t : FileTree) (p : Path) : Bool := (t.find p).isOk

/-- Does a path lead to a directory? -/
def isDirectory (t : FileTree) (p : Path) : Bool :=
  match t.find p with
  | .ok .directory => true
  | _ => false

/-- The text of a file. -/
def contents (t : FileTree) (p : Path) : Except Fault Text :=
  match t.find p with
  | .error f => .error f
  | .ok .directory => .error .isDirectory
  | .ok (.file none) => .error .notText
  | .ok (.file (some text)) => .ok text

/-- Reads from a tree. -/
def read (t : FileTree) : ReadFile := fun p =>
  match t.contents p with
  | .ok text => .ok text
  | .error .missing => .error (.notFound Fault.missing.text.toList)
  | .error f => .error (.failed f.text.toList)

/-- Puts a node at a place, in place of what may be there. -/
def assign (t : FileTree) (place : Place) (n : Node) : FileTree :=
  { t with nodes := (place, n) :: t.nodes.filter fun (p, _) => p != place }

/-- Makes one directory. Slashes behind its name do not count. -/
def makeDirectory (t : FileTree) (p : Path) : Except Fault FileTree :=
  let bare := Text.dropEndWhile (· == '/') p
  match t.locate (if bare.isEmpty then p else bare) with
  | .error f => .error f
  | .ok place =>
    if (t.node? place).isSome then .error .alreadyThere else .ok (t.assign place .directory)

/-- Makes a directory, if it is not there, together with those above it; paths above a path are
shorter, so `depth` may be its length. -/
def makeDirectories : (depth : Nat) → Path → FileTree → Except Fault Unit × FileTree
  | 0, _, t => (.ok (), t)
  | depth + 1, p, t =>
    let settle (t : FileTree) (f : Fault) : Except Fault Unit × FileTree :=
      if t.isDirectory p then (.ok (), t) else (.error f, t)
    if p.isEmpty then (.ok (), t)
    else
      match t.makeDirectory p with
      | .ok t => (.ok (), t)
      | .error .missing =>
        match makeDirectories depth (Path.directory p) t with
        | (.error f, t) => (.error f, t)
        | (.ok (), t) =>
          match t.makeDirectory p with
          | .ok t => (.ok (), t)
          | .error f => settle t f
      | .error f => settle t f

/-- Writes a file whose directory is there. -/
def put (t : FileTree) (p : Path) (text : Text) : Except Fault FileTree :=
  match t.locate p with
  | .error f => .error f
  | .ok place =>
    match t.node? place with
    | some .directory => .error .isDirectory
    | _ => .ok (t.assign place (.file (some text)))

/-- Writes a file, and makes the directories that it needs. -/
def write (t : FileTree) (p : Path) (text : Text) : Except Fault Unit × FileTree :=
  let parent := Path.directory p
  match makeDirectories (parent.length + 1) parent t with
  | (.error f, t) => (.error f, t)
  | (.ok (), t) =>
    match t.put p text with
    | .error f => (.error f, t)
    | .ok t => (.ok (), t)

end FileTree

end PageBlocks
