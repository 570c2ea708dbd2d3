import PageBlocks.CommandLine.Run

/-!
# The program

The real file system, and `main`. Files are fetched when a computation turns out to need them.
-/

namespace PageBlocks

/-- The words for a failed system call. -/
def systemText (e : IO.Error) : Text :=
  match e with
  | .noFileOrDirectory .. => FileTree.Fault.missing.text.toList
  | .alreadyExists .. => FileTree.Fault.alreadyThere.text.toList
  | e => (toString e).toList

/-- Reads a real file. -/
def readReal (p : Path) : IO (Except ReadError Text) := do
  try
    let bytes ← IO.FS.readBinFile (String.ofList p)
    match String.fromUTF8? bytes with
    | some text => return .ok text.toList
    | none => return .error (.failed FileTree.Fault.notText.text.toList)
  catch e =>
    match e with
    | .noFileOrDirectory .. => return .error (.notFound (systemText e))
    | e => return .error (.failed (systemText e))

/-- Files that have been fetched. -/
abbrev Fetched := List (Path × Except ReadError Text)

/-- Reads from fetched files. -/
def Fetched.read (known : Fetched) : ReadFile := fun p =>
  (known.lookup p).getD (.error (.notFound FileTree.Fault.missing.text.toList))

/-- Repeats a computation until all files that it could not read have been fetched in vain. -/
partial def consultReal {α : Type} (unread : α → List Path) (f : ReadFile → α) (known : Fetched) :
    IO α := do
  let a := f known.read
  let wanted := (unread a).eraseDups.filter fun p => (known.lookup p).isNone
  if wanted.isEmpty then return a
  let fetched ← wanted.mapM fun p => do return (p, ← readReal p)
  consultReal unread f (fetched ++ known)

/-- Does the path lead to anything? -/
def isPresentReal (p : Path) : IO Bool := do
  try
    let _ ← IO.FS.realPath (String.ofList p)
    return true
  catch _ => return false

/-- The real file system. Only a directory can be followed by a dot. -/
def realFiles : FileSystem IO where
  isPresent := isPresentReal
  isDirectory p := if p.isEmpty then return false else isPresentReal (p ++ ['/', '.'])
  write p text := do
    try
      let parent := Path.directory p
      if !parent.isEmpty then IO.FS.createDirAll (String.ofList parent)
      IO.FS.writeFile (String.ofList p) (String.ofList text)
      return .ok ()
    catch e => return .error (systemText e)
  consult unread f := consultReal unread f []

/-- The variables of the process, as the system lists them. -/
def realVariables : IO Variables := do
  match ← readReal "/proc/self/environ".toList with
  | .error _ => return []
  | .ok text => return (Text.splitOn (Char.ofNat 0) text).filterMap (Text.cutAt? (· == '='))

end PageBlocks

open PageBlocks in
/-- Runs the program. -/
def main (args : List String) : IO UInt32 := do
  let vars ← realVariables
  let current := (← IO.currentDir).toString.toList
  let exit ← CommandLine.run realFiles vars current (args.map String.toList)
  exit.output.forM IO.println
  let colours := CommandLine.Colours.ofVariables vars
  exit.messages.forM fun line => IO.eprintln (line.render colours)
  return exit.code.toUInt32
