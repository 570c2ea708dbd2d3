import PageBlocks.FileTree

/-!
# File systems

The few things that a run needs to do with files, whatever they are kept in. The real file system
is one instance; a `FileTree` is another, on which runs can be reasoned about.

A computation that reads files is handed over as a whole: it is a function of how files are read,
and its answer tells which files it could not read. So a file system may begin with no file at all
and fetch those that turn out to be needed.
-/

namespace PageBlocks

/-- What a run does with files. -/
structure FileSystem (m : Type → Type) where
  /-- Does the path lead to anything? -/
  isPresent : Path → m Bool
  /-- Does the path lead to a directory? -/
  isDirectory : Path → m Bool
  /-- Writes a file, and makes the directories that it needs. -/
  write : Path → Text → m (Except Text Unit)
  /-- Works something out from the files as they are now. -/
  consult : {α : Type} → (unread : α → List Path) → (ReadFile → α) → m α

namespace FileSystem

/-- Reads one file. -/
def read {m : Type → Type} (fs : FileSystem m) (p : Path) : m (Except ReadError Text) :=
  fs.consult (fun x : Except ReadError Text => if x.isOk then [] else [p]) fun read => read p

end FileSystem

/-- A tree of files that changes as files are written. -/
def FileTree.system : FileSystem (StateM FileTree) where
  isPresent p := do return (← get).isPresent p
  isDirectory p := do return (← get).isDirectory p
  write p text := do
    let (result, t) := (← get).write p text
    set t
    return result.mapError fun f => f.text.toList
  consult _ f := do return f (← get).read

end PageBlocks
