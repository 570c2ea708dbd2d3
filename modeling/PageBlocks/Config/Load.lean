import PageBlocks.Config.Basic

/-!
# Loading a configuration

The settings file is the one that was asked for, which must be there, or else the nearest one in
the current directory and those above it. Without a file the defaults hold.
-/

namespace PageBlocks.Config

variable {m : Type → Type} [Monad m]

/-- The name of a settings file that is looked for. -/
def fileName : Text := "buildblock.toml".toList

/-- A directory and those above it, the nearest first. -/
def upward : (limit : Nat) → Path → List Path
  | 0, _ => []
  | limit + 1, p => p :: ((Path.parent? p).map (upward limit)).getD []

/-- The first of the paths that leads to something. -/
def firstPresent (fs : FileSystem m) : List Path → m (Option Path)
  | [] => return none
  | p :: rest => do if ← fs.isPresent p then return some p else firstPresent fs rest

/-- The nearest settings file. -/
def discover (fs : FileSystem m) (current : Path) : m (Option Path) :=
  firstPresent fs ((upward (current.length + 1) current).map fun dir => Path.join dir fileName)

/-- Reads the configuration in a file. -/
def ofFile (fs : FileSystem m) (vars : Variables) (file : Path) :
    m (Except ConfigError Config) := do
  match ← fs.read file with
  | .error cause => return .error (.unreadable cause)
  | .ok text => return ofText vars file text

/-- The configuration as it is written. -/
def locate (fs : FileSystem m) (vars : Variables) (current : Path) :
    Option Path → m (Except ConfigError Config)
  | some file => do
    if ← fs.isPresent file then ofFile fs vars file else return .error (.notFound file)
  | none => do
    match ← discover fs current with
    | some file => ofFile fs vars file
    | none => return .ok {}

/-- The configuration of a run. -/
def load (fs : FileSystem m) (vars : Variables) (current : Path) (file? : Option Path)
    (s : Overrides) : m (Except ConfigError Config) := do
  match ← locate fs vars current file? with
  | .error e => return .error e
  | .ok c => return c.finish s

end PageBlocks.Config
