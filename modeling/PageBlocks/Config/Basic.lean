import PageBlocks.Batch
import PageBlocks.Config.Variables

/-!
# Configurations

A settings file holds options and a list of jobs.

    [options]                     [[files]]
    environment = "dist"          src = ["src/index.html"]
    recursive = true              dest = "dist/index.html"

Variables are filled in first, then paths are seen from the file's directory, then settings from
elsewhere take over, and what comes out is checked. A configuration that passes can be used.
-/

namespace PageBlocks

/-- A job as it is written in a settings file. -/
structure FileEntry where
  sources : List Text := []
  dest : Text := []
  deriving DecidableEq, Repr

namespace FileEntry

/-- Sets one field, if it exists and can have this value. -/
def set? (e : FileEntry) (name : String) (v : Toml.Value) : Option FileEntry :=
  match name, v with
  | "src", v => v.strings?.map fun ts => { e with sources := ts }
  | "dest", .str t => some { e with dest := t }
  | _, _ => none

/-- Reads a job from a settings file. -/
def ofToml? (v : Toml.Value) : Option FileEntry := v.record? ["src", "dest"] set? {}

/-- Reads a list of jobs. -/
def listOfToml? (v : Toml.Value) : Option (List FileEntry) := v.items?.bind (·.mapM ofToml?)

end FileEntry

/-- What is wrong with a configuration. -/
inductive ConfigFault where
  | emptyMarker
  | badMarker (word : Text)
  | noDepth
  | badPlaceholders (error : TemplateError)
  /-- In the entry of this number, from 0 on. -/
  | noSources (entry : Nat)
  | emptySource (entry source : Nat)
  | emptyDest (entry : Nat)
  deriving DecidableEq, Repr

/-- The wording of what is wrong. -/
def ConfigFault.message : ConfigFault → String
  | .emptyMarker => "options.comment_marker cannot be empty"
  | .badMarker w =>
    "options.comment_marker " ++ Text.quoted w
      ++ " may only contain ASCII letters, digits, `-` and `_`"
  | .noDepth => "options.max_include_depth must be greater than 0"
  | .badPlaceholders e => "options.template_settings.interpolate: " ++ e.message
  | .noSources i => "files[" ++ toString i ++ "].src must list at least one file"
  | .emptySource i j =>
    "files[" ++ toString i ++ "].src[" ++ toString j ++ "] cannot be empty"
  | .emptyDest i => "files[" ++ toString i ++ "].dest cannot be empty"

/-- Why there is no configuration. -/
inductive ConfigError where
  | notFound (path : Path)
  | unreadable (cause : ReadError)
  | unparsable (cause : Toml.Error)
  | invalid (fault : ConfigFault)
  /-- The setting called `field` refers to a variable that is not set. -/
  | unset (field : String) (name : Text)
  deriving DecidableEq, Repr

/-- The wording of an error. -/
def ConfigError.message : ConfigError → String
  | .notFound p => "Configuration file not found: " ++ String.ofList p
  | .unreadable cause => "I/O error: " ++ String.ofList cause.text
  | .unparsable cause => "TOML parse error: " ++ cause.message
  | .invalid fault => "Configuration error: " ++ fault.message
  | .unset field name =>
    "Environment variable error in " ++ field ++ ": $\x7b" ++ String.ofList name ++ "\x7d not set"

/-- Settings from elsewhere, which take over from those of the file. -/
structure Overrides where
  environment : Option Text := none
  strip : Option Bool := none
  recursive : Option Bool := none
  marker : Option Text := none
  /-- Template data, each entry taking the place of one of the same name. -/
  data : List (Text × Text) := []
  /-- Sources of block types in addition to the others. -/
  blockSources : List Path := []
  deriving DecidableEq, Repr

/-- The options with settings from elsewhere. -/
def Options.override (o : Options) (s : Overrides) : Options :=
  { o with
    environment := s.environment.or o.environment
    strip := s.strip.getD o.strip
    recursive := s.recursive.getD o.recursive
    marker := s.marker.getD o.marker
    data := s.data.foldl (fun fs (name, t) => Json.Fields.insert name (.str t) fs) o.data
    blockSources := o.blockSources ++ s.blockSources }

/-- Options and jobs, and the file that they come from. -/
structure Config where
  options : Options := {}
  entries : List FileEntry := []
  file? : Option Path := none

namespace Config

/-- Where paths in the file start. -/
def directory (c : Config) : Path :=
  match c.file? with
  | none => []
  | some file => (Path.parent? file).getD ['.']

/-- The jobs of the entries, with all paths as seen from the file's directory. -/
def jobs (c : Config) : List Job :=
  c.entries.map fun e =>
    ⟨e.sources.map (Path.join c.directory), Path.join c.directory e.dest⟩

/-- Reads a configuration from the table of a whole settings file. -/
def ofToml? (es : Toml.Entries) : Option Config :=
  es.foldlM (fun c (name, v) =>
    match String.ofList name with
    | "options" => (Options.ofToml? v).map fun o => { c with options := o }
    | "files" => (FileEntry.listOfToml? v).map fun fs => { c with entries := fs }
    | _ => none) {}

/-- Applies `f` to the items of a list in order, with their places from `i` on. -/
def mapFrom {α β : Type} (f : Nat → α → Except ConfigError β) :
    (i : Nat) → List α → Except ConfigError (List β)
  | _, [] => .ok []
  | i, a :: rest => do return (← f i a) :: (← mapFrom f (i + 1) rest)

/-- Names the setting in which a variable is missing. -/
def inField {α : Type} (field : String) (x : Except Text α) : Except ConfigError α :=
  x.mapError (.unset field)

/-- Fills in the variables of a path. -/
def expandPath (vars : Variables) (field : String) (p : Text) : Except ConfigError Text :=
  inField field (vars.expandPath p)

/-- Fills in the variables of an entry. -/
def expandEntry (vars : Variables) (i : Nat) (e : FileEntry) : Except ConfigError FileEntry := do
  let field := "files[" ++ toString i ++ "]"
  let sources ← mapFrom
    (fun j => expandPath vars (field ++ ".src[" ++ toString j ++ "]")) 0 e.sources
  let dest ← expandPath vars (field ++ ".dest") e.dest
  return { sources, dest }

/-- Fills in the variables of a configuration. -/
def expand (vars : Variables) (c : Config) : Except ConfigError Config := do
  let environment ← match c.options.environment with
    | none => pure none
    | some e => (inField "options.environment" (vars.expand e)).map some
  let blockSources ← mapFrom
    (fun i => expandPath vars ("options.custom_block_types[" ++ toString i ++ "]"))
    0 c.options.blockSources
  let entries ← mapFrom (expandEntry vars) 0 c.entries
  return { c with options := { c.options with environment, blockSources }, entries }

/-- The text of a settings file as a configuration. -/
def ofText (vars : Variables) (file : Path) (text : Text) : Except ConfigError Config :=
  match Toml.parse text with
  | .error e => .error (.unparsable e)
  | .ok es =>
    match ofToml? es with
    | none => .error (.unparsable .misfit)
    | some c => do
      let c := { (← expand vars c) with file? := some file }
      let blockSources := c.options.blockSources.map (Path.join c.directory)
      return { c with options := { c.options with blockSources } }

/-- What is wrong with options. -/
def optionsFault? (o : Options) : Option ConfigFault :=
  if o.marker.isEmpty then some .emptyMarker
  else if !Marker.accepts o.marker then some (.badMarker o.marker)
  else if o.maxIncludeDepth = 0 then some .noDepth
  else
    match Template.ofPattern o.interpolate with
    | .error e => some (.badPlaceholders e)
    | .ok _ => none

/-- What is wrong with an entry. -/
def entryFault? (i : Nat) (e : FileEntry) : Option ConfigFault :=
  if e.sources.isEmpty then some (.noSources i)
  else
    match e.sources.findIdx? List.isEmpty with
    | some j => some (.emptySource i j)
    | none => if e.dest.isEmpty then some (.emptyDest i) else none

/-- What is wrong with the entries from place `i` on. -/
def entriesFault? : (i : Nat) → List FileEntry → Option ConfigFault
  | _, [] => none
  | i, e :: rest => (entryFault? i e).or (entriesFault? (i + 1) rest)

/-- What is wrong with a configuration. -/
def fault? (c : Config) : Option ConfigFault :=
  (optionsFault? c.options).or (entriesFault? 0 c.entries)

/-- The configuration with settings from elsewhere, if it can be used. -/
def finish (c : Config) (s : Overrides) : Except ConfigError Config :=
  let c := { c with options := c.options.override s }
  match c.fault? with
  | some fault => .error (.invalid fault)
  | none => .ok c

end Config

end PageBlocks
