import PageBlocks.Path
import PageBlocks.Template
import PageBlocks.Toml.Document

/-!
# Options

What a page is processed with. Every option has a default, and a record of options may leave out
any of them, but may not hold anything else.
-/

namespace PageBlocks

/-- The options of a run. -/
structure Options where
  /-- The data model of the page. -/
  data : Json.Fields := []
  environment : Option Text := none
  /-- The word that sets directives apart; it may still be an unusable one. -/
  marker : Text := "build".toList
  strip : Bool := false
  /-- Are included files processed as well? -/
  recursive : Bool := false
  /-- How deep files may include files. -/
  maxIncludeDepth : Nat := 32
  /-- Files that declare block types. -/
  blockSources : List Path := []
  /-- The pattern of placeholders. -/
  interpolate : Text := Template.defaultPattern
  /-- Settings that are passed through to handlers. -/
  config : Json.Fields := []

namespace Options

/-- The data that placeholders are filled from: the data model, and the environment unless the
model has a field of that name. -/
def templateData (o : Options) : Json :=
  match o.environment with
  | none => .obj o.data
  | some e =>
    let name := "environment".toList
    if (Json.Fields.get? o.data name).isSome then .obj o.data
    else .obj (Json.Fields.insert name (.str e) o.data)

/-- A list of paths. -/
def paths? : Json → Option (List Path)
  | .arr vs => vs.mapM fun
    | .str t => some t
    | _ => none
  | _ => none

/-- The pattern in a record of template settings, if it has one. -/
def interpolate? : Json → Option (Option Text)
  | .obj [] => some none
  | .obj [(name, .str t)] => if name = "interpolate".toList then some (some t) else none
  | .arr [] => some none
  | .arr [.str t] => some (some t)
  | _ => none

/-- The options in the order in which a list of them gives their values. -/
def names : List String :=
  ["data", "environment", "comment_marker", "strip", "recursive", "max_include_depth",
    "custom_block_types", "template_settings", "config"]

/-- Sets the option called `name`, if it exists and can have this value. -/
def set? (o : Options) (name : String) (v : Json) : Option Options :=
  match name, v with
  | "data", .obj fs => some { o with data := fs }
  | "environment", .str t => some { o with environment := some t }
  | "environment", .null => some { o with environment := none }
  | "comment_marker", .str t => some { o with marker := t }
  | "strip", .bool b => some { o with strip := b }
  | "recursive", .bool b => some { o with recursive := b }
  | "max_include_depth", .num (.int n) =>
    if 0 ≤ n ∧ n < 0x10000000000000000 then some { o with maxIncludeDepth := n.toNat } else none
  | "custom_block_types", v => (paths? v).map fun ps => { o with blockSources := ps }
  | "template_settings", v =>
    (interpolate? v).map fun p => { o with interpolate := p.getD Template.defaultPattern }
  | "config", .obj fs => some { o with config := fs }
  | _, _ => none

/-- Reads options from a record, or from the list of their values. -/
def ofJson? : Json → Option Options
  | .obj fs => fs.foldlM (fun o (name, v) => o.set? (String.ofList name) v) {}
  | .arr vs =>
    if vs.length ≤ names.length then
      (names.zip vs).foldlM (fun o (name, v) => o.set? name v) {}
    else none
  | _ => none

/-- The pattern in the template settings of a settings file, if they have one. -/
def interpolateToml? (v : Toml.Value) : Option (Option Text) :=
  v.record? ["interpolate"] (fun _ name v => match name, v with
    | "interpolate", .str t => some (some t)
    | _, _ => none) none

/-- Sets the option called `name` from a settings file, where an environment cannot be left
empty. -/
def setToml? (o : Options) (name : String) (v : Toml.Value) : Option Options :=
  match name, v with
  | "data", v => v.fields?.map fun fs => { o with data := fs }
  | "environment", .str t => some { o with environment := some t }
  | "comment_marker", .str t => some { o with marker := t }
  | "strip", .bool b => some { o with strip := b }
  | "recursive", .bool b => some { o with recursive := b }
  | "max_include_depth", .int n =>
    if 0 ≤ n ∧ n < 0x10000000000000000 then some { o with maxIncludeDepth := n.toNat } else none
  | "custom_block_types", v => v.strings?.map fun ps => { o with blockSources := ps }
  | "template_settings", v =>
    (interpolateToml? v).map fun p => { o with interpolate := p.getD Template.defaultPattern }
  | "config", v => v.fields?.map fun fs => { o with config := fs }
  | _, _ => none

/-- Reads options from a settings file. -/
def ofToml? (v : Toml.Value) : Option Options := v.record? names setToml? {}

/-- Reads options from a settings file of their own. -/
def ofTomlText (text : Text) : Except Toml.Error Options :=
  match Toml.parse text with
  | .error e => .error e
  | .ok es => (ofToml? (.table .header es)).elim (.error .misfit) .ok

end Options

end PageBlocks
