import PageBlocks.Handler.Declared
import PageBlocks.Toml.Document

/-!
# Sources of block types

A settings file may declare block types, one `[[block]]` table each. A source is good only as a
whole: every name must be usable and new, and every entry must have exactly the fields that its
action needs.
-/

namespace PageBlocks

/-- One declared block type, as written. -/
structure SourceEntry where
  name : Text
  action : Action
  before : Option Text := none
  after : Option Text := none
  template : Option Text := none
  pattern : Option Text := none
  replacement : Option Text := none

namespace SourceEntry

/-- An action by its word. -/
def action? (t : Text) : Option Action :=
  if t = "wrap".toList then some .wrap
  else if t = "replace".toList then some .replace
  else if t = "regex".toList then some .regex
  else none

/-- An action as a settings file gives it: its word, or a table with the word for its only name and
nothing inside. -/
def actionOfToml? : Toml.Value → Option Action
  | .str t => action? t
  | .table _ [(t, .table _ [])] => action? t
  | .table _ [(t, .arr [])] => action? t
  | _ => none

/-- The fields of an entry, in the order in which a list gives their values. -/
def names : List String :=
  ["name", "action", "before", "after", "template", "pattern", "replacement"]

/-- Sets an optional field. -/
def set? (e : SourceEntry) (field : String) (v : Toml.Value) : Option SourceEntry :=
  match field, v with
  | "name", _ => some e
  | "action", _ => some e
  | "before", .str t => some { e with before := some t }
  | "after", .str t => some { e with after := some t }
  | "template", .str t => some { e with template := some t }
  | "pattern", .str t => some { e with pattern := some t }
  | "replacement", .str t => some { e with replacement := some t }
  | _, _ => none

/-- The values of an entry by their names. A list must give them all. -/
def entries? : Toml.Value → Option Toml.Entries
  | .table _ es => some es
  | v => v.items?.bind fun vs =>
    if names.length ≤ vs.length then some ((names.map String.toList).zip vs) else none

/-- Reads an entry, whose name and action must be given. -/
def ofToml? (v : Toml.Value) : Option SourceEntry := do
  let es ← entries? v
  let name ← match es.lookup "name".toList with
    | some (.str t) => some t
    | _ => none
  let action ← (es.lookup "action".toList).bind actionOfToml?
  es.foldlM (fun e (field, v) => e.set? (String.ofList field) v) { name, action }

/-- Refuses a field that the action has no use for. -/
def unused (e : SourceEntry) (field : String) (value : Option Text) : Except EntryFault Unit :=
  if value.isSome then .error (.unusedField field e.action) else .ok ()

/-- A field that the action needs. -/
def needed (e : SourceEntry) (field : String) (value : Option Text) : Except EntryFault Text :=
  match value with
  | some t => .ok t
  | none => .error (.missingField e.action field)

/-- The handler that an entry declares. -/
def handler (e : SourceEntry) : Except EntryFault Handler :=
  match e.action with
  | .wrap => do
    e.unused "template" e.template
    e.unused "pattern" e.pattern
    e.unused "replacement" e.replacement
    if e.before.isNone && e.after.isNone then throw .emptyWrap
    return .wrap e.name (e.before.getD []) (e.after.getD [])
  | .replace => do
    e.unused "before" e.before
    e.unused "after" e.after
    e.unused "pattern" e.pattern
    e.unused "replacement" e.replacement
    return .replace e.name (← e.needed "template" e.template)
  | .regex => do
    e.unused "before" e.before
    e.unused "after" e.after
    e.unused "template" e.template
    let source ← e.needed "pattern" e.pattern
    let replacement ← e.needed "replacement" e.replacement
    match Pattern.ofText source with
    | .error cause => throw (.badPattern cause)
    | .ok p => return .regex e.name p replacement

end SourceEntry

namespace Handler

/-- The handlers of the entries from number `number` on; `seen` are the names before. -/
def declareFrom (number : Nat) (seen : List Text) :
    List SourceEntry → Except SourceFault (List Handler)
  | [] => .ok []
  | e :: es =>
    if !isBlockType e.name then .error (.entry number e.name .invalidName)
    else if seen.contains e.name then .error (.entry number e.name .duplicate)
    else
      match e.handler with
      | .error fault => .error (.entry number e.name fault)
      | .ok h =>
        match declareFrom (number + 1) (e.name :: seen) es with
        | .error fault => .error fault
        | .ok hs => .ok (h :: hs)

/-- The handlers that a list of entries declares, in order. -/
def declare (entries : List SourceEntry) : Except SourceFault (List Handler) :=
  if entries.isEmpty then .error .noEntries else declareFrom 1 [] entries

/-- The entries of a source of block types. -/
def sourceEntries (text : Text) : Except Toml.Error (List SourceEntry) :=
  match Toml.parse text with
  | .error e => .error e
  | .ok [] => .ok []
  | .ok [(name, v)] =>
    let entries? : Option (List SourceEntry) :=
      if name = "block".toList then v.items?.bind (·.mapM SourceEntry.ofToml?) else none
    entries?.elim (.error .misfit) .ok
  | .ok _ => .error .misfit

/-- The handlers that the text of a source declares. -/
def ofSource (path : Path) (text : Text) : Except SourceError (List Handler) :=
  match sourceEntries text with
  | .error cause => .error (.unparsable path cause)
  | .ok entries =>
    match declare entries with
    | .error fault => .error (.invalid path fault)
    | .ok hs => .ok hs

/-- The handlers that a source declares. -/
def load (read : ReadFile) (path : Path) : Except SourceError (List Handler) :=
  match read path with
  | .error cause => .error (.unreadable path cause)
  | .ok text => ofSource path text

end Handler

end PageBlocks
