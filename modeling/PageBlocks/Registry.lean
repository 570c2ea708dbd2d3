import PageBlocks.Handler.Asset
import PageBlocks.Handler.Attribute
import PageBlocks.Handler.Include
import PageBlocks.Handler.Source
import PageBlocks.Text.Quoted

/-!
# The registry

Which handler takes care of which block type. A later registration replaces an earlier one of the
same name. Types in square brackets that have no handler of their own share the one registered as
`[attr]`.
-/

namespace PageBlocks

/-- Handlers by name, in the order of their names, each name once. -/
structure Registry where
  handlers : List Handler

namespace Registry

/-- No handlers. -/
def empty : Registry := ⟨[]⟩

/-- The handler registered under exactly this name. -/
def find? (r : Registry) (name : Text) : Option Handler :=
  r.handlers.find? fun h => h.name == name

/-- Puts a handler in its place by name. -/
def insert (h : Handler) : List Handler → List Handler
  | [] => [h]
  | g :: gs =>
    if h.name = g.name then h :: gs
    else if Text.lt h.name g.name then h :: g :: gs
    else g :: insert h gs

/-- Registers a handler under its own name. -/
def register (r : Registry) (h : Handler) : Registry := ⟨insert h r.handlers⟩

/-- Registers a handler, and gives back the one that it takes the place of. -/
def exchange (r : Registry) (h : Handler) : Registry × Option Handler :=
  (r.register h, r.find? h.name)

/-- The handler for a block type. -/
def get? (r : Registry) (type : Text) : Option Handler :=
  match r.find? type with
  | some h => some h
  | none => if (bracketed? type).isSome then r.find? "[attr]".toList else none

/-- Is there a handler for a block type? -/
def contains (r : Registry) (type : Text) : Bool := (r.get? type).isSome

/-- The registered names, in order. -/
def names (r : Registry) : List Text := r.handlers.map Handler.name

/-- The number of registered handlers. -/
def size (r : Registry) : Nat := r.handlers.length

/-- Registers all handlers that a source declares, or none; also gives their number. -/
def load (r : Registry) (read : ReadFile) (path : Path) : Except SourceError (Registry × Nat) :=
  match Handler.load read path with
  | .error e => .error e
  | .ok hs => .ok (hs.foldl register r, hs.length)

/-- The handlers that are always there. -/
def builtin : Registry :=
  [Handler.remove, .insertFile, .asset .js, .asset .css, .setAttribute, .template].foldl
    register empty

/-- A line that lists the registered names. -/
def describe (r : Registry) : Text :=
  let quoted := r.names.map Text.inQuotes
  "BlockRegistry \x7b handlers: [".toList ++ Text.join ", ".toList quoted ++ "] \x7d".toList

end Registry

end PageBlocks
