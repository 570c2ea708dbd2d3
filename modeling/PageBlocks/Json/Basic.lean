import PageBlocks.Text.Basic
import PageBlocks.Number.Binary64

/-!
# Data values

The data model of a page: what placeholders are filled from and what handlers may look up. An
object keeps its fields sorted by name, each name once.
-/

namespace PageBlocks

/-- A number that is whole and fits 64 bits, or a double. -/
inductive Number where
  | int (n : Int)
  | real (x : Binary64)
  deriving DecidableEq, Repr

/-- A data value. -/
inductive Json where
  | null
  | bool (b : Bool)
  | num (n : Number)
  | str (t : Text)
  | arr (items : List Json)
  | obj (fields : List (Text × Json))
  deriving Repr, Inhabited

namespace Json

/-- The fields of an object. -/
abbrev Fields := List (Text × Json)

namespace Fields

/-- The value of a field. -/
def get? (fs : Fields) (name : Text) : Option Json := fs.lookup name

/-- Sets a field, in its place by name. -/
def insert (name : Text) (v : Json) : Fields → Fields
  | [] => [(name, v)]
  | (n, w) :: fs =>
    if name = n then (name, v) :: fs
    else if Text.lt name n then (name, v) :: (n, w) :: fs
    else (n, w) :: insert name v fs

/-- The fields of a list in which later values of a name replace earlier ones. -/
def ofList (entries : List (Text × Json)) : Fields :=
  entries.foldl (fun fs (n, v) => insert n v fs) []

end Fields

/-- The object with the given fields. -/
def ofFields (entries : List (Text × Json)) : Json := .obj (Fields.ofList entries)

end Json

end PageBlocks
