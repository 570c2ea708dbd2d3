import PageBlocks.Json.Basic

/-!
# Settings files: values

The values of a settings file, and the rules by which its tables come into being. A table is
opened by a header, or on the way to another one, or by a dotted key, or written in one line; what
may be added to it later depends on that.
-/

namespace PageBlocks.Toml

/-- How a table came into being. -/
inductive Origin where
  /-- By a header of its own. -/
  | header
  /-- On the way to another header. -/
  | implied
  /-- By a dotted key. -/
  | dotted
  /-- Between braces. -/
  | inline
  deriving DecidableEq, Repr

/-- A value of a settings file. -/
inductive Value where
  | str (t : Text)
  | int (n : Int)
  | real (x : Binary64)
  /-- An infinity, or not a number. -/
  | unbounded
  | bool (b : Bool)
  /-- A date, a time, or both, in their canonical spelling. -/
  | datetime (t : Text)
  | arr (items : List Value)
  | table (origin : Origin) (entries : List (Text × Value))
  /-- Tables under headers of their own, in order. -/
  | tables (items : List Value)
  deriving Repr, Inhabited

/-- The entries of a table, in the order of the file. -/
abbrev Entries := List (Text × Value)

namespace Entries

/-- The entries with the one called `name` replaced. -/
def set (name : Text) (v : Value) (es : Entries) : Entries :=
  es.map fun (k, w) => if k = name then (k, v) else (k, w)

/-- How a path of names is followed. -/
inductive Route where
  /-- From header to header. -/
  | headers
  /-- Along a dotted key. -/
  | dots
  deriving DecidableEq, Repr

/-- The origin of a table that is opened on the way. -/
def Route.fresh : Route → Origin
  | .headers => .implied
  | .dots => .dotted

/-- May the path lead through a table of this origin? -/
def Route.enters : Route → Origin → Bool
  | .headers, o => o != .inline
  | .dots, o => o == .implied || o == .dotted

/-- Changes the table at the end of a path; through tables under headers the path leads to the
last one. -/
def update (route : Route) (change : Origin → Entries → Option (Origin × Entries)) :
    List Text → Origin → Entries → Option (Origin × Entries)
  | [], o, es => change o es
  | name :: path, o, es =>
    match es.lookup name with
    | none =>
      match update route change path route.fresh [] with
      | none => none
      | some (o', es') => some (o, es ++ [(name, .table o' es')])
    | some (.table o' es') =>
      if route.enters o' then
        match update route change path o' es' with
        | none => none
        | some (o'', es'') => some (o, es.set name (.table o'' es''))
      else none
    | some (.tables items) =>
      match items.getLast? with
      | some (.table o' es') =>
        match update route change path o' es' with
        | none => none
        | some (o'', es'') =>
          some (o, es.set name (.tables (items.dropLast ++ [.table o'' es''])))
      | _ => none
    | some _ => none

/-- Opens the table `name` by a header. -/
def openTable (name : Text) (o : Origin) (es : Entries) : Option (Origin × Entries) :=
  match es.lookup name with
  | none => some (o, es ++ [(name, .table .header [])])
  | some (.table .implied es') => some (o, es.set name (.table .header es'))
  | some _ => none

/-- Opens one more of the tables called `name`. -/
def openNext (name : Text) (o : Origin) (es : Entries) : Option (Origin × Entries) :=
  match es.lookup name with
  | none => some (o, es ++ [(name, .tables [.table .header []])])
  | some (.tables items) => some (o, es.set name (.tables (items ++ [.table .header []])))
  | some _ => none

/-- Adds an entry that must be new. At the end of a dotted path the table must be one that has no
header of its own. -/
def add (viaDots : Bool) (name : Text) (v : Value) (o : Origin) (es : Entries) :
    Option (Origin × Entries) :=
  if viaDots && !Route.dots.enters o then none
  else if (es.lookup name).isSome then none
  else some (o, es ++ [(name, v)])

end Entries

/-- The items of a list, or of tables under headers of their own. -/
def Value.items? : Value → Option (List Value)
  | .arr vs => some vs
  | .tables vs => some vs
  | _ => none

/-- A date or time as data: one field with its spelling. -/
def datetimeFields (t : Text) : Json.Fields := [("$__toml_private_datetime".toList, .str t)]

mutual

/-- A value as data: dates become objects with one field, and what is no finite number becomes
null. A whole number must fit 64 bits. -/
def Value.toJson? : Value → Option Json
  | .str t => some (.str t)
  | .int n =>
    if -0x8000000000000000 ≤ n ∧ n < 0x10000000000000000 then some (.num (.int n)) else none
  | .real x => some (.num (.real x))
  | .unbounded => some .null
  | .bool b => some (.bool b)
  | .datetime t => some (.obj (datetimeFields t))
  | .arr vs => (itemsToJson? vs).map .arr
  | .table _ es => (entriesToJson? es).map Json.ofFields
  | .tables vs => (itemsToJson? vs).map .arr

/-- Items as data. -/
def itemsToJson? : List Value → Option (List Json)
  | [] => some []
  | v :: vs =>
    match v.toJson?, itemsToJson? vs with
    | some j, some js => some (j :: js)
    | _, _ => none

/-- Entries as data. -/
def entriesToJson? : List (Text × Value) → Option (List (Text × Json))
  | [] => some []
  | (k, v) :: es =>
    match v.toJson?, entriesToJson? es with
    | some j, some js => some ((k, j) :: js)
    | _, _ => none

end

/-- The fields of a value that is an object as data. -/
def Value.fields? : Value → Option Json.Fields
  | .table _ es => (entriesToJson? es).map Json.Fields.ofList
  | .datetime t => some (datetimeFields t)
  | _ => none

/-- The texts of a list of strings. -/
def Value.strings? (v : Value) : Option (List Text) :=
  v.items?.bind fun vs => vs.mapM fun
    | .str t => some t
    | _ => none

/-- Builds a record from a table, whose names must all be known, or from the list of its values in
the order of `names`. A list may be longer. -/
def Value.record? {α : Type} (names : List String) (set? : α → String → Value → Option α)
    (start : α) : Value → Option α
  | .table _ es => es.foldlM (fun a (name, v) => set? a (String.ofList name) v) start
  | .arr vs => (names.zip vs).foldlM (fun a (name, v) => set? a name v) start
  | .tables vs => (names.zip vs).foldlM (fun a (name, v) => set? a name v) start
  | _ => none

end PageBlocks.Toml
