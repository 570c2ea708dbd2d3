import PageBlocks.CommandLine.Usage
import PageBlocks.Path

/-!
# Reading the command line

Arguments are read from left to right.

    --name          a switch, or a parameter whose value is the next argument
    --name=value    a parameter with its value
    -xyz            switches by their letters; behind the letter of a parameter comes its value
    --              all that follows is a source

A value, and a run of sources, is taken in only when the next thing begins; so an argument that
means nothing is complained about before a bad value directly in front of it.
-/

namespace PageBlocks.CommandLine

/-- Why reading ended early. -/
inductive Stop where
  /-- Help was asked for. -/
  | help
  /-- The version was asked for. -/
  | version
  /-- Nothing was asked for. -/
  | nothing
  | usage (error : UsageError)
  deriving DecidableEq, Repr

/-- What has been read but not taken in yet. -/
inductive Pending where
  | none
  /-- A parameter, and its value if it has come. -/
  | param (p : Param) (value? : Option Text)
  | sources (paths : List Path)
  deriving DecidableEq, Repr

/-- What has been read, in order. -/
structure Arguments where
  command : Command
  switches : List Switch := []
  values : List (Param × Text) := []
  sources : List Path := []
  deriving DecidableEq, Repr

/-- How far reading has come. -/
structure Reading where
  done : Arguments
  pending : Pending := .none
  /-- Are all further arguments sources? -/
  onlySources : Bool := false
  deriving DecidableEq, Repr

namespace Reading

/-- Stops with a usage error. -/
def refuse {α : Type} (e : UsageError) : Except Stop α := .error (.usage e)

/-- The key and the value of a data entry. The key must hold more than white space. -/
def keyValue? (t : Text) : Option (Text × Text) :=
  match Text.cutAt? (· == '=') t with
  | some (key, value) => if Text.spaces key then none else some (Text.trim key, value)
  | none => none

/-- Takes in the value of a parameter. -/
def take (r : Reading) (p : Param) (value : Text) : Except Stop Reading :=
  if !p.repeats && r.done.values.any fun (q, _) => q = p then refuse (.repeated p.label)
  else if p.isPath && value.isEmpty then refuse (.missingValue p.label)
  else if p = .data && (keyValue? value).isNone then refuse (.invalidData value)
  else .ok { r with done := { r.done with values := r.done.values ++ [(p, value)] } }

/-- Takes in what is pending. -/
def settle (r : Reading) : Except Stop Reading :=
  let clear := { r with pending := .none }
  match r.pending with
  | .none => .ok r
  | .param p none => refuse (.missingValue p.label)
  | .param p (some value) => clear.take p value
  | .sources paths =>
    if paths.any List.isEmpty then refuse (.missingValue sourcesLabel)
    else .ok { clear with done := { r.done with sources := r.done.sources ++ paths } }

/-- A switch. -/
def turnOn (r : Reading) (s : Switch) : Except Stop Reading := do
  let r ← r.settle
  if s = .help then .error .help
  else if r.done.switches.contains s then refuse (.repeated s.label)
  else return { r with done := { r.done with switches := r.done.switches ++ [s] } }

/-- A parameter, with its value if that is attached. -/
def begin (r : Reading) (p : Param) (value? : Option Text) : Except Stop Reading := do
  let r ← r.settle
  match value? with
  | some value => r.take p value
  | none => return { r with pending := .param p none }

/-- An argument behind two dashes. -/
def long (r : Reading) (body : Text) : Except Stop Reading :=
  let (name, value?) := match Text.cutAt? (· == '=') body with
    | some (name, value) => (name, some value)
    | none => (body, none)
  match (Param.all r.done.command).find? fun p => p.long.toList = name with
  | some p => r.begin p value?
  | none =>
    match Switch.all.find? fun s => s.long.toList = name with
    | some s =>
      match value? with
      | some value => refuse (.unexpectedValue s.label value)
      | none => r.turnOn s
    | none => refuse (.unexpected ('-' :: '-' :: name))

/-- Letters behind one dash. -/
def short (r : Reading) : Text → Except Stop Reading
  | [] => .ok r
  | c :: rest =>
    match (Param.all r.done.command).find? fun p => p.short? = some c with
    | some p =>
      match rest with
      | [] => r.begin p none
      | '=' :: value => r.begin p (some value)
      | value => r.begin p (some value)
    | none =>
      match Switch.all.find? fun s => s.short? = some c with
      | some s => do (← r.turnOn s).short rest
      | none => refuse (.unexpected ['-', c])

/-- A source; only `process` has any. -/
def source (r : Reading) (t : Text) : Except Stop Reading :=
  match r.done.command, r.pending with
  | .run, _ => refuse (.unexpected t)
  | .process, .sources paths => .ok { r with pending := .sources (paths ++ [t]) }
  | .process, _ => do return { (← r.settle) with pending := .sources [t] }

/-- An argument that is no option: the value that is waited for, or a source. -/
def plain (r : Reading) (t : Text) : Except Stop Reading :=
  match r.pending with
  | .param p none => .ok { r with pending := .param p (some t) }
  | _ => r.source t

/-- One argument. -/
def step (r : Reading) (t : Text) : Except Stop Reading :=
  if r.onlySources then r.source t
  else
    match t with
    | ['-', '-'] => .ok { r with onlySources := true }
    | '-' :: '-' :: body => r.long body
    | ['-'] => r.plain t
    | '-' :: letters => r.short letters
    | _ => r.plain t

end Reading

namespace Arguments

/-- The values of a parameter, in order. -/
def valuesOf (a : Arguments) (p : Param) : List Text :=
  a.values.filterMap fun (q, t) => if q = p then some t else none

/-- The value of a parameter that can be given once. -/
def value? (a : Arguments) (p : Param) : Option Text := (a.valuesOf p).head?

/-- Was the switch given? -/
def has (a : Arguments) (s : Switch) : Bool := a.switches.contains s

/-- Two switches that exclude each other; the first one given is named first. -/
def conflict? (a : Arguments) : Option UsageError :=
  a.switches.findSome? fun s =>
    match s.opposite? with
    | some o => if a.has o then some (.conflict s.label o.label) else none
    | none => none

/-- What is needed but was not given. -/
def missing (a : Arguments) : List String :=
  match a.command with
  | .run => []
  | .process =>
    (if (a.value? .output).isNone then [Param.output.label] else [])
      ++ (if a.sources.isEmpty then [sourcesLabel] else [])

/-- Reads the arguments behind a command. -/
def ofList (command : Command) (args : List Text) : Except Stop Arguments := do
  let r ← args.foldlM Reading.step { done := { command } }
  let a := (← r.settle).done
  match a.conflict? with
  | some e => Reading.refuse e
  | none => if a.missing.isEmpty then return a else Reading.refuse (.missingArguments a.missing)

end Arguments

/-- A command by its name. -/
def Command.ofName? (t : Text) : Option Command :=
  if t = "run".toList then some .run
  else if t = "process".toList then some .process
  else none

/-- Behind the word `help`: the name of a command at most. -/
def readHelp : List Text → Stop
  | [] => .help
  | t :: rest =>
    if (Command.ofName? t).isSome || t = "help".toList then
      match rest with
      | [] => .help
      | other :: _ => .usage (.unknownCommand other)
    else .usage (.unknownCommand t)

/-- In front of a command: help or version, and nothing else. -/
def readFront (t : Text) : Stop :=
  match t with
  | '-' :: '-' :: body =>
    let name := body.takeWhile (· != '=')
    let known? : Option Stop :=
      if name = "help".toList then some .help
      else if name = "version".toList then some .version
      else none
    match known?, body.dropWhile (· != '=') with
    | some stop, [] => stop
    | some _, _ :: value =>
      .usage (.unexpectedValue ("--" ++ String.ofList name) value)
    | none, _ => .usage (.unexpected ('-' :: '-' :: name))
  | '-' :: 'h' :: _ => .help
  | '-' :: 'V' :: _ => .version
  | '-' :: c :: _ => .usage (.unexpected ['-', c])
  | word => .usage (.unknownCommand word)

/-- Reads a whole command line. -/
def read (args : List Text) : Except Stop Arguments :=
  match args with
  | [] => .error .nothing
  | [['-', '-']] => .error .nothing
  | ['-', '-'] :: word :: _ =>
    if (Command.ofName? word).isSome || word = "help".toList then
      .error (.usage (.unexpected word))
    else .error (.usage (.unknownCommand word))
  | word :: rest =>
    match Command.ofName? word with
    | some command => Arguments.ofList command rest
    | none => if word = "help".toList then .error (readHelp rest) else .error (readFront word)

end PageBlocks.CommandLine
