import PageBlocks.Text.Basic

/-!
# What can be asked for on the command line

    buildblock run [OPTIONS]
    buildblock process <SRC>... --output <DEST> [OPTIONS]

Switches are there or not; parameters have a value. Both commands take the same ones, except that
only `process` has sources and a destination.
-/

namespace PageBlocks.CommandLine

/-- What is to be done. -/
inductive Command where
  /-- All jobs of the configuration. -/
  | run
  /-- The sources on the command line. -/
  | process
  deriving DecidableEq, Repr

/-- An option without a value. -/
inductive Switch where
  | strip
  | noStrip
  | recursive
  | noRecursive
  | verbose
  | help
  deriving DecidableEq, Repr

namespace Switch

/-- All switches. -/
def all : List Switch := [.strip, .noStrip, .recursive, .noRecursive, .verbose, .help]

/-- The name behind two dashes. -/
def long : Switch → String
  | .strip => "strip"
  | .noStrip => "no-strip"
  | .recursive => "recursive"
  | .noRecursive => "no-recursive"
  | .verbose => "verbose"
  | .help => "help"

/-- The letter behind one dash. -/
def short? : Switch → Option Char
  | .verbose => some 'v'
  | .help => some 'h'
  | _ => none

/-- How a message refers to a switch. -/
def label (s : Switch) : String := "--" ++ s.long

/-- The switch that cannot be given together with this one. -/
def opposite? : Switch → Option Switch
  | .strip => some .noStrip
  | .noStrip => some .strip
  | .recursive => some .noRecursive
  | .noRecursive => some .recursive
  | _ => none

end Switch

/-- An option with a value. -/
inductive Param where
  | config
  | environment
  | marker
  | data
  | blockType
  | output
  deriving DecidableEq, Repr

namespace Param

/-- The parameters of a command. -/
def all : Command → List Param
  | .run => [.config, .environment, .marker, .data, .blockType]
  | .process => [.config, .environment, .marker, .data, .blockType, .output]

/-- The name behind two dashes. -/
def long : Param → String
  | .config => "config"
  | .environment => "env"
  | .marker => "marker"
  | .data => "data"
  | .blockType => "block-type"
  | .output => "output"

/-- The letter behind one dash. -/
def short? : Param → Option Char
  | .config => some 'c'
  | .environment => some 'e'
  | .marker => some 'm'
  | .data => some 'd'
  | .blockType => none
  | .output => some 'o'

/-- The word for the value. -/
def valueName : Param → String
  | .config => "CONFIG"
  | .environment => "ENVIRONMENT"
  | .marker => "MARKER"
  | .data => "KEY=VALUE"
  | .blockType => "PATH"
  | .output => "DEST"

/-- How a message refers to a parameter. -/
def label (p : Param) : String := "--" ++ p.long ++ " <" ++ p.valueName ++ ">"

/-- May the parameter be given more than once? -/
def repeats : Param → Bool
  | .data => true
  | .blockType => true
  | _ => false

/-- Is the value a path, which cannot be empty? -/
def isPath : Param → Bool
  | .config => true
  | .blockType => true
  | .output => true
  | _ => false

end Param

/-- How a message refers to the sources. -/
def sourcesLabel : String := "<SRC>..."

/-- Why a command line cannot be understood. -/
inductive UsageError where
  | unexpected (argument : Text)
  | unknownCommand (word : Text)
  | missingValue (label : String)
  | unexpectedValue (label : String) (value : Text)
  | repeated (label : String)
  | conflict (label other : String)
  | invalidData (value : Text)
  | missingArguments (labels : List String)
  deriving DecidableEq, Repr

/-- How a part of a message stands out. -/
inductive Emphasis where
  | plain
  /-- What is wrong. -/
  | wrong
  /-- What is to be written as it is. -/
  | exact
  /-- The word that starts an error. -/
  | alarm
  deriving DecidableEq, Repr

/-- How an emphasis is switched on where there are colours. -/
def Emphasis.colour : Emphasis → String
  | .plain => ""
  | .wrong => "\x1b[33m"
  | .exact => "\x1b[1m"
  | .alarm => "\x1b[1m\x1b[31m"

/-- A part of a message. -/
structure Span where
  emphasis : Emphasis
  text : String
  deriving DecidableEq, Repr

namespace Span

/-- A part without emphasis. -/
def plain (text : String) : Span := ⟨.plain, text⟩

/-- A part between quotes. -/
def quoted (emphasis : Emphasis) (text : String) : List Span :=
  [plain "'", ⟨emphasis, text⟩, plain "'"]

/-- A part as it is shown, perhaps in colours. -/
def render (colours : Bool) (s : Span) : String :=
  if colours && s.emphasis != .plain then s.emphasis.colour ++ s.text ++ "\x1b[0m" else s.text

end Span

/-- The parts of the wording of a usage error. -/
def UsageError.spans : UsageError → List Span
  | .unexpected a =>
    [.plain "unexpected argument "] ++ Span.quoted .wrong (String.ofList a) ++ [.plain " found"]
  | .unknownCommand w =>
    [.plain "unrecognized subcommand "] ++ Span.quoted .wrong (String.ofList w)
  | .missingValue l =>
    [.plain "a value is required for "] ++ Span.quoted .wrong l
      ++ [.plain " but none was supplied"]
  | .unexpectedValue l v =>
    [.plain "unexpected value "] ++ Span.quoted .wrong (String.ofList v) ++ [.plain " for "]
      ++ Span.quoted .exact l ++ [.plain " found; no more were expected"]
  | .repeated l =>
    [.plain "the argument "] ++ Span.quoted .wrong l ++ [.plain " cannot be used multiple times"]
  | .conflict l o =>
    [.plain "the argument "] ++ Span.quoted .wrong l ++ [.plain " cannot be used with "]
      ++ Span.quoted .wrong o
  | .invalidData v =>
    [.plain "invalid value "] ++ Span.quoted .wrong (String.ofList v) ++ [.plain " for "]
      ++ Span.quoted .exact Param.data.label
      ++ [.plain (": expected KEY=VALUE, got " ++ Text.quoted v)]
  | .missingArguments ls =>
    .plain "the following required arguments were not provided:"
      :: ls.flatMap fun l => [.plain "\n  ", ⟨.exact, l⟩]

/-- The wording of a usage error. -/
def UsageError.message (e : UsageError) : String := String.join (e.spans.map Span.text)

end PageBlocks.CommandLine
