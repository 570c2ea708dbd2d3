import PageBlocks.Pattern.Syntax
import PageBlocks.Text.Age
import PageBlocks.Text.CaseFold
import PageBlocks.Text.Segment
import PageBlocks.Text.Word

/-!
# Character classes

The classes that patterns can name: digits, spaces and word characters, the classes between
`[:` and `:]`, and the properties of `\p`. With the flag `u` off, all are meant in the basic Latin
block only, and nothing outside it can be matched.
-/

namespace PageBlocks.Pattern

/-- Points of the basic Latin block. -/
def latin (ranges : List (Char × Char)) : CharSet :=
  CharSet.ofRanges (ranges.map fun (a, b) => (a.toNat, b.toNat))

/-- Decimal digits. -/
def digits (unicode : Bool) : CharSet :=
  if unicode then Text.Category.nd.chars else latin [('0', '9')]

/-- White space. -/
def spaces (unicode : Bool) : CharSet :=
  if unicode then Text.whiteSpace else latin [('\t', '\r'), (' ', ' ')]

/-- Word characters. -/
def words (unicode : Bool) : CharSet :=
  if unicode then Text.wordChars else latin [('0', '9'), ('A', 'Z'), ('_', '_'), ('a', 'z')]

/-- The classes that stand between `[:` and `:]`. -/
def namedClass? (name : Text) : Option CharSet :=
  match String.ofList name with
  | "alnum" => some (latin [('0', '9'), ('A', 'Z'), ('a', 'z')])
  | "alpha" => some (latin [('A', 'Z'), ('a', 'z')])
  | "ascii" => some (CharSet.ofRanges [(0, 0x7F)])
  | "blank" => some (latin [('\t', '\t'), (' ', ' ')])
  | "cntrl" => some (CharSet.ofRanges [(0, 0x1F), (0x7F, 0x7F)])
  | "digit" => some (latin [('0', '9')])
  | "graph" => some (latin [('!', '~')])
  | "lower" => some (latin [('a', 'z')])
  | "print" => some (latin [(' ', '~')])
  | "punct" => some (latin [('!', '/'), (':', '@'), ('[', '\x60'), ('\x7b', '~')])
  | "space" => some (latin [('\t', '\r'), (' ', ' ')])
  | "upper" => some (latin [('A', 'Z')])
  | "word" => some (latin [('0', '9'), ('A', 'Z'), ('_', '_'), ('a', 'z')])
  | "xdigit" => some (latin [('0', '9'), ('A', 'F'), ('a', 'f')])
  | _ => none

/-- A name as tables know it: lower case, of the basic Latin block only, without separators and a
leading `is`. -/
def looseName (name : Text) : String :=
  let behindIs? := match name with
    | i :: s :: rest => if i.toLower = 'i' ∧ s.toLower = 's' then some rest else none
    | _ => none
  let counts (c : Char) : Bool := c.toNat < 0x80 && !(c == ' ' || c == '_' || c == '-')
  let plain := ((behindIs?.getD name).filter counts).map Char.toLower
  if behindIs?.isSome && plain == ['c'] then "isc" else String.ofList plain

/-- The characters for which a property has a value. -/
def valueClass? (property value : Text) : Option CharSet :=
  let value := looseName value
  match looseName property with
  | "generalcategory" | "gc" => Text.category? value
  | "script" | "sc" => (Text.scriptNamed? value).map Text.Script.chars
  | "scriptextensions" | "scx" => (Text.scriptNamed? value).map Text.Script.used
  | "age" => Text.age? value
  | "graphemeclusterbreak" | "gcb" => Text.GraphemeBreak.named? value
  | "wordbreak" | "wb" => Text.WordBreak.named? value
  | "sentencebreak" | "sb" => Text.SentenceBreak.named? value
  | _ => none

/-- Cuts a name at the first `!=`. -/
def cutAtUnequal? : Text → Option (Text × Text)
  | '!' :: '=' :: rest => some ([], rest)
  | c :: rest => (cutAtUnequal? rest).map fun (a, b) => (c :: a, b)
  | [] => none

/-- What stands between the braces of `\p`: the characters that are named, and whether all others
are meant. A name stands alone, or a property and its value stand on both sides of `!=`, `:` or
`=`. -/
def propertyClass? (name : Text) : Option (CharSet × Bool) :=
  match cutAtUnequal? name with
  | some (property, value) => (valueClass? property value).map (·, true)
  | none =>
    match (Text.cutAt? (· == ':') name).or (Text.cutAt? (· == '=') name) with
    | some (property, value) => (valueClass? property value).map (·, false)
    | none =>
      let name := looseName name
      let script? := (Text.scriptNamed? name).map Text.Script.chars
      (((Text.property? name).or (Text.category? name)).or script?).map (·, false)

/-- The set under the flags for letter case. -/
def foldUnder (flags : Flags) (s : CharSet) : CharSet :=
  if flags.ignoreCase then (if flags.unicode then s.foldCase else s.foldAscii) else s

/-- Can the set be matched under the flags? Without the flag `u` it must stay in the basic Latin
block. -/
def allowed (flags : Flags) (s : CharSet) : Bool := flags.unicode || s.isAscii

/-- The set, or all other characters, under the flags. -/
def foldAndNegate (flags : Flags) (negated : Bool) (s : CharSet) : Option CharSet :=
  let s := foldUnder flags s
  let s := if negated then s.complement else s
  if allowed flags s then some s else none

/-- One character of a pattern. -/
def literalNode (flags : Flags) (c : Char) : Node := Node.ofSet (foldUnder flags (CharSet.single c))

end PageBlocks.Pattern
