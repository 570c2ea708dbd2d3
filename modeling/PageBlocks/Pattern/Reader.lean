import PageBlocks.Pattern.Class
import PageBlocks.Text.Name

/-!
# Reading patterns

A pattern is read from left to right. Groups that are still open are kept on a stack, each with
the alternatives read so far; flags set inside a group hold until the group ends. There is no
look-around and there are no references back to groups: a pattern that uses them is refused, like
any other that does not follow the rules. So is a pattern whose parts are nested more than
`maxHeight` deep.

Every step of the reader takes at least one character, which is why a count of the pattern's
characters bounds all loops below.
-/

namespace PageBlocks.Pattern

/-- How deeply the parts of a pattern may be nested. -/
def maxHeight : Nat := 250

/-- A node and how deeply its parts are nested. Groups, repetitions, sequences, choices and classes
in brackets each add one to their highest part. -/
structure Tower where
  node : Node
  height : Nat := 0

/-- The height of several parts taken together. A single part stands for itself. -/
def joinedHeight (heights : List Nat) : Nat :=
  let highest := heights.foldl Nat.max 0
  if 1 < heights.length then highest + 1 else highest

/-- A part of a sequence. Setting flags is a part too, but one that cannot be repeated. -/
inductive Part where
  | node (t : Tower)
  | flags

/-- How deeply a part is nested. -/
def Part.height : Part → Nat
  | .node t => t.height
  | .flags => 0

/-- A group that is still open. -/
structure OpenGroup where
  /-- The number under which its text is kept. -/
  index? : Option Nat
  /-- The flags outside. -/
  outer : Flags
  /-- The alternatives outside, latest first. -/
  alternatives : List Tower
  /-- The parts of the alternative outside, latest first. -/
  parts : List Part

/-- Where the reader stands. -/
structure Reader where
  flags : Flags := {}
  groups : List OpenGroup := []
  alternatives : List Tower := []
  parts : List Part := []
  /-- How many groups keep their text. -/
  captures : Nat := 0
  names : List (Text × Nat) := []

/-- The sequence of the given parts, which are in reverse order. -/
def sequence (parts : List Part) : Tower where
  node := Node.concat (parts.reverse.filterMap fun
    | .node t => some t.node
    | .flags => none)
  height := joinedHeight (parts.map Part.height)

/-- The choice between the given alternatives, which are in reverse order. -/
def choice (alternatives : List Tower) : Tower where
  node := Node.choose (alternatives.reverse.map Tower.node)
  height := joinedHeight (alternatives.map Tower.height)

/-- Skips a comment, up to and with its line feed. -/
def skipComment (t : Text) : Text := (t.dropWhile (· != '\n')).drop 1

/-- Skips white space and comments, at most `limit` times. -/
def skipSpaced : (limit : Nat) → Text → Text
  | 0, t => t
  | limit + 1, t =>
    match t with
    | [] => []
    | c :: r =>
      if Text.isSpace c then skipSpaced limit r
      else if c = '#' then skipSpaced limit (skipComment r)
      else t

/-- Skips what does not count under the flags. -/
def skip (flags : Flags) (t : Text) : Text := if flags.spaced then skipSpaced t.length t else t

/-- The characters that have a meaning of their own. -/
def isMeta (c : Char) : Bool := "\\.+*?()|[]\x7b\x7d^$#&-~".toList.contains c

/-- The pattern that stands for this very text: a backslash comes before each character that has a
meaning of its own. -/
def escape (t : Text) : Text := t.flatMap fun c => if isMeta c then ['\\', c] else [c]

/-- May a backslash stand before the character to take it as it is? -/
def isEscapable (c : Char) : Bool :=
  isMeta c || (c.toNat < 0x80 && !c.isAlphanum && c != '<' && c != '>')

/-- What a backslash and the characters behind it stand for. -/
inductive Escape where
  | literal (c : Char)
  /-- A character given by two hexadecimal digits. -/
  | byte (c : Char)
  | set (s : CharSet)
  | look (l : Look)

/-- The character with this code point, if there is one. -/
def charOf? (n : Nat) : Option Char :=
  if n < 0xD800 ∨ (0xDFFF < n ∧ n ≤ CharSet.maxPoint) then some (Char.ofNat n) else none

/-- Exactly `count` hexadecimal digits. -/
def hexDigits (flags : Flags) : (count value : Nat) → Text → Option (Nat × Text)
  | 0, value, t => some (value, t)
  | count + 1, value, t =>
    match skip flags t with
    | [] => none
    | c :: r =>
      match CharSet.hexDigit? c with
      | none => none
      | some d => hexDigits flags count (16 * value + d) r

/-- The characters up to a closing brace, white space as the flags say. -/
def toBrace (flags : Flags) : (limit : Nat) → Text → Option (Text × Text)
  | 0, _ => none
  | limit + 1, t =>
    match skip flags t with
    | [] => none
    | '\x7d' :: r => some ([], r)
    | c :: r => (toBrace flags limit r).map fun (name, rest) => (c :: name, rest)

/-- A code point in hexadecimal, behind `\x`, `\u` or `\U`. -/
def readHex (flags : Flags) (count : Nat) (t : Text) : Option (Escape × Text) :=
  match skip flags t with
  | '\x7b' :: r => do
    let (name, rest) ← toBrace flags (r.length + 1) r
    if name.isEmpty || name.length > 8 && (name.dropWhile (· == '0')).length > 8 then none
    let ds ← name.mapM CharSet.hexDigit?
    let c ← charOf? (ds.foldl (fun n d => 16 * n + d) 0)
    return (.literal c, rest)
  | r => do
    let (n, rest) ← hexDigits flags count 0 r
    let c ← charOf? n
    return (if count = 2 then .byte c else .literal c, rest)

/-- A property, behind `\p` or `\P`. -/
def readProperty (flags : Flags) (negated : Bool) (t : Text) : Option (Escape × Text) := do
  let (name, rest) ← match skip flags t with
    | [] => none
    | '\x7b' :: r => toBrace flags (r.length + 1) r
    | '\\' :: _ => none
    | c :: r => some ([c], r)
  if !flags.unicode then none
  let (s, others) ← propertyClass? name
  let s ← foldAndNegate flags (negated != others) s
  return (.set s, rest)

/-- The longest run of characters with the property `p`, white space between them as the flags
say. -/
def takeSpaced (flags : Flags) (p : Char → Bool) : (limit : Nat) → Text → Text × Text
  | 0, t => ([], t)
  | limit + 1, t =>
    match t with
    | [] => ([], [])
    | c :: r =>
      if p c then
        let (run, rest) := takeSpaced flags p limit (skip flags r)
        (c :: run, rest)
      else ([], t)

/-- The name of a special word boundary, between braces behind `\b`. What starts with neither a
letter nor a hyphen is no name, but the count of a repetition. -/
def readBoundary (flags : Flags) (t : Text) : Option (Escape × Text) :=
  let u := flags.unicode
  let plain : Option (Escape × Text) := some (.look (.wordBoundary u), t)
  match t with
  | '\x7b' :: r =>
    match skip flags r with
    | [] => none
    | body =>
      match takeSpaced flags (fun c => c.isAlpha || c == '-') body.length body with
      | ([], _) => plain
      | (name, '\x7d' :: rest) =>
        match String.ofList name with
        | "start" => some (.look (.wordStart u), rest)
        | "end" => some (.look (.wordEnd u), rest)
        | "start-half" => some (.look (.wordStartHalf u), rest)
        | "end-half" => some (.look (.wordEndHalf u), rest)
        | _ => none
      | _ => none
  | _ => plain

/-- What stands behind a backslash. -/
def readEscape (flags : Flags) (t : Text) : Option (Escape × Text) :=
  let u := flags.unicode
  match t with
  | [] => none
  | c :: r =>
    let perl (s : CharSet) (negated : Bool) : Option (Escape × Text) :=
      (foldAndNegate flags negated s).map fun s => (.set s, r)
    let code (n : Nat) : Option (Escape × Text) := some (.literal (Char.ofNat n), r)
    if c.isDigit then none
    else match c with
      | 'x' => readHex flags 2 r
      | 'u' => readHex flags 4 r
      | 'U' => readHex flags 8 r
      | 'p' => readProperty flags false r
      | 'P' => readProperty flags true r
      | 'd' => perl (digits u) false
      | 'D' => perl (digits u) true
      | 's' => perl (spaces u) false
      | 'S' => perl (spaces u) true
      | 'w' => perl (words u) false
      | 'W' => perl (words u) true
      | 'a' => code 0x7
      | 'f' => code 0xC
      | 't' => code 0x9
      | 'n' => code 0xA
      | 'r' => code 0xD
      | 'v' => code 0xB
      | 'A' => some (.look .textStart, r)
      | 'z' => some (.look .textEnd, r)
      | 'b' => readBoundary flags r
      | 'B' => some (.look (.notWordBoundary u), r)
      | '<' => some (.look (.wordStart u), r)
      | '>' => some (.look (.wordEnd u), r)
      | _ => if isEscapable c then some (.literal c, r) else none

/-- An item of a class in brackets. -/
inductive ClassItem where
  | point (c : Char)
  | set (s : CharSet)

/-- One item, or one end of a range. Without the flag `u`, characters stay in the basic Latin
block. -/
def readItem (flags : Flags) (t : Text) : Option (ClassItem × Text) :=
  let point (c : Char) (rest : Text) : Option (ClassItem × Text) :=
    if flags.unicode || c.toNat < 0x80 then some (.point c, rest) else none
  match t with
  | [] => none
  | '\\' :: r =>
    match readEscape flags r with
    | some (.literal c, rest) => point c rest
    | some (.byte c, rest) => point c rest
    | some (.set s, rest) => some (.set s, rest)
    | _ => none
  | c :: r => point c r

/-- The first character that is no white space; where white space does not count, the sign of a
comment is passed over too, but not the comment. -/
def glance (flags : Flags) (t : Text) : Option Char :=
  if flags.spaced then
    let ahead := match t.dropWhile Text.isSpace with
      | '#' :: r => r.dropWhile Text.isSpace
      | r => r
    ahead.head?.or t.head?
  else t.head?

/-- One item or range of a class. -/
def readRange (flags : Flags) (t : Text) : Option (CharSet × Text) := do
  let (first, r) ← readItem flags t
  let alone : CharSet := match first with
    | .point c => CharSet.single c
    | .set s => s
  match skip flags r with
  | [] => none
  | '-' :: r' =>
    if glance flags r' = some ']' ∨ glance flags r' = some '-' then return (alone, '-' :: r')
    let (second, rest) ← readItem flags (skip flags r')
    match first, second with
    | .point a, .point b =>
      if a.toNat ≤ b.toNat then return (CharSet.ofRanges [(a.toNat, b.toNat)], rest) else none
    | _, _ => none
  | r => return (alone, r)

/-- A class between `[:` and `:]`; `t` follows the bracket. -/
def readNamed (t : Text) : Option (CharSet × Bool × Text) :=
  match t with
  | ':' :: r =>
    let (negated, r) := match r with
      | '^' :: r' => (true, r')
      | _ => (false, r)
    match Text.cutAt? (· == ':') r with
    | some (name, ']' :: rest) => (namedClass? name).map fun s => (s, negated, rest)
    | _ => none
  | _ => none

/-- The hyphens that a class may start with. -/
def leadingHyphens (flags : Flags) : (limit : Nat) → Text → Nat × Text
  | 0, t => (0, t)
  | limit + 1, t =>
    match skip flags t with
    | '-' :: r =>
      let (n, rest) := leadingHyphens flags limit r
      (n + 1, rest)
    | r => (0, r)

/-- How two operands of a class are combined. -/
inductive SetOp where
  | inter | diff | symmDiff

/-- Combines the operand so far with the next one. -/
def SetOp.apply (op : SetOp) (flags : Flags) (a b : CharSet) : CharSet :=
  let a := foldUnder flags a
  let b := foldUnder flags b
  match op with
  | .inter => a.inter b
  | .diff => a.diff b
  | .symmDiff => a.symmDiff b

/-- A class or an operand of one: its characters and how deeply it is nested. -/
structure Bracketed where
  set : CharSet
  height : Nat

/-- The items of a class, one beside the other. -/
structure Items where
  /-- The characters of all items. -/
  set : CharSet := CharSet.empty
  /-- The heights of the items. -/
  heights : List Nat := []

/-- Adds an item. -/
def Items.add (items : Items) (s : CharSet) (height : Nat) : Items :=
  ⟨items.set.union s, height :: items.heights⟩

/-- The operand that the items make up, behind what stands before the last operator. -/
def Items.operand (items : Items) (flags : Flags) : Option (Bracketed × SetOp) → Bracketed
  | none => ⟨items.set, joinedHeight items.heights⟩
  | some (left, op) =>
    ⟨op.apply flags left.set items.set, Nat.max left.height (joinedHeight items.heights) + 1⟩

/-- How a class starts: whether it is negated, the items that can stand first only, and the rest.
`t` follows the bracket. -/
def startClass (flags : Flags) (t : Text) : Bool × Items × Text :=
  let (negated, r) := match skip flags t with
    | '^' :: r' => (true, r')
    | r' => (false, r')
  let (hyphens, r) := leadingHyphens flags r.length r
  if hyphens = 0 then
    match r with
    | ']' :: r' => (negated, Items.add {} (CharSet.single ']') 0, r')
    | _ => (negated, {}, r)
  else (negated, ⟨CharSet.single '-', List.replicate hyphens 0⟩, r)

/-- The inside of a class: `left?` is what stands before the last operator, `items` the items
behind it. Classes nest at most `limit` deep and hold at most `limit` items. -/
def readClass (flags : Flags) : (limit : Nat) → (negated : Bool) →
    (left? : Option (Bracketed × SetOp)) → Items → Text → Option (Bracketed × Text)
  | 0, _, _, _, _ => none
  | limit + 1, negated, left?, items, t =>
    let operand := items.operand flags left?
    let operate (op : SetOp) (r : Text) : Option (Bracketed × Text) :=
      readClass flags limit negated (some (operand, op)) {} r
    match skip flags t with
    | [] => none
    | ']' :: rest =>
      (foldAndNegate flags negated operand.set).map fun s => (⟨s, operand.height + 1⟩, rest)
    | '[' :: r =>
      match readNamed r with
      | some (s, inverted, rest) =>
        match foldAndNegate flags inverted s with
        | none => none
        | some s => readClass flags limit negated left? (items.add s 0) rest
      | none =>
        let (inverted, first, r) := startClass flags r
        match readClass flags limit inverted none first r with
        | none => none
        | some (b, rest) => readClass flags limit negated left? (items.add b.set b.height) rest
    | '&' :: '&' :: r => operate .inter r
    | '-' :: '-' :: r => operate .diff r
    | '~' :: '~' :: r => operate .symmDiff r
    | t =>
      match readRange flags t with
      | none => none
      | some (s, rest) => readClass flags limit negated left? (items.add s 0) rest

/-- A class in brackets; `t` follows the first one. -/
def readBracket (flags : Flags) (t : Text) : Option (Bracketed × Text) :=
  let (negated, first, r) := startClass flags t
  readClass flags (t.length + 1) negated none first r

/-- The flags between `(?` and `:` or `)`, the closing character and what follows it. -/
def readFlags : (limit : Nat) → (used : List Char) → Flags → Text → Option (Flags × Char × Text)
  | 0, _, _, _ => none
  | limit + 1, used, flags, t =>
    match t with
    | [] => none
    | c :: r =>
      if c = ':' ∨ c = ')' then
        if used.head? = some '-' then none else some (flags, c, r)
      else if used.contains c then none
      else
        let on := !used.contains '-'
        let next (flags : Flags) : Option (Flags × Char × Text) :=
          readFlags limit (c :: used) flags r
        match c with
        | '-' => next flags
        | 'i' => next { flags with ignoreCase := on }
        | 'm' => next { flags with multiLine := on }
        | 's' => next { flags with dotAll := on }
        | 'U' => next { flags with swapGreed := on }
        | 'u' => next { flags with unicode := on }
        | 'R' => next { flags with crlf := on }
        | 'x' => next { flags with spaced := on }
        | _ => none

/-- May the character stand in the name of a group? -/
def isGroupChar (first : Bool) (c : Char) : Bool :=
  c == '_' || Text.isAlphabetic c
    || (!first && (c == '.' || c == '[' || c == ']' || Text.isAlphanumeric c))

/-- Is this a group that looks around without matching? -/
def looksAround (t : Text) : Bool :=
  Text.startsWith "?=".toList t || Text.startsWith "?!".toList t
    || Text.startsWith "?<=".toList t || Text.startsWith "?<!".toList t

namespace Reader

/-- Adds a part. -/
def pushTower (p : Reader) (t : Tower) : Reader := { p with parts := .node t :: p.parts }

/-- Adds a part that has no parts of its own. -/
def push (p : Reader) (node : Node) : Reader := p.pushTower { node }

/-- Opens a group; the flags inside are `flags`. -/
def enter (p : Reader) (index? : Option Nat) (flags : Flags) : Reader :=
  { p with
    flags
    groups := ⟨index?, p.flags, p.alternatives, p.parts⟩ :: p.groups
    alternatives := []
    parts := [] }

/-- What has been read of the innermost group, as a whole. -/
def inside (p : Reader) : Tower := choice (sequence p.parts :: p.alternatives)

/-- Opens the group that starts behind `(`. -/
def openGroup (p : Reader) (t : Text) : Option (Reader × Text) :=
  let t := skip p.flags t
  let index := p.captures + 1
  let named (r : Text) : Option (Reader × Text) :=
    match Text.cutAt? (· == '>') r with
    | none => none
    | some (name, rest) =>
      match name with
      | [] => none
      | c :: more =>
        if isGroupChar true c && more.all (isGroupChar false) && (p.names.lookup name).isNone then
          some ({ p.enter (some index) p.flags with
            captures := index, names := p.names ++ [(name, index)] }, rest)
        else none
  if looksAround t then none
  else match t with
    | '?' :: 'P' :: '<' :: r => named r
    | '?' :: '<' :: r => named r
    | '?' :: r =>
      match readFlags (r.length + 1) [] p.flags r with
      | none => none
      | some (flags, ')', rest) =>
        -- Flags that are set must be named.
        if rest.length + 1 = r.length then none
        else some ({ p with flags, parts := .flags :: p.parts }, rest)
      | some (flags, _, rest) => some (p.enter none flags, rest)
    | r => some ({ p.enter (some index) p.flags with captures := index }, r)

/-- Closes the innermost group. -/
def closeGroup (p : Reader) : Option Reader :=
  match p.groups with
  | [] => none
  | g :: groups =>
    let body := p.inside
    let node := match g.index? with
      | some i => .capture i body.node
      | none => body.node
    some { p with
      flags := g.outer
      groups
      alternatives := g.alternatives
      parts := .node ⟨node, body.height + 1⟩ :: g.parts }

/-- Repeats the last part; `t` follows the operator and may make it lazy. -/
def repeatLast (p : Reader) (min : Nat) (max : Option Nat) (t : Text) : Option (Reader × Text) :=
  match p.parts with
  | .node body :: parts =>
    let (lazy, t) := match t with
      | '?' :: r => (true, r)
      | r => (false, r)
    let greedy := lazy == p.flags.swapGreed
    let node := Node.repeated min max greedy body.node
    some ({ p with parts := .node ⟨node, body.height + 1⟩ :: parts }, t)
  | _ => none

/-- A number, with white space around it. -/
def number (flags : Flags) (t : Text) : Option Nat × Text :=
  let t := t.dropWhile Text.isSpace
  let (ds, rest) := takeSpaced flags Char.isDigit t.length t
  let n := ds.foldl (fun n c => 10 * n + (c.toNat - 0x30)) 0
  (if ds.isEmpty || 0xFFFFFFFF < n then none else some n, rest.dropWhile Text.isSpace)

/-- A repetition with counts; `t` follows the brace. -/
def counted (p : Reader) (t : Text) : Option (Reader × Text) := do
  let (min?, r) := number p.flags (skip p.flags t)
  let min ← min?
  let close (max : Option Nat) (r : Text) : Option (Reader × Text) :=
    match r with
    | '\x7d' :: rest =>
      if max.any (· < min) then none else p.repeatLast min max (skip p.flags rest)
    | _ => none
  match r with
  | ',' :: r' =>
    match skip p.flags r' with
    | '\x7d' :: rest => close none ('\x7d' :: rest)
    | r'' =>
      let (max?, rest) := number p.flags r''
      match max? with
      | none => none
      | some m => close (some m) rest
  | _ => close (some min) r

/-- The node of any character, line ends aside unless the flags say so. -/
def anyChar (p : Reader) : Option Node :=
  if !p.flags.unicode then none
  else if p.flags.dotAll then some (.chars CharSet.all)
  else if p.flags.crlf then some (.chars (CharSet.ofChars ['\n', '\r']).complement)
  else some (.chars (CharSet.single '\n').complement)

/-- Reads the rest of the pattern. -/
def run : (limit : Nat) → Reader → Text → Option Reader
  | 0, _, _ => none
  | limit + 1, p, t =>
    let onward (next : Option (Reader × Text)) : Option Reader :=
      match next with
      | none => none
      | some (p, rest) => run limit p rest
    let lines := p.flags.multiLine
    match skip p.flags t with
    | [] => if p.groups.isEmpty then some p else none
    | '(' :: r => onward (p.openGroup r)
    | ')' :: r =>
      match p.closeGroup with
      | none => none
      | some p => run limit p r
    | '|' :: r =>
      run limit { p with alternatives := sequence p.parts :: p.alternatives, parts := [] } r
    | '[' :: r =>
      onward ((readBracket p.flags r).map fun (b, rest) =>
        (p.pushTower ⟨Node.ofSet b.set, b.height⟩, rest))
    | '?' :: r => onward (p.repeatLast 0 (some 1) r)
    | '*' :: r => onward (p.repeatLast 0 none r)
    | '+' :: r => onward (p.repeatLast 1 none r)
    | '\x7b' :: r =>
      match p.parts with
      | .node _ :: _ => onward (p.counted r)
      | _ => none
    | '\\' :: r =>
      match readEscape p.flags r with
      | none => none
      | some (.literal c, rest) => run limit (p.push (literalNode p.flags c)) rest
      | some (.byte c, rest) =>
        if p.flags.unicode || c.toNat < 0x80 then run limit (p.push (literalNode p.flags c)) rest
        else none
      | some (.set s, rest) => run limit (p.push (Node.ofSet s)) rest
      | some (.look l, rest) => run limit (p.push (.look l)) rest
    | '.' :: r => onward (p.anyChar.map fun n => (p.push n, r))
    | '^' :: r =>
      run limit (p.push (.look (if lines then .lineStart p.flags.crlf else .textStart))) r
    | '$' :: r =>
      run limit (p.push (.look (if lines then .lineEnd p.flags.crlf else .textEnd))) r
    | c :: r => run limit (p.push (literalNode p.flags c)) r

end Reader

end PageBlocks.Pattern
