import PageBlocks.Text.CharSet

/-!
# Patterns

A pattern describes texts: a literal, a set of characters, an assertion about the place between two
characters, and what can be built from them by writing one behind the other, by choice, by
repetition and by grouping. Of several ways to match, the pattern's own order decides: the left
alternative before the right one, more repetitions before fewer unless the repetition is lazy.

Nodes are built by `Node.ofSet`, `Node.concat`, `Node.choose` and `Node.repeated`, which keep them
small: sequences hold no sequences and no two literals side by side, choices hold no choices, a
choice between characters is a set, and what never matters is left out.
-/

namespace PageBlocks.Pattern

/-- An assertion about a place in the text. -/
inductive Look where
  /-- Before the first character. -/
  | textStart
  /-- Behind the last character. -/
  | textEnd
  /-- Before the first character of a line; `crlf` counts carriage returns as line ends. -/
  | lineStart (crlf : Bool)
  /-- Behind the last character of a line. -/
  | lineEnd (crlf : Bool)
  /-- Between a word character and another one; `unicode` takes words of all scripts. -/
  | wordBoundary (unicode : Bool)
  | notWordBoundary (unicode : Bool)
  | wordStart (unicode : Bool)
  | wordEnd (unicode : Bool)
  | wordStartHalf (unicode : Bool)
  | wordEndHalf (unicode : Bool)
  deriving DecidableEq, Repr

/-- The shape of a pattern. -/
inductive Node where
  | empty
  /-- These characters, of which there is at least one. -/
  | literal (text : Text)
  /-- One character of the set. -/
  | chars (set : CharSet)
  | look (look : Look)
  /-- A group whose text is kept under a number, from 1 on. -/
  | capture (index : Nat) (body : Node)
  /-- All parts, one behind the other. -/
  | seq (parts : List Node)
  /-- The first alternative that matches. -/
  | choice (alternatives : List Node)
  /-- At least `min` and at most `max` times. -/
  | many (min : Nat) (max : Option Nat) (greedy : Bool) (body : Node)
  deriving Inhabited

namespace Node

mutual

/-- Are two nodes the same? -/
def same : Node → Node → Bool
  | .empty, .empty => true
  | .literal s, .literal t => s == t
  | .chars s, .chars t => s == t
  | .look l, .look m => l == m
  | .capture i n, .capture j m => i == j && same n m
  | .seq ns, .seq ms => sameAll ns ms
  | .choice ns, .choice ms => sameAll ns ms
  | .many a b g n, .many a' b' g' m => a == a' && b == b' && g == g' && same n m
  | _, _ => false

/-- Are the nodes the same, one by one? -/
def sameAll : List Node → List Node → Bool
  | [], [] => true
  | n :: ns, m :: ms => same n m && sameAll ns ms
  | _, _ => false

end

mutual

/-- The length of the shortest text that the node matches, as far as it can be told. -/
def minLength? : Node → Option Nat
  | .empty => some 0
  | .literal t => some t.length
  | .chars s => if s.isEmpty then none else some 1
  | .look _ => some 0
  | .capture _ n => minLength? n
  | .seq ns => totalLength? ns
  | .choice ns => leastLength? ns
  | .many min _ _ n => (minLength? n).map (min * ·)

/-- The length of the shortest text that the nodes match one behind the other. -/
def totalLength? : List Node → Option Nat
  | [] => some 0
  | n :: ns =>
    match minLength? n, totalLength? ns with
    | some a, some b => some (a + b)
    | _, _ => none

/-- The length of the shortest text that one of the nodes matches. -/
def leastLength? : List Node → Option Nat
  | [] => none
  | [n] => minLength? n
  | n :: ns =>
    match minLength? n, leastLength? ns with
    | some a, some b => some (Nat.min a b)
    | _, _ => none

end

mutual

/-- Does the node match the empty text at most? -/
def isIdle : Node → Bool
  | .empty => true
  | .literal _ => false
  | .chars _ => false
  | .look _ => true
  | .capture _ n => isIdle n
  | .seq ns => areIdle ns
  | .choice ns => areIdle ns
  | .many _ max _ n => max.isSome && isIdle n

/-- Do all nodes match the empty text at most? -/
def areIdle : List Node → Bool
  | [] => true
  | n :: ns => isIdle n && areIdle ns

end

mutual

/-- The greatest number of a group in the node, 0 if there is none. -/
def groupCount : Node → Nat
  | .empty => 0
  | .literal _ => 0
  | .chars _ => 0
  | .look _ => 0
  | .capture i n => Nat.max i (groupCount n)
  | .seq ns => groupCounts ns
  | .choice ns => groupCounts ns
  | .many _ _ _ n => groupCount n

/-- The greatest number of a group in the nodes. -/
def groupCounts : List Node → Nat
  | [] => 0
  | n :: ns => Nat.max (groupCount n) (groupCounts ns)

end

/-- One character of a set. A set of one character is a literal. -/
def ofSet (s : CharSet) : Node :=
  match s.ranges.toList with
  | [(lo, hi)] => if lo = hi then .literal [Char.ofNat lo] else .chars s
  | _ => .chars s

/-- The parts of a node that is part of a sequence. -/
def parts : Node → List Node
  | .empty => []
  | .seq ns => ns
  | n => [n]

/-- Puts a part in front of others; literals side by side become one. -/
def join (n : Node) (ns : List Node) : List Node :=
  match n, ns with
  | .literal s, .literal t :: rest => .literal (s ++ t) :: rest
  | n, ns => n :: ns

/-- All nodes, one behind the other. -/
def concat (ns : List Node) : Node :=
  match (ns.flatMap parts).foldr join [] with
  | [] => .empty
  | [n] => n
  | ns => .seq ns

/-- The alternatives of a node that is one of several. -/
def alternatives : Node → List Node
  | .choice ns => ns
  | n => [n]

/-- The character of a literal that has only one. -/
def letter? : Node → Option Char
  | .literal [c] => some c
  | _ => none

/-- The set of a node that is one. -/
def set? : Node → Option CharSet
  | .chars s => some s
  | _ => none

/-- The parts of a sequence. -/
def seq? : Node → Option (List Node)
  | .seq ns => some ns
  | _ => none

/-- How many parts two sequences have in common from the start. -/
def commonLength : (ns ms : List Node) → Nat
  | n :: ns, m :: ms => if n.same m then commonLength ns ms + 1 else 0
  | _, _ => 0

/-- The choice between alternatives that share no first part. -/
def chooseFlat (ns : List Node) : Node :=
  match ns.flatMap alternatives with
  | [] => .chars CharSet.empty
  | [n] => n
  | ns =>
    match ns.mapM letter?, ns.mapM set? with
    | some cs, _ => ofSet (CharSet.ofChars cs)
    | _, some ss => ofSet (CharSet.unions ss)
    | _, _ => .choice ns

/-- The first node that matches. What all alternatives start with is written once. -/
def choose (ns : List Node) : Node :=
  let n := chooseFlat ns
  match (alternatives n).mapM seq? with
  | some (first :: second :: rest) =>
    let shared :=
      (second :: rest).foldl (fun k ms => Nat.min k (commonLength first ms)) first.length
    if shared = 0 then n
    else
      let ends := (first :: second :: rest).map fun ms => concat (ms.drop shared)
      concat (first.take shared ++ [chooseFlat ends])
  | _ => n

/-- A repetition. Repeating what matches the empty text at most is the same as trying it once. -/
def repeated (min : Nat) (max : Option Nat) (greedy : Bool) (n : Node) : Node :=
  let (min, max) :=
    if n.isIdle then (Nat.min min 1, some (match max with | some k => Nat.min k 1 | none => 1))
    else (min, max)
  if max = some 0 then .empty
  else if min = 1 ∧ max = some 1 then n
  else .many min max greedy n

end Node

/-- Why a text is no pattern. -/
inductive Error where
  | malformed
  | tooBig
  deriving DecidableEq, Repr

/-- What is said about a pattern that cannot be used. -/
def Error.message : Error → String
  | .malformed => "regex parse error: not a regular expression"
  | .tooBig => "Compiled regex exceeds size limit of 10485760 bytes."

/-- What is said about it behind the words that introduce it. -/
def Error.detail (e : Error) : String := ": " ++ e.message

/-- How a pattern is read, as far as flags decide it. -/
structure Flags where
  ignoreCase : Bool := false
  multiLine : Bool := false
  dotAll : Bool := false
  swapGreed : Bool := false
  unicode : Bool := true
  crlf : Bool := false
  /-- White space and comments between the parts do not count. -/
  spaced : Bool := false
  deriving DecidableEq, Repr

end PageBlocks.Pattern
