import PageBlocks.Pattern.Syntax
import PageBlocks.Text.Utf8

/-!
# The size of a pattern

A pattern stands for an automaton over the bytes of a text, in which every counted repetition is
written out. A pattern whose automaton is too large is refused, be it the one that reads forward or
the one that reads backward. The automaton is not built, only measured: a state takes a fixed number
of bytes, and so does every edge of a state that has more than one.

Sets of characters are where automata grow. Read forward, equal ends of byte sequences are shared;
read backward, equal beginnings are. What can be shared is remembered in a table of a fixed size, so
that a state may be forgotten, and built again, when another one takes its slot.
-/

namespace PageBlocks.Pattern

open Text (Bytes)

/-- The greatest size that is accepted, in bytes. -/
def maxSize : Nat := 10485760

/-- The bytes that a state takes. -/
def stateSize : Nat := 32

/-- The bytes that an edge takes besides. -/
def edgeSize : Nat := 8

/-- The bytes that a link from a branching state takes. -/
def linkSize : Nat := 4

/-- Which way the automaton reads. -/
inductive Direction where
  | forward
  | backward
  deriving DecidableEq, Repr

/-- An edge: a range of bytes and the state that it leads to. -/
abbrev Edge := Bytes × Nat

/-- What has been measured so far, and the states that can be shared. -/
structure Tally where
  /-- How many states there are; they are numbered from 0 on. -/
  states : Nat := 0
  /-- The bytes that they take. -/
  size : Nat := 0
  /-- States of sets that are read forward: their edges and numbers. -/
  forward : Array (Option (List Edge × Nat)) := Array.replicate 10000 none
  /-- States of sets that are read backward: their only edges and numbers. -/
  backward : Array (Option (Edge × Nat)) := Array.replicate 1000 none

namespace Tally

/-- Adds states. -/
def add (count : Nat) (t : Tally) : Tally :=
  { t with states := t.states + count, size := t.size + count * stateSize }

/-- Adds bytes. -/
def grow (bytes : Nat) (t : Tally) : Tally := { t with size := t.size + bytes }

/-- Adds a state with these edges. -/
def addEdges (count : Nat) (t : Tally) : Tally := (t.add 1).grow (count * edgeSize)

/-- Is the size beyond what is accepted? -/
def isOver (t : Tally) : Bool := maxSize < t.size

/-- Measures `count` copies, or as many as it takes to be beyond what is accepted. -/
def copies (measure : Tally → Tally) : (count : Nat) → Tally → Tally
  | 0, t => t
  | count + 1, t => if t.isOver then t else copies measure count (measure t)

end Tally

/-- One step of a hash: a number is mixed in. -/
def mix (hash : UInt64) (n : Nat) : UInt64 := (hash ^^^ n.toUInt64) * 1099511628211

/-- Where hashes start. -/
def hashStart : UInt64 := 14695981039346656037

/-- The slot of a state that is read forward. -/
def forwardSlot (edges : List Edge) : Nat :=
  (edges.foldl (fun h ((lo, hi), next) => mix (mix (mix h lo) hi) next) hashStart).toNat % 10000

/-- The slot of a state that is read backward. -/
def backwardSlot (edge : Edge) : Nat :=
  (mix (mix (mix hashStart edge.2) edge.1.1) edge.1.2).toNat % 1000

/-- The number of the state with these edges: one that is remembered in the slot, or a new one. -/
def stateIn (slot : Nat) (edges : List Edge) : Tally → Nat × Tally
  | ⟨states, size, forward, backward⟩ =>
    let known? := (forward[slot]?.join).filter fun known => known.1 = edges
    match known? with
    | some (_, number) => (number, ⟨states, size, forward, backward⟩)
    | none =>
      (states, ⟨states + 1, size + stateSize + edges.length * edgeSize,
        forward.setIfInBounds slot (some (edges, states)), backward⟩)

/-- The number of the state with these edges, which is read forward. -/
def stateOf (edges : List Edge) (t : Tally) : Nat × Tally := stateIn (forwardSlot edges) edges t

/-- The number of the state with this only edge: one that is remembered in the slot, or a new
one. -/
def stateBeforeIn (slot : Nat) (edge : Edge) : Tally → Nat × Tally
  | ⟨states, size, forward, backward⟩ =>
    let known? := (backward[slot]?.join).filter fun known => known.1 = edge
    match known? with
    | some (_, number) => (number, ⟨states, size, forward, backward⟩)
    | none =>
      (states, ⟨states + 1, size + stateSize, forward,
        backward.setIfInBounds slot (some (edge, states))⟩)

/-- The number of the state with this only edge, which is read backward. -/
def stateBefore (edge : Edge) (t : Tally) : Nat × Tally :=
  stateBeforeIn (backwardSlot edge) edge t

/-- The boxes by their first bytes, without these; `boxes` is in order. -/
def byFirstBytes (boxes : List (List Bytes)) : List (Bytes × List (List Bytes)) :=
  boxes.foldr (fun box groups =>
    match box, groups with
    | [], groups => groups
    | b :: rest, (b', rests) :: groups =>
      if b = b' then (b', rest :: rests) :: groups else (b, [rest]) :: (b', rests) :: groups
    | b :: rest, [] => [(b, [rest])]) []

/-- The edges to the states of the groups, each measured by `inner`. -/
def edgesOf (inner : List (List Bytes) → Tally → Nat × Tally) :
    List (Bytes × List (List Bytes)) → Tally → List Edge × Tally
  | [], t => ([], t)
  | (b, rests) :: groups, t =>
    let (next, t) := inner rests t
    let (edges, t) := edgesOf inner groups t
    ((b, next) :: edges, t)

/-- The state from which the boxes lead to `target`. A box holds at most `depth` ranges. -/
def boxState (target : Nat) : (depth : Nat) → List (List Bytes) → Tally → Nat × Tally
  | 0, _, t => (target, t)
  | depth + 1, boxes, t =>
    match byFirstBytes boxes with
    | [] => (target, t)
    | groups =>
      let (edges, t) := edgesOf (boxState target depth) groups t
      stateOf edges t

/-- The state from which the ranges of a box, read backward, lead to `target`. -/
def pathState (box : List Bytes) (target : Nat) (t : Tally) : Nat × Tally :=
  match box with
  | [] => (target, t)
  | b :: rest =>
    let before := stateBefore (b, target) t
    pathState rest before.1 before.2

/-- Measures the boxes of a set that is read backward, each a way that ends in `target`. -/
def measurePaths (target : Nat) : List (List Bytes) → Tally → Tally
  | [], t => t
  | box :: boxes, t => measurePaths target boxes ((pathState box target t).2.grow linkSize)

/-- Measures a set, whose characters are those of the boxes. -/
def measureSet (d : Direction) (s : CharSet) (boxes : List (List Bytes)) (t : Tally) : Tally :=
  if s.isAscii then (t.add 1).addEdges s.ranges.size
  else
    let count := t.states
    match d with
    | .forward => (boxState count 4 boxes (t.add 1)).2
    | .backward => measurePaths (count + 1) boxes (t.add 2)

/-- The bytes of a text. -/
def bytesOf (text : Text) : List Nat :=
  (String.ofList text).toUTF8.toList.map UInt8.toNat

/-- The words by their first byte, without it, each group in order. -/
def byFirstByte (words : List (List Nat)) : List (Nat × List (List Nat)) :=
  words.foldr (fun word groups =>
    match word with
    | [] => groups
    | b :: rest =>
      match groups.lookup b with
      | none => (b, [rest]) :: groups
      | some rests => groups.map fun g => if g.1 = b then (b, rest :: rests) else g) []

/-- The words between the empty ones. -/
def runs : List (List Nat) → List (List (List Nat))
  | [] => [[]]
  | word :: words =>
    match runs words with
    | [] => [[word]]
    | run :: rest => if word.isEmpty then [] :: run :: rest else (word :: run) :: rest

/-- Measures the tree of words that share their beginnings. A word that ends inside of another one
cuts the branches in two: those before it and those behind it. `depth` bounds the lengths. -/
def measureWords : (depth : Nat) → List (List Nat) → Tally → Tally
  | 0, _, t => t
  | depth + 1, words, t =>
    let words := match words with
      | [] :: rest => [] :: rest.dropWhile List.isEmpty
      | words => words
    let branches := (runs words).map byFirstByte
    let used := branches.filter fun groups => !groups.isEmpty
    if used.isEmpty then t
    else
      let t := used.foldl (fun t groups =>
        groups.foldl (fun t g => measureWords depth g.2 t)
          (if groups.length = 1 then t.add 1 else t.addEdges groups.length)) t
      (t.add 1).grow ((used.length + branches.length - 1) * linkSize)

/-- The text of a literal. -/
def literal? : Node → Option Text
  | .literal t => some t
  | _ => none

mutual

/-- Is the last state of the node one that branches? -/
def endsOpen (d : Direction) : Node → Bool
  | .empty => false
  | .literal _ => false
  | .chars _ => false
  | .look _ => false
  | .capture _ n => d = .backward && endsOpen d n
  | .seq ns => endsOpenSeq d ns
  | .choice _ => false
  | .many min max _ n =>
    match min, max with
    | 0, none => (n.minLength?).any (0 < ·)
    | _ + 1, none => true
    | min, some max => min = max && endsOpen d n

/-- Is the last state of the sequence one that branches? -/
def endsOpenSeq (d : Direction) : List Node → Bool
  | [] => false
  | [n] => endsOpen d n
  | n :: ns =>
    match d with
    | .forward => endsOpenSeq d ns
    | .backward => endsOpen d n

end

mutual

/-- Can the node match only where the text starts, or ends, in the direction of reading? -/
def isAnchored (d : Direction) : Node → Bool
  | .empty => false
  | .literal _ => false
  | .chars _ => false
  | .look l => l = (match d with | .forward => .textStart | .backward => .textEnd)
  | .capture _ n => isAnchored d n
  | .seq ns => isAnchoredSeq d ns
  | .choice ns => areAnchored d ns
  | .many min _ _ n => 0 < min && isAnchored d n

/-- Can the sequence match only there? -/
def isAnchoredSeq (d : Direction) : List Node → Bool
  | [] => false
  | n :: ns =>
    match d with
    | .forward => isAnchored d n || (n.isIdle && isAnchoredSeq d ns)
    | .backward => isAnchoredSeq d ns || (Node.areIdle ns && isAnchored d n)

/-- Can each of the nodes match only there? -/
def areAnchored (d : Direction) : List Node → Bool
  | [] => true
  | n :: ns => isAnchored d n && areAnchored d ns

end

/-- The bytes of the links out of nodes whose last states branch. -/
def openLinks (d : Direction) (ns : List Node) : Nat := ns.countP (endsOpen d) * linkSize

mutual

/-- Measures a node. -/
def measure (d : Direction) : Node → Tally → Tally
  | .empty, t => t.add 1
  | .literal s, t => t.add (Text.utf8Length s)
  | .chars s, t => measureSet d s s.boxes t
  | .look _, t => t.add 1
  | .capture _ n, t =>
    match d with
    | .forward => ((measure d n (t.add 1)).add 1).grow (openLinks d [n])
    | .backward => measure d n t
  | .seq ns, t =>
    let joined := match d with
      | .forward => ns.dropLast
      | .backward => ns.drop 1
    (measureSeq d ns t).grow (openLinks d joined)
  | .choice ns, t =>
    match ns.mapM literal? with
    | some texts =>
      let words := texts.map fun s => match d with
        | .forward => bytesOf s
        | .backward => (bytesOf s).reverse
      measureWords ((words.map List.length).foldl Nat.max 0 + 1) words (t.add 1)
    | none => (measureChoice d 0 ns t).grow (ns.length * linkSize + openLinks d ns)
  | .many min max _ n, t =>
    let body := measure d n
    let out := openLinks d [n]
    match min, max with
    | 0, some 1 => ((body (t.add 1)).add 1).grow (2 * linkSize + out)
    | 0, none =>
      if (n.minLength?).any (0 < ·) then (body (t.add 1)).grow (linkSize + out)
      else ((body t).add 3).grow (4 * linkSize + out)
    | min, none => ((t.copies body min).add 1).grow (linkSize + min * out)
    | min, some max =>
      if min = max then (t.copies body min).grow ((min - 1) * out)
      else
        let t := if min = 0 then t.add 1 else t.copies body min
        ((t.add 1).copies (fun t => body (t.add 1)) (max - min)).grow
          (2 * (max - min) * linkSize + max * out)

/-- Measures a sequence in the order of reading. -/
def measureSeq (d : Direction) : List Node → Tally → Tally
  | [], t => t
  | n :: ns, t =>
    match d with
    | .forward => measureSeq d ns (measure d n t)
    | .backward => measure d n (measureSeq d ns t)

/-- Measures alternatives, of which `done` come before. The states where they part and meet are
numbered behind the second one. -/
def measureChoice (d : Direction) (done : Nat) : List Node → Tally → Tally
  | [], t => t
  | n :: ns, t =>
    let t := measure d n t
    measureChoice d (done + 1) ns (if done = 1 then t.add 2 else t)

end

/-- The size of the automaton of a pattern. One that can match anywhere starts with a loop over all
bytes. -/
def sizeOf (d : Direction) (n : Node) : Nat :=
  let loose := !isAnchored d n
  let start : Tally := if loose then ((({} : Tally).add 2).addEdges 1).grow (2 * linkSize)
    else ({} : Tally).add 1
  let body := match d with
    | .forward => (measure d n (start.add 1)).add 1
    | .backward => measure d n start
  ((body.add 1).grow (openLinks d [n])).size

/-- Is the automaton of the pattern too large? -/
def isTooBig (n : Node) : Bool :=
  maxSize < sizeOf .forward n || maxSize < sizeOf .backward n

end PageBlocks.Pattern
