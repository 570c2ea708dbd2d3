import PageBlocks.Pattern.Syntax
import PageBlocks.Text.Word

/-!
# Matching

A pattern is compiled to a small program, which is then run on all ways to match at once, one
character after the other: a list of threads, the preferred one first, each with the places of the
groups it has passed. A thread that reaches `accept` silences all threads behind it. So the time is
bounded by the length of the text times the size of the program, whatever the pattern.
-/

namespace PageBlocks.Pattern

/-- One instruction; numbers are places in the program. -/
inductive Inst where
  | chars (set : CharSet) (next : Nat)
  | look (look : Look) (next : Nat)
  /-- Notes the place in the text in a slot. -/
  | save (slot next : Nat)
  /-- Goes on in both places, the first one preferred. -/
  | split (first second : Nat)
  | accept
  deriving Inhabited

/-- A program under construction. -/
abbrev Code := Array Inst

/-- Compiles `count` copies, one behind the other, in front of `next`. -/
def copies (compile : Nat → Code → Nat × Code) : (count next : Nat) → Code → Nat × Code
  | 0, next, code => (next, code)
  | count + 1, next, code =>
    let (start, code) := compile next code
    copies compile count start code

/-- Compiles up to `count` copies, each behind the one before, all leading to `exit`. -/
def upTo (compile : Nat → Code → Nat × Code) (greedy : Bool) (exit : Nat) :
    (count next : Nat) → Code → Nat × Code
  | 0, next, code => (next, code)
  | count + 1, next, code =>
    let (start, code) := compile next code
    let choice := if greedy then Inst.split start exit else Inst.split exit start
    upTo compile greedy exit count code.size (code.push choice)

/-- Compiles one or more copies in front of `next`; also gives the place where a copy has ended. -/
def loop (compile : Nat → Code → Nat × Code) (greedy : Bool) (next : Nat) (code : Code) :
    Nat × Nat × Code :=
  let again := code.size
  let (start, code) := compile again (code.push .accept)
  let choice := if greedy then Inst.split start next else Inst.split next start
  (start, again, code.setIfInBounds again choice)

mutual

/-- Compiles a node in front of `next`: adds its instructions and gives the place to start. -/
def Node.compile : Node → (next : Nat) → Code → Nat × Code
  | .empty, next, code => (next, code)
  | .literal t, next, code =>
    t.foldr (fun c (next, code) => (code.size, code.push (.chars (CharSet.single c) next)))
      (next, code)
  | .chars s, next, code => (code.size, code.push (.chars s next))
  | .look l, next, code => (code.size, code.push (.look l next))
  | .capture i n, next, code =>
    let (start, code) := n.compile code.size (code.push (.save (2 * i + 1) next))
    (code.size, code.push (.save (2 * i) start))
  | .seq ns, next, code => compileSeq ns next code
  | .choice ns, next, code => compileChoice ns next code
  | .many min max greedy n, next, code =>
    match max with
    | some m =>
      let (start, code) := upTo n.compile greedy next (m - min) next code
      copies n.compile min start code
    | none =>
      let (start, again, code) := loop n.compile greedy next code
      match min with
      | 0 =>
        if (n.minLength?).any (0 < ·) then (again, code)
        else (code.size, code.push (if greedy then .split start next else .split next start))
      | min + 1 => copies n.compile min start code

/-- Compiles nodes, one behind the other. -/
def compileSeq : List Node → (next : Nat) → Code → Nat × Code
  | [], next, code => (next, code)
  | n :: ns, next, code =>
    let (start, code) := compileSeq ns next code
    n.compile start code

/-- Compiles alternatives, the first one preferred. -/
def compileChoice : List Node → (next : Nat) → Code → Nat × Code
  | [], next, code => (next, code)
  | [n], next, code => n.compile next code
  | n :: ns, next, code =>
    let (second, code) := compileChoice ns next code
    let (first, code) := n.compile next code
    (code.size, code.push (.split first second))

end

/-- Word characters, of all scripts or of the basic Latin block. -/
def isWordIn (unicode : Bool) (c : Char) : Bool :=
  Text.isWord c && (unicode || c.toNat < 0x80)

/-- Does the assertion hold between these neighbours? -/
def Look.holds (l : Look) (before after : Option Char) : Bool :=
  match l with
  | .textStart => before.isNone
  | .textEnd => after.isNone
  | .lineStart false => before.isNone || before == some '\n'
  | .lineStart true =>
    before.isNone || before == some '\n' || (before == some '\r' && after != some '\n')
  | .lineEnd false => after.isNone || after == some '\n'
  | .lineEnd true =>
    after.isNone || after == some '\r' || (after == some '\n' && before != some '\r')
  | .wordBoundary u => before.any (isWordIn u) != after.any (isWordIn u)
  | .notWordBoundary u => before.any (isWordIn u) == after.any (isWordIn u)
  | .wordStart u => !before.any (isWordIn u) && after.any (isWordIn u)
  | .wordEnd u => before.any (isWordIn u) && !after.any (isWordIn u)
  | .wordStartHalf u => !before.any (isWordIn u)
  | .wordEndHalf u => !after.any (isWordIn u)

/-- The places noted so far: for group `i`, slots `2 i` and `2 i + 1`. -/
abbrev Slots := Array (Option Nat)

/-- A way to match, waiting at an instruction. -/
structure Thread where
  place : Nat
  slots : Slots

/-- The threads of one place in the text, latest first, and for every instruction the last place
in the text where it was met. -/
structure Frontier where
  threads : List Thread
  met : Array Nat

/-- Where in the text the threads are. -/
structure Here where
  pos : Nat
  before : Option Char
  after : Option Char

/-- Follows the instructions that take no character, from the waiting threads on, preferred ways
first. An instruction is met once and leaves at most two threads waiting, so that `limit`, a little
more than twice the size of the program, bounds the steps. -/
def followAll (code : Code) (here : Here) : (limit : Nat) → List Thread → Frontier → Frontier
  | 0, _, f => f
  | _, [], f => f
  | limit + 1, ⟨place, slots⟩ :: waiting, f =>
    if f.met[place]? == some (here.pos + 1) then followAll code here limit waiting f
    else
      let f := { f with met := f.met.setIfInBounds place (here.pos + 1) }
      match code[place]? with
      | none => followAll code here limit waiting f
      | some (.split a b) =>
        followAll code here limit (⟨a, slots⟩ :: ⟨b, slots⟩ :: waiting) f
      | some (.save slot next) =>
        let slots := slots.setIfInBounds slot (some here.pos)
        followAll code here limit (⟨next, slots⟩ :: waiting) f
      | some (.look l next) =>
        let waiting := if l.holds here.before here.after then ⟨next, slots⟩ :: waiting else waiting
        followAll code here limit waiting f
      | some _ =>
        followAll code here limit waiting { f with threads := ⟨place, slots⟩ :: f.threads }

/-- Follows the instructions that take no character from a place on. -/
def follow (code : Code) (here : Here) (place : Nat) (slots : Slots) (f : Frontier) : Frontier :=
  followAll code here (2 * code.size + 2) [⟨place, slots⟩] f

/-- Lets the threads, preferred ones first, take the character `c`. A thread that accepts ends the
list. -/
def step (code : Code) (c? : Option Char) (there : Here) :
    List Thread → Frontier → Option Slots → Frontier × Option Slots
  | [], f, best => (f, best)
  | t :: ts, f, best =>
    match code[t.place]? with
    | some .accept => (f, some t.slots)
    | some (.chars s next) =>
      if c?.any s.contains then
        step code c? there ts (follow code there next t.slots f) best
      else step code c? there ts f best
    | _ => step code c? there ts f best

/-- A compiled program. -/
structure Program where
  code : Code
  start : Nat
  slotCount : Nat

/-- Runs the threads over the text from here on; as long as nothing has been found, a new thread
starts at every place. -/
def Program.run (p : Program) (pos : Nat) (before : Option Char) :
    Text → Frontier → Option Slots → Option Slots
  | [], f, best =>
    let here : Here := ⟨pos, before, none⟩
    let f := if best.isNone then
      follow p.code here p.start (Array.replicate p.slotCount none) f else f
    (step p.code none here f.threads.reverse ⟨[], f.met⟩ best).2
  | c :: rest, f, best =>
    let here : Here := ⟨pos, before, some c⟩
    let f := if best.isNone then
      follow p.code here p.start (Array.replicate p.slotCount none) f else f
    if f.threads.isEmpty && best.isSome then best
    else
      let there : Here := ⟨pos + 1, some c, rest.head?⟩
      let (f, best) := step p.code (some c) there f.threads.reverse ⟨[], f.met⟩ best
      run p (pos + 1) (some c) rest f best

/-- The places of the groups of the first match in `text`, which follows `before`. -/
def Program.find? (p : Program) (before : Option Char) (text : Text) : Option Slots :=
  p.run 0 before text ⟨[], Array.replicate p.code.size 0⟩ none

end PageBlocks.Pattern
