import PageBlocks.Pattern.Program
import PageBlocks.Pattern.Reader
import PageBlocks.Pattern.Size

/-!
# Searching with patterns

`Pattern.pieces` cuts a text into the matches of a pattern, from left to right and without
overlap, and the text between them. The pieces make up the text again. An empty match directly
behind another match does not count.
-/

namespace PageBlocks

/-- A pattern that can be searched for. -/
structure Pattern where
  /-- The pattern as written. -/
  source : Text
  program : Pattern.Program
  /-- How many groups there are. -/
  groups : Nat
  /-- The groups that have a name. -/
  names : List (Text × Nat)

namespace Pattern

/-- Reads a pattern. A group that can take no part in a match is not counted, if no later one
can. -/
def ofText (source : Text) : Except Error Pattern :=
  match Reader.run (source.length + 1) {} source with
  | none => .error .malformed
  | some r =>
    let node := r.inside.node
    if maxHeight < r.inside.height then .error .malformed
    else if isTooBig node then .error .tooBig
    else
      let (start, code) := (Node.capture 0 node).compile 0 #[.accept]
      let groups := node.groupCount
      .ok ⟨source, ⟨code, start, 2 * (groups + 1)⟩, groups, r.names⟩

/-- A match in a text: how much of the text stands before it, how long it is, and where its
groups start and end. -/
structure Hit where
  skip : Nat
  length : Nat
  groups : List (Option (Nat × Nat))
  deriving DecidableEq, Repr

/-- The groups of noted places, from group 1 on. -/
def groupSpans (slots : Slots) (count : Nat) : List (Option (Nat × Nat)) :=
  (List.range count).map fun i =>
    match slots[2 * (i + 1)]?, slots[2 * (i + 1) + 1]? with
    | some (some a), some (some b) => some (a, b)
    | _, _ => none

/-- The first match in a text that follows the character `before`. -/
def find? (p : Pattern) (before : Option Char) (text : Text) : Option Hit :=
  match p.program.find? before text with
  | none => none
  | some slots =>
    match slots[0]?, slots[1]? with
    | some (some a), some (some b) => some ⟨a, b - a, groupSpans slots p.groups⟩
    | _, _ => none

/-- A match one character further on. -/
def Hit.shift (h : Hit) : Hit :=
  { h with
    skip := h.skip + 1
    groups := h.groups.map fun g => g.map fun (a, b) => (a + 1, b + 1) }

/-- The next match that counts. Behind a match, an empty one does not. -/
def next? (find : Option Char → Text → Option Hit) (behindHit : Bool) (before : Option Char)
    (text : Text) : Option Hit :=
  match find before text with
  | none => none
  | some h =>
    if behindHit && h.skip == 0 && h.length == 0 then
      match text with
      | [] => none
      | c :: rest => (find (some c) rest).map Hit.shift
    else some h

/-- A piece of a searched text. -/
inductive Piece where
  | plain (text : Text)
  /-- A match, with the texts of its groups. -/
  | hit (text : Text) (groups : List (Option Text))
  deriving DecidableEq, Repr

/-- The piece as it stands in the text. -/
def Piece.source : Piece → Text
  | .plain t => t
  | .hit t _ => t

/-- Cuts the text, which follows `before`, at the matches that `find` gives. -/
def piecesFrom (find : Option Char → Text → Option Hit) (behindHit : Bool)
    (before : Option Char) (text : Text) : List Piece :=
  match next? find behindHit before text with
  | none => [.plain text]
  | some h =>
    let used := h.skip + h.length
    if _onward : behindHit = true → 0 < used ∧ text ≠ [] then
      let groups := h.groups.map fun g => g.map fun (a, b) => (text.drop a).take (b - a)
      .plain (text.take h.skip) :: .hit ((text.drop h.skip).take h.length) groups
        :: piecesFrom find true ((text.take used).getLast?.or before) (text.drop used)
    else [.plain text]
termination_by 2 * text.length + (if behindHit then 0 else 1)
decreasing_by
  cases behindHit
  · simp only [List.length_drop, if_true, Bool.false_eq_true, if_false]
    omega
  · obtain ⟨hpos, hne⟩ := _onward rfl
    have := List.length_pos_iff.mpr hne
    simp only [List.length_drop, if_true]
    omega

/-- The matches of the pattern and the text between them. -/
def pieces (p : Pattern) (text : Text) : List Piece := piecesFrom p.find? false none text

/-- The text with every match replaced. -/
def replaceAll (p : Pattern) (replace : Text → List (Option Text) → Text) (text : Text) : Text :=
  (p.pieces text).flatMap fun
    | .plain t => t
    | .hit t groups => replace t groups

end Pattern

end PageBlocks
