import PageBlocks.Block.Basic
import PageBlocks.Block.Mark

/-!
# Scanning a page into blocks

`Marker.scan` cuts a text into literals and top-level blocks. Blocks nest, so a closing directive
belongs to the nearest block still open. Opening directives of one type that follow each other
with only white space between them are a stack in front of one block, but only as far as closing
directives are missing for them: in

    <!-- build:remove(a) --> <!-- build:remove(b) --> … <!-- endbuild -->

both guard the one block, while a second `<!-- endbuild -->` makes the second directive the start
of a block inside.

The scan stops at the first fault: an unusable directive, a closing directive without a block, or
a block that is never closed.
-/

namespace PageBlocks

/-- Why a scan stopped. -/
inductive ScanError where
  | malformed (line : Nat) (comment : Text) (fault : Fault)
  | unterminated (line : Nat) (type : Text)
  deriving DecidableEq, Repr

/-- The pieces of a page up to its end, or up to the fault that stopped the scan. -/
structure Scan where
  segments : List Segment
  error? : Option ScanError
  deriving DecidableEq, Repr

namespace Mark

/-- The directive of a mark that opens a block. -/
def directive? (k : Mark) : Option Directive :=
  match k.token with
  | .ok (.opens d) => some d
  | _ => none

/-- Does the mark follow directly, with white space at most, and open a block of type `type`? -/
def joins (type : Text) (k : Mark) : Bool :=
  Text.spaces k.gap && (k.directive?.map Directive.type == some type)

/-- The least number of open blocks from here on, when `depth` are open now. The count ends at 0
and at a mark that cannot be read. -/
def lowestDepth (depth : Nat) : List Mark → Nat
  | [] => depth
  | k :: later =>
    match k.token with
    | .error _ => depth
    | .ok (.opens _) => min depth (lowestDepth (depth + 1) later)
    | .ok .closes => if depth ≤ 1 then 0 else min depth (lowestDepth (depth - 1) later)

/-- How many of the marks behind an opening directive of type `type` are stacked on it. -/
def stackSize (type : Text) (later : List Mark) : Nat :=
  let run := (later.takeWhile (joins type)).length
  if run = 0 then 0 else min (lowestDepth (run + 1) (later.drop run)) run

/-- Why a block has no closing directive. -/
inductive Unclosed where
  /-- This mark cannot be read. -/
  | unreadable (mark : Mark) (fault : Fault)
  /-- The text ends first. -/
  | ended

/-- The marks up to the one that closes the innermost open block, that mark, and the marks behind
it. -/
structure Closed where
  inside : List Mark
  closing : Mark
  behind : List Mark

/-- Looks for the mark that closes the innermost open block, `depth` blocks inside which are open
too. A stack inside counts as one block. -/
def toClosing (depth : Nat) (ms : List Mark) : Except Unclosed Closed :=
  match ms with
  | [] => .error .ended
  | k :: later =>
    match k.token with
    | .error fault => .error (.unreadable k fault)
    | .ok .closes =>
      match depth with
      | 0 => .ok ⟨[], k, later⟩
      | depth + 1 =>
        match toClosing depth later with
        | .error e => .error e
        | .ok c => .ok { c with inside := k :: c.inside }
    | .ok (.opens d) =>
      let n := stackSize d.type later
      match toClosing (depth + 1) (later.drop n) with
      | .error e => .error e
      | .ok c => .ok { c with inside := k :: later.take n ++ c.inside }
termination_by ms.length
decreasing_by all_goals simp; try omega

/-- Nothing is lost on the way to the closing mark. -/
theorem eq_of_toClosing {depth : Nat} {ms : List Mark} {c : Closed}
    (h : toClosing depth ms = .ok c) : ms = c.inside ++ c.closing :: c.behind := by
  fun_induction toClosing depth ms generalizing c with
  | case1 => simp at h
  | case2 => simp at h
  | case3 k later _ =>
    obtain rfl : (⟨[], k, later⟩ : Closed) = c := by simpa using h
    simp
  | case4 => simp at h
  | case5 k later _ depth c' hc ih =>
    obtain rfl : ({ c' with inside := k :: c'.inside } : Closed) = c := by simpa using h
    simp [ih hc]
  | case6 => simp at h
  | case7 =>
    rename_i k later d _ n c' hc ih
    obtain rfl : ({ c' with inside := k :: later.take n ++ c'.inside } : Closed) = c := by
      simpa using h
    rw [List.append_assoc, ← ih hc, List.cons_append, List.take_append_drop]

end Mark

/-- The block opened by `opener`, with the marks of its stack, of its inside, and its closing
mark. -/
def Block.ofMarks (opener : Mark) (d : Directive) (stack inside : List Mark) (closing : Mark) :
    Block :=
  let close (d : Directive) : Directive := { d with closing := closing.comment }
  { first := close d
    stacked := (stack.filterMap Mark.directive?).map close
    seen := opener.seen
    opening := opener.comment ++ Mark.source stack
    inner := Mark.source inside ++ closing.gap
    closing := closing.comment
    rest := closing.rest
    line := opener.line }

namespace Scan

/-- The segments that start with a literal, if it holds anything. -/
def literal (t : Text) (later : List Segment) : List Segment :=
  if t.isEmpty then later else .literal t :: later

/-- A scan that stops before its first segment. -/
def stopped (e : ScanError) : Scan := ⟨[], some e⟩

/-- Puts the marks of a page together to blocks; `tail` is the text behind the last mark. -/
def ofMarks (ms : List Mark) (tail : Text) : Scan :=
  match ms with
  | [] => ⟨literal tail [], none⟩
  | k :: later =>
    match k.token with
    | .error fault => stopped (.malformed k.line k.comment fault)
    | .ok .closes => stopped (.malformed k.line k.comment .strayClosing)
    | .ok (.opens d) =>
      let n := Mark.stackSize d.type later
      match _closed : Mark.toClosing 0 (later.drop n) with
      | .error (.unreadable bad fault) => stopped (.malformed bad.line bad.comment fault)
      | .error .ended => stopped (.unterminated k.line d.type)
      | .ok c =>
        let block := Block.ofMarks k d (later.take n) c.inside c.closing
        let scan := ofMarks c.behind tail
        { scan with segments := literal k.gap (.block block :: scan.segments) }
termination_by ms.length
decreasing_by
  have h := congrArg List.length (Mark.eq_of_toClosing _closed)
  simp at h ⊢
  omega

end Scan

/-- Cuts a text whose first line has number `firstLine` into literals and top-level blocks. -/
def Marker.scan (m : Marker) (firstLine : Nat) (text : Text) : Scan :=
  let (ms, tail) := marks m firstLine text
  Scan.ofMarks ms tail

end PageBlocks
