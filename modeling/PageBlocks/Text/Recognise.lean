import PageBlocks.Text.Basic

/-!
# Picking pieces out of a text

A recogniser says of a text whether it starts with something, and how many characters long that
is. `Text.recognise` asks it at every place from left to right and takes what it finds, never
overlapping. The pieces make up the text again, whatever the recogniser says.
-/

namespace PageBlocks.Text

/-- A piece of a text: a character as it is, or something that was recognised. -/
inductive Piece (α : Type) where
  | char (c : Char)
  | found (source : Text) (value : α)
  deriving DecidableEq, Repr

/-- The piece as it stands in the text. -/
def Piece.source {α : Type} : Piece α → Text
  | .char c => [c]
  | .found t _ => t

/-- The pieces of a text, of which the first `busy` characters are already taken. -/
def recogniseFrom {α : Type} (at? : Text → Option (Nat × α)) : (busy : Nat) → Text → List (Piece α)
  | _, [] => []
  | busy + 1, _ :: t => recogniseFrom at? busy t
  | 0, c :: t =>
    match at? (c :: t) with
    | none => .char c :: recogniseFrom at? 0 t
    | some (n, a) => .found (c :: t.take (n - 1)) a :: recogniseFrom at? (n - 1) t

/-- The pieces of a whole text. -/
def recognise {α : Type} (at? : Text → Option (Nat × α)) (t : Text) : List (Piece α) :=
  recogniseFrom at? 0 t

/-- A value between quotes, of either kind, in front of `t`: the quote, the value, and what
follows. -/
def quotedValue? : Text → Option (Char × Text × Text)
  | [] => none
  | q :: t =>
    if q = '"' ∨ q = '\'' then (cutAt? (· == q) t).map fun (value, rest) => (q, value, rest)
    else none

end PageBlocks.Text
