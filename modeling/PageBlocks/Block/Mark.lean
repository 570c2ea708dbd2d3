import PageBlocks.Directive.Locator

/-!
# Marks

The directive comments of a text cut it into gaps. A `Mark` is one comment in its place, together
with all that stands on either side of it; `marks` lists them all.

    gap₁ <!--…--> gap₂ <!--…--> … tail
         mark₁         mark₂
-/

namespace PageBlocks

/-- A directive comment in its place. -/
structure Mark where
  /-- All the text before the comment, nearest character first. -/
  seen : Text
  /-- The text between the mark before this one and the comment. -/
  gap : Text
  /-- The comment. -/
  comment : Text
  /-- All the text behind the comment. -/
  rest : Text
  /-- The line that the comment stands on. -/
  line : Nat
  /-- What the comment says. -/
  token : Except Fault Token

/-- The marks of `text`, and the text behind the last one. The characters `seen`, nearest first,
stand before `text`, which starts on line `line`. -/
def marksFrom (m : Marker) (seen : Text) (line : Nat) (text : Text) : List Mark × Text :=
  match _found : m.find? text with
  | none => ([], text)
  | some f =>
    let before := f.gap.reverseAux seen
    let here := line + Text.lineFeeds f.gap
    let (later, tail) :=
      marksFrom m (f.comment.reverseAux before) (here + Text.lineFeeds f.comment) f.rest
    (⟨before, f.gap, f.comment, f.rest, here, m.classify f.comment⟩ :: later, tail)
termination_by text.length
decreasing_by exact Marker.length_rest_of_find? _found

/-- The marks of a whole text whose first line has number `firstLine`. -/
def marks (m : Marker) (firstLine : Nat) (text : Text) : List Mark × Text :=
  marksFrom m [] firstLine text

/-- The text that a run of marks covers, from the first gap to the last comment. -/
def Mark.source (run : List Mark) : Text := run.flatMap fun k => k.gap ++ k.comment

end PageBlocks
