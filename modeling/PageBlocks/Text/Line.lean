import PageBlocks.Text.Basic

/-!
# Lines

What a block does to the lines around it is decided by a handful of cuts at line ends: the rest of
a directive's line, the line break in front of a closing directive, the final line break of an
included file. A line break is a line feed, or a carriage return and a line feed.
-/

namespace PageBlocks.Text

/-- The spaces and tabs in front. -/
def leadingBlanks (t : Text) : Text := t.takeWhile isBlank

/-- Drops one line break in front. -/
def dropLineBreak? : Text → Option Text
  | '\r' :: '\n' :: t => some t
  | '\n' :: t => some t
  | _ => none

/-- Drops the spaces and tabs in front together with the line break behind them; a text that does
not start that way stays as it is. -/
def dropLineEnd (t : Text) : Text := (dropLineBreak? (t.dropWhile isBlank)).getD t

/-- What `dropLineEnd` drops. -/
def lineEnd (t : Text) : Text := t.take (t.length - (dropLineEnd t).length)

/-- Do only spaces and tabs stand between here and the next line break? -/
def breaksLine (t : Text) : Bool := (dropLineBreak? (t.dropWhile isBlank)).isSome

/-- The characters up to the next line feed. -/
def restOfLine (t : Text) : Text := t.takeWhile (· != '\n')

/-- Nothing but spaces and tabs up to the line's end, carriage returns at that end aside. -/
def blankToLineEnd (t : Text) : Bool := blank (dropEndWhile (· == '\r') (restOfLine t))

/-- Drops one line break at the end. -/
def dropFinalBreak (t : Text) : Text :=
  (before? ['\r', '\n'] t).getD ((before? ['\n'] t).getD t)

/-- The lines, each with its line feed; the last one may lack it. -/
def lines : Text → List Text
  | [] => []
  | c :: t =>
    if c = '\n' then [c] :: lines t
    else match lines t with
      | [] => [[c]]
      | line :: rest => (c :: line) :: rest

/-- Puts `indent` in front of every line that holds more than white space. -/
def indentLines (indent t : Text) : Text :=
  (lines t).flatMap fun line => if spaces line then line else indent ++ line

/-- The text before and after the last line feed. -/
def cutAtLastLine? (t : Text) : Option (Text × Text) :=
  (cutAt? (· == '\n') t.reverse).map fun (a, b) => (b.reverse, a.reverse)

end PageBlocks.Text
