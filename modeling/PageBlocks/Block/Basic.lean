import PageBlocks.Text.Line
import PageBlocks.Directive.Basic

/-!
# Blocks

A block is what stands between an opening and a closing directive, together with both of them.
Several opening directives of one type may be stacked in front of it.

    …seen <!-- build:remove(dev) -->   inner   <!-- endbuild --> rest…
          `-------- opening -------´           `--- closing ---´

A block whose directives have their lines to themselves stands alone: its content is then made of
whole lines, and the lines of its directives are not part of the page.
-/

namespace PageBlocks

/-- A block in its place. -/
structure Block where
  /-- The first of the directives in front. -/
  first : Directive
  /-- The directives stacked behind the first one. -/
  stacked : List Directive
  /-- All the text before the block, nearest character first. -/
  seen : Text
  /-- The opening directives, with the white space between them. -/
  opening : Text
  /-- The text between the last opening directive and the closing one. -/
  inner : Text
  /-- The closing directive. -/
  closing : Text
  /-- All the text behind the block. -/
  rest : Text
  /-- The line of the first opening directive. -/
  line : Nat
  deriving DecidableEq, Repr

namespace Block

/-- The stack of opening directives, in the order of the page. -/
def directives (b : Block) : List Directive := b.first :: b.stacked

/-- The block as it stands in the page. -/
def source (b : Block) : Text := b.opening ++ b.inner ++ b.closing

/-- Where the parts of a block start and end, in bytes of UTF-8 from the start of the text. -/
structure Span where
  openStart : Nat
  openEnd : Nat
  innerStart : Nat
  innerEnd : Nat
  closeStart : Nat
  closeEnd : Nat
  deriving DecidableEq, Repr

/-- The place of the block's parts. -/
def span (b : Block) : Span :=
  let openStart := Text.utf8Length b.seen
  let openEnd := openStart + Text.utf8Length b.opening
  let closeStart := openEnd + Text.utf8Length b.inner
  { openStart, openEnd, innerStart := openEnd, innerEnd := closeStart, closeStart,
    closeEnd := closeStart + Text.utf8Length b.closing }

/-- What stands before the block on its first line. -/
def lead (b : Block) : Text := (b.seen.takeWhile (· != '\n')).reverse

/-- The indentation of the opening directive, when the directives have their lines to
themselves. -/
def indent? (b : Block) : Option Text :=
  if Text.blank b.lead && Text.blankToLineEnd b.rest then some b.lead else none

/-- Does a line break follow, spaces and tabs aside? -/
def breaksLine (b : Block) : Bool := Text.breaksLine b.rest

/-- The inner text of a block that stands alone, less the line ends that belong to its
directives. -/
def ownLines (inner : Text) : Text :=
  let body := Text.dropLineEnd inner
  match Text.cutAtLastLine? body with
  | some (upper, last) =>
    if Text.blank last then (Text.before? ['\r'] upper).getD upper else body
  | none => if Text.blank body then [] else body

/-- The text that the block's handler is given. -/
def content (b : Block) : Text :=
  match b.indent? with
  | none => b.inner
  | some _ => ownLines b.inner

/-- The line that the content starts on. -/
def contentLine (b : Block) : Nat :=
  let skipped := match b.indent? with
    | none => []
    | some _ => Text.lineEnd b.inner
  b.line + Text.lineFeeds b.opening + Text.lineFeeds skipped

end Block

/-- A piece of a page. -/
inductive Segment where
  /-- Text outside all blocks. -/
  | literal (text : Text)
  | block (block : Block)
  deriving DecidableEq, Repr

/-- The piece as it stands in the page. -/
def Segment.source : Segment → Text
  | .literal t => t
  | .block b => b.source

end PageBlocks
