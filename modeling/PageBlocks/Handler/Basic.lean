import PageBlocks.Outcome
import PageBlocks.Template

/-!
# Handlers

A handler decides what becomes of the blocks of one type. It is given the block's content, the
directive that was selected, and the surroundings, and it answers what the block is to become.
Handlers may warn, and they may refuse.
-/

namespace PageBlocks

/-- What a block is to become. -/
inductive Output where
  /-- Its content, with the blocks inside processed. -/
  | keep
  /-- Nothing. -/
  | drop
  /-- Content that has been changed and keeps its own layout. -/
  | edit (text : Text)
  /-- New text, to be indented like the directive. -/
  | replace (text : Text)
  /-- The text of a file. -/
  | insertFile (path : Path) (text : Text)
  deriving DecidableEq, Repr

/-- What a handler may know about the block's surroundings. -/
structure Context where
  /-- The file that the block is in. -/
  source : Option Path
  /-- The directory that relative paths start from. -/
  baseDir : Path
  /-- The line of the opening directive. -/
  line : Nat
  environment : Option Text
  /-- Settings that are only passed through. -/
  config : Json.Fields
  read : ReadFile
  transform : Transform
  template : Template
  /-- The data model of the page. -/
  data : Json

namespace Context

/-- Where the block is. -/
def location (ctx : Context) : Location := ⟨ctx.source, ctx.line⟩

/-- A path as seen from the base directory. -/
def resolve (ctx : Context) (p : Path) : Path := Path.join ctx.baseDir p

/-- A setting that is passed through. -/
def setting? (ctx : Context) (name : Text) : Option Json := Json.Fields.get? ctx.config name

/-- A warning about the block. -/
def warn (ctx : Context) (w : Warning) : Notice := .block ctx.location w

/-- A text with its placeholders filled. -/
def render (ctx : Context) (t : Text) : Outcome Text :=
  let (text, warnings) := ctx.template.render ctx.data t
  ⟨.ok text, warnings.map ctx.warn⟩

end Context

/-- Whatever handles the blocks of one type. -/
structure Handler where
  /-- The block type. -/
  name : Text
  /-- Does the answer depend on the content, so that blocks inside must be processed first? -/
  readsContent : Directive → Bool
  handle : Context → Directive → Text → Outcome Output

/-- A directive's argument without the pair of quotes around it. -/
def unquote (arg : Text) : Text :=
  let t := Text.trim arg
  let inside? (q : Char) : Option Text := (Text.after? [q] t).bind (Text.before? [q])
  ((inside? '"').or (inside? '\'')).getD t

end PageBlocks
