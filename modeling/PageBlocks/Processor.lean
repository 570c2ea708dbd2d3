import PageBlocks.Audience
import PageBlocks.Options
import PageBlocks.Registry

/-!
# Processing a page

A text is scanned, and every block is given to the handler of its type, the blocks inside its
content first where the handler wants to see it. What a handler returns is final: it is not scanned
again. Files that are included go the same way, if the options say so, and one include level
deeper.

Two quantities bound the work. A block's content is shorter than the text that the block stands in,
and files are included at most so many levels deep: `expandAt` recurses on the levels that are
left, and `expandWithin` on the length of the text.

Blocks that stand alone are laid out by three rules. An empty block takes its lines with it. New
text is indented like the directive. All other text keeps its own layout.
-/

namespace PageBlocks

/-- The text of one block, and whether it is new text to be indented. -/
structure Rendered where
  text : Text
  indented : Bool
  deriving DecidableEq, Repr

/-- Where the text being processed comes from. -/
structure Site where
  /-- The file. -/
  source : Option Path
  /-- The directory that paths in the text are relative to. -/
  baseDir : Path
  /-- The files that are open, the outermost first, in their folded spelling. -/
  chain : List Path
  deriving DecidableEq, Repr

/-- All that stays fixed while pages are processed. -/
structure Processor where
  options : Options
  marker : Marker
  registry : Registry
  read : ReadFile
  transform : Transform
  template : Template

/-- A page put together as far as the blocks have been rendered. -/
structure Assembly where
  out : Text := []
  /-- How many characters of the text that follows are dropped. -/
  skip : Nat := 0
  deriving DecidableEq, Repr

namespace Assembly

/-- Drops one line break at the end of the page so far. -/
def dropLastBreak (out : Text) : Text :=
  match out.reverse with
  | '\n' :: '\r' :: rest => rest.reverse
  | '\n' :: rest => rest.reverse
  | _ => out

/-- Adds text outside all blocks. -/
def addLiteral (a : Assembly) (t : Text) : Assembly := { out := a.out ++ t.drop a.skip, skip := 0 }

/-- Adds the text of a block, by the rules for layout. -/
def addBlock (a : Assembly) (b : Block) (r : Rendered) : Assembly :=
  match b.indent? with
  | none => { out := a.out ++ r.text, skip := 0 }
  | some indent =>
    let out := (Text.before? indent a.out).getD a.out
    let blanks := (Text.leadingBlanks b.rest).length
    if r.text.isEmpty then
      if b.breaksLine then { out, skip := (Text.lineEnd b.rest).length }
      else { out := dropLastBreak out, skip := blanks }
    else if r.indented then { out := out ++ Text.indentLines indent r.text, skip := blanks }
    else { out := out ++ r.text, skip := blanks }

/-- Adds the segments of a scan, in order. -/
def addAll (render : Block → Outcome Rendered) : List Segment → Assembly → Outcome Assembly
  | [], a => return a
  | .literal t :: later, a => addAll render later (a.addLiteral t)
  | .block b :: later, a => do addAll render later (a.addBlock b (← render b))

end Assembly

namespace Processor

/-- For whom pages are processed. -/
def audience (p : Processor) : Audience := ⟨p.options.environment, p.options.strip⟩

/-- What a handler gets to know about a block. -/
def context (p : Processor) (site : Site) (b : Block) : Context where
  source := site.source
  baseDir := site.baseDir
  line := b.line
  environment := p.options.environment
  config := p.options.config
  read := p.read
  transform := p.transform
  template := p.template
  data := p.options.templateData

/-- The text of a file that a block is replaced by. With `recursive` it is processed itself,
unless it is open already or no further level is left. -/
def insertFile (p : Processor) (deeper? : Option (Site → Text → Outcome Text)) (site : Site)
    (location : Location) (path : Path) (text : Text) : Outcome Text :=
  if !p.options.recursive then return text
  else
    let name := Path.normalize path
    let chain := site.chain ++ [name]
    if site.chain.contains name then .fail (.includeCycle location chain)
    else
      match deeper? with
      | none => .fail (.includeCycle location chain)
      | some expand => expand ⟨some path, Path.directory path, chain⟩ text

/-- What becomes of a block, given how its content and a file in its place are processed. -/
def renderBlock (p : Processor) (site : Site) (expandContent : Nat → Text → Outcome Text)
    (insert : Location → Path → Text → Outcome Text) (b : Block) : Outcome Rendered :=
  let location : Location := ⟨site.source, b.line⟩
  match b.directives.find? fun d => !p.registry.contains d.type with
  | some d => .fail (.unknownType location d.type)
  | none =>
    match p.audience.select? b.directives with
    | none => return ⟨← expandContent b.contentLine b.content, false⟩
    | some d =>
      match p.registry.get? d.type with
      | none => .fail (.unknownType location d.type)
      | some handler => do
        -- A handler that reads the content gets it with its blocks already processed.
        let early := handler.readsContent d
        let content ← if early then expandContent b.contentLine b.content else pure b.content
        match ← handler.handle (p.context site b) d content with
        | .keep =>
          if early then return ⟨content, false⟩
          else return ⟨← expandContent b.contentLine b.content, false⟩
        | .drop => return ⟨[], false⟩
        | .edit text => return ⟨text, false⟩
        | .replace text => return ⟨text, true⟩
        | .insertFile path text =>
          return ⟨Text.dropFinalBreak (← insert location path text), true⟩

/-- Processes all blocks of a text; `deeper?` processes files one include level further down, if
there is one left. -/
def expandWithin (p : Processor) (deeper? : Option (Site → Text → Outcome Text)) (site : Site)
    (line : Nat) (text : Text) : Outcome Text := do
  let scan := p.marker.scan line text
  -- The content of a block is always shorter than the text around it.
  let content (line : Nat) (inner : Text) : Outcome Text :=
    if _shorter : inner.length < text.length then expandWithin p deeper? site line inner
    else return inner
  let render := p.renderBlock site content (p.insertFile deeper? site)
  let page ← Assembly.addAll render scan.segments {}
  match scan.error? with
  | some e => .fail (.ofScan site.source e)
  | none => return page.out
termination_by text.length

/-- Processes all blocks of a text, with so many include levels left. -/
def expandAt (p : Processor) : (levels : Nat) → Site → (line : Nat) → Text → Outcome Text
  | 0, site, line, text => p.expandWithin none site line text
  | levels + 1, site, line, text =>
    p.expandWithin (some fun site text => p.expandAt levels site 1 text) site line text

/-- Processes all blocks of a whole text. -/
def expand (p : Processor) (site : Site) (text : Text) : Outcome Text :=
  p.expandAt p.options.maxIncludeDepth site 1 text

/-- Fills the placeholders of a page that is otherwise done. -/
def finish (p : Processor) (source : Option Path) (page : Text) : Outcome Text :=
  let (text, warnings) := p.template.render p.options.templateData page
  ⟨.ok text, warnings.map (.page source)⟩

/-- Processes a text that came from no file. -/
def processText (p : Processor) (baseDir : Path) (text : Text) : Outcome Text := do
  p.finish none (← p.expand ⟨none, baseDir, []⟩ text)

/-- Processes a file. -/
def processFile (p : Processor) (path : Path) : Outcome Text :=
  match p.read path with
  | .error (.notFound _) => .fail (.fileNotFound path)
  | .error (.failed cause) => .fail (.io path cause)
  | .ok text => do
    let site : Site := ⟨some path, Path.directory path, [Path.normalize path]⟩
    p.finish (some path) (← p.expand site text)

/-- Loads all sources of block types, in order. -/
def loadSources (read : ReadFile) : List Path → Registry → Except SourceError Registry
  | [], r => .ok r
  | path :: paths, r =>
    match r.load read path with
    | .error e => .error e
    | .ok (r, _) => loadSources read paths r

/-- Sets up a processor: the marker and the pattern of placeholders must be usable, and the sources
of block types must load. A template of the caller's own takes the place of the pattern. -/
def ofOptions (options : Options) (read : ReadFile) (transform : Transform)
    (template? : Option Template) : Except ProcessError Processor :=
  match Marker.ofText? options.marker with
  | none => .error (.invalidMarker options.marker)
  | some marker =>
    let made : Except TemplateError Template := match template? with
      | some t => .ok t
      | none => Template.ofPattern options.interpolate
    match made with
    | .error e => .error (.template e)
    | .ok template =>
      match loadSources read options.blockSources .builtin with
      | .error e => .error (.source e)
      | .ok registry => .ok { options, marker, registry, read, transform, template }

end Processor

end PageBlocks
