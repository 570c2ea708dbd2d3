import PageBlocks.Asset
import PageBlocks.Block.Scan
import PageBlocks.Path
import PageBlocks.Pattern.Basic
import PageBlocks.Toml.Document

/-!
# What can go wrong

Errors are kept as causes; each kind has one function for its wording. An error ends the work on a
page. A warning does not: it is noted, with the place it belongs to, and the page goes on.
-/

namespace PageBlocks

/-- Why a file cannot be read. -/
inductive ReadError where
  | notFound (text : Text)
  | failed (text : Text)
  deriving DecidableEq, Repr

/-- The wording of the file system. -/
def ReadError.text : ReadError → Text
  | .notFound t => t
  | .failed t => t

/-- How files are read. -/
abbrev ReadFile := Path → Except ReadError Text

/-- A line of a file, or of a text that came from no file. -/
structure Location where
  file? : Option Path
  line : Nat
  deriving DecidableEq, Repr

/-- The name of a text in messages. -/
def originName : Option Path → String
  | some p => String.ofList p
  | none => "<input>"

/-- `file:line`. -/
def Location.text (l : Location) : String := originName l.file? ++ ":" ++ toString l.line

/-- Why a text is no placeholder pattern. -/
inductive TemplateError where
  | badPattern (source : Text) (cause : Pattern.Error)
  | noGroup (source : Text)
  deriving DecidableEq, Repr

namespace TemplateError

/-- The wording without what the pattern reader has to say. -/
def headline : TemplateError → String
  | .badPattern p _ => "Invalid interpolate pattern " ++ Text.quoted p
  | .noGroup p => "Interpolate pattern " ++ Text.quoted p ++ " has no capture group"

/-- The full wording. -/
def message : TemplateError → String
  | .badPattern p cause => headline (.badPattern p cause) ++ cause.detail
  | e => e.headline

end TemplateError

/-- What a declared block type can do. -/
inductive Action where
  | wrap
  | replace
  | regex
  deriving DecidableEq, Repr

/-- The word for an action in a source of block types. -/
def Action.name : Action → String
  | .wrap => "wrap"
  | .replace => "replace"
  | .regex => "regex"

/-- What is wrong with one declared block type. -/
inductive EntryFault where
  | invalidName
  | duplicate
  | unusedField (field : String) (action : Action)
  | emptyWrap
  | missingField (action : Action) (field : String)
  | badPattern (cause : Pattern.Error)
  deriving DecidableEq, Repr

/-- The wording of what is wrong with one entry. -/
def EntryFault.message : EntryFault → String
  | .invalidName => "invalid block type name"
  | .duplicate => "declared more than once"
  | .unusedField f a => "`" ++ f ++ "` is not used by action `" ++ a.name ++ "`"
  | .emptyWrap => "action `wrap` requires `before` or `after`"
  | .missingField a f => "action `" ++ a.name ++ "` requires `" ++ f ++ "`"
  | .badPattern cause => "invalid pattern" ++ cause.detail

/-- What is wrong with a source of block types. -/
inductive SourceFault where
  | noEntries
  /-- The entry with this number, from 1 on, and this name. -/
  | entry (number : Nat) (name : Text) (fault : EntryFault)
  deriving DecidableEq, Repr

/-- The wording of what is wrong with a source. -/
def SourceFault.message : SourceFault → String
  | .noEntries => "no [[block]] entries"
  | .entry n name fault =>
    "block " ++ toString n ++ " (" ++ Text.quoted name ++ "): " ++ fault.message

/-- Why a source of block types cannot be used. -/
inductive SourceError where
  | unreadable (path : Path) (cause : ReadError)
  | unparsable (path : Path) (cause : Toml.Error)
  | invalid (path : Path) (fault : SourceFault)
  deriving DecidableEq, Repr

namespace SourceError

/-- The wording without what the reader of settings files has to say. -/
def headline : SourceError → String
  | .unreadable p cause =>
    "Failed to read block type source " ++ String.ofList p ++ ": " ++ String.ofList cause.text
  | .unparsable p _ => "Failed to parse block type source " ++ String.ofList p
  | .invalid p fault => "Invalid block type source " ++ String.ofList p ++ ": " ++ fault.message

/-- The full wording. -/
def message : SourceError → String
  | .unparsable p cause => headline (.unparsable p cause) ++ ": " ++ cause.message
  | e => e.headline

end SourceError

/-- Why a page cannot be processed. -/
inductive ProcessError where
  | fileNotFound (path : Path)
  | io (path : Path) (cause : Text)
  | malformed (location : Location) (comment : Text) (fault : Fault)
  | unterminated (location : Location) (type : Text)
  | unknownType (location : Location) (type : Text)
  | includeNotFound (location : Location) (path : Path)
  | includeUnreadable (location : Location) (path : Path) (cause : ReadError)
  /-- The files that were open, the outermost first, and the one that was to be opened next. -/
  | includeCycle (location : Location) (chain : List Path)
  | invalidMarker (word : Text)
  | source (error : SourceError)
  | template (error : TemplateError)
  deriving DecidableEq, Repr

namespace ProcessError

/-- The place that an error is tied to. -/
def location? : ProcessError → Option Location
  | .malformed l _ _ => some l
  | .unterminated l _ => some l
  | .unknownType l _ => some l
  | .includeNotFound l _ => some l
  | .includeUnreadable l _ _ => some l
  | .includeCycle l _ => some l
  | _ => none

/-- The file that could not be read, if that is what went wrong. -/
def unread? : ProcessError → Option Path
  | .fileNotFound p => some p
  | .io p _ => some p
  | .includeNotFound _ p => some p
  | .includeUnreadable _ p _ => some p
  | .source (.unreadable p _) => some p
  | _ => none

/-- The wording of an error. -/
def message : ProcessError → String
  | .fileNotFound p => "Source file not found: " ++ String.ofList p
  | .io p cause => "I/O error reading " ++ String.ofList p ++ ": " ++ String.ofList cause
  | .malformed l comment fault =>
    l.text ++ ": malformed directive " ++ Text.quoted comment ++ ": " ++ fault.message
  | .unterminated l t =>
    l.text ++ ": unterminated " ++ Text.quoted t ++ " block (missing end marker)"
  | .unknownType l t => l.text ++ ": unknown block type " ++ Text.quoted t
  | .includeNotFound l p => l.text ++ ": included file not found: " ++ String.ofList p
  | .includeUnreadable l p cause =>
    l.text ++ ": cannot read included file " ++ String.ofList p ++ ": "
      ++ String.ofList cause.text
  | .includeCycle l chain =>
    l.text ++ ": include cycle detected: " ++ String.ofList (Text.join " -> ".toList chain)
  | .invalidMarker w =>
    "Invalid comment marker " ++ Text.quoted w
      ++ ": expected ASCII letters, digits, `-` or `_`"
  | .source e => e.message
  | .template e => e.message

/-- The error of a scan of the text of `file?`. -/
def ofScan (file? : Option Path) : ScanError → ProcessError
  | .malformed line comment fault => .malformed ⟨file?, line⟩ comment fault
  | .unterminated line type => .unterminated ⟨file?, line⟩ type

end ProcessError

/-- Something that a page's author should know. -/
inductive Warning where
  | unknownKey (key : Text)
  | assetWithoutTarget (kind : AssetKind)
  | remoteAsset (kind : AssetKind) (reference : Text)
  | unreadableAsset (kind : AssetKind) (path : Path) (cause : ReadError)
  | failedTransform (path : Path) (cause : TransformError)
  | attributeWithoutValue (name : Text)
  | missingAttribute (name : Text)
  /-- In the words of a handler or template of the caller's own. -/
  | note (text : Text)
  deriving DecidableEq, Repr

/-- The wording of a warning. -/
def Warning.message : Warning → String
  | .unknownKey k => "unknown template key " ++ Text.quoted k
  | .assetWithoutTarget kind => "`" ++ kind.name ++ "` block without a target path"
  | .remoteAsset kind r => "cannot inline remote " ++ kind.name ++ " " ++ Text.quoted r
  | .unreadableAsset kind p cause =>
    "cannot inline " ++ kind.name ++ " " ++ Text.quoted p ++ ": " ++ String.ofList cause.text
  | .failedTransform p cause => String.ofList p ++ ": " ++ cause.message
  | .attributeWithoutValue a => "`[" ++ String.ofList a ++ "]` block without a value"
  | .missingAttribute a => "no " ++ Text.quoted a ++ " attribute found in block"
  | .note t => String.ofList t

/-- A warning in its place. -/
inductive Notice where
  /-- About the block at a location. -/
  | block (location : Location) (warning : Warning)
  /-- About the page as a whole. -/
  | page (file? : Option Path) (warning : Warning)
  deriving DecidableEq, Repr

/-- The file that could not be read, if that is what the warning is about. -/
def Notice.unread? : Notice → Option Path
  | .block _ (.unreadableAsset _ p _) => some p
  | _ => none

/-- The wording of a warning, behind its place. -/
def Notice.message : Notice → String
  | .block l w => l.text ++ ": " ++ w.message
  | .page f w => originName f ++ ": " ++ w.message

end PageBlocks
