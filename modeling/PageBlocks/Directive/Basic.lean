import PageBlocks.Pattern.Syntax

/-!
# Directives

A directive is an HTML comment that opens a block: it names the block's type, the environments it
is meant for, and whatever else the type wants to know.

    <!-- build:remove(dev,test) args -->
         ^     ^      ^         ^
         |     type   targets   args
         marker

The marker is a word of the page author's choosing; two pages may use different ones.
-/

namespace PageBlocks

/-- Letters, digits, `-` and `_` of the basic Latin block. -/
def isNameChar (c : Char) : Bool := c.isAlphanum || c == '-' || c == '_'

/-- What the name of an attribute may hold. -/
def isAttributeChar (c : Char) : Bool := isNameChar c || c == ':' || c == '.'

/-- What the label of an environment may hold. -/
def isLabelChar (c : Char) : Bool := isNameChar c || c == '.'

/-- The text between square brackets that enclose the whole name. -/
def bracketed? (name : Text) : Option Text :=
  match name with
  | '[' :: rest => Text.before? [']'] rest
  | _ => none

/-- A block type is a plain name, or an attribute's name between square brackets. -/
def isBlockType (name : Text) : Bool :=
  match bracketed? name with
  | some attr => !attr.isEmpty && attr.all isAttributeChar
  | none => !name.isEmpty && name.all isNameChar

/-- The keyword that sets directives apart from other comments. -/
structure Marker where
  word : Text
  nonempty : word ≠ []
  chars : word.all isNameChar = true

namespace Marker

/-- Can `word` be a marker? -/
def accepts (word : Text) : Bool := !word.isEmpty && word.all isNameChar

/-- The marker spelled `word`, if it is a plain keyword. -/
def ofText? (word : Text) : Option Marker :=
  if h : word ≠ [] ∧ word.all isNameChar = true then some ⟨word, h.1, h.2⟩ else none

end Marker

/-- One opening directive. -/
structure Directive where
  /-- The type of the block that it opens. -/
  type : Text
  /-- The environments it is meant for; none stands for all. -/
  targets : List Text
  /-- The rest of the comment. -/
  args : Text
  /-- The comment itself. -/
  opening : Text
  /-- The comment that closes the block, once it is known. -/
  closing : Text
  deriving DecidableEq, Repr

/-- The attribute that an `[attribute]` block is about. -/
def Directive.attribute? (d : Directive) : Option Text := bracketed? d.type

/-- Why a comment that carries the marker is no usable directive. -/
inductive Fault where
  | notComment
  | missingKeyword (marker : Text)
  | unclosedBracket
  | missingType
  | invalidType (name : Text)
  | unclosedTargets
  | emptyTargets
  | emptyTarget
  | invalidTarget (label : Text)
  | trailing (rest : Text)
  | closingGiven
  | strayClosing
  | includeWithoutPath
  | notAttribute
  /-- What is to be searched for on behalf of the directive makes no pattern. -/
  | badPattern (cause : Pattern.Error)
  deriving DecidableEq, Repr

/-- The wording of a fault. -/
def Fault.message : Fault → String
  | .notComment => "not an HTML comment"
  | .missingKeyword m => "expected `" ++ String.ofList m ++ ":<type>`"
  | .unclosedBracket => "unclosed `[` in attribute block type"
  | .missingType => "missing block type"
  | .invalidType t => "invalid block type " ++ Text.quoted t
  | .unclosedTargets => "unclosed `(` in target list"
  | .emptyTargets => "empty target list"
  | .emptyTarget => "empty target in target list"
  | .invalidTarget l => "invalid target " ++ Text.quoted l
  | .trailing r => "unexpected " ++ Text.quoted r ++ " after block type"
  | .closingGiven => "expected an open directive, found an end marker"
  | .strayClosing => "end marker without a matching open directive"
  | .includeWithoutPath => "include requires a file path"
  | .notAttribute => "attribute block type must look like `[name]`"
  | .badPattern cause => cause.message

end PageBlocks
