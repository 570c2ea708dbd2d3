import PageBlocks.Directive.Basic

/-!
# Reading a directive comment

`Marker.classify` takes a whole comment apart. The body of an opening directive is the type, then
perhaps targets in parentheses or behind a colon, then perhaps white space and arguments:

    body    = type [targets] [space args]
    type    = name | "[" attribute "]"
    targets = "(" [label *("," label)] ")" | ":" label *("," label)
-/

namespace PageBlocks

/-- What a comment that carries the marker says. -/
inductive Token where
  | opens (directive : Directive)
  | closes
  deriving DecidableEq, Repr

namespace Directive

/-- One label of a target list. -/
def readLabel (piece : Text) : Except Fault Text :=
  let label := Text.trim piece
  if label.isEmpty then .error .emptyTarget
  else if label.all isLabelChar then .ok label
  else .error (.invalidTarget label)

/-- The labels of a target list that is not blank, in order; the first bad one is reported. -/
def readLabels (list : Text) : Except Fault (List Text) :=
  (Text.splitOn ',' list).mapM readLabel

/-- Cuts the type off a directive's body. -/
def readType (body : Text) : Except Fault (Text × Text) :=
  match body with
  | '[' :: _ =>
    match Text.cutAt? (· == ']') body with
    | none => .error .unclosedBracket
    | some (name, rest) => .ok (name ++ [']'], rest)
  | _ => .ok (body.takeWhile isNameChar, body.dropWhile isNameChar)

/-- Cuts the target list off what follows the type. -/
def readTargets (rest : Text) : Except Fault (List Text × Text) :=
  match rest with
  | '(' :: list =>
    match Text.cutAt? (· == ')') list with
    | none => .error .unclosedTargets
    | some (inside, rest) =>
      if Text.spaces inside then .ok ([], rest)
      else do return (← readLabels inside, rest)
  | ':' :: list =>
    let inside := list.takeWhile (!Text.isSpace ·)
    if Text.spaces inside then .error .emptyTargets
    else do return (← readLabels inside, list.dropWhile (!Text.isSpace ·))
  | _ => .ok ([], rest)

/-- Takes a directive's body apart into type, targets and arguments. -/
def readBody (body : Text) : Except Fault (Text × List Text × Text) := do
  let (type, rest) ← readType body
  if type.isEmpty then throw .missingType
  if !isBlockType type then throw (.invalidType type)
  let (targets, rest) ← readTargets rest
  match rest with
  | [] => return (type, targets, [])
  | c :: _ =>
    if Text.isSpace c then return (type, targets, Text.trim rest)
    else throw (.trailing (Text.trimEnd rest))

end Directive

namespace Marker

/-- The text between `<!--` and `-->`. -/
def commentBody? (comment : Text) : Option Text :=
  (Text.after? ['<', '!', '-', '-'] comment).bind (Text.before? ['-', '-', '>'])

/-- Is this, between its arrows, the comment that closes a block? -/
def isClosing (m : Marker) (inside : Text) : Bool :=
  inside == 'e' :: 'n' :: 'd' :: m.word || inside == '/' :: m.word

/-- What a whole comment says to a page with marker `m`. -/
def classify (m : Marker) (comment : Text) : Except Fault Token :=
  match commentBody? comment with
  | none => .error .notComment
  | some raw =>
    let inside := Text.trim raw
    if m.isClosing inside then .ok .closes
    else match (Text.after? m.word inside).bind (Text.after? [':']) with
      | none => .error (.missingKeyword m.word)
      | some body => do
        let (type, targets, args) ← Directive.readBody body
        return .opens ⟨type, targets, args, comment, []⟩

/-- The opening directive that a whole comment holds. -/
def readOpening (m : Marker) (comment : Text) : Except Fault Directive := do
  match ← m.classify comment with
  | .opens d => return d
  | .closes => throw .closingGiven

end Marker

end PageBlocks
