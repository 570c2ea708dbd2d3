import PageBlocks.Text.Recognise
import PageBlocks.Text.Word

/-!
# Assets

Scripts and stylesheets, the tags that refer to them, and the step that may change them before
they are written into a page.

    <script src="app.js"></script>          <script>
    <link rel="stylesheet" href="a.css">      …
                                            </script>
    refers                                  inline
-/

namespace PageBlocks

/-- What kind of file an asset is. -/
inductive AssetKind where
  | js
  | css
  deriving DecidableEq, Repr

/-- The name of the kind, which is also the type of its blocks. -/
def AssetKind.name : AssetKind → String
  | .js => "js"
  | .css => "css"

/-- Why an asset cannot be written into a page as it is. -/
structure TransformError where
  kind : AssetKind
  reason : Text
  deriving DecidableEq, Repr

/-- The wording of a failed transform. -/
def TransformError.message (e : TransformError) : String :=
  e.kind.name ++ " transform failed: " ++ String.ofList e.reason

/-- The step between reading an asset and writing it into a page. -/
abbrev Transform := AssetKind → Text → Except TransformError Text

/-- Leaves an asset as it is, less the white space at its end. -/
def Transform.passthrough : Transform := fun _ content => .ok (Text.trimEnd content)

namespace AssetKind

/-- The tag that refers to an asset. -/
def referenceTag (kind : AssetKind) (target : Text) : Text :=
  match kind with
  | .js => "<script src=\"".toList ++ target ++ "\"></script>".toList
  | .css => "<link rel=\"stylesheet\" href=\"".toList ++ target ++ "\">".toList

/-- The element that holds an asset. -/
def inlineElement (kind : AssetKind) (body : Text) : Text :=
  match kind with
  | .js => "<script>\n".toList ++ body ++ "\n</script>".toList
  | .css => "<style>\n".toList ++ body ++ "\n</style>".toList

/-- Is `d` the small letter `c`, or the same letter in another shape? The long s and the Kelvin
sign count. -/
def sameLetter (c d : Char) : Bool :=
  d == c || d == c.toUpper || (c == 's' && d.toNat == 0x17F) || (c == 'k' && d.toNat == 0x212A)

/-- What follows `word`, whatever the case of its letters. -/
def afterWord? : (word t : Text) → Option Text
  | [], t => some t
  | _ :: _, [] => none
  | c :: word, d :: t => if sameLetter c d then afterWord? word t else none

/-- The start of a tag that may refer to an asset. -/
def tagStart : AssetKind → Text
  | .js => "<script".toList
  | .css => "<link".toList

/-- The attribute that holds the reference. -/
def referenceName : AssetKind → Text
  | .js => "src".toList
  | .css => "href".toList

/-- The rest of the tag behind the reference, and for a script its end tag: what follows. -/
def tagRest? (kind : AssetKind) (t : Text) : Option Text :=
  match t.dropWhile (· != '>') with
  | [] => none
  | _ :: rest =>
    match kind with
    | .js => afterWord? "</script>".toList (rest.dropWhile Text.isSpace)
    | .css => some rest

/-- The reference in the attribute that `t` starts with, and what follows the tag. -/
def referenceAt? (kind : AssetKind) (t : Text) : Option (Text × Text) := do
  let r ← afterWord? kind.referenceName t
  let r ← Text.after? ['='] (r.dropWhile Text.isSpace)
  let (_, value, r) ← Text.quotedValue? (r.dropWhile Text.isSpace)
  let rest ← kind.tagRest? r
  return (value, rest)

/-- The first reference inside a tag, where `before` is the character in front of `t`: the name of
the attribute must start a word. -/
def referenceIn? (kind : AssetKind) (before : Char) : Text → Option (Text × Text)
  | [] => none
  | c :: t =>
    match if Text.isWord before then none else kind.referenceAt? (c :: t) with
    | some found => some found
    | none => if c = '>' then none else kind.referenceIn? c t

/-- The referring tag that `t` starts with: its length, and the reference. -/
def tagAt? (kind : AssetKind) (t : Text) : Option (Nat × Text) := do
  let r ← afterWord? kind.tagStart t
  if r.head?.any Text.isWord then none
  -- The name of the tag ends in a letter.
  let (reference, rest) ← kind.referenceIn? 't' r
  return (t.length - rest.length, reference)

/-- The text with its referring tags picked out. -/
def pieces (kind : AssetKind) (t : Text) : List (Text.Piece Text) := Text.recognise kind.tagAt? t

end AssetKind

end PageBlocks
