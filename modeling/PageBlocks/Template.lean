import PageBlocks.Error
import PageBlocks.Json.Printer

/-!
# Placeholders

A template engine fills the placeholders of a finished page from the data model. The usual one is
driven by a pattern: the first group of a match is a dotted path into the data, such as
`site.pages.0.title`. A placeholder whose path leads nowhere stays as it is and is warned about.
-/

namespace PageBlocks

/-- Whatever fills the placeholders of a text. -/
structure Template where
  render : Json → Text → Text × List Warning

namespace Json

/-- A place in a list: digits, perhaps behind a plus sign. -/
def index? (segment : Text) : Option Nat :=
  let ds := match segment with
    | '+' :: ds => ds
    | ds => ds
  let n := ds.foldl (fun n c => 10 * n + (c.toNat - 0x30)) 0
  if ds.isEmpty || !ds.all Char.isDigit || 0x10000000000000000 ≤ n then none else some n

/-- One step of a path into a value. -/
def step? (v : Json) (segment : Text) : Option Json :=
  match v with
  | .obj fields => Fields.get? fields segment
  | .arr items => (index? segment).bind fun i => items[i]?
  | _ => none

/-- The value at a dotted path. The empty path leads nowhere. -/
def lookup? (v : Json) (key : Text) : Option Json :=
  if key.isEmpty then none else (Text.splitOn '.' key).foldlM step? v

/-- A value as it is written into a page: strings as they are, nothing for null. -/
def display : Json → Text
  | .str t => t
  | .null => []
  | v => v.text

end Json

namespace Template

/-- Leaves every text as it is. -/
def identity : Template := ⟨fun _ t => (t, [])⟩

/-- The path that a match asks for: its first group, trimmed. -/
def key (groups : List (Option Text)) : Text :=
  match groups with
  | some t :: _ => Text.trim t
  | _ => []

/-- What a piece of the searched text becomes. -/
def fillPiece (data : Json) : Pattern.Piece → Text
  | .plain t => t
  | .hit t groups =>
    match data.lookup? (key groups) with
    | some v => v.display
    | none => t

/-- The warning that a piece gives rise to. -/
def warningOf? (data : Json) : Pattern.Piece → Option Warning
  | .plain _ => none
  | .hit _ groups =>
    match data.lookup? (key groups) with
    | some _ => none
    | none => some (.unknownKey (key groups))

/-- Fills what a pattern matches. -/
def placeholders (p : Pattern) : Template where
  render data t :=
    let pieces := p.pieces t
    (pieces.flatMap (fillPiece data), pieces.filterMap (warningOf? data))

/-- The pattern of placeholders that is used unless another one is asked for. -/
def defaultPattern : Text := "<%=([\\s\\S]+?)%>".toList

/-- The template with placeholders of the given pattern, which must have a group. -/
def ofPattern (source : Text) : Except TemplateError Template :=
  match Pattern.ofText source with
  | .error cause => .error (.badPattern source cause)
  | .ok p => if p.groups = 0 then .error (.noGroup source) else .ok (placeholders p)

/-- The template with the usual placeholders. -/
def usual : Template := (ofPattern defaultPattern).toOption.getD identity

end Template

end PageBlocks
