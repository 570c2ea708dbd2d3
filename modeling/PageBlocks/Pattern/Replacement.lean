import PageBlocks.Pattern.Basic

/-!
# Replacement texts

What a match is replaced by may refer to the groups of the match: `$1` and `$name`, or `${1}` and
`${name}` where a letter follows, and `$$` for a dollar sign. A reference to a group that does not
exist, or that took no part in the match, stands for nothing; a dollar sign that starts no
reference stands for itself.
-/

namespace PageBlocks.Pattern

/-- The characters of a group's name outside braces. -/
def isReferenceChar (c : Char) : Bool := c.isAlphanum || c == '_'

/-- A group's number, if the name is one: digits, perhaps behind a plus sign. -/
def groupNumber? (name : Text) : Option Nat :=
  let ds := match name with
    | '+' :: ds => ds
    | ds => ds
  let n := ds.foldl (fun n c => 10 * n + (c.toNat - 0x30)) 0
  if ds.isEmpty || !ds.all Char.isDigit || 0xFFFFFFFF < n then none else some n

/-- The text of the group with the given name or number. -/
def groupText (names : List (Text × Nat)) (whole : Text) (groups : List (Option Text))
    (name : Text) : Text :=
  match (groupNumber? name).or (names.lookup name) with
  | none => []
  | some 0 => whole
  | some (i + 1) => ((groups[i]?).join).getD []

/-- The reference behind a dollar sign, and what follows it. -/
def reference? (t : Text) : Option (Text × Text) :=
  match t with
  | '\x7b' :: r => Text.cutAt? (· == '\x7d') r
  | _ =>
    let name := t.takeWhile isReferenceChar
    if name.isEmpty then none else some (name, t.dropWhile isReferenceChar)

/-- Fills in the references of a replacement text, whose characters `limit` counts. -/
def fillFrom (text : Text → Text) : (limit : Nat) → Text → Text
  | 0, _ => []
  | limit + 1, t =>
    match t with
    | [] => []
    | '$' :: '$' :: r => '$' :: fillFrom text limit r
    | '$' :: r =>
      match reference? r with
      | some (name, rest) => text name ++ fillFrom text limit rest
      | none => '$' :: fillFrom text limit r
    | c :: r => c :: fillFrom text limit r

/-- The text that takes the place of a match. -/
def fill (p : Pattern) (replacement whole : Text) (groups : List (Option Text)) : Text :=
  fillFrom (groupText p.names whole groups) (replacement.length + 1) replacement

end PageBlocks.Pattern
