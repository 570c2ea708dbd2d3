import PageBlocks.Text.Basic

/-!
# Paths

A path is kept as it was written; a rule that has to look inside reads its components.

    written      components
    a/./b//c     a  b  c
    ./a          .  a
    /..          /  ..

`Path.normalize` folds every `..` onto the ordinary name before it, which is how two spellings of
one file are told to be the same.
-/

namespace PageBlocks

/-- A path as it was written. -/
abbrev Path := Text

namespace Path

/-- One step of a path. -/
inductive Component where
  | root
  | current
  | parent
  | name (text : Text)
  deriving DecidableEq, Repr

/-- Splits off what fixes where a path starts: the root, or a leading dot. -/
def anchor : Path → Text × Text
  | '/' :: p => (['/'], p)
  | ['.'] => (['.'], [])
  | '.' :: '/' :: p => (['.'], '/' :: p)
  | p => ([], p)

/-- A piece between slashes that names nothing: nothing at all, or a dot. -/
def isIdle (piece : Text) : Bool := piece == [] || piece == ['.']

/-- The component that a piece between slashes stands for. -/
def Component.ofPiece? (piece : Text) : Option Component :=
  if isIdle piece then none
  else if piece = ['.', '.'] then some .parent
  else some (.name piece)

/-- How a component is written. -/
def Component.text : Component → Text
  | .root => ['/']
  | .current => ['.']
  | .parent => ['.', '.']
  | .name t => t

/-- The components of a path. A dot counts only in front. -/
def components (p : Path) : List Component :=
  let (head, body) := anchor p
  let rest := (Text.splitOn '/' body).filterMap Component.ofPiece?
  if head = ['/'] then .root :: rest
  else if head = ['.'] then .current :: rest
  else rest

/-- Writes components with one slash between them. -/
def ofComponents : List Component → Path
  | .root :: rest => '/' :: Text.join ['/'] (rest.map Component.text)
  | rest => Text.join ['/'] (rest.map Component.text)

/-- A path that starts at the root. -/
def isAbsolute (p : Path) : Bool := Text.startsWith ['/'] p

/-- `p` as seen from the directory `base`; an absolute `p` stands for itself. -/
def join (base p : Path) : Path :=
  if isAbsolute p then p
  else if base.isEmpty || Text.endsWith ['/'] base then base ++ p
  else base ++ '/' :: p

/-- Drops the idle pieces at the end. -/
def dropIdle (pieces : List Text) : List Text := (pieces.reverse.dropWhile isIdle).reverse

/-- The path without its last component; the root and the empty path have no parent. -/
def parent? (p : Path) : Option Path :=
  let (head, body) := anchor p
  match dropIdle (Text.splitOn '/' body) with
  | [] => if head = ['.'] then some [] else none
  | pieces => some (head ++ Text.join ['/'] (dropIdle pieces.dropLast))

/-- The directory that a file's own references are relative to. -/
def directory (p : Path) : Path := (parent? p).getD []

/-- The last component when it is an ordinary name. -/
def fileName? (p : Path) : Option Text :=
  match (components p).getLast? with
  | some (.name t) => some t
  | _ => none

/-- Adds one component to a folded path, last component first. -/
def fold (done : List Component) : Component → List Component
  | .current => done
  | .parent =>
    match done with
    | .name _ :: rest => rest
    | _ => .parent :: done
  | c => c :: done

/-- The components without dots, each `..` folded onto the ordinary name before it. -/
def folded (cs : List Component) : List Component := (cs.foldl fold []).reverse

/-- The folded spelling of a path, worked out from its text alone. -/
def normalize (p : Path) : Path := ofComponents (folded (components p))

end Path

end PageBlocks
