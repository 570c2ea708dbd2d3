/-!
# Text

A page, a name taken from a page, a path: all are worked on as lists of characters, so that every
rule below is a rule about lists and every cut is a cut between whole characters.

Two notions of white space live side by side. `Text.isSpace` is the Unicode property White_Space
and decides where names and arguments end. `Text.isBlank` is only the space and the tab, and
decides which lines a directive has to itself.
-/

namespace PageBlocks

/-- The characters of a page, or of a part of one, in order. -/
abbrev Text := List Char

namespace Text

/-- The Unicode property White_Space. -/
def isSpace (c : Char) : Bool :=
  let n := c.toNat
  (0x9 ≤ n && n ≤ 0xD) || n == 0x20 || n == 0x85 || n == 0xA0 || n == 0x1680
    || (0x2000 ≤ n && n ≤ 0x200A) || n == 0x2028 || n == 0x2029 || n == 0x202F
    || n == 0x205F || n == 0x3000

/-- Space or tab: what may stand beside a directive that has its line to itself. -/
def isBlank (c : Char) : Bool := c == ' ' || c == '\t'

/-- Nothing but spaces and tabs. -/
def blank (t : Text) : Bool := t.all isBlank

/-- Nothing but white space. -/
def spaces (t : Text) : Bool := t.all isSpace

/-- Drops the longest end of `t` all of whose characters satisfy `p`. -/
def dropEndWhile (p : Char → Bool) (t : Text) : Text := (t.reverse.dropWhile p).reverse

/-- Drops the white space in front. -/
def trimStart (t : Text) : Text := t.dropWhile isSpace

/-- Drops the white space behind. -/
def trimEnd (t : Text) : Text := dropEndWhile isSpace t

/-- Drops the white space on both sides. -/
def trim (t : Text) : Text := trimEnd (trimStart t)

/-- What follows `p` in a text that starts with `p`. -/
def after? : (p t : Text) → Option Text
  | [], t => some t
  | _ :: _, [] => none
  | c :: p, d :: t => if c = d then after? p t else none

theorem after?_eq_some_iff {p t r : Text} : after? p t = some r ↔ t = p ++ r := by
  induction p generalizing t with
  | nil => simp [after?, eq_comm]
  | cons c p ih =>
    cases t with
    | nil => simp [after?]
    | cons d t =>
      by_cases h : c = d
      · simp [after?, h, ih]
      · simp [after?, h, Ne.symm h]

/-- What stands before `s` in a text that ends with `s`. -/
def before? (s t : Text) : Option Text := (after? s.reverse t.reverse).map List.reverse

theorem before?_eq_some_iff {s t r : Text} : before? s t = some r ↔ t = r ++ s := by
  simp only [before?, Option.map_eq_some_iff, after?_eq_some_iff]
  constructor
  · rintro ⟨a, h, rfl⟩
    have := congrArg List.reverse h
    simpa using this
  · rintro rfl
    exact ⟨r.reverse, by simp, by simp⟩

/-- Does `t` start with `p`? -/
def startsWith (p t : Text) : Bool := (after? p t).isSome

theorem startsWith_iff {p t : Text} : startsWith p t = true ↔ ∃ r, t = p ++ r := by
  rw [startsWith, Option.isSome_iff_exists]
  simp only [after?_eq_some_iff]

/-- Does `t` end with `s`? -/
def endsWith (s t : Text) : Bool := (before? s t).isSome

theorem endsWith_iff {s t : Text} : endsWith s t = true ↔ ∃ r, t = r ++ s := by
  rw [endsWith, Option.isSome_iff_exists]
  simp only [before?_eq_some_iff]

/-- Does `w` occur in `t`? -/
def occursIn (w : Text) : Text → Bool
  | [] => w.isEmpty
  | c :: t => startsWith w (c :: t) || occursIn w t

/-- Cuts at the first character that satisfies `p`, which is left out of both parts. -/
def cutAt? (p : Char → Bool) : Text → Option (Text × Text)
  | [] => none
  | c :: t => if p c then some ([], t) else (cutAt? p t).map fun (a, b) => (c :: a, b)

/-- The parts between the separators, of which there is one more than there are separators. -/
def splitOn (sep : Char) : Text → List Text
  | [] => [[]]
  | c :: t =>
    match splitOn sep t with
    | [] => [[c]]
    | part :: parts => if c = sep then [] :: part :: parts else (c :: part) :: parts

/-- The parts joined with `sep` between them. -/
def join (sep : Text) : List Text → Text
  | [] => []
  | [t] => t
  | t :: ts => t ++ sep ++ join sep ts

/-- How many line feeds the text holds. -/
def lineFeeds (t : Text) : Nat := t.count '\n'

/-- The length of the text when written in UTF-8. -/
def utf8Length (t : Text) : Nat := t.foldl (fun n c => n + c.utf8Size) 0

/-- Code point order, shorter first. -/
def lt : Text → Text → Bool
  | [], [] => false
  | [], _ :: _ => true
  | _ :: _, [] => false
  | c :: s, d :: t => c.toNat < d.toNat || (c == d && lt s t)

/-- Small letters of the basic Latin block become capitals. -/
def asciiUpper (t : Text) : Text := t.map Char.toUpper

/-- Wraps a name for a message, between backticks. -/
def quoted (t : Text) : String := "`" ++ String.ofList t ++ "`"

end Text

end PageBlocks
