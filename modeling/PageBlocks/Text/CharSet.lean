import PageBlocks.Text.Basic

/-!
# Sets of characters

A set of characters is kept as ranges of code points, in order and apart from each other, so that
membership is a binary search and the complement is what lies between the ranges.
-/

namespace PageBlocks

/-- A set of code points: ranges, both ends included, in order and apart. -/
structure CharSet where
  ranges : Array (Nat × Nat)
  deriving DecidableEq, Repr, Inhabited

namespace CharSet

/-- The greatest code point. -/
def maxPoint : Nat := 0x10FFFF

/-- Merges ranges that are ordered by their lower end. -/
def merge : List (Nat × Nat) → List (Nat × Nat)
  | [] => []
  | r :: rs => go r rs
where
  go (cur : Nat × Nat) : List (Nat × Nat) → List (Nat × Nat)
    | [] => [cur]
    | (lo, hi) :: rs =>
      if lo ≤ cur.2 + 1 then go (cur.1, max cur.2 hi) rs else cur :: go (lo, hi) rs

/-- The set of all points of the given ranges. -/
def ofRanges (rs : List (Nat × Nat)) : CharSet :=
  let proper := rs.filter fun (lo, hi) => lo ≤ hi
  ⟨(merge (proper.mergeSort fun a b => a.1 ≤ b.1)).toArray⟩

/-- The empty set. -/
def empty : CharSet := ⟨#[]⟩

/-- All characters. -/
def all : CharSet := ⟨#[(0, maxPoint)]⟩

/-- One character. -/
def single (c : Char) : CharSet := ⟨#[(c.toNat, c.toNat)]⟩

/-- The given characters. -/
def ofChars (cs : List Char) : CharSet := ofRanges (cs.map fun c => (c.toNat, c.toNat))

/-- Binary search for the range that holds `n` among those at `lo ≤ i < hi`; the gap halves with
every step. -/
def searchIn (ranges : Array (Nat × Nat)) (n : Nat) : (steps lo hi : Nat) → Bool
  | 0, _, _ => false
  | steps + 1, lo, hi =>
    if hi ≤ lo then false
    else
      let mid := (lo + hi) / 2
      match ranges[mid]? with
      | none => false
      | some (a, b) =>
        if n < a then searchIn ranges n steps lo mid
        else if b < n then searchIn ranges n steps (mid + 1) hi
        else true

/-- Is the code point in the set? -/
def containsPoint (s : CharSet) (n : Nat) : Bool :=
  searchIn s.ranges n (s.ranges.size + 1) 0 s.ranges.size

/-- Is the character in the set? -/
def contains (s : CharSet) (c : Char) : Bool := s.containsPoint c.toNat

/-- What is in one of the two sets. -/
def union (s t : CharSet) : CharSet := ofRanges (s.ranges.toList ++ t.ranges.toList)

/-- What is in one of the sets. -/
def unions (ss : List CharSet) : CharSet := ofRanges (ss.flatMap fun s => s.ranges.toList)

/-- The character behind `n`; surrogates are no characters. -/
def next (n : Nat) : Nat := if n = 0xD7FF then 0xE000 else n + 1

/-- The character before `n`. -/
def prev (n : Nat) : Nat := if n = 0xE000 then 0xD7FF else n - 1

/-- What lies between the ranges and behind the last one. Between two ranges that meet across the
surrogates nothing lies: the ends are then the wrong way round. -/
def gaps : List (Nat × Nat) → List (Nat × Nat)
  | [] => []
  | [(_, hi)] => if hi < maxPoint then [(next hi, maxPoint)] else []
  | (_, hi) :: (lo, hi') :: rs => (next hi, prev lo) :: gaps ((lo, hi') :: rs)

/-- What lies before, between and behind the ranges. -/
def around : List (Nat × Nat) → List (Nat × Nat)
  | [] => [(0, maxPoint)]
  | (lo, hi) :: rs => (if 0 < lo then [(0, prev lo)] else []) ++ gaps ((lo, hi) :: rs)

/-- The set that is named by negating this one: what is not in it. Where two ranges meet across the
surrogates, the points on both sides count as not in it. -/
def complement (s : CharSet) : CharSet :=
  ⟨((around s.ranges.toList).map fun (lo, hi) => (min lo hi, max lo hi)).toArray⟩

/-- What two ordered lists of ranges have in common. -/
def common : (rs rs' : List (Nat × Nat)) → List (Nat × Nat)
  | [], _ => []
  | _, [] => []
  | (lo, hi) :: rs, (lo', hi') :: rs' =>
    let rest := if hi < hi' then common rs ((lo', hi') :: rs') else common ((lo, hi) :: rs) rs'
    if max lo lo' ≤ min hi hi' then (max lo lo', min hi hi') :: rest else rest
termination_by rs rs' => rs.length + rs'.length

/-- What is in both sets. -/
def inter (s t : CharSet) : CharSet := ⟨(common s.ranges.toList t.ranges.toList).toArray⟩

/-- What is in the first set only. -/
def diff (s t : CharSet) : CharSet :=
  s.inter ⟨((around t.ranges.toList).filter fun (lo, hi) => lo ≤ hi).toArray⟩

/-- What is in exactly one of the two sets. -/
def symmDiff (s t : CharSet) : CharSet := (s.union t).diff (s.inter t)

/-- Does the set hold nothing? -/
def isEmpty (s : CharSet) : Bool := s.ranges.isEmpty

/-- Does the set hold characters of the basic Latin block only? -/
def isAscii (s : CharSet) : Bool := s.ranges.all fun (_, hi) => hi < 0x80

/-- The value of a hexadecimal digit. -/
def hexDigit? (c : Char) : Option Nat :=
  if c.isDigit then some (c.toNat - 0x30)
  else if 'a' ≤ c ∧ c ≤ 'f' then some (c.toNat - 0x61 + 10)
  else if 'A' ≤ c ∧ c ≤ 'F' then some (c.toNat - 0x41 + 10)
  else none

/-- A hexadecimal number; other characters do not count. -/
def hexNumber (t : Text) : Nat :=
  t.foldl (fun n c => match hexDigit? c with
    | some d => 16 * n + d
    | none => n) 0

/-- One entry of a table: a point, `AA`, a range, `41-5A`, or every so many points of a range,
`100-12E/2`. -/
def ofEntry (entry : Text) : List (Nat × Nat) :=
  let (range, step) := match Text.splitOn '/' entry with
    | [range, step] => (range, hexNumber step)
    | _ => (entry, 1)
  match Text.splitOn '-' range with
  | [[]] => []
  | [point] => [(hexNumber point, hexNumber point)]
  | [lo, hi] =>
    let (lo, hi) := (hexNumber lo, hexNumber hi)
    if step = 1 then [(lo, hi)]
    else (List.range ((hi - lo) / step + 1)).map fun i => (lo + i * step, lo + i * step)
  | _ => []

/-- Reads a table: entries in hexadecimal with spaces or line breaks between. -/
def ofTable (table : String) : CharSet :=
  let spaced := table.toList.map fun c => if c = '\n' then ' ' else c
  ofRanges ((Text.splitOn ' ' spaced).flatMap ofEntry)

end CharSet

end PageBlocks
