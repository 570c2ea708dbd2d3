import PageBlocks.Text.CharSet

/-!
# Ranges of characters as bytes

In UTF-8 a character takes one to four bytes: a leading byte, which tells their number, and
continuing bytes with six bits each. A range of characters is therefore a list of boxes: for every
byte a range, and every choice of one byte from each is a character of the range.
-/

namespace PageBlocks.Text

/-- A range of bytes, both ends included. -/
abbrev Bytes := Nat × Nat

/-- The size of a block of characters that share all but their last `count` bytes. -/
def blockSize (count : Nat) : Nat := Nat.pow 64 count

/-- The boxes of the range from `lo` to `hi`, where `count` bytes follow the first and `mark` is
what the first byte holds besides bits of the character. Partly covered blocks at both ends stand
for themselves. -/
def boxesFrom (mark : Nat) : (count lo hi : Nat) → List (List Bytes)
  | 0, lo, hi => [[(mark + lo, mark + hi)]]
  | count + 1, lo, hi =>
    let size := blockSize (count + 1)
    let (a, b) := (lo / size, hi / size)
    let (l, h) := (lo % size, hi % size)
    if a = b then (boxesFrom 0x80 count l h).map ((mark + a, mark + a) :: ·)
    else
      let first :=
        if l = 0 then [] else (boxesFrom 0x80 count l (size - 1)).map ((mark + a, mark + a) :: ·)
      let last :=
        if h = size - 1 then [] else (boxesFrom 0x80 count 0 h).map ((mark + b, mark + b) :: ·)
      let a := if l = 0 then a else a + 1
      let b := if h = size - 1 then b + 1 else b
      let whole :=
        if a < b then [(mark + a, mark + b - 1) :: List.replicate (count + 1) (0x80, 0xBF)] else []
      first ++ whole ++ last

/-- The ranges of characters that take the same number of bytes: how many follow the first one, its
mark, and the range. Surrogates are left out. -/
def utf8Planes : List (Nat × Nat × Nat × Nat) := [
  (0, 0, 0, 0x7F),
  (1, 0xC0, 0x80, 0x7FF),
  (2, 0xE0, 0x800, 0xD7FF),
  (2, 0xE0, 0xE000, 0xFFFF),
  (3, 0xF0, 0x10000, 0x10FFFF)]

/-- The boxes of a range of characters, in order. -/
def boxes (range : Nat × Nat) : List (List Bytes) :=
  utf8Planes.flatMap fun (count, mark, lo, hi) =>
    let (lo, hi) := (max lo range.1, min hi range.2)
    if lo ≤ hi then boxesFrom mark count lo hi else []

end PageBlocks.Text

namespace PageBlocks.CharSet

/-- The boxes of all characters of the set, in order. -/
def boxes (s : CharSet) : List (List Text.Bytes) := s.ranges.toList.flatMap Text.boxes

end PageBlocks.CharSet
