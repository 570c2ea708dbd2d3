import PageBlocks.Text.Name

/-!
# Quoted texts

A text between quotes shows on one line what it holds: quotes, backslashes and line breaks stand
behind a backslash, and characters that cannot be seen by themselves are given by their numbers.
-/

namespace PageBlocks.Text

/-- Characters that extend the one before them. -/
def extenders : CharSet := graphemeExtend.union addedExtenders

/-- Characters that can be seen; the space is one of them. -/
def visible : CharSet :=
  ((assigned.union addedChars).diff (charsIn [.cc, .cf, .co, .zl, .zp, .zs])).union
    (CharSet.single ' ')

/-- A character by its number. -/
def byNumber (c : Char) : Text := ['\\', 'u', '\x7b'] ++ Nat.toDigits 16 c.toNat ++ ['\x7d']

/-- One character of a quoted text. -/
def quoteChar (c : Char) : Text :=
  if c = '"' then ['\\', '"']
  else if c = '\\' then ['\\', '\\']
  else if c = '\n' then ['\\', 'n']
  else if c = '\r' then ['\\', 'r']
  else if c = '\t' then ['\\', 't']
  else if c.toNat = 0 then ['\\', '0']
  else if 0x20 ≤ c.toNat ∧ c.toNat < 0x7F then [c]
  else if extenders.contains c || !visible.contains c then byNumber c
  else [c]

/-- A text between quotes. -/
def inQuotes (t : Text) : Text := '"' :: t.flatMap quoteChar ++ ['"']

end PageBlocks.Text
