import PageBlocks.Text.Property

/-!
# Word characters

The characters that words are made of: letters, marks, decimal digits, connecting punctuation and
the two joiners, in all scripts.
-/

namespace PageBlocks.Text

/-- Alphabetic characters, marks, decimal digits, connecting punctuation and joiners. -/
def wordChars : CharSet :=
  CharSet.unions [alphabetic, marks, charsIn [.nd, .pc], joinControl]

/-- A word character. The set is asked only outside the basic Latin block. -/
def isWord (c : Char) : Bool :=
  if c.toNat < 0x80 then c.isAlphanum || c == '_' else wordChars.contains c

end PageBlocks.Text
