import PageBlocks.Text.Property
import PageBlocks.Text.Script

/-!
# Where a text can be cut

Three rules say where a text can be cut: between what is seen as one character, between words and
between sentences. Each sorts characters into classes, which a pattern can ask for.
-/

namespace PageBlocks.Text

/-- The characters of the script with the given name. -/
def charsOfScript (name : String) : CharSet :=
  ((scriptNamed? name).map Script.chars).getD CharSet.empty

/-- The signs that stand for the number that follows them. -/
def numberSigns : CharSet := CharSet.ofTable "600-605 6DD 890-891 8E2 110BD 110CD"

/-- Tags, which modify what stands before them. -/
def tags : CharSet := CharSet.ofTable "E0020-E007F"

/-- Classes of characters by what is seen as one character. -/
inductive GraphemeBreak where
  | cr | lf | control | extend | zwj | regionalIndicator | prepend | spacingMark | l
  | v | t | lv | lvt
  deriving DecidableEq, Repr

namespace GraphemeBreak

/-- All classes. -/
def all : List GraphemeBreak :=
  [.cr, .lf, .control, .extend, .zwj, .regionalIndicator, .prepend, .spacingMark, .l, .v, .t, .lv,
    .lvt]

/-- The names of a class, in lower case and without separators. -/
def names : GraphemeBreak → List String
  | .cr => ["cr"]
  | .lf => ["lf"]
  | .control => ["cn", "control"]
  | .extend => ["ex", "extend"]
  | .zwj => ["zwj"]
  | .regionalIndicator => ["ri", "regionalindicator"]
  | .prepend => ["pp", "prepend"]
  | .spacingMark => ["sm", "spacingmark"]
  | .l => ["l"]
  | .v => ["v"]
  | .t => ["t"]
  | .lv => ["lv"]
  | .lvt => ["lvt"]

/-- The characters of a class. -/
def chars : GraphemeBreak → CharSet
  | .cr => CharSet.ofTable "D"
  | .lf => CharSet.ofTable "A"
  | .control =>
    (CharSet.unions [charsIn [.zl, .zp, .cc, .cf], unassigned.inter defaultIgnorable]).diff
      (CharSet.unions [CharSet.ofTable "A D 200C-200D", tags, prependedConcatenationMark])
  | .extend => graphemeExtend.union emojiModifier
  | .zwj => CharSet.ofTable "200D"
  | .regionalIndicator => Text.regionalIndicator
  | .prepend =>
    prependedConcatenationMark.union
      (CharSet.ofTable "D4E 111C2-111C3 113D1 1193F 11941 11A3A 11A84-11A89 11D46 11F02")
  | .spacingMark =>
    ((Category.mc.chars.diff graphemeExtend).union (CharSet.ofTable "E33 EB3")).diff
      (CharSet.ofTable
        "102B-102C 1038 1062-1064 1067-106D 1083 1087-108C 108F 109A-109C 1A61 1A63-1A64 AA7B AA7D
        11720-11721")
  | .l => CharSet.ofTable "1100-115F A960-A97C"
  | .v => CharSet.ofTable "1160-11A7 D7B0-D7C6 16D63 16D67-16D6A"
  | .t => CharSet.ofTable "11A8-11FF D7CB-D7FB"
  | .lv => CharSet.ofTable "AC00-D788/1C"
  | .lvt => (CharSet.ofTable "AC00-D7A3").diff (CharSet.ofTable "AC00-D788/1C")

/-- The characters of the class with the given name. -/
def named? (name : String) : Option CharSet :=
  (all.find? fun c => c.names.contains name).map chars

end GraphemeBreak

/-- The characters of Katakana words. -/
def katakana : CharSet :=
  (charsOfScript "katakana").union (CharSet.ofTable "3031-3035 309B-309C 30A0 30FC FF70")

/-- The letters of Hebrew. -/
def hebrewLetters : CharSet := (charsOfScript "hebrew").inter Category.lo.chars

/-- What continues the character before it, in words and in sentences. -/
def continuing : CharSet := graphemeExtend.union Category.mc.chars

/-- Letters of scripts that put no spaces between words. -/
def unspacedLetters : CharSet := CharSet.ofTable
  "E01-E30 E32-E33 E40-E46 E81-E82 E84 E86-E8A E8C-EA3 EA5 EA7-EB0 EB2-EB3 EBD EC0-EC4 EC6 EDC-EDF
  1000-102A 103F 1050-1055 105A-105D 1061 1065-1066 106E-1070 1075-1081 108E 1780-17B3 17D7 17DC
  1950-196D 1970-1974 1980-19AB 19B0-19C9 1A20-1A54 1AA7 A9E0-A9E4 A9E6-A9EF A9FA-A9FE AA60-AA76
  AA7A AA7E-AAAF AAB1 AAB5-AAB6 AAB9-AABD AAC0 AAC2 AADB-AADD 11700-1171A 11740-11746"

/-- Digits and number signs. -/
def numeric : CharSet :=
  CharSet.unions [Category.nd.chars, numberSigns, CharSet.ofTable "66B 19DA"]

/-- Classes of characters by words. -/
inductive WordBreak where
  | letter | cr | lf | newline | doubleQuote | singleQuote | extend | connector | format
  | hebrewLetter | katakana | midLetter | midNumber | midAny | numeric | regionalIndicator | space
  | zwj
  deriving DecidableEq, Repr

namespace WordBreak

/-- All classes. -/
def all : List WordBreak :=
  [.letter, .cr, .lf, .newline, .doubleQuote, .singleQuote, .extend, .connector, .format,
    .hebrewLetter, .katakana, .midLetter, .midNumber, .midAny, .numeric, .regionalIndicator,
    .space, .zwj]

/-- The names of a class, in lower case and without separators. -/
def names : WordBreak → List String
  | .letter => ["le", "aletter"]
  | .cr => ["cr"]
  | .lf => ["lf"]
  | .newline => ["nl", "newline"]
  | .doubleQuote => ["dq", "doublequote"]
  | .singleQuote => ["sq", "singlequote"]
  | .extend => ["extend"]
  | .connector => ["ex", "extendnumlet"]
  | .format => ["fo", "format"]
  | .hebrewLetter => ["hl", "hebrewletter"]
  | .katakana => ["ka", "katakana"]
  | .midLetter => ["ml", "midletter"]
  | .midNumber => ["mn", "midnum"]
  | .midAny => ["mb", "midnumlet"]
  | .numeric => ["nu", "numeric"]
  | .regionalIndicator => ["ri", "regionalindicator"]
  | .space => ["wsegspace"]
  | .zwj => ["zwj"]

/-- The characters of a class. -/
def chars : WordBreak → CharSet
  | .letter =>
    (alphabetic.union (CharSet.ofTable
      "2C2-2C5 2D2-2D7 2DE-2DF 2E5-2EB 2ED 2EF-2FF 55A-55C 55E 58A 5F3 70F A708-A716 A720-A721
      A789-A78A AB5B")).diff
      (CharSet.unions [ideographic, Text.katakana, charsOfScript "hiragana", hebrewLetters,
        continuing, emojiModifier, unspacedLetters])
  | .cr => CharSet.ofTable "D"
  | .lf => CharSet.ofTable "A"
  | .newline => CharSet.ofTable "B-C 85 2028-2029"
  | .doubleQuote => CharSet.ofTable "22"
  | .singleQuote => CharSet.ofTable "27"
  | .extend => continuing.union emojiModifier
  | .connector => Category.pc.chars.union (CharSet.ofTable "202F")
  | .format =>
    Category.cf.chars.diff
      (CharSet.unions [numberSigns, tags, CharSet.ofTable "70F 200B-200D"])
  | .hebrewLetter => hebrewLetters
  | .katakana => Text.katakana
  | .midLetter => CharSet.ofTable "3A B7 387 55F 5F4 2027 FE13 FE55 FF1A"
  | .midNumber => CharSet.ofTable "2C 3B 37E 589 60C-60D 66C 7F8 2044 FE50 FE54 FF0C FF1B"
  | .midAny => CharSet.ofTable "2E 2018-2019 2024 FE52 FF07 FF0E"
  | .numeric => Text.numeric
  | .regionalIndicator => Text.regionalIndicator
  | .space => CharSet.ofTable "20 1680 2000-2006 2008-200A 205F 3000"
  | .zwj => CharSet.ofTable "200D"

/-- The characters of the class with the given name. -/
def named? (name : String) : Option CharSet :=
  (all.find? fun c => c.names.contains name).map chars

end WordBreak

/-- Small characters that have a capital to begin a sentence with. -/
def sentenceLower : CharSet :=
  lowercase.diff (graphemeExtend.union (CharSet.ofTable "10D0-10FA 10FD-10FF"))

/-- Capitals that begin a sentence. -/
def sentenceUpper : CharSet :=
  (uppercase.union Category.lt.chars).diff (CharSet.ofTable "1C90-1CBA 1CBD-1CBF")

/-- Classes of characters by sentences. -/
inductive SentenceBreak where
  | dot | cr | lf | close | extend | format | lower | upper | otherLetter
  | numeric | continue | terminator | separator | space
  deriving DecidableEq, Repr

namespace SentenceBreak

/-- All classes. -/
def all : List SentenceBreak :=
  [.dot, .cr, .lf, .close, .extend, .format, .lower, .upper, .otherLetter, .numeric, .continue,
    .terminator, .separator, .space]

/-- The names of a class, in lower case and without separators. -/
def names : SentenceBreak → List String
  | .dot => ["at", "aterm"]
  | .cr => ["cr"]
  | .lf => ["lf"]
  | .close => ["cl", "close"]
  | .extend => ["ex", "extend"]
  | .format => ["fo", "format"]
  | .lower => ["lo", "lower"]
  | .upper => ["up", "upper"]
  | .otherLetter => ["le", "oletter"]
  | .numeric => ["nu", "numeric"]
  | .continue => ["sc", "scontinue"]
  | .terminator => ["st", "sterm"]
  | .separator => ["se", "sep"]
  | .space => ["sp"]

/-- The characters of a class. -/
def chars : SentenceBreak → CharSet
  | .dot => CharSet.ofTable "2E 2024 FE52 FF0E"
  | .cr => CharSet.ofTable "D"
  | .lf => CharSet.ofTable "A"
  | .close =>
    ((charsIn [.ps, .pe, .pi, .pf]).union quotationMark).symmDiff
      (CharSet.ofTable "275B-2760 2E00-2E01 2E06-2E08 2E0B FF02 FF07 1F676-1F678")
  | .extend => continuing.union (CharSet.ofTable "200D")
  | .format =>
    Category.cf.chars.diff (CharSet.unions [numberSigns, tags, CharSet.ofTable "200C-200D"])
  | .lower => sentenceLower
  | .upper => sentenceUpper
  | .otherLetter =>
    (alphabetic.union (CharSet.ofTable "5F3")).diff
      (CharSet.unions [sentenceLower, sentenceUpper, continuing])
  | .numeric => Text.numeric.union (CharSet.ofTable "66C")
  | .continue =>
    CharSet.ofTable
      "2C-2D 3A-3B 37E 55D 60C-60D 7F8 1802 1808 2013-2014 3001 FE10-FE11 FE13-FE14 FE31-FE32
      FE50-FE51 FE54-FE55 FE58 FE63 FF0C-FF0D FF1A-FF1B FF64"
  | .terminator => sentenceTerminal.diff (CharSet.ofTable "2E 2024 FE52 FF0E")
  | .separator => (charsIn [.zl, .zp]).union (CharSet.ofTable "85")
  | .space => whiteSpace.diff (CharSet.ofTable "A D 85 2028-2029")

/-- The characters of the class with the given name. -/
def named? (name : String) : Option CharSet :=
  (all.find? fun c => c.names.contains name).map chars

end SentenceBreak

end PageBlocks.Text
