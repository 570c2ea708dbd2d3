import PageBlocks.Json.Basic

/-!
# Data values as text

The compact form: no spaces, fields in the order of their names, and only those characters escaped
that a string cannot hold otherwise.
-/

namespace PageBlocks

namespace Number

/-- Writes a whole number. -/
def intText (n : Int) : Text :=
  match n with
  | .ofNat k => Nat.toDigits 10 k
  | .negSucc k => '-' :: Nat.toDigits 10 (k + 1)

/-- Writes a number. -/
def text : Number → Text
  | .int n => intText n
  | .real x => x.text

end Number

namespace Json

/-- One character of a string. -/
def escape (c : Char) : Text :=
  if c = '"' then ['\\', '"']
  else if c = '\\' then ['\\', '\\']
  else if c = '\n' then ['\\', 'n']
  else if c = '\r' then ['\\', 'r']
  else if c = '\t' then ['\\', 't']
  else if c.toNat = 0x8 then ['\\', 'b']
  else if c.toNat = 0xC then ['\\', 'f']
  else if c.toNat < 0x20 then
    ['\\', 'u', '0', '0', Nat.digitChar (c.toNat / 16), Nat.digitChar (c.toNat % 16)]
  else [c]

/-- A string between its quotes. -/
def quote (t : Text) : Text := '"' :: t.flatMap escape ++ ['"']

mutual

/-- The compact text of a value. -/
def text : Json → Text
  | .null => "null".toList
  | .bool true => "true".toList
  | .bool false => "false".toList
  | .num n => n.text
  | .str t => quote t
  | .arr [] => ['[', ']']
  | .arr (v :: vs) => '[' :: text v ++ itemsText vs ++ [']']
  | .obj [] => ['\x7b', '\x7d']
  | .obj ((k, v) :: fs) => '\x7b' :: quote k ++ ':' :: text v ++ fieldsText fs ++ ['\x7d']

/-- The items behind the first one. -/
def itemsText : List Json → Text
  | [] => []
  | v :: vs => ',' :: text v ++ itemsText vs

/-- The fields behind the first one. -/
def fieldsText : List (Text × Json) → Text
  | [] => []
  | (k, v) :: fs => ',' :: quote k ++ ':' :: text v ++ fieldsText fs

end

end Json

end PageBlocks
