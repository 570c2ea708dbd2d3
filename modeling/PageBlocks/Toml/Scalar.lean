import PageBlocks.Toml.Value
import PageBlocks.Text.CharSet

/-!
# Settings files: strings, numbers and dates

Each reader takes the text from where its value starts and gives the value with what follows it.
-/

namespace PageBlocks.Toml

/-- Characters that may not stand in a settings file as they are. -/
def isControl (c : Char) : Bool := (c.toNat < 0x20 && c != '\t') || c.toNat == 0x7F

/-- Space or tab. -/
def skipBlanks (t : Text) : Text := t.dropWhile Text.isBlank

/-- The value of so many hexadecimal digits. -/
def hexValue? (count : Nat) (t : Text) : Option (Nat × Text) :=
  let ds := t.take count
  if ds.length < count then none
  else (ds.mapM CharSet.hexDigit?).map fun vs => (vs.foldl (fun n d => 16 * n + d) 0, t.drop count)

/-- The character with a given code. -/
def codePoint? (count : Nat) (t : Text) : Option (Char × Text) :=
  match hexValue? count t with
  | none => none
  | some (n, rest) =>
    if n < 0xD800 ∨ (0xDFFF < n ∧ n ≤ 0x10FFFF) then some (Char.ofNat n, rest) else none

/-- What stands behind a backslash. -/
def escape? (t : Text) : Option (Char × Text) :=
  match t with
  | [] => none
  | c :: r =>
    match c with
    | 'b' => some (Char.ofNat 0x8, r)
    | 't' => some ('\t', r)
    | 'n' => some ('\n', r)
    | 'f' => some (Char.ofNat 0xC, r)
    | 'r' => some ('\r', r)
    | 'e' => some (Char.ofNat 0x1B, r)
    | '"' => some ('"', r)
    | '\\' => some ('\\', r)
    | 'x' => codePoint? 2 r
    | 'u' => codePoint? 4 r
    | 'U' => codePoint? 8 r
    | _ => none

/-- A string in double quotes, behind the first one; every step takes a character. -/
def basicString : (limit : Nat) → Text → Option (Text × Text)
  | 0, _ => none
  | limit + 1, t =>
    match t with
    | [] => none
    | '"' :: rest => some ([], rest)
    | '\\' :: r =>
      match escape? r with
      | none => none
      | some (c, rest) => (basicString limit rest).map fun (s, rest) => (c :: s, rest)
    | c :: r =>
      if isControl c then none else (basicString limit r).map fun (s, rest) => (c :: s, rest)

/-- A string in single quotes, behind the first one. -/
def literalString (t : Text) : Option (Text × Text) :=
  match Text.cutAt? (· == '\'') t with
  | none => none
  | some (s, rest) => if s.any isControl then none else some (s, rest)

/-- Drops the line break right behind the opening quotes. -/
def dropFirstBreak : Text → Text
  | '\n' :: t => t
  | '\r' :: '\n' :: t => t
  | t => t

/-- Skips blanks and line breaks. -/
def skipBreaks : Text → Text
  | '\n' :: t => skipBreaks t
  | '\r' :: '\n' :: t => skipBreaks t
  | c :: t => if Text.isBlank c then skipBreaks t else c :: t
  | [] => []

/-- What follows a backslash at a line's end, from the next text on; none if the line goes on. -/
def lineContinuation? (t : Text) : Option Text :=
  match skipBlanks t with
  | '\n' :: r => some (skipBreaks r)
  | '\r' :: '\n' :: r => some (skipBreaks r)
  | _ => none

/-- A string over several lines in triple quotes of the kind `q`. A run of up to five quotes ends
it, with those beyond three as content. -/
def longString (q : Char) (escapes : Bool) : (limit : Nat) → Text → Option (Text × Text)
  | 0, _ => none
  | limit + 1, t =>
    let more (c : Char) (r : Text) : Option (Text × Text) :=
      (longString q escapes limit r).map fun (s, rest) => (c :: s, rest)
    match t with
    | [] => none
    | c :: r =>
      if c = q then
        let run := (t.takeWhile (· == q)).length
        if run < 3 then more c r
        else
          let extra := Nat.min (run - 3) 2
          some (List.replicate extra q, t.drop (extra + 3))
      else if c = '\\' ∧ escapes then
        match lineContinuation? r with
        | some rest => longString q escapes limit rest
        | none =>
          match escape? r with
          | none => none
          | some (e, rest) => more e rest
      else if c = '\n' then more c r
      else if c = '\r' then (if r.head? = some '\n' then more c r else none)
      else if isControl c then none
      else more c r

/-- Any string, at its first quote. -/
def string? (t : Text) : Option (Text × Text) :=
  match t with
  | '"' :: '"' :: '"' :: r => longString '"' true (r.length + 1) (dropFirstBreak r)
  | '"' :: r => basicString (r.length + 1) r
  | '\'' :: '\'' :: '\'' :: r => longString '\'' false (r.length + 1) (dropFirstBreak r)
  | '\'' :: r => literalString r
  | _ => none

/-- Digits with single underscores between them, without the underscores. -/
def digits? (isDigit : Char → Bool) (t : Text) : Option Text :=
  let parts := Text.splitOn '_' t
  if parts.all fun p => !p.isEmpty && p.all isDigit then some parts.flatten else none

/-- The value of digits in a base. -/
def digitsValue (base : Nat) (ds : Text) : Nat :=
  ds.foldl (fun n c => base * n + (CharSet.hexDigit? c).getD 0) 0

/-- Decimal digits without a needless zero in front. -/
def decimal? (t : Text) : Option Text :=
  match digits? Char.isDigit t with
  | some ('0' :: _ :: _) => none
  | r => r

/-- A number with a fraction or an exponent, behind its sign. -/
def float? (negative : Bool) (t : Text) : Option Value := do
  let isExponent (c : Char) : Bool := c == 'e' || c == 'E'
  let mantissa := t.takeWhile fun c => !isExponent c
  let exponent? := (t.dropWhile fun c => !isExponent c).drop 1
  let hasExponent := mantissa.length < t.length
  let (whole, fraction, hasPoint) := match Text.cutAt? (· == '.') mantissa with
    | some (w, f) => (w, f, true)
    | none => (mantissa, [], false)
  if !hasExponent && !hasPoint then none
  let whole ← decimal? whole
  let fraction ← if hasPoint then digits? Char.isDigit fraction else some []
  let exponent : Int ← if hasExponent then
      match exponent? with
      | '+' :: ds => (digits? Char.isDigit ds).map fun ds => (digitsValue 10 ds : Int)
      | '-' :: ds => (digits? Char.isDigit ds).map fun ds => -(digitsValue 10 ds : Int)
      | ds => (digits? Char.isDigit ds).map fun ds => (digitsValue 10 ds : Int)
    else some 0
  let x ← Binary64.ofDecimal? negative (digitsValue 10 (whole ++ fraction))
    (exponent - (fraction.length : Int))
  return .real x

/-- A number. -/
def number? (t : Text) : Option Value :=
  let signed (negative : Bool) (r : Text) : Option Value :=
    if r = "inf".toList ∨ r = "nan".toList then some .unbounded
    else match decimal? r with
      | some ds =>
        let n : Int := digitsValue 10 ds
        some (.int (if negative then -n else n))
      | none => float? negative r
  let based (base : Nat) (r : Text) : Option Value :=
    let isDigit (c : Char) : Bool := (CharSet.hexDigit? c).any (· < base)
    (digits? isDigit r).map fun ds => .int (digitsValue base ds)
  match t with
  | '0' :: 'x' :: r => based 16 r
  | '0' :: 'o' :: r => based 8 r
  | '0' :: 'b' :: r => based 2 r
  | '+' :: r => signed false r
  | '-' :: r => signed true r
  | r => signed false r

/-- Exactly so many decimal digits. -/
def fixedDigits? (count : Nat) (t : Text) : Option (Nat × Text) :=
  let ds := t.take count
  if ds.length = count && ds.all Char.isDigit then some (digitsValue 10 ds, t.drop count) else none

/-- A number with zeros in front. -/
def padded (width n : Nat) : Text :=
  let ds := Nat.toDigits 10 n
  List.replicate (width - ds.length) '0' ++ ds

/-- The number of days of a month. -/
def daysIn (year month : Nat) : Nat :=
  if month = 2 then
    if (year % 4 = 0 ∧ year % 100 ≠ 0) ∨ year % 400 = 0 then 29 else 28
  else if month = 4 ∨ month = 6 ∨ month = 9 ∨ month = 11 then 30
  else 31

/-- A date. -/
def date? (t : Text) : Option (Text × Text) := do
  let (year, r) ← fixedDigits? 4 t
  let r ← Text.after? ['-'] r
  let (month, r) ← fixedDigits? 2 r
  let r ← Text.after? ['-'] r
  let (day, r) ← fixedDigits? 2 r
  if month = 0 || 12 < month || day = 0 || daysIn year month < day then none
  return (padded 4 year ++ '-' :: padded 2 month ++ '-' :: padded 2 day, r)

/-- The fraction of a second, at most nine places. -/
def fraction? (t : Text) : Option (Text × Text) :=
  match t with
  | '.' :: r =>
    let ds := r.takeWhile Char.isDigit
    if ds.isEmpty then none
    else
      let kept := Text.dropEndWhile (· == '0') (ds.take 9)
      some ('.' :: (if kept.isEmpty then ['0'] else kept), r.dropWhile Char.isDigit)
  | r => some ([], r)

/-- A time of day; its seconds may be left out. -/
def time? (t : Text) : Option (Text × Text) := do
  let (hour, r) ← fixedDigits? 2 t
  let r ← Text.after? [':'] r
  let (minute, r) ← fixedDigits? 2 r
  if 23 < hour || 59 < minute then none
  let start := padded 2 hour ++ ':' :: padded 2 minute
  match r with
  | ':' :: r =>
    let (second, r) ← fixedDigits? 2 r
    if 60 < second then none
    let (fraction, r) ← fraction? r
    return (start ++ ':' :: padded 2 second ++ fraction, r)
  | r => return (start, r)

/-- The distance from universal time. -/
def offset? (t : Text) : Option (Text × Text) :=
  let distance (negative : Bool) (r : Text) : Option (Text × Text) := do
    let (hour, r) ← fixedDigits? 2 r
    let r ← Text.after? [':'] r
    let (minute, r) ← fixedDigits? 2 r
    if 23 < hour || 59 < minute then none
    let sign := if negative && 60 * hour + minute ≠ 0 then '-' else '+'
    return (sign :: padded 2 hour ++ ':' :: padded 2 minute, r)
  match t with
  | 'Z' :: r => some (['Z'], r)
  | 'z' :: r => some (['Z'], r)
  | '+' :: r => distance false r
  | '-' :: r => distance true r
  | r => some ([], r)

/-- A date, a time, or both. -/
def datetime? (t : Text) : Option (Text × Text) :=
  match date? t with
  | some (date, r) =>
    let withTime (r : Text) : Option (Text × Text) := do
      let (time, r) ← time? r
      let (offset, r) ← offset? r
      return (date ++ 'T' :: time ++ offset, r)
    match r with
    | 'T' :: r => withTime r
    | 't' :: r => withTime r
    | ' ' :: c :: r => if c.isDigit then withTime (c :: r) else some (date, ' ' :: c :: r)
    | r => some (date, r)
  | none => time? t

/-- The characters of a number, a date or a plain word. -/
def isPlain (c : Char) : Bool :=
  c.isAlphanum || c == '+' || c == '-' || c == '_' || c == '.' || c == ':'

/-- A value that is neither quoted nor bracketed. -/
def plain? (t : Text) : Option (Value × Text) :=
  let word := t.takeWhile isPlain
  let rest := t.dropWhile isPlain
  if word = "true".toList then some (.bool true, rest)
  else if word = "false".toList then some (.bool false, rest)
  else
    match datetime? t with
    | some (d, rest) =>
      if rest.head?.any isPlain then none else some (.datetime d, rest)
    | none => (number? word).map fun v => (v, rest)

end PageBlocks.Toml
