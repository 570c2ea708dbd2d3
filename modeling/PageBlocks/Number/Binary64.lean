/-!
# Double precision numbers

A finite double is a sign and `mantissa · 2 ^ exponent`. Both directions between doubles and
decimals are worked out in whole numbers: reading takes the double nearest to the decimal, writing
takes the fewest digits that read back as the same double.
-/

namespace PageBlocks

/-- A finite double: `mantissa < 2 ^ 53`, and `mantissa ≥ 2 ^ 52` unless the exponent is the least
one, -1074. -/
structure Binary64 where
  negative : Bool
  mantissa : Nat
  exponent : Int
  deriving DecidableEq, Repr

namespace Binary64

/-- The least exponent. -/
def minExponent : Int := -1074

/-- The greatest exponent. -/
def maxExponent : Int := 971

/-- The power `2 ^ n`. -/
def twoPow (n : Nat) : Nat := Nat.pow 2 n

/-- The power `10 ^ n`. -/
def tenPow (n : Nat) : Nat := Nat.pow 10 n

/-- The whole number nearest to `num / den`; of two, the even one. -/
def roundDiv (num den : Nat) : Nat :=
  let q := num / den
  let twice := 2 * (num % den)
  if twice < den then q
  else if den < twice then q + 1
  else q + q % 2

/-- The nearest double to `num / den`, unless that is beyond the greatest one. -/
def ofRatio? (negative : Bool) (num den : Nat) : Option Binary64 :=
  if num = 0 then some ⟨negative, 0, minExponent⟩
  else
    let guess : Int := (num.log2 : Int) - (den.log2 : Int) - 52
    -- The quotient has 52 or 53 bits at the guess; make it 53.
    let short : Bool :=
      if 0 ≤ guess then num < den * twoPow (guess.toNat + 52)
      else num * twoPow (-guess).toNat < den * twoPow 52
    let e := max minExponent (if short then guess - 1 else guess)
    let m :=
      if 0 ≤ e then roundDiv num (den * twoPow e.toNat)
      else roundDiv (num * twoPow (-e).toNat) den
    let (m, e) := if m = twoPow 53 then (twoPow 52, e + 1) else (m, e)
    if maxExponent < e then none else some ⟨negative, m, e⟩

/-- The nearest double to `digits · 10 ^ exponent`, unless that is beyond the greatest one. -/
def ofDecimal? (negative : Bool) (digits : Nat) (exponent : Int) : Option Binary64 :=
  if digits = 0 then some ⟨negative, 0, minExponent⟩
  else
    -- Between these bounds lies every decimal that is not plainly too large or too small.
    let magnitude : Int := (digits.log2 : Int) * 3 / 10 + exponent
    if 330 < magnitude then none
    else if magnitude < -400 then some ⟨negative, 0, minExponent⟩
    else if 0 ≤ exponent then ofRatio? negative (digits * tenPow exponent.toNat) 1
    else ofRatio? negative digits (tenPow (-exponent).toNat)

/-- The exponent of the leading decimal digit of `num / den`, where `num` is not 0. -/
def leadingExponent (num den : Nat) : Int :=
  if den ≤ num then ((Nat.toDigits 10 (num / den)).length : Int) - 1
  else
    let small := (Nat.toDigits 10 (den / num)).length
    -- `10 ^ (small - 1) ≤ den / num`, with equality only for a power of ten.
    if den ≤ num * tenPow (small - 1) then -((small : Int) - 1) else -(small : Int)

/-- The fewest decimal digits that read back as the double, as a whole number, and the exponent of
the last one. The mantissa is not 0. -/
def shortest (x : Binary64) : Nat × Int :=
  let e := x.exponent - 2
  let scale := if 0 ≤ e then twoPow e.toNat else 1
  let den := if 0 ≤ e then 1 else twoPow (-e).toNat
  let num := 4 * x.mantissa * scale
  -- Halfway to the double below, which is nearer under a power of two, and to the one above.
  let gap := if x.mantissa = twoPow 52 ∧ minExponent < x.exponent then 1 else 2
  let low := (4 * x.mantissa - gap) * scale
  let high := (4 * x.mantissa + 2) * scale
  let lead := leadingExponent num den
  let withDigits? (count : Nat) : Option (Nat × Int) :=
    let unit : Int := lead - (count : Int) + 1
    let up := if unit < 0 then tenPow (-unit).toNat else 1
    let down := den * (if unit < 0 then 1 else tenPow unit.toNat)
    let readsBack (d : Nat) : Bool :=
      if x.mantissa % 2 = 0 then low * up ≤ d * down && d * down ≤ high * up
      else low * up < d * down && d * down < high * up
    let below := num * up / down
    let nearer := roundDiv (num * up) down
    let other := if nearer = below then below + 1 else below
    if readsBack nearer then some (nearer, unit)
    else if readsBack other then some (other, unit)
    else none
  ((List.range 17).findSome? fun i => withDigits? (i + 1)).getD (0, 0)

/-- Writes a double: positional with at least one decimal place while the leading digit's exponent
is between -5 and 15, otherwise with a signed exponent. -/
def text (x : Binary64) : List Char :=
  let sign := if x.negative then ['-'] else []
  if x.mantissa = 0 then sign ++ ['0', '.', '0']
  else
    let (d, unit) := shortest x
    let all := Nat.toDigits 10 d
    let digits := (all.reverse.dropWhile (· == '0')).reverse
    let lead := unit + (all.length : Int) - 1
    let body :=
      if lead < -5 ∨ 15 < lead then
        let exponent := (if lead < 0 then '-' else '+') :: Nat.toDigits 10 lead.natAbs
        match digits with
        | [] => []
        | [c] => c :: 'e' :: exponent
        | c :: more => c :: '.' :: more ++ 'e' :: exponent
      else if lead < 0 then
        '0' :: '.' :: List.replicate (lead.natAbs - 1) '0' ++ digits
      else
        let whole := lead.toNat + 1
        if digits.length ≤ whole then
          digits ++ List.replicate (whole - digits.length) '0' ++ ['.', '0']
        else digits.take whole ++ '.' :: digits.drop whole
    sign ++ body

end Binary64

end PageBlocks
