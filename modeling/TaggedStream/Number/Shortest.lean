import TaggedStream.Number.Binary

/-!
The shortest decimal digits that read back to a binary number.

Every real number between the midpoints to a number's two neighbours rounds to that number; the
midpoints themselves do when the significand is even. Among the decimals of one digit, then of two,
and so on, the first grid with a point in that interval fixes the count of digits. Of the two grid
points next to the number the nearer one is taken, and the larger one on a tie. All comparisons are
exact, between products of natural numbers.
-/

namespace TaggedStream.Shortest

-- Powers of natural numbers are the core ones, also where an algebra library is in scope.
attribute [local instance (high)] instPowNat

/-- The decimal number `digits * 10 ^ exponent`. -/
structure Decimal where
  digits : Nat
  exponent : Int
deriving DecidableEq, Repr, Inhabited

/-- A positive number and the interval that rounds to it, as numerators over one denominator. -/
structure Interval where
  value : Nat
  low : Nat
  high : Nat
  denominator : Nat
  /-- Whether the ends belong to the interval. -/
  closed : Bool

/-- The interval of a finite, positive pattern. Below a power of two the neighbour is half as far
away. -/
def Interval.ofBits (f : BinaryFormat) (bits : Nat) : Interval :=
  let exponent := f.exponent bits
  let fraction := f.fraction bits
  let significand := if exponent = 0 then fraction else 2 ^ f.fractionBits + fraction
  let power : Int := (max exponent 1 : Nat) - (f.bias + f.fractionBits : Nat) - 2
  let scale := 2 ^ power.toNat
  let below := if fraction = 0 ∧ 1 < exponent then 1 else 2
  { value := 4 * significand * scale
    low := (4 * significand - below) * scale
    high := (4 * significand + 2) * scale
    denominator := 2 ^ (-power).toNat
    closed := significand % 2 = 0 }

/-- How many digits stand in front of the decimal point of `numerator / denominator`; zero or less
when the number is below one, by the count of zeros behind the point. -/
def leadingPlace (numerator denominator : Nat) : Int :=
  let whole := numerator / denominator
  if whole ≠ 0 then (Nat.toDigits 10 whole).length
  else
    let rec zeros : Nat → Nat → Int
      | 0, count => -count
      | fuel + 1, count =>
        if denominator ≤ numerator * 10 ^ (count + 1) then -count else zeros fuel (count + 1)
    zeros (denominator.log2 + 1) 0

/-- The point of the grid with unit `10 ^ exponent` that the interval holds, if it holds one. -/
def Interval.onGrid? (i : Interval) (exponent : Int) : Option Decimal :=
  let lift := 10 ^ (-exponent).toNat
  let unit := i.denominator * 10 ^ exponent.toNat
  let below := i.value * lift / unit
  let rest := i.value * lift % unit
  let downFits :=
    if i.closed then i.low * lift ≤ below * unit else i.low * lift < below * unit
  let upFits :=
    if i.closed then (below + 1) * unit ≤ i.high * lift else (below + 1) * unit < i.high * lift
  if rest = 0 then some ⟨below, exponent⟩
  else if downFits ∧ (¬ upFits ∨ 2 * rest < unit) then some ⟨below, exponent⟩
  else if upFits then some ⟨below + 1, exponent⟩
  else none

/-- Tries grids of more and more digits, `count` of them at most. -/
def Interval.search (i : Interval) (place : Int) : (count : Nat) → (digits : Nat) → Decimal
  | 0, digits => ⟨i.value * 10 ^ (digits - place).toNat / i.denominator, place - digits⟩
  | count + 1, digits =>
    match i.onGrid? (place - digits) with
    | some found => found
    | none => i.search place count (digits + 1)

/-- The shortest decimal of a finite, positive pattern; seventeen digits are enough for every
pattern of at most sixty-four bits. -/
def ofBits (f : BinaryFormat) (bits : Nat) : Decimal :=
  let interval := Interval.ofBits f bits
  interval.search (leadingPlace interval.value interval.denominator) 17 1

/-- The digits of a decimal without its trailing zeros, and where the point stands: the number is
`0.d₁d₂… * 10 ^ point`. -/
def Decimal.normal (d : Decimal) : List Char × Int :=
  let digits := Nat.toDigits 10 d.digits
  ((digits.reverse.dropWhile (· = '0')).reverse, d.exponent + digits.length)

/-- Positional text between 1e-4 and 1e16 with at least one digit on either side of the point, and
one leading digit with an exponent elsewhere. -/
def Decimal.chars (d : Decimal) : List Char :=
  let (digits, point) := d.normal
  if -3 ≤ point ∧ point ≤ 16 then
    if point ≤ 0 then
      '0' :: '.' :: (List.replicate (-point).toNat '0' ++ digits)
    else
      let whole := digits.take point.toNat
      let rest := digits.drop point.toNat
      whole ++ List.replicate (point.toNat - whole.length) '0' ++
        '.' :: (if rest.isEmpty then ['0'] else rest)
  else
    let mantissa :=
      match digits with
      | lead :: next :: rest => lead :: '.' :: next :: rest
      | other => other
    mantissa ++ 'e' :: (toString (point - 1)).toList

/-- The text of any pattern. -/
def text (f : BinaryFormat) (bits : Nat) : String :=
  if f.isNaN bits then "NaN"
  else
    let sign := if f.isNegative bits then "-" else ""
    let magnitude := bits % 2 ^ (f.exponentBits + f.fractionBits)
    if f.exponent bits = f.topExponent then sign ++ "inf"
    else if f.isZero bits then sign ++ "0.0"
    else sign ++ String.ofList (ofBits f magnitude).chars

example : ofBits .double 0x3FB999999999999A = ⟨1, -1⟩ := by decide +kernel
example : ofBits .single 0x3E99999A = ⟨3, -1⟩ := by decide +kernel
example : ofBits .double 1 = ⟨5, -324⟩ := by decide +kernel

end TaggedStream.Shortest
