/-!
Exact decimals and fractions.

A decimal is `unscaled * 10 ^ (-scale)`; its scale is part of it, so 1 and 1.0 differ. A fraction
is kept as given and never reduced.
-/

namespace TaggedStream

/-- The number `unscaled * 10 ^ (-scale)`, with the scale kept. -/
structure Decimal where
  unscaled : Int
  scale : Int32
deriving DecidableEq, Repr, Inhabited

namespace Decimal

/-- Plain digits: a negative scale appends zeros, a positive scale sets a point in front of the
last `scale` digits, with one zero before the point when no digit is left there. -/
def digits (unscaled : Int) (scale : Int) : List Char :=
  let magnitude := Nat.toDigits 10 unscaled.natAbs
  let sign := if unscaled < 0 then ['-'] else []
  if scale ≤ 0 then
    sign ++ magnitude ++ List.replicate scale.natAbs '0'
  else
    let places := scale.toNat
    if places < magnitude.length then
      sign ++ magnitude.take (magnitude.length - places) ++
        '.' :: magnitude.drop (magnitude.length - places)
    else
      sign ++ '0' :: '.' :: (List.replicate (places - magnitude.length) '0' ++ magnitude)

/-- The text of a decimal. -/
def text (d : Decimal) : String := String.ofList (digits d.unscaled d.scale.toInt)

example : digits 12345 2 = ['1', '2', '3', '.', '4', '5'] := by decide
example : digits (-5) 3 = ['-', '0', '.', '0', '0', '5'] := by decide
example : digits 7 (-2) = ['7', '0', '0'] := by decide

end Decimal

/-- A fraction as given: it is not reduced, and its denominator is not zero. -/
structure Ratio where
  numerator : Int
  denominator : Int
  denominator_ne_zero : denominator ≠ 0
deriving DecidableEq

namespace Ratio

/-- The fraction of two integers, unless the second is zero. -/
def ofInts? (numerator denominator : Int) : Option Ratio :=
  if h : denominator = 0 then none else some ⟨numerator, denominator, h⟩

/-- The text of a fraction. -/
def text (r : Ratio) : String := toString r.numerator ++ "/" ++ toString r.denominator

end Ratio

end TaggedStream
