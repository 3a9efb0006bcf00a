/-!
Binary floating point numbers as bit patterns.

A format fixes how many bits the exponent and the fraction have. All operations read the pattern, so
every NaN payload and the sign of zero stay visible: equality is the numeric one (a NaN differs from
itself, the two zeros are equal), and widening goes to the pattern of the same number in a larger
format.
-/

namespace TaggedStream

/-- The widths of the two fields behind the sign bit. -/
structure BinaryFormat where
  exponentBits : Nat
  fractionBits : Nat
deriving DecidableEq, Repr, Inhabited

namespace BinaryFormat

-- Powers of natural numbers are the core ones, also where an algebra library is in scope.
attribute [local instance (high)] instPowNat

/-- Sixteen bits. -/
def half : BinaryFormat := ⟨5, 10⟩

/-- Thirty-two bits. -/
def single : BinaryFormat := ⟨8, 23⟩

/-- Sixty-four bits. -/
def double : BinaryFormat := ⟨11, 52⟩

/-- The exponent field of the number one. -/
def bias (f : BinaryFormat) : Nat := 2 ^ (f.exponentBits - 1) - 1

/-- The largest exponent field, which infinities and NaNs have. -/
def topExponent (f : BinaryFormat) : Nat := 2 ^ f.exponentBits - 1

/-- The sign bit. -/
def isNegative (f : BinaryFormat) (bits : Nat) : Bool :=
  bits / 2 ^ (f.exponentBits + f.fractionBits) % 2 = 1

/-- The exponent field. -/
def exponent (f : BinaryFormat) (bits : Nat) : Nat :=
  bits / 2 ^ f.fractionBits % 2 ^ f.exponentBits

/-- The fraction field. -/
def fraction (f : BinaryFormat) (bits : Nat) : Nat := bits % 2 ^ f.fractionBits

/-- The pattern of three fields. -/
def pack (f : BinaryFormat) (negative : Bool) (exponent fraction : Nat) : Nat :=
  (if negative then 2 ^ (f.exponentBits + f.fractionBits) else 0) +
    exponent * 2 ^ f.fractionBits + fraction

/-- Whether a pattern is not a number. -/
def isNaN (f : BinaryFormat) (bits : Nat) : Bool :=
  f.exponent bits = f.topExponent && f.fraction bits ≠ 0

/-- Whether a pattern is one of the two zeros. -/
def isZero (f : BinaryFormat) (bits : Nat) : Bool := f.exponent bits = 0 && f.fraction bits = 0

/-- Numeric equality: a NaN equals nothing, the zeros are equal, all else goes by the pattern. -/
def equal (f : BinaryFormat) (a b : Nat) : Bool :=
  !f.isNaN a && !f.isNaN b && (a = b || (f.isZero a && f.isZero b))

/-- The pattern of one. -/
def one (f : BinaryFormat) : Nat := f.pack false f.bias 0

/-- The pattern of minus one. -/
def minusOne (f : BinaryFormat) : Nat := f.pack true f.bias 0

/-- The pattern in a format with larger fields of the number that `bits` is in `f`. The fraction of
a NaN moves to the top of the larger field and its first bit, which marks a quiet NaN, is set. -/
def widen (f wide : BinaryFormat) (bits : Nat) : Nat :=
  let negative := f.isNegative bits
  let exponent := f.exponent bits
  let fraction := f.fraction bits
  let shift := wide.fractionBits - f.fractionBits
  if exponent = f.topExponent then
    if fraction = 0 then wide.pack negative wide.topExponent 0
    else
      let quiet := 2 ^ (wide.fractionBits - 1)
      let moved := fraction * 2 ^ shift
      wide.pack negative wide.topExponent (if moved < quiet then moved + quiet else moved)
  else if exponent ≠ 0 then
    wide.pack negative (exponent + wide.bias - f.bias) (fraction * 2 ^ shift)
  else if fraction = 0 then wide.pack negative 0 0
  else
    -- A subnormal number becomes normal: its leading bit moves out of the fraction field.
    let lead := fraction.log2
    let missing := f.fractionBits - lead
    wide.pack negative (wide.bias + 1 - f.bias - missing)
      ((fraction * 2 ^ missing - 2 ^ f.fractionBits) * 2 ^ shift)

example : half.widen single 0x3E00 = 0x3FC00000 ∧ half.widen double 0x0001 = 0x3E70000000000000 :=
  by decide
example : single.widen double 0x7F800001 = 0x7FF8000020000000 := by decide
example : double.equal 0 0x8000000000000000 = true := by decide

end BinaryFormat

end TaggedStream
