import TaggedStream.Bytes.BigEndian

/-!
Two's complement: an integer of any size as the shortest big-endian byte string whose top bit is
its sign. Zero takes one byte. Reading accepts longer, sign-extended strings too.
-/

namespace TaggedStream.TwosComplement

-- Powers of natural numbers are the core ones, also where an algebra library is in scope.
attribute [local instance (high)] instPowNat

/-- The fewest bytes that hold `i` together with its sign bit: the least positive `w` with
`-2 ^ (8 * w - 1) ≤ i < 2 ^ (8 * w - 1)`. -/
def width (i : Int) : Nat :=
  let magnitude := if i < 0 then (-i - 1).toNat else i.toNat
  (if magnitude = 0 then 0 else magnitude.log2 + 1) / 8 + 1

/-- The shortest two's complement byte string of `i`. -/
def encode (i : Int) : List UInt8 :=
  BigEndian.encode (width i) (i % (256 ^ width i : Nat)).toNat

/-- The integer that a two's complement byte string spells; the empty string spells zero. -/
def decode (bytes : List UInt8) : Int :=
  match bytes with
  | [] => 0
  | first :: _ =>
    if first < 128 then BigEndian.decode bytes
    else (BigEndian.decode bytes : Int) - (256 ^ bytes.length : Nat)

example : encode 0 = [0] ∧ encode 127 = [127] ∧ encode 128 = [0, 128] := by decide
example : encode (-1) = [255] ∧ encode (-128) = [128] ∧ encode (-129) = [255, 127] := by decide
example : decode [255, 127] = -129 ∧ decode [255, 255, 127] = -129 := by decide

end TaggedStream.TwosComplement
