import TaggedStream.Number.Binary

/-!
Constants that a numeric type writes without a payload: zero, one and minus one.

The identifier of a constant is an offset from the identifier of its type.
-/

namespace TaggedStream

/-- A number that is written as an identifier alone. -/
inductive Folded where
  | zero
  | one
  | minusOne
deriving DecidableEq, Repr, Inhabited

namespace Folded

/-- How far a constant's identifier lies behind that of its type. -/
def offset : Folded → UInt16
  | .zero => 1
  | .one => 2
  | .minusOne => 3

/-- The identifier of a constant in the block that starts at `base`. -/
def oid (constant : Folded) (base : UInt16) : UInt16 := base + constant.offset

/-- The constant that `oid` names in the block that starts at `base`. -/
def ofOid? (base oid : UInt16) : Option Folded :=
  if oid < base then none
  else if oid - base = 1 then some .zero
  else if oid - base = 2 then some .one
  else if oid - base = 3 then some .minusOne
  else none

/-- The constant that an integer is. -/
def ofInt? (i : Int) : Option Folded :=
  if i = 0 then some .zero
  else if i = 1 then some .one
  else if i = -1 then some .minusOne
  else none

/-- The integer that a constant stands for. -/
def toInt : Folded → Int
  | .zero => 0
  | .one => 1
  | .minusOne => -1

/-- The pattern of a constant. -/
def bits (f : BinaryFormat) : Folded → Nat
  | .zero => 0
  | .one => f.one
  | .minusOne => f.minusOne

/-- The constant whose pattern this is. Negative zero and the NaNs are no constants. -/
def ofBits? (f : BinaryFormat) (pattern : Nat) : Option Folded :=
  if pattern = 0 then some .zero
  else if pattern = f.one then some .one
  else if pattern = f.minusOne then some .minusOne
  else none

theorem ofInt?_toInt (constant : Folded) : ofInt? constant.toInt = some constant := by
  cases constant <;> rfl

theorem toInt_of_ofInt? {i : Int} {constant : Folded} (h : ofInt? i = some constant) :
    constant.toInt = i := by
  unfold ofInt? at h
  split at h
  · cases h; simp [toInt, *]
  · split at h
    · cases h; simp [toInt, *]
    · split at h
      · cases h; simp [toInt, *]
      · cases h

end Folded

end TaggedStream
