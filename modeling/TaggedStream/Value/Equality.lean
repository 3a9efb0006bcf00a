import TaggedStream.Number.Binary
import TaggedStream.Store.Basic

/-!
Equality as programs see it.

It is numeric on floating point numbers, so a value that holds a NaN differs from a copy of itself;
it compares wall clocks at an offset by the instant they name; it compares sequences, sets and maps
in order. What is shared equals itself without being looked into: an object or a deferred value
under one handle, a lazy sequence or a byte stream in one cell. Otherwise two deferred values are
equal when both are known and have equal outcomes.
-/

namespace TaggedStream

/-- Whether two handles are there and the same. -/
def sameHandle : Option Nat → Option Nat → Bool
  | some a, some b => a == b
  | _, _ => false

namespace HostPart

/-- Two fields of one kind with the same content. -/
def isEqv {ν : Type} (same : ν → ν → Bool) : HostPart ν → HostPart ν → Bool
  | .integer a, .integer b => a == b
  | .text a, .text b => a == b
  | .bytes a, .bytes b => a == b
  | .integers a, .integers b => a == b
  | .value a, .value b => same a b
  | _, _ => false

end HostPart

namespace HostObject

/-- One object, or two of one type with the same fields. -/
def isEqv {ν : Type} (same : ν → ν → Bool) (a b : HostObject ν) : Bool :=
  sameHandle a.handle b.handle || (a.type == b.type && a.parts.isEqv b.parts (HostPart.isEqv same))

end HostObject

namespace Throwable

variable {ν : Type}

mutual

/-- Two errors with the same parts throughout the chain. -/
def isEqv (same : ν → ν → Bool) : Throwable ν → Throwable ν → Bool
  | ⟨message, frames, cause, suppressed, data⟩, ⟨message', frames', cause', suppressed', data'⟩ =>
    message == message' && frames == frames' && causeIsEqv same cause cause' &&
      suppressedIsEqv same suppressed suppressed' &&
      match data, data' with
      | none, none => true
      | some m, some m' => m.isEqv same same m'
      | _, _ => false

/-- No cause twice, or two equal ones. -/
def causeIsEqv (same : ν → ν → Bool) : Option (Throwable ν) → Option (Throwable ν) → Bool
  | none, none => true
  | some t, some t' => isEqv same t t'
  | _, _ => false

/-- Equal errors in the same order. -/
def suppressedIsEqv (same : ν → ν → Bool) : List (Throwable ν) → List (Throwable ν) → Bool
  | [], [] => true
  | t :: rest, t' :: rest' => isEqv same t t' && suppressedIsEqv same rest rest'
  | _, _ => false

end

end Throwable

namespace Outcome

/-- The same failure twice, or two equal values. -/
def isEqv (same : Value → Value → Bool) : Outcome → Outcome → Bool
  | .ok a, .ok b => same a b
  | .error a, .error b => a == b
  | _, _ => false

end Outcome

namespace Deferred

/-- One deferred value, or two that are known and have equal outcomes. -/
def isEqv (store : Store) (same : Value → Value → Bool) (a b : Deferred Value) : Bool :=
  shared a b ||
    match store.outcome? a, store.outcome? b with
    | some x, some y => x.isEqv same y
    | _, _ => false
where
  /-- Whether two deferred values are clones of one. -/
  shared : Deferred Value → Deferred Value → Bool
    | .ready a _, .ready b _ => sameHandle a b
    | .shared a, .shared b => a == b
    | _, _ => false

end Deferred

namespace Value

/-- Equality of half precision numbers. -/
def sameHalf (a b : UInt16) : Bool := BinaryFormat.half.equal a.toNat b.toNat

/-- Equality of single precision numbers. -/
def sameFloat (a b : UInt32) : Bool := BinaryFormat.single.equal a.toNat b.toNat

/-- Equality of double precision numbers. -/
def sameDouble (a b : UInt64) : Bool := BinaryFormat.double.equal a.toNat b.toNat

/-- Equality of values at most `fuel` levels high, the cells that they refer to included. -/
def eqWithin (store : Store) : (fuel : Nat) → Value → Value → Bool
  | 0, _, _ => false
  | fuel + 1, a, b =>
    let same := eqWithin store fuel
    match a, b with
    | .null, .null => true
    | .bool x, .bool y => x == y
    | .byte x, .byte y => x == y
    | .short x, .short y => x == y
    | .int x, .int y => x == y
    | .long x, .long y => x == y
    | .half x, .half y => sameHalf x y
    | .float x, .float y => sameFloat x y
    | .double x, .double y => sameDouble x y
    | .char x, .char y => x == y
    | .bigInt x, .bigInt y => x == y
    | .decimal x, .decimal y => x == y
    | .ratio x, .ratio y => x == y
    | .string x, .string y => x == y
    | .bytes x, .bytes y => x == y
    | .uuid x, .uuid y => x == y
    | .regex x, .regex y => x == y
    | .instant x, .instant y => x == y
    | .date x, .date y => x == y
    | .time x, .time y => x == y
    | .dateTime x, .dateTime y => x == y
    | .offsetDateTime x, .offsetDateTime y => x.sameInstant y
    | .duration x, .duration y => x == y
    | .period x, .period y => x == y
    | .offsetTime x, .offsetTime y => x == y
    | .zonedDateTime x, .zonedDateTime y => x == y
    | .zoneId x, .zoneId y => x == y
    | .vector x, .vector y => x.isEqv y same
    | .set x, .set y => x.isEqv y same
    | .map x, .map y => x.isEqv same same y
    | .intArray x, .intArray y => x == y
    | .longArray x, .longArray y => x == y
    | .doubleArray x, .doubleArray y => x.isEqv y sameDouble
    | .boolArray x, .boolArray y => x == y
    | .shortArray x, .shortArray y => x == y
    | .floatArray x, .floatArray y => x.isEqv y sameFloat
    | .charArray x, .charArray y => x == y
    | .seq x, .seq y => x.isEqv y same
    | .lazySeq x, .lazySeq y => x == y
    | .byteStream x, .byteStream y => x == y
    | .future x, .future y => x.isEqv store same y
    | .throwable x, .throwable y => x.isEqv same y
    | .unsupported x, .unsupported y => x == y
    | .object x, .object y => x.isEqv same y
    | .annotated x m, .annotated y n => same x y && m.isEqv same same n
    | _, _ => false

/-- Equality of values over a store. -/
def eq (store : Store) (a b : Value) : Bool := eqWithin store (a.height + store.height) a b

/-- The equality test over a store, for maps whose keys are values. -/
@[reducible] def beqIn (store : Store) : BEq Value := ⟨eq store⟩

end Value

end TaggedStream
