import TaggedStream.Number.Decimal
import TaggedStream.OrderedMap
import TaggedStream.Pattern.Basic
import TaggedStream.Time.Temporal

/-!
Values: what a stream carries.

The parts of a value that hold further values (`Throwable`, `HostObject`, `Deferred`) are families
over the type of those values, and `Value` ties the knot. Floating point numbers are bit patterns,
so equality in the logic tells every NaN apart; the equality that programs see is `Value.eq`.

Three kinds of value stand for something that changes: a lazy sequence, a byte stream, and a
deferred value that is still open. They hold the number of a cell in a store, so that clones share
it.

`Value.height` bounds how deeply values nest. It is the measure for everything that follows a value
down and through the store.
-/

namespace TaggedStream

/-- One line of a stack trace. -/
structure Frame where
  className : String
  method : String
  file : Option String := none
  line : Int32 := -1
deriving DecidableEq, Inhabited

/-- An error as a value: a message, a stack trace, the error that caused it, errors suppressed
beside it, and data, which is absent or a map. -/
structure Throwable (ν : Type) where
  message : Option String := none
  frames : List Frame := []
  cause : Option (Throwable ν) := none
  suppressed : List (Throwable ν) := []
  data : Option (OrderedMap ν ν) := none

namespace Throwable

variable {ν : Type}

instance : Inhabited (Throwable ν) := ⟨{}⟩

/-- How many causes deep the chain goes. -/
def depth : Throwable ν → Nat
  | ⟨_, _, none, _, _⟩ => 0
  | ⟨_, _, some cause, _, _⟩ => cause.depth + 1

/-- The chain of errors with the given messages, outermost first. -/
def ofMessages (message : String) : (causes : List String) → Throwable ν
  | [] => { message := some message }
  | cause :: causes => { message := some message, cause := some (ofMessages cause causes) }

example : (ofMessages "a" ["b", "c"] : Throwable Nat).depth = 2 := by decide

end Throwable

/-- How the fields of a host type are shown. -/
inductive HostShape where
  | unit
  | tuple
  | record (labels : List String)
  | ipv4
  | ipv6
  | socketV4
deriving DecidableEq, Inhabited

/-- A type outside the catalogue: where it is declared, its name there, and its shape. -/
structure HostType where
  path : String
  name : String
  shape : HostShape
deriving DecidableEq, Inhabited

/-- The name of a type together with its path. -/
def HostType.typeName (type : HostType) : String := type.path ++ "::" ++ type.name

/-- A field of a host object. -/
inductive HostPart (ν : Type) where
  | integer (i : Int)
  | text (s : String)
  | bytes (bytes : List UInt8)
  | integers (is : List Int)
  | value (v : ν)

/-- A host object: its type and its fields. Clones of one object share its handle. -/
structure HostObject (ν : Type) where
  handle : Option Nat := none
  type : HostType
  parts : List (HostPart ν)

/-- A value that may come later. It is there already, under a handle that clones share, or it is
asked for in a cell of the store. -/
inductive Deferred (ν : Type) where
  | ready (handle : Option Nat) (value : ν)
  | shared (cell : Nat)

/-- What stands in for an object that nothing can write. -/
structure Placeholder where
  className : String
  content : String
deriving DecidableEq, Inhabited

/-- A universally unique identifier as two words. -/
structure Uuid where
  high : UInt64
  low : UInt64
deriving DecidableEq, Inhabited

/-- A value of the catalogue, or a host object. -/
inductive Value where
  | null
  | bool (b : Bool)
  | byte (i : Int8)
  | short (i : Int16)
  | int (i : Int32)
  | long (i : Int64)
  | half (bits : UInt16)
  | float (bits : UInt32)
  | double (bits : UInt64)
  | char (c : Char)
  | bigInt (i : Int)
  | decimal (d : Decimal)
  | ratio (r : Ratio)
  | string (s : String)
  | bytes (bytes : List UInt8)
  | uuid (u : Uuid)
  | regex (p : Pattern)
  /-- A point on the time line of UTC. -/
  | instant (t : Timestamp)
  | date (d : Date)
  | time (t : TimeOfDay)
  /-- A reading of a wall clock that is nowhere in particular. -/
  | dateTime (t : Timestamp)
  | offsetDateTime (t : OffsetDateTime)
  | duration (d : Duration)
  | period (p : Period)
  | offsetTime (t : OffsetTime)
  | zonedDateTime (t : ZonedDateTime)
  | zoneId (zone : String)
  | vector (items : List Value)
  | set (items : List Value)
  | map (m : OrderedMap Value Value)
  | intArray (items : List Int32)
  | longArray (items : List Int64)
  | doubleArray (items : List UInt64)
  | boolArray (items : List Bool)
  | shortArray (items : List Int16)
  | floatArray (items : List UInt32)
  | charArray (items : List Char)
  /-- A sequence in memory that is written in chunks. -/
  | seq (items : List Value)
  /-- A sequence whose items are drawn from a cell while it is written. -/
  | lazySeq (cell : Nat)
  /-- Bytes that are read from a cell while they are written. -/
  | byteStream (cell : Nat)
  | future (d : Deferred Value)
  | throwable (t : Throwable Value)
  | unsupported (p : Placeholder)
  | object (o : HostObject Value)
  /-- A value with a map of notes about it. -/
  | annotated (inner : Value) (notes : OrderedMap Value Value)
deriving Inhabited

namespace Value

/-- Attaches notes. Notes that were there are replaced. -/
def withNotes (v : Value) (notes : OrderedMap Value Value) : Value :=
  match v with
  | .annotated inner _ => .annotated inner notes
  | v => .annotated v notes

/-- The notes of a value that has some. -/
def notes? : Value → Option (OrderedMap Value Value)
  | .annotated _ notes => some notes
  | _ => none

/-- The value without its outermost notes. -/
def bare : Value → Value
  | .annotated inner _ => inner
  | v => v

/-- Whether the value is null, notes or not. -/
def isNull (v : Value) : Bool :=
  match v.bare with
  | .null => true
  | _ => false

theorem notes?_withNotes (v : Value) (notes : OrderedMap Value Value) :
    (v.withNotes notes).notes? = some notes := by
  cases v <;> rfl

theorem bare_withNotes (v : Value) (notes : OrderedMap Value Value) :
    (v.withNotes notes).bare = v.bare := by
  cases v <;> rfl

/-! ## Height -/

mutual

/-- How many levels a value has. A handler may write a value of its own in place of an object, so an
object has at least two. -/
def height : Value → Nat
  | .vector items => heightOfList items + 1
  | .set items => heightOfList items + 1
  | .seq items => heightOfList items + 1
  | .map m => heightOfMap m + 1
  | .future d => heightOfDeferred d + 1
  | .throwable t => heightOfThrowable t + 1
  | .object o => heightOfObject o + 2
  | .annotated inner notes => max inner.height (heightOfMap notes) + 1
  | _ => 1

/-- The height of the highest item. -/
def heightOfList : List Value → Nat
  | [] => 0
  | v :: rest => max v.height (heightOfList rest)

/-- The height of the highest key or value. -/
def heightOfMap : OrderedMap Value Value → Nat
  | ⟨entries⟩ => heightOfEntries entries

/-- The height of the highest key or value of some entries. -/
def heightOfEntries : List (Value × Value) → Nat
  | [] => 0
  | (key, value) :: rest => max (max key.height value.height) (heightOfEntries rest)

/-- The height of a deferred value that is there. -/
def heightOfDeferred : Deferred Value → Nat
  | .ready _ value => value.height
  | .shared _ => 0

/-- The height of the data in an error and the errors below it, plus the length of the chain. -/
def heightOfThrowable : Throwable Value → Nat
  | ⟨_, _, cause, suppressed, data⟩ =>
    max (heightOfCause cause) (max (heightOfSuppressed suppressed) (heightOfData data)) + 1

/-- The height of a cause. -/
def heightOfCause : Option (Throwable Value) → Nat
  | none => 0
  | some t => heightOfThrowable t

/-- The height of the highest suppressed error. -/
def heightOfSuppressed : List (Throwable Value) → Nat
  | [] => 0
  | t :: rest => max (heightOfThrowable t) (heightOfSuppressed rest)

/-- The height of optional data. -/
def heightOfData : Option (OrderedMap Value Value) → Nat
  | none => 0
  | some m => heightOfMap m

/-- The height of the highest field of an object. -/
def heightOfObject : HostObject Value → Nat
  | ⟨_, _, parts⟩ => heightOfParts parts

/-- The height of the highest field. -/
def heightOfParts : List (HostPart Value) → Nat
  | [] => 0
  | .value v :: rest => max v.height (heightOfParts rest)
  | _ :: rest => heightOfParts rest

end

example : (Value.vector [.map ⟨[(.null, .throwable {})]⟩, .null]).height = 4 := by decide

end Value

end TaggedStream
