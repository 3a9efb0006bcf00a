import TaggedStream.Bytes.BigEndian
import TaggedStream.Number.Shortest
import TaggedStream.Store.Basic
import TaggedStream.Text.Quoted

/-!
Descriptions: the text that shows a value to a programmer.

A value is its kind with its content in parentheses. Records name their fields in braces, lists
stand in brackets, maps are lists of pairs. A deferred value shows what is known of it without
waiting.
-/

namespace TaggedStream

open Text

/-- Four numbers below 256 with points between them. -/
def ipv4Text (address : Nat) : String :=
  ".".intercalate
    ((BigEndian.encode 4 address).map fun byte => toString byte.toNat)

namespace Ipv6

/-- The eight groups of an address. -/
def groups : List UInt8 → List Nat
  | a :: b :: rest => (a.toNat * 256 + b.toNat) :: groups rest
  | _ => []

/-- How many zeros a list starts with. -/
def leadingZeros : List Nat → Nat
  | 0 :: rest => leadingZeros rest + 1
  | _ => 0

/-- The first of the longest runs of zeros, as its start and its length. -/
def longestRun (index : Nat) : List Nat → Nat × Nat
  | [] => (index, 0)
  | group :: rest =>
    let here := leadingZeros (group :: rest)
    let later := longestRun (index + 1) rest
    if here ≠ 0 ∧ later.2 ≤ here then (index, here) else later

/-- Groups in hexadecimal with colons between them. -/
def joined (groups : List Nat) : String := ":".intercalate (groups.map hex)

/-- The text of an address: the first longest run of at least two zero groups is left out between
two colons, and the last four bytes of an embedded IPv4 address are shown as such. -/
def text (bytes : List UInt8) : String :=
  match groups bytes with
  | [0, 0, 0, 0, 0, 0xFFFF, high, low] => "::ffff:" ++ ipv4Text (high * 65536 + low)
  | groups =>
    match longestRun 0 groups with
    | (start, length) =>
      if 1 < length then
        joined (groups.take start) ++ "::" ++ joined (groups.drop (start + length))
      else joined groups

example : longestRun 0 [1, 0, 0, 2, 0, 0, 0, 3] = (4, 3) := by decide
example : longestRun 0 [1, 0, 0, 2, 0, 0, 4, 3] = (1, 2) := by decide

end Ipv6

namespace Uuid

/-- Thirty-two digits in five groups. -/
def text (uuid : Uuid) : String :=
  let digits (n width : Nat) := hexPadded width n
  "-".intercalate
    [digits (uuid.high.toNat / 0x100000000) 8, digits (uuid.high.toNat / 0x10000 % 0x10000) 4,
      digits (uuid.high.toNat % 0x10000) 4, digits (uuid.low.toNat / 0x1000000000000) 4,
      digits (uuid.low.toNat % 0x1000000000000) 12]

end Uuid

namespace OrderedMap

/-- A map as a list of pairs. -/
def describe {κ ν : Type} (key : κ → String) (value : ν → String) (m : OrderedMap κ ν) : String :=
  applied "VecMap"
    [bracketed (m.entries.map fun entry => applied "" [key entry.1, value entry.2])]

end OrderedMap

namespace Frame

/-- The description of a line of a stack trace. -/
def describe (frame : Frame) : String :=
  labelled "Frame"
    [("class", quoted frame.className), ("method", quoted frame.method),
      ("file", optional (frame.file.map quoted)), ("line", toString frame.line)]

end Frame

namespace Throwable

variable {ν : Type}

mutual

/-- The description of an error and of all errors below it. -/
def describe (inner : ν → String) : Throwable ν → String
  | ⟨message, frames, cause, suppressed, data⟩ =>
    labelled "Throwable"
      [("message", optional (message.map quoted)),
        ("frames", bracketed (frames.map Frame.describe)),
        ("cause", optional (describeCause inner cause)),
        ("suppressed", bracketed (describeSuppressed inner suppressed)),
        ("data", optional (data.map (OrderedMap.describe inner inner)))]

/-- The description of a cause, if there is one. -/
def describeCause (inner : ν → String) : Option (Throwable ν) → Option String
  | none => none
  | some cause => some (describe inner cause)

/-- The descriptions of suppressed errors. -/
def describeSuppressed (inner : ν → String) : List (Throwable ν) → List String
  | [] => []
  | t :: rest => describe inner t :: describeSuppressed inner rest

end

end Throwable

namespace HostPart

/-- The description of a field. -/
def describe {ν : Type} (inner : ν → String) : HostPart ν → String
  | .integer i => toString i
  | .text s => quoted s
  | .bytes content => bracketed (content.map fun byte => toString byte.toNat)
  | .integers is => bracketed (is.map toString)
  | .value v => inner v

end HostPart

namespace HostObject

/-- The description of an object, as its type shows it. -/
def describe {ν : Type} (inner : ν → String) (o : HostObject ν) : String :=
  let fields := o.parts.map (HostPart.describe inner)
  match o.type.shape, o.parts with
  | .unit, _ => o.type.name
  | .tuple, _ => applied o.type.name fields
  | .record labels, _ => labelled o.type.name (labels.zip fields)
  | .ipv4, [.integer address] => ipv4Text address.toNat
  | .ipv6, [.bytes bytes] => Ipv6.text bytes
  | .socketV4, [.integer address, .integer port] =>
    ipv4Text address.toNat ++ ":" ++ toString port
  | _, _ => applied o.type.name fields

end HostObject

namespace Deferred

/-- The description of a deferred value: its outcome, or that it is pending. -/
def describe (store : Store) (inner : Value → String) (d : Deferred Value) : String :=
  match store.outcome? d with
  | some (.ok value) => applied "Deferred" [inner value]
  | some (.error failure) => "Deferred(<" ++ failure.message ++ ">)"
  | none => "Deferred(<pending>)"

end Deferred

namespace Placeholder

/-- The description of a placeholder. -/
def describe (p : Placeholder) : String :=
  labelled "Unsupported" [("class_name", quoted p.className), ("content", quoted p.content)]

end Placeholder

namespace Value

/-- The description of a half precision number, which is that of its single precision form. -/
def describeHalf (bits : UInt16) : String :=
  Shortest.text .single (BinaryFormat.half.widen .single bits.toNat)

/-- The description of a single precision number. -/
def describeFloat (bits : UInt32) : String := Shortest.text .single bits.toNat

/-- The description of a double precision number. -/
def describeDouble (bits : UInt64) : String := Shortest.text .double bits.toNat

/-- The description of a value at most `fuel` levels high, the cells it refers to included. -/
def describeWithin (store : Store) : (fuel : Nat) → Value → String
  | 0, _ => ""
  | fuel + 1, v =>
    let inner := describeWithin store fuel
    let list (items : List Value) := bracketed (items.map inner)
    let map (m : OrderedMap Value Value) := m.describe inner inner
    match v with
    | .null => "Null"
    | .bool b => applied "Bool" [toString b]
    | .byte i => applied "Byte" [toString i]
    | .short i => applied "Short" [toString i]
    | .int i => applied "Int" [toString i]
    | .long i => applied "Long" [toString i]
    | .half bits => applied "Half" [describeHalf bits]
    | .float bits => applied "Float" [describeFloat bits]
    | .double bits => applied "Double" [describeDouble bits]
    | .char c => applied "Char" [quotedChar c]
    | .bigInt i => applied "BigInt" [toString i]
    | .decimal d =>
      applied "Decimal"
        [labelled "BigDecimal" [("unscaled", toString d.unscaled), ("scale", toString d.scale)]]
    | .ratio r =>
      applied "Ratio"
        [labelled "Ratio" [("numer", toString r.numerator), ("denom", toString r.denominator)]]
    | .string s => applied "String" [quoted s]
    | .bytes content => applied "Bytes" [quotedBytes content]
    | .uuid u => applied "Uuid" [u.text]
    | .regex p => applied "Regex" ["#\"" ++ p.source ++ "\""]
    | .instant t => applied "Instant" [t.text ++ "Z"]
    | .date d => applied "Date" [d.text]
    | .time t => applied "Time" [t.text]
    | .dateTime t => applied "DateTime" [t.text]
    | .offsetDateTime t => applied "OffsetDateTime" [t.text]
    | .duration d =>
      applied "Duration"
        [labelled "TimeDelta" [("secs", toString d.seconds), ("nanos", toString d.nanos)]]
    | .period p =>
      applied "Period"
        [labelled "Period"
          [("years", toString p.years), ("months", toString p.months), ("days", toString p.days)]]
    | .offsetTime t =>
      applied "OffsetTime"
        [labelled "OffsetTime" [("time", t.time.text), ("offset", t.offset.text)]]
    | .zonedDateTime t =>
      applied "ZonedDateTime"
        [labelled "ZonedDateTime"
          [("local", t.wall.text), ("zone", applied "ZoneId" [quoted t.zone])]]
    | .zoneId zone => applied "ZoneId" [applied "ZoneId" [quoted zone]]
    | .vector items => applied "Vector" [list items]
    | .set items => applied "Set" [list items]
    | .map m => applied "Map" [map m]
    | .intArray items => applied "IntArray" [bracketed (items.map toString)]
    | .longArray items => applied "LongArray" [bracketed (items.map toString)]
    | .doubleArray items => applied "DoubleArray" [bracketed (items.map describeDouble)]
    | .boolArray items => applied "BoolArray" [bracketed (items.map toString)]
    | .shortArray items => applied "ShortArray" [bracketed (items.map toString)]
    | .floatArray items => applied "FloatArray" [bracketed (items.map describeFloat)]
    | .charArray items => applied "CharArray" [bracketed (items.map quotedChar)]
    | .seq items => applied "Seq" [list items]
    | .lazySeq _ => applied "Lazy" ["LazySeq(..)"]
    | .byteStream _ => applied "Stream" ["ByteStream(..)"]
    | .future d => applied "Future" [d.describe store inner]
    | .throwable t => applied "Throwable" [t.describe inner]
    | .unsupported p => applied "Unsupported" [p.describe]
    | .object o => applied "Object" [o.describe inner]
    | .annotated v notes => applied "WithMeta" [inner v, map notes]

/-- The description of a value over a store. It does not look into sequences. -/
def describe (store : Store) (v : Value) : String :=
  describeWithin store (v.height + store.heightOfDeferrals) v

end Value

namespace Store

/-- The description of a deferred value over a store. -/
def describeDeferred (store : Store) (d : Deferred Value) : String :=
  d.describe store (Value.describe store)

/-- The description of a host object over a store. -/
def describeObject (store : Store) (o : HostObject Value) : String :=
  o.describe (Value.describe store)

/-- The placeholder of an object: the name of its type and its description. -/
def placeholder (store : Store) (o : HostObject Value) : Placeholder where
  className := o.type.typeName
  content := store.describeObject o

end Store

end TaggedStream
