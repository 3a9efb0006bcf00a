import TaggedStream.Error
import TaggedStream.Number.Folded

/-!
Conversions between host data and values.

Going in always works: unsigned integers take the next wider signed kind, and one above the largest
long becomes a big integer. Coming out fails when the value is of another kind; only integers and
floating point numbers widen. A failed conversion keeps the value.
-/

namespace TaggedStream

namespace Value

/-! ## Going in -/

/-- An unsigned byte, as a short. -/
def ofUInt8 (n : UInt8) : Value := .short (.ofNat n.toNat)

/-- An unsigned integer of two bytes, as an int. -/
def ofUInt16 (n : UInt16) : Value := .int (.ofNat n.toNat)

/-- An unsigned integer of four bytes, as a long. -/
def ofUInt32 (n : UInt32) : Value := .long (.ofNat n.toNat)

/-- An unsigned integer of eight bytes, as a long if it fits and else as a big integer. -/
def ofUInt64 (n : UInt64) : Value :=
  if n.toNat < 0x8000000000000000 then .long (.ofNat n.toNat) else .bigInt n.toNat

/-- Something or nothing, where nothing is null. -/
def ofOption {α : Type} (wrap : α → Value) : Option α → Value
  | none => .null
  | some a => wrap a

/-- A list as a vector. -/
def ofList {α : Type} (wrap : α → Value) (items : List α) : Value := .vector (items.map wrap)

/-! ## Coming out -/

/-- The constant that a number is, if it is one. -/
def constant? : Value → Option Folded
  | .byte i => Folded.ofInt? i.toInt
  | .short i => Folded.ofInt? i.toInt
  | .int i => Folded.ofInt? i.toInt
  | .long i => Folded.ofInt? i.toInt
  | .bigInt i => Folded.ofInt? i
  | .half bits => Folded.ofBits? .half bits.toNat
  | .float bits => Folded.ofBits? .single bits.toNat
  | .double bits => Folded.ofBits? .double bits.toNat
  | _ => none

/-- What `get` finds in a value, or the refusal that `expected` was asked for. -/
def extract {α : Type} (expected : String) (get : Value → Option α) (v : Value) :
    Except ConversionError α :=
  match get v with
  | some a => .ok a
  | none => .error ⟨expected, v⟩

/-- The content of a boolean. -/
def toBool : Value → Except ConversionError Bool :=
  extract "bool" fun
    | .bool b => some b
    | _ => none

/-- The content of a character. -/
def toChar : Value → Except ConversionError Char :=
  extract "char" fun
    | .char c => some c
    | _ => none

/-- The content of a byte. -/
def toInt8 : Value → Except ConversionError Int8 :=
  extract "byte" fun
    | .byte i => some i
    | _ => none

/-- The content of an integer up to a short. -/
def toInt16 : Value → Except ConversionError Int16 :=
  extract "short" fun
    | .byte i => some i.toInt16
    | .short i => some i
    | _ => none

/-- The content of an integer up to an int. -/
def toInt32 : Value → Except ConversionError Int32 :=
  extract "int" fun
    | .byte i => some i.toInt32
    | .short i => some i.toInt32
    | .int i => some i
    | _ => none

/-- The content of an integer up to a long. -/
def toInt64 : Value → Except ConversionError Int64 :=
  extract "long" fun
    | .byte i => some i.toInt64
    | .short i => some i.toInt64
    | .int i => some i.toInt64
    | .long i => some i
    | _ => none

/-- The content of any integer. -/
def toInt : Value → Except ConversionError Int :=
  extract "big integer" fun
    | .byte i => some i.toInt
    | .short i => some i.toInt
    | .int i => some i.toInt
    | .long i => some i.toInt
    | .bigInt i => some i
    | _ => none

/-- The bits of a half precision number. -/
def toHalf : Value → Except ConversionError UInt16 :=
  extract "half" fun
    | .half bits => some bits
    | _ => none

/-- The bits of a floating point number up to single precision. -/
def toFloat : Value → Except ConversionError UInt32 :=
  extract "float" fun
    | .half bits => some (.ofNat (BinaryFormat.half.widen .single bits.toNat))
    | .float bits => some bits
    | _ => none

/-- The bits of a floating point number up to double precision. -/
def toDouble : Value → Except ConversionError UInt64 :=
  extract "double" fun
    | .half bits => some (.ofNat (BinaryFormat.half.widen .double bits.toNat))
    | .float bits => some (.ofNat (BinaryFormat.single.widen .double bits.toNat))
    | .double bits => some bits
    | _ => none

/-- The content of a decimal. -/
def toDecimal : Value → Except ConversionError Decimal :=
  extract "decimal" fun
    | .decimal d => some d
    | _ => none

/-- The content of a fraction. -/
def toRatio : Value → Except ConversionError Ratio :=
  extract "ratio" fun
    | .ratio r => some r
    | _ => none

/-- The content of a text. -/
def toText : Value → Except ConversionError String :=
  extract "string" fun
    | .string s => some s
    | _ => none

/-- The content of a byte string. -/
def toByteList : Value → Except ConversionError (List UInt8) :=
  extract "bytes" fun
    | .bytes content => some content
    | _ => none

/-- The content of an identifier. -/
def toUuid : Value → Except ConversionError Uuid :=
  extract "uuid" fun
    | .uuid u => some u
    | _ => none

/-- The content of a regular expression. -/
def toPattern : Value → Except ConversionError Pattern :=
  extract "regex" fun
    | .regex p => some p
    | _ => none

/-- The content of an instant. -/
def toInstant : Value → Except ConversionError Timestamp :=
  extract "instant" fun
    | .instant t => some t
    | _ => none

/-- The content of a date. -/
def toDate : Value → Except ConversionError Date :=
  extract "date" fun
    | .date d => some d
    | _ => none

/-- The content of a time of day. -/
def toTimeOfDay : Value → Except ConversionError TimeOfDay :=
  extract "time" fun
    | .time t => some t
    | _ => none

/-- The content of a wall clock reading. -/
def toDateTime : Value → Except ConversionError Timestamp :=
  extract "date-time" fun
    | .dateTime t => some t
    | _ => none

/-- The content of a wall clock reading at an offset. -/
def toOffsetDateTime : Value → Except ConversionError OffsetDateTime :=
  extract "offset date-time" fun
    | .offsetDateTime t => some t
    | _ => none

/-- The content of a duration. -/
def toDuration : Value → Except ConversionError Duration :=
  extract "duration" fun
    | .duration d => some d
    | _ => none

/-- The content of a period. -/
def toPeriod : Value → Except ConversionError Period :=
  extract "period" fun
    | .period p => some p
    | _ => none

/-- The content of a time of day at an offset. -/
def toOffsetTime : Value → Except ConversionError OffsetTime :=
  extract "offset time" fun
    | .offsetTime t => some t
    | _ => none

/-- The content of a wall clock reading in a zone. -/
def toZonedDateTime : Value → Except ConversionError ZonedDateTime :=
  extract "zoned date-time" fun
    | .zonedDateTime t => some t
    | _ => none

/-- The content of a zone. -/
def toZoneId : Value → Except ConversionError String :=
  extract "zone id" fun
    | .zoneId zone => some zone
    | _ => none

/-- The items of a vector, a set or a sequence in memory. -/
def toItems : Value → Except ConversionError (List Value) :=
  extract "sequence" fun
    | .vector items => some items
    | .set items => some items
    | .seq items => some items
    | _ => none

/-- The content of a map. -/
def toMap : Value → Except ConversionError (OrderedMap Value Value) :=
  extract "map" fun
    | .map m => some m
    | _ => none

/-- The content of an array of ints. -/
def toIntArray : Value → Except ConversionError (List Int32) :=
  extract "int array" fun
    | .intArray items => some items
    | _ => none

/-- The content of an array of longs. -/
def toLongArray : Value → Except ConversionError (List Int64) :=
  extract "long array" fun
    | .longArray items => some items
    | _ => none

/-- The bits of an array of double precision numbers. -/
def toDoubleArray : Value → Except ConversionError (List UInt64) :=
  extract "double array" fun
    | .doubleArray items => some items
    | _ => none

/-- The content of an array of booleans. -/
def toBoolArray : Value → Except ConversionError (List Bool) :=
  extract "bool array" fun
    | .boolArray items => some items
    | _ => none

/-- The content of an array of shorts. -/
def toShortArray : Value → Except ConversionError (List Int16) :=
  extract "short array" fun
    | .shortArray items => some items
    | _ => none

/-- The bits of an array of single precision numbers. -/
def toFloatArray : Value → Except ConversionError (List UInt32) :=
  extract "float array" fun
    | .floatArray items => some items
    | _ => none

/-- The content of an array of characters. -/
def toCharArray : Value → Except ConversionError (List Char) :=
  extract "char array" fun
    | .charArray items => some items
    | _ => none

/-- The content of an error. -/
def toThrowable : Value → Except ConversionError (Throwable Value) :=
  extract "throwable" fun
    | .throwable t => some t
    | _ => none

/-- The content of a host object. -/
def toObject : Value → Except ConversionError (HostObject Value) :=
  extract "object" fun
    | .object o => some o
    | _ => none

/-- The content of a deferred value. -/
def toDeferred : Value → Except ConversionError (Deferred Value) :=
  extract "future" fun
    | .future d => some d
    | _ => none

/-- The content of a value as a kind that is named by the words of its refusals, made a value again:
of the kind asked for, or a vector of the items of an array. -/
def convert? (kind : String) (v : Value) : Option (Except ConversionError Value) :=
  match kind with
  | "bool" => some (.bool <$> v.toBool)
  | "char" => some (.char <$> v.toChar)
  | "byte" => some (.byte <$> v.toInt8)
  | "short" => some (.short <$> v.toInt16)
  | "int" => some (.int <$> v.toInt32)
  | "long" => some (.long <$> v.toInt64)
  | "big integer" => some (.bigInt <$> v.toInt)
  | "half" => some (.half <$> v.toHalf)
  | "float" => some (.float <$> v.toFloat)
  | "double" => some (.double <$> v.toDouble)
  | "decimal" => some (.decimal <$> v.toDecimal)
  | "ratio" => some (.ratio <$> v.toRatio)
  | "string" => some (.string <$> v.toText)
  | "bytes" => some (.bytes <$> v.toByteList)
  | "uuid" => some (.uuid <$> v.toUuid)
  | "regex" => some (.regex <$> v.toPattern)
  | "instant" => some (.instant <$> v.toInstant)
  | "date" => some (.date <$> v.toDate)
  | "time" => some (.time <$> v.toTimeOfDay)
  | "date-time" => some (.dateTime <$> v.toDateTime)
  | "offset date-time" => some (.offsetDateTime <$> v.toOffsetDateTime)
  | "duration" => some (.duration <$> v.toDuration)
  | "period" => some (.period <$> v.toPeriod)
  | "offset time" => some (.offsetTime <$> v.toOffsetTime)
  | "zoned date-time" => some (.zonedDateTime <$> v.toZonedDateTime)
  | "zone id" => some (.zoneId <$> v.toZoneId)
  | "sequence" => some (.vector <$> v.toItems)
  | "map" => some (.map <$> v.toMap)
  | "int array" => some (.ofList .int <$> v.toIntArray)
  | "long array" => some (.ofList .long <$> v.toLongArray)
  | "double array" => some (.ofList .double <$> v.toDoubleArray)
  | "bool array" => some (.ofList .bool <$> v.toBoolArray)
  | "short array" => some (.ofList .short <$> v.toShortArray)
  | "float array" => some (.ofList .float <$> v.toFloatArray)
  | "char array" => some (.ofList .char <$> v.toCharArray)
  | "throwable" => some (.throwable <$> v.toThrowable)
  | "object" => some (.object <$> v.toObject)
  | "future" => some (.future <$> v.toDeferred)
  | _ => none

example : (Value.null.convert? "map").map Except.isOk = some false := by decide

end Value

end TaggedStream
