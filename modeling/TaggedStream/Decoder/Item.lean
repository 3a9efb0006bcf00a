import TaggedStream.Decoder.Basic

/-!
Values read by a decoder.

`element parent` reads a value that the value tagged `parent` needs; the functions that read
aggregates take it as an argument, and `decodeNested` ties the knot one level deeper, down to the
nesting bound. Whatever is wrong is blamed on a tag: what is missing or too deep on the value that
needs it, a bad field on the value that holds it.
-/

namespace TaggedStream

namespace DecodeM

open Wire

/-- Reads `count` things one after another; `before` holds those that were read, the last one first.
-/
def readMany {α : Type} (item : DecodeM α) (before : List α) : (count : Nat) → DecodeM (List α)
  | 0 => return before.reverse
  | count + 1 => do
    let a ← item
    readMany item (a :: before) count

/-- Reads a count and as many things. -/
def readCounted {α : Type} (oid : Oid) (item : DecodeM α) : DecodeM (List α) := do
  readMany item [] (← readLength oid)

/-- Reads the count of the next chunk, which must be there. -/
def readChunkLength (oid : Oid) : DecodeM Nat := do
  if ← atEnd then malformed oid .missingTerminator
  readLength oid

/-- Reads chunks up to the zero that ends them. A chunk takes at least the four bytes of its count,
so the bytes that are left in the source bound the number of chunks. -/
def readChunks {α : Type} (oid : Oid) (chunk : Nat → DecodeM (List α)) (before : List (List α)) :
    (fuel : Nat) → DecodeM (List α)
  | 0 => malformed oid .missingTerminator
  | fuel + 1 => do
    match ← readChunkLength oid with
    | 0 => return before.reverse.flatten
    | count =>
      let items ← chunk count
      readChunks oid chunk (items :: before) fuel

/-- Reads all chunks of an uncountable aggregate. -/
def readUncountable {α : Type} (oid : Oid) (chunk : Nat → DecodeM (List α)) : DecodeM (List α) := do
  readChunks oid chunk [] ((← get).source.size + 1)

/-- Reads whether a text is there, and the text. -/
def readOptionalText : DecodeM (Option String) := do
  if ← readBool Tag.throwable.code then return some (← readText Tag.throwable.code)
  else return none

/-- Reads a line of a stack trace. -/
def readFrame : DecodeM Frame := do
  let className ← readText Tag.throwable.code
  let method ← readText Tag.throwable.code
  let file ← readOptionalText
  let line ← readInt32
  return { className, method, file, line }

/-! ## Values inside values -/

section

variable (element : Oid → DecodeM Value)

/-- Reads a key and a value. -/
def readEntry (oid : Oid) : DecodeM (Value × Value) := do
  let key ← element oid
  let value ← element oid
  return (key, value)

/-- Reads a map with a count. Keys that repeat are kept. -/
def readMap (oid : Oid) : DecodeM (OrderedMap Value Value) := do
  return ⟨← readCounted oid (readEntry element oid)⟩

/-- Reads a value that must be a map. -/
def readMapValue (parent : Oid) : DecodeM (OrderedMap Value Value) := do
  match ← element parent with
  | .map m => return m
  | found => malformed parent (.notMap found)

/-- Reads a value that must be an error. -/
def readNestedThrowable : DecodeM (Throwable Value) := do
  match ← element Tag.throwable.code with
  | .throwable t => return t
  | found => malformed Tag.throwable.code (.notThrowable found)

/-- Reads what follows the identifier of an error, or its data. -/
def readThrowable (data : Option (OrderedMap Value Value)) : DecodeM (Throwable Value) := do
  let message ← readOptionalText
  let frames ← readCounted Tag.throwable.code readFrame
  let cause ←
    if ← readBool Tag.throwable.code then some <$> readNestedThrowable element else pure none
  let suppressed ← readCounted Tag.throwable.code (readNestedThrowable element)
  return { message, frames, cause, suppressed, data }

/-- Runs the plan of a handler. A value that it asks for is needed by the innermost handler. -/
def runPlan {α : Type} : ReadPlan α → DecodeM α
  | .done result => return result
  | .refuse error => throw error
  | .takeExact op size next => do runPlan (next (← attempt (takeExact op size)))
  | .value next => do runPlan (next (← attempt (element (← get).extension)))

/-- Reads what follows an identifier outside the catalogue. -/
def readExtension (oid : Oid) : DecodeM Value := do
  match (← get).registry.reader? oid with
  | none => throw (.unknownOid oid)
  | some reader =>
    let outer := (← get).extension
    let plan := reader (← settings)
    bracketed ({ · with extension := oid }) ({ · with extension := outer })
      (runPlan element plan)

/-- The value of a numeric kind that a constant stands for. -/
def constantValue (kind : NumericKind) (constant : Folded) : Value :=
  match kind with
  | .byte => .byte (.ofInt constant.toInt)
  | .short => .short (.ofInt constant.toInt)
  | .int => .int (.ofInt constant.toInt)
  | .long => .long (.ofInt constant.toInt)
  | .half => .half (.ofNat (constant.bits .half))
  | .float => .float (.ofNat (constant.bits .single))
  | .double => .double (.ofNat (constant.bits .double))
  | .bigInt => .bigInt constant.toInt

/-- Reads the payload of a numeric kind. -/
def readNumber (kind : NumericKind) : DecodeM Value :=
  match kind with
  | .byte => return .byte (← readInt8)
  | .short => return .short (← readInt16)
  | .int => return .int (← readInt32)
  | .long => return .long (← readInt64)
  | .half => return .half (← readHalf)
  | .float => return .float (← readFloat)
  | .double => return .double (← readDouble)
  | .bigInt => return .bigInt (← readInteger kind.base)

/-- Reads what follows the identifier of a tag. -/
def readTagged (tag : Tag) : DecodeM Value :=
  let oid := tag.code
  match tag with
  | .null => return .null
  | .annotated => do
    let notes ← readMapValue element oid
    let inner ← element oid
    return .annotated inner notes
  | .unsupported => do
    let className ← readText oid
    let content ← readText oid
    return .unsupported { className, content }
  | .number kind => readNumber kind
  | .constant kind constant => return constantValue kind constant
  | .boolTrue => return .bool true
  | .boolFalse => return .bool false
  | .char => return .char (← readChar oid)
  | .decimal => do
    let scale ← readInt32
    let unscaled ← readInteger oid
    return .decimal { unscaled, scale }
  | .ratio => do
    let numerator ← readInteger oid
    let denominator ← readInteger oid
    match Ratio.ofInts? numerator denominator with
    | some r => return .ratio r
    | none => malformed oid .zeroDenominator
  | .string => return .string (← readText oid)
  | .stringEmpty => return .string ""
  | .bytes => return .bytes (← readBytes oid)
  | .bytesEmpty => return .bytes []
  | .byteStream => return .bytes (← readUncountable oid readRaw)
  | .regex => do
    let source ← readText oid
    match Pattern.compile? source with
    | some p => return .regex p
    | none => malformed oid .invalidPattern
  | .uuid => do
    let high ← readUInt64
    let low ← readUInt64
    return .uuid { high, low }
  | .vector => return .vector (← readCounted oid (element oid))
  | .vectorEmpty => return .vector []
  | .set => return .set (← readCounted oid (element oid))
  | .setEmpty => return .set []
  | .map => return .map (← readMap element oid)
  | .mapEmpty => return .map .empty
  | .intArray => return .intArray (← readCounted oid readInt32)
  | .longArray => return .longArray (← readCounted oid readInt64)
  | .doubleArray => return .doubleArray (← readCounted oid readDouble)
  | .boolArray => return .boolArray (← readCounted oid (readBool oid))
  | .shortArray => return .shortArray (← readCounted oid readInt16)
  | .floatArray => return .floatArray (← readCounted oid readFloat)
  | .charArray => return .charArray (← readCounted oid (readChar oid))
  | .seq => return .seq (← readUncountable oid (readMany (element oid) []))
  | .instant => return .instant (← readTimestamp oid)
  | .date => return .date (← readDate oid)
  | .time => return .time (← readNanoOfDay oid)
  | .dateTime => return .dateTime (← readTimestamp oid)
  | .offsetDateTime => do
    let wall ← readTimestamp oid
    let offset ← readOffset oid
    match OffsetDateTime.ofWall? wall offset with
    | some t => return .offsetDateTime t
    | none => malformed oid (.instantOutOfRange wall offset)
  | .duration => return .duration (← readDuration oid)
  | .period => do
    let years ← readInt32
    let months ← readInt32
    let days ← readInt32
    return .period { years, months, days }
  | .offsetTime => do
    let time ← readNanoOfDay oid
    let offset ← readOffset oid
    return .offsetTime { time, offset }
  | .zonedDateTime => do
    let wall ← readTimestamp oid
    let zone ← readText oid
    return .zonedDateTime { wall, zone }
  | .zoneId => return .zoneId (← readText oid)
  | .throwable => return .throwable (← readThrowable element none)
  | .throwableWithData => do
    let data ← readMapValue element oid
    return .throwable (← readThrowable element (some data))
  | .future => return .future (.ready none (← element oid))

/-- Reads what follows an identifier. -/
def readBody (oid : Oid) : DecodeM Value :=
  match Tag.ofCode? oid with
  | some tag => readTagged element tag
  | none => readExtension element oid

end

/-- Reads a value that `parent` needs, given how to read what follows its identifier. -/
def readElement (nested : (parent oid : Oid) → DecodeM Value) (parent : Oid) : DecodeM Value := do
  if ← atEnd then malformed parent .missingValue
  nested parent (← readOid)

/-- Reads what follows the identifier `oid` of a value that `parent` needs, one level deeper. There
are at most `levels` levels below the values that are open. -/
def decodeNested : (levels : Nat) → (parent oid : Oid) → DecodeM Value
  | 0, parent, _ => do malformed parent (.tooDeep (← settings).maxDepth)
  | levels + 1, parent, oid => do
    let most := (← settings).maxDepth
    if most ≤ (← get).depth then malformed parent (.tooDeep most)
    bracketed (fun decoder => { decoder with depth := decoder.depth + 1 })
      (fun decoder => { decoder with depth := decoder.depth - 1 })
      (readBody (readElement (decodeNested levels)) oid)

/-- Reads the next value, or finds the end of the stream. -/
def decode : DecodeM (Option Value) := do
  if ← atEnd then return none
  let oid ← readOid
  return some (← decodeNested (← settings).maxDepth oid oid)

/-- Reads a value that the handler which is running needs. -/
def readValue : DecodeM Value := do
  readElement (decodeNested (← settings).maxDepth) (← get).extension

/-- The next value of the iteration, which ends at the end of the stream or at the first error. -/
def next : DecodeM (Option Value) := do
  if (← get).done then return none
  match ← attempt decode with
  | .ok (some v) => return some v
  | .ok none =>
    modify ({ · with done := true })
    return none
  | .error error =>
    modify ({ · with done := true })
    throw error

/-- All values up to the end of the stream; `before` holds those that were read, the last one first.
A value takes at least the two bytes of its identifier, so the bytes that are left in the source
bound their number. -/
def decodeRest (before : List Value) : (fuel : Nat) → DecodeM (List Value)
  | 0 => return before.reverse
  | fuel + 1 => do
    match ← next with
    | none => return before.reverse
    | some v => decodeRest (v :: before) fuel

/-- All values up to the end of the stream. -/
def decodeAll : DecodeM (List Value) := do decodeRest [] ((← get).source.size + 1)

end DecodeM

end TaggedStream
