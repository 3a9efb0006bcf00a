import TaggedStream.Bytes.TwosComplement
import TaggedStream.Error
import TaggedStream.Time.Reckoning

/-!
The primitive layer of the wire, read.

Byte strings are taken in pieces of bounded size, so that a length that lies about what follows ends
at the first piece that is missing. What contradicts the form of a primitive is blamed on the
identifier that the caller names.
-/

namespace TaggedStream

/-- A context that can take bytes and can refuse to go on. -/
class ByteSource (m : Type → Type) where
  /-- Takes exactly `size` bytes in the name of the operation `op`. -/
  takeExact : (op : String) → (size : Nat) → m (List UInt8)
  /-- Ends with an error. -/
  refuse : {α : Type} → StreamError → m α

namespace Wire

variable {m : Type → Type} [Monad m] [ByteSource m]

/-- Blames `oid` for a fault. -/
def malformed {α : Type} (oid : Oid) (fault : Fault) : m α :=
  ByteSource.refuse (.malformed oid fault)

/-- Reads an unsigned number of `size` bytes. -/
def readNat (op : String) (size : Nat) : m Nat := do
  return BigEndian.decode (← ByteSource.takeExact op size)

/-- Reads an unsigned byte. -/
def readUInt8 : m UInt8 := do return .ofNat (← readNat "read u8" 1)

/-- Reads a signed byte. -/
def readInt8 : m Int8 := do return (← readUInt8).toInt8

/-- Reads a boolean: a byte that is zero or one. -/
def readBool (oid : Oid) : m Bool := do
  match ← readUInt8 with
  | 0 => return false
  | 1 => return true
  | byte => malformed oid (.notBoolean byte)

/-- Reads an unsigned integer of two bytes. -/
def readUInt16 : m UInt16 := do return .ofNat (← readNat "read u16" 2)

/-- Reads a signed integer of two bytes. -/
def readInt16 : m Int16 := do return (← readUInt16).toInt16

/-- Reads an unsigned integer of four bytes. -/
def readUInt32 : m UInt32 := do return .ofNat (← readNat "read u32" 4)

/-- Reads a signed integer of four bytes. -/
def readInt32 : m Int32 := do return (← readUInt32).toInt32

/-- Reads an unsigned integer of eight bytes. -/
def readUInt64 : m UInt64 := do return .ofNat (← readNat "read u64" 8)

/-- Reads a signed integer of eight bytes. -/
def readInt64 : m Int64 := do return (← readUInt64).toInt64

/-- Reads the bits of a half precision number. -/
def readHalf : m UInt16 := readUInt16

/-- Reads the bits of a single precision number. -/
def readFloat : m UInt32 := readUInt32

/-- Reads the bits of a double precision number. -/
def readDouble : m UInt64 := readUInt64

/-- Reads the code of a character. -/
def readChar (oid : Oid) : m Char := do
  let code ← readUInt32
  if valid : code.isValidChar then return ⟨code, valid⟩
  else malformed oid (.notScalar code)

/-- Reads an identifier. -/
def readOid : m Oid := readUInt16

/-- Reads a length; its sign bit must be clear. -/
def readLength (oid : Oid) : m Nat := do
  let length ← readInt32
  if length < 0 then malformed oid (.negativeLength length)
  else return length.toNatClampNeg

/-- The largest piece in which a byte string is taken. -/
def pieceLimit : Nat := 0x10000

/-- Reads `full` pieces of the largest size and then `last` bytes, if there are some; `before` holds
the pieces that were read, the last one first. -/
def readPieces (before : List (List UInt8)) (last : Nat) : (full : Nat) → m (List UInt8)
  | 0 => do
    if last = 0 then return before.reverse.flatten
    else
      let piece ← ByteSource.takeExact "read bytes" last
      return (piece :: before).reverse.flatten
  | full + 1 => do
    let piece ← ByteSource.takeExact "read bytes" pieceLimit
    readPieces (piece :: before) last full

/-- Reads exactly `length` bytes, piece by piece. -/
def readRaw (length : Nat) : m (List UInt8) :=
  readPieces [] (length % pieceLimit) (length / pieceLimit)

/-- Reads a byte string behind its length. -/
def readBytes (oid : Oid) : m (List UInt8) := do readRaw (← readLength oid)

/-- Reads a text behind its length. -/
def readText (oid : Oid) : m String := do
  match Text.Utf8.decode (← readBytes oid) with
  | .ok s => return s
  | .error fault => malformed oid (.illFormedText fault)

/-- Reads an integer of any size behind its length, which is not zero. -/
def readInteger (oid : Oid) : m Int := do
  match ← readBytes oid with
  | [] => malformed oid .emptyInteger
  | content => return TwosComplement.decode content

/-- Passes over `length` bytes. -/
def skip (length : Nat) : m Unit := do let _ ← readRaw length

/-! ## Calendar fields -/

/-- Reads a point in time as seconds and nanoseconds. -/
def readTimestamp (oid : Oid) : m Timestamp := do
  let seconds ← readInt64
  let nanos ← readInt32
  if nanos < 0 then malformed oid (.nanosOutOfRange nanos)
  else
    match Timestamp.ofSeconds? seconds.toInt nanos.toNatClampNeg with
    | some t => return t
    | none => malformed oid (.timestampOutOfRange seconds nanos)

/-- Reads a time of day in nanoseconds. -/
def readNanoOfDay (oid : Oid) : m TimeOfDay := do
  let nanos ← readInt64
  match TimeOfDay.ofWireNanos? nanos with
  | some t => return t
  | none => malformed oid (.nanoOfDayOutOfRange nanos)

/-- Reads an offset in seconds. -/
def readOffset (oid : Oid) : m UtcOffset := do
  let seconds ← readInt32
  match UtcOffset.ofSeconds? seconds.toInt with
  | some o => return o
  | none => malformed oid (.offsetOutOfRange seconds)

/-- Reads a date as a count of days. -/
def readDate (oid : Oid) : m Date := do
  let day ← readInt64
  match Date.ofEpochDay? day with
  | some d => return d
  | none => malformed oid (.dayOutOfRange day)

/-- Reads a duration as seconds and nanoseconds. -/
def readDuration (oid : Oid) : m Duration := do
  let seconds ← readInt64
  let nanos ← readInt32
  if nanos < 0 then malformed oid (.durationOutOfRange seconds nanos)
  else
    match Duration.ofSeconds? seconds.toInt nanos.toNatClampNeg with
    | some d => return d
    | none => malformed oid (.durationOutOfRange seconds nanos)

end Wire

end TaggedStream
