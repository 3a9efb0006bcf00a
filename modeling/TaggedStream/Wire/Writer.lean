import TaggedStream.Bytes.TwosComplement
import TaggedStream.Error
import TaggedStream.Time.Reckoning

/-!
The primitive layer of the wire, written: numbers most significant byte first, and byte strings
behind their length.

It needs no more of a context than to put a slice and to refuse, so encoders and the programs of
handlers share it. Each slice is named for error reports.
-/

namespace TaggedStream

/-- A context that can put bytes and can refuse to go on. -/
class ByteSink (m : Type → Type) where
  /-- Puts a slice in the name of the operation `op`. -/
  put : (op : String) → (slice : List UInt8) → m Unit
  /-- Ends with an error. -/
  refuse : {α : Type} → StreamError → m α

/-- The length as a prefix holds it: at most 2 ^ 31 - 1, since readers take the prefix as signed. -/
def wireLength? (length : Nat) : Option UInt32 :=
  if length ≤ 0x7FFFFFFF then some (.ofNat length) else none

example : wireLength? 0x7FFFFFFF = some 0x7FFFFFFF ∧ wireLength? 0x80000000 = none := by decide

namespace Wire

variable {m : Type → Type} [Monad m] [ByteSink m]

/-- Writes an unsigned byte. -/
def writeUInt8 (n : UInt8) : m Unit := ByteSink.put "write u8" [n]

/-- Writes a signed byte. -/
def writeInt8 (i : Int8) : m Unit := ByteSink.put "write i8" [i.toUInt8]

/-- Writes a boolean as one or zero. -/
def writeBool (b : Bool) : m Unit := ByteSink.put "write bool" [if b then 1 else 0]

/-- Writes an unsigned integer of two bytes. -/
def writeUInt16 (n : UInt16) : m Unit := ByteSink.put "write u16" (BigEndian.encode 2 n.toNat)

/-- Writes a signed integer of two bytes. -/
def writeInt16 (i : Int16) : m Unit :=
  ByteSink.put "write i16" (BigEndian.encode 2 i.toUInt16.toNat)

/-- Writes an unsigned integer of four bytes. -/
def writeUInt32 (n : UInt32) : m Unit := ByteSink.put "write u32" (BigEndian.encode 4 n.toNat)

/-- Writes a signed integer of four bytes. -/
def writeInt32 (i : Int32) : m Unit :=
  ByteSink.put "write i32" (BigEndian.encode 4 i.toUInt32.toNat)

/-- Writes an unsigned integer of eight bytes. -/
def writeUInt64 (n : UInt64) : m Unit := ByteSink.put "write u64" (BigEndian.encode 8 n.toNat)

/-- Writes a signed integer of eight bytes. -/
def writeInt64 (i : Int64) : m Unit :=
  ByteSink.put "write i64" (BigEndian.encode 8 i.toUInt64.toNat)

/-- Writes the bits of a half precision number. -/
def writeHalf (bits : UInt16) : m Unit := writeUInt16 bits

/-- Writes the bits of a single precision number. -/
def writeFloat (bits : UInt32) : m Unit :=
  ByteSink.put "write f32" (BigEndian.encode 4 bits.toNat)

/-- Writes the bits of a double precision number. -/
def writeDouble (bits : UInt64) : m Unit :=
  ByteSink.put "write f64" (BigEndian.encode 8 bits.toNat)

/-- Writes the code of a character. -/
def writeChar (c : Char) : m Unit := writeUInt32 c.val

/-- Writes an identifier. -/
def writeOid (oid : Oid) : m Unit := writeUInt16 oid

/-- Writes a length in front of what it counts. -/
def writeLength (oid : Oid) (length : Nat) : m Unit :=
  match wireLength? length with
  | some prefixed => writeUInt32 prefixed
  | none => ByteSink.refuse (.malformed oid (.lengthTooLong length))

/-- Writes a byte string behind its length. -/
def writeBytes (oid : Oid) (content : List UInt8) : m Unit := do
  writeLength oid content.length
  ByteSink.put "write bytes" content

/-- Writes a text as UTF-8 behind its length. -/
def writeText (oid : Oid) (s : String) : m Unit := writeBytes oid (Text.Utf8.encode s)

/-- Writes an integer of any size in two's complement behind its length. -/
def writeInteger (oid : Oid) (i : Int) : m Unit := writeBytes oid (TwosComplement.encode i)

/-- Writes `length` zero bytes. -/
def writeGap (length : Nat) : m Unit := ByteSink.put "write gap" (List.replicate length 0)

/-- Writes a point in time as seconds and nanoseconds. -/
def writeTimestamp (t : Timestamp) : m Unit := do
  writeInt64 (.ofInt t.seconds)
  writeInt32 (.ofNat t.nanos)

/-- Writes a time of day in nanoseconds. -/
def writeNanoOfDay (t : TimeOfDay) : m Unit := writeInt64 t.wireNanos

/-- Writes an offset in seconds. -/
def writeOffset (o : UtcOffset) : m Unit := writeInt32 (.ofInt o.seconds)

/-- Writes a date as a count of days. -/
def writeDate (d : Date) : m Unit := writeInt64 d.epochDay

/-- Writes a duration as seconds, rounded down, and nanoseconds. -/
def writeDuration (d : Duration) : m Unit := do
  writeInt64 d.floorFields.1
  writeInt32 d.floorFields.2

end Wire

end TaggedStream
