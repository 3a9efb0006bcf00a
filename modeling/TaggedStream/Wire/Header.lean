import TaggedStream.Wire.Reader
import TaggedStream.Wire.Writer

/-!
The record at the start of a stream: a version in two bytes and a gap of thirty bytes, which are
written as zero and passed over when read.
-/

namespace TaggedStream

/-- What the first record of a stream says. -/
structure Header where
  version : UInt16 := 1
deriving DecidableEq, Repr, Inhabited

namespace Header

/-- The bytes that are kept free behind the version. -/
def gap : Nat := 30

/-- The bytes of the whole record. -/
def size : Nat := 2 + gap

/-- Writes the version and the gap. -/
def write {m : Type → Type} [Monad m] [ByteSink m] (header : Header) : m Unit := do
  Wire.writeUInt16 header.version
  Wire.writeGap gap

/-- Reads the version, which may be any, and passes over the gap. -/
def read {m : Type → Type} [Monad m] [ByteSource m] : m Header := do
  let version ← Wire.readUInt16
  Wire.skip gap
  return { version }

end Header

end TaggedStream
