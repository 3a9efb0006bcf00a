/-!
Settings of an encoder or a decoder.

Chunk sizes and the nesting bound are at least one: that is part of the type, and the setters raise
a zero to one.
-/

namespace TaggedStream

/-- Settings that stay fixed while a stream is written or read. -/
structure Options where
  /-- How many milliseconds the encoder waits for a deferred value. -/
  derefTimeout : Nat := 5000
  /-- How many items a full chunk of an uncountable aggregate holds. -/
  objectChunkSize : Nat := 0xFF
  /-- How many bytes a full chunk of a byte stream holds. -/
  byteChunkSize : Nat := 0xFFFF
  /-- The most items taken from one uncountable source; `none` is no bound. -/
  uncountableMaxItems : Option Nat := none
  /-- Whether a value without an encoder is written as a placeholder instead of refused. -/
  encodeUnsupported : Bool := true
  /-- Whether annotations are written. -/
  saveMeta : Bool := true
  /-- Whether the header is left out because the sink already holds a stream. -/
  append : Bool := false
  /-- The size of the buffer of a buffered decoder. -/
  inputBufferSize : Nat := 0xFFFF
  /-- The size of the buffer of a buffered encoder. -/
  outputBufferSize : Nat := 0xFFFF
  /-- How deeply decoded values may nest, the outermost one included. -/
  maxDepth : Nat := 128
  objectChunkSize_pos : 0 < objectChunkSize := by decide
  byteChunkSize_pos : 0 < byteChunkSize := by decide
  maxDepth_pos : 0 < maxDepth := by decide
deriving DecidableEq

namespace Options

instance : Inhabited Options := ⟨{}⟩

/-- Sets the items per chunk, at least one. -/
def withObjectChunkSize (o : Options) (n : Nat) : Options :=
  { o with objectChunkSize := max n 1, objectChunkSize_pos := by omega }

/-- Sets the bytes per chunk, at least one. -/
def withByteChunkSize (o : Options) (n : Nat) : Options :=
  { o with byteChunkSize := max n 1, byteChunkSize_pos := by omega }

/-- Sets the nesting bound, at least one. -/
def withMaxDepth (o : Options) (n : Nat) : Options :=
  { o with maxDepth := max n 1, maxDepth_pos := by omega }

example : (({} : Options).withObjectChunkSize 0).objectChunkSize = 1 := rfl

end Options

end TaggedStream
