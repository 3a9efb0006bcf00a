import TaggedStream.Encoder.Basic

/-!
Aggregates written by an encoder, given a way to write one item.

A countable aggregate is its identifier, a count and its items. An uncountable one is its
identifier, chunks with a count each, and a zero. A sequence in memory is cut into chunks directly;
a sequence that is drawn from collects each chunk in the buffer that the encoder lends, so that its
count is known.
-/

namespace TaggedStream

/-- The pieces of a list behind the piece `current`, last item first, which takes `room` items more.
-/
def chunksBehind {α : Type} (size : Nat) (current : List α) (room : Nat) : List α → List (List α)
  | [] => if current.isEmpty then [] else [current.reverse]
  | item :: rest =>
    if room ≤ 1 then (item :: current).reverse :: chunksBehind size [] size rest
    else chunksBehind size (item :: current) (room - 1) rest

/-- A list cut into pieces of `size` items, and a last one with what is left. -/
def chunks {α : Type} (size : Nat) (items : List α) : List (List α) :=
  chunksBehind size [] size items

example : chunks 2 [1, 2, 3, 4, 5] = [[1, 2], [3, 4], [5]] := by decide
example : chunks 2 [1, 2, 3, 4] = [[1, 2], [3, 4]] := by decide
example : chunks 2 ([] : List Nat) = [] := by decide

namespace EncodeM

variable (write : Value → EncodeM Unit)

/-- Writes items one after another. -/
def writeAll : List Value → EncodeM Unit
  | [] => return
  | v :: rest => do
    write v
    writeAll rest

/-- Writes an identifier, a count and the items. -/
def writeCountable (oid : Oid) (items : List Value) : EncodeM Unit := do
  Wire.writeOid oid
  Wire.writeLength oid items.length
  writeAll write items

/-- Writes the keys and values of entries in turn. -/
def writeEntries : List (Value × Value) → EncodeM Unit
  | [] => return
  | (key, value) :: rest => do
    write key
    write value
    writeEntries rest

/-- Writes a map; the empty one has an identifier of its own. -/
def writeMap (m : OrderedMap Value Value) : EncodeM Unit := do
  if m.isEmpty then tagged .mapEmpty
  else
    tagged .map
    Wire.writeLength Tag.map.code m.size
    writeEntries write m.toList

/-- Writes a primitive array. -/
def writeArray {α : Type} (tag : Tag) (item : α → EncodeM Unit) (items : List α) :
    EncodeM Unit := do
  tagged tag
  Wire.writeLength tag.code items.length
  items.forM item

/-! ## Uncountable aggregates -/

/-- The count that ends the chunks. -/
def writeTerminator : EncodeM Unit := Wire.writeUInt32 0

/-- Writes a chunk: a count and the items. -/
def writeChunk (oid : Oid) (items : List Value) : EncodeM Unit := do
  Wire.writeLength oid items.length
  writeAll write items

/-- Writes chunk after chunk. -/
def writeChunks (oid : Oid) : List (List Value) → EncodeM Unit
  | [] => return
  | chunk :: rest => do
    writeChunk write oid chunk
    writeChunks oid rest

/-- Writes a sequence in memory, as many of its items as the settings allow. -/
def writeSeq (items : List Value) : EncodeM Unit := do
  let settings ← settings
  let taken := match settings.uncountableMaxItems with
    | none => items
    | some most => items.take most
  tagged .seq
  writeChunks write Tag.seq.code (chunks settings.objectChunkSize taken)
  writeTerminator

/-- How many items of a sequence are drawn at most: as many as the settings allow, or all of them.

A source without end and without a bound in the settings has no such number. A run stops there with
`endless`, behind the identifier of the sequence and before an item is drawn, although a loop that
just went on would end in an error of its own if an item or the output failed on the way. So runs
that draw more and more from a source without end are not followed here, and results leave open how
they end. -/
def drawLimit (cell : Nat) : EncodeM Nat := do
  match (← settings).uncountableMaxItems, ← onStore fun store => (store.size? cell, store) with
  | some most, _ => return most
  | none, some size => return size
  | none, none => endless

/-- Writes the items that are left in the buffer, if there are some. -/
def writeRest (oid : Oid) (written : Nat) (chunk : Scratch) :
    EncodeM (Except StreamError Nat × Scratch) := do
  if chunk.items.isEmpty then return (.ok written, chunk)
  match ← attempt (writeChunk write oid chunk.items.toList) with
  | .ok () => return (.ok written, chunk.clear)
  | .error error => return (.error error, chunk.clear)

/-- Draws at most `limit` items and writes them, chunk by chunk. The buffer comes back empty,
whether or not an item failed. -/
def drawChunks (oid : Oid) (size cell : Nat) :
    (limit : Nat) → (written : Nat) → (chunk : Scratch) → EncodeM (Except StreamError Nat × Scratch)
  | 0, written, chunk => writeRest write oid written chunk
  | limit + 1, written, chunk => do
    match ← draw cell with
    | none => writeRest write oid written chunk
    | some item =>
      let chunk := chunk.push item
      if chunk.items.size = size then
        match ← attempt (writeChunk write oid chunk.items.toList) with
        | .ok () => drawChunks oid size cell limit (written + 1) chunk.clear
        | .error error => return (.error error, chunk.clear)
      else drawChunks oid size cell limit (written + 1) chunk

/-- Writes what is drawn from a sequence, in chunks, and counts it. -/
def writeUncountable (oid : Oid) (cell : Nat) : EncodeM Nat := do
  Wire.writeOid oid
  let limit ← drawLimit cell
  let size := (← settings).objectChunkSize
  let (outcome, chunk) ← drawChunks write oid size cell limit 0 (← rent)
  giveBack chunk
  let written ← conclude outcome
  writeTerminator
  return written

/-- Writes a shared sequence, which nobody else draws from meanwhile. -/
def writeLazySeq (cell : Nat) : EncodeM Unit := do
  if (← get).store.sequenceIsBusy cell then endless
  onStore fun store => ((), store.markSequence cell true)
  let outcome ← attempt (writeUncountable write Tag.seq.code cell)
  onStore fun store => ((), store.markSequence cell false)
  let _ ← conclude outcome

/-- Copies bytes in chunks of `size` until a chunk is not full. Each full chunk takes bytes from the
reader, so what it holds bounds the number of chunks. -/
def copyBytes (size cell : Nat) : (fuel : Nat) → (copied : Nat) → EncodeM Nat
  | 0, copied => return copied
  | fuel + 1, copied => do
    match ← fill cell size with
    | [] => return copied
    | content =>
      Wire.writeBytes Tag.byteStream.code content
      if content.length < size then return copied + content.length
      else copyBytes size cell fuel (copied + content.length)

/-- Writes what a reader gives, in chunks, and counts it. -/
def writeByteStream (cell : Nat) : EncodeM Nat := do
  tagged .byteStream
  let copied ← copyBytes (← settings).byteChunkSize cell ((← get).store.bytesLeft cell + 1) 0
  writeTerminator
  return copied

/-! ## Errors as values -/

/-- Writes whether a text is there, and the text. -/
def writeOptionalText (text : Option String) : EncodeM Unit := do
  Wire.writeBool text.isSome
  match text with
  | none => return
  | some text => Wire.writeText Tag.throwable.code text

/-- Writes a line of a stack trace. -/
def writeFrame (frame : Frame) : EncodeM Unit := do
  Wire.writeText Tag.throwable.code frame.className
  Wire.writeText Tag.throwable.code frame.method
  writeOptionalText frame.file
  Wire.writeInt32 frame.line

mutual

/-- Writes an error: its data if it has some, its message and stack trace, and all errors below it.
-/
def writeThrowable : Throwable Value → EncodeM Unit
  | ⟨message, frames, cause, suppressed, data⟩ => do
    match data with
    | some data => do
      tagged .throwableWithData
      writeMap write data
    | none => tagged .throwable
    writeOptionalText message
    Wire.writeLength Tag.throwable.code frames.length
    frames.forM writeFrame
    writeCause cause
    Wire.writeLength Tag.throwable.code suppressed.length
    writeSuppressed suppressed

/-- Writes whether there is a cause, and the cause. -/
def writeCause : Option (Throwable Value) → EncodeM Unit
  | none => Wire.writeBool false
  | some cause => do
    Wire.writeBool true
    writeThrowable cause

/-- Writes suppressed errors one after another. -/
def writeSuppressed : List (Throwable Value) → EncodeM Unit
  | [] => return
  | t :: rest => do
    writeThrowable t
    writeSuppressed rest

end

end EncodeM

end TaggedStream
