import TaggedStream.Channel.Script

/-!
Sinks: where an encoder puts its bytes, with or without a buffer in between.

A sink decides at each write how many of the offered bytes it takes. Delivering a slice repeats the
write until all of it is taken, a write fails, or a write takes nothing. Writes that are interrupted
are repeated too, so the rule of a sink says what comes of a write in the end. Each write moves on
either the bytes that were taken or the writes that were refused. So in one run a sink may answer
each write as it likes, and take what it has refused before.

The buffer holds slices back while they are shorter than the room it has left; a slice of at least
its capacity goes past it.
-/

namespace TaggedStream

/-- A place for bytes: those that it took, and its rule for the next ones. -/
structure Sink where
  received : Array UInt8 := #[]
  /-- How many writes failed or took nothing so far. -/
  refused : Nat := 0
  /-- How many of the offered bytes the next write takes, from how many writes were refused and how
  many bytes were taken so far. -/
  accept : (refused : Nat) → (taken : Nat) → (offered : Nat) → Except IoCause Nat :=
    fun _ _ offered => .ok offered
  /-- Whether flushing succeeds. -/
  flushes : Bool := true

namespace Sink

instance : Inhabited Sink := ⟨{}⟩

/-- The sink that takes everything. -/
def unlimited : Sink := {}

/-- A sink that takes at most `limit` bytes in all and at most `perWrite` bytes per write. A write
past the limit fails, or takes nothing if `silent`. -/
def bounded (limit perWrite : Option Nat) (silent flushes : Bool) : Sink where
  accept _ taken offered :=
    let room := match limit with
      | none => offered
      | some limit => limit - taken
    if room = 0 then if silent then .ok 0 else .error { text := "sink full" }
    else
      .ok (match perWrite with
        | none => min offered room
        | some most => min (min offered room) most)
  flushes

/-- Delivers a slice. The sink has agreed to take the first `granted` bytes already. A write that
takes nothing fails with the cause `stalled`. -/
def deliver (stalled : IoCause) (granted : Nat) : List UInt8 → Sink → Option IoCause × Sink
  | [], sink => (none, sink)
  | byte :: rest, sink =>
    match granted with
    | granted + 1 => deliver stalled granted rest { sink with received := sink.received.push byte }
    | 0 =>
      match sink.accept sink.refused sink.received.size (rest.length + 1) with
      | .error cause => (some cause, { sink with refused := sink.refused + 1 })
      | .ok 0 => (some stalled, { sink with refused := sink.refused + 1 })
      | .ok (granted + 1) =>
        deliver stalled granted rest { sink with received := sink.received.push byte }

/-- Writes a whole slice. -/
def put (slice : List UInt8) (sink : Sink) : Option IoCause × Sink :=
  deliver { text := "failed to write whole buffer" } 0 slice sink

/-- Flushes the sink. -/
def flush (sink : Sink) : Option IoCause × Sink :=
  (if sink.flushes then none else some { text := "cannot flush" }, sink)

end Sink

/-- A buffer of a fixed capacity and the bytes that it holds back. -/
structure OutputBuffer where
  capacity : Nat
  held : Array UInt8 := #[]

/-- A sink, with or without a buffer in front of it. -/
structure Output where
  sink : Sink
  buffer : Option OutputBuffer := none

namespace OutputBuffer

/-- Empties the buffer into the sink. What the sink did not take stays in the buffer. -/
def release (buffer : OutputBuffer) (sink : Sink) : Option IoCause × OutputBuffer × Sink :=
  match sink.deliver { text := "failed to write the buffered data" } 0 buffer.held.toList with
  | (none, after) => (none, { buffer with held := #[] }, after)
  | (some cause, after) =>
    let taken := after.received.size - sink.received.size
    (some cause, { buffer with held := (buffer.held.toList.drop taken).toArray }, after)

/-- Holds a slice back. -/
def hold (slice : List UInt8) (buffer : OutputBuffer) : OutputBuffer :=
  { buffer with held := buffer.held ++ slice }

end OutputBuffer

namespace Output

instance : Inhabited Output := ⟨{ sink := {} }⟩

/-- Puts a slice behind all that came before it. -/
def put (slice : List UInt8) : Output → Option IoCause × Output
  | ⟨sink, none⟩ => (sink.put slice).map id (⟨·, none⟩)
  | ⟨sink, some buffer⟩ =>
    let room := buffer.capacity - buffer.held.size
    if slice.length < room then (none, ⟨sink, some (buffer.hold slice)⟩)
    else
      match if room < slice.length then buffer.release sink else (none, buffer, sink) with
      | (some cause, buffer, sink) => (some cause, ⟨sink, some buffer⟩)
      | (none, buffer, sink) =>
        if buffer.capacity ≤ slice.length then (sink.put slice).map id (⟨·, some buffer⟩)
        else (none, ⟨sink, some (buffer.hold slice)⟩)

/-- Empties the buffer and flushes the sink. -/
def flush : Output → Option IoCause × Output
  | ⟨sink, none⟩ => sink.flush.map id (⟨·, none⟩)
  | ⟨sink, some buffer⟩ =>
    match buffer.release sink with
    | (some cause, buffer, sink) => (some cause, ⟨sink, some buffer⟩)
    | (none, buffer, sink) => sink.flush.map id (⟨·, some buffer⟩)

/-- The bytes that reached the sink. -/
def received (output : Output) : List UInt8 := output.sink.received.toList

end Output

end TaggedStream
