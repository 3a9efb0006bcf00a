import TaggedStream.Channel.Sink
import TaggedStream.Extension.Registry
import TaggedStream.Wire.Header

/-!
The encoder and what it can do in one step: put a slice, fail, ask for a deferred value, draw from a
sequence, read from a byte stream, and lend its scratch buffer.

An encoder that stops keeps the state it had, so a session goes on after an error. The position
counts whole slices only.
-/

namespace TaggedStream

/-- A buffer for the items of a chunk that is being collected, and how many items it holds without
growing. -/
structure Scratch where
  items : Array Value := #[]
  room : Nat := 0
deriving Inhabited

namespace Scratch

/-- Adds an item. A buffer without room doubles it. -/
def push (v : Value) (scratch : Scratch) : Scratch where
  items := scratch.items.push v
  room := if scratch.items.size < scratch.room then scratch.room else max (2 * scratch.room) 4

/-- Takes all items out. -/
def clear (scratch : Scratch) : Scratch := { scratch with items := #[] }

end Scratch

/-- All that an encoder knows: where its bytes go and how many went there, its settings, a buffer to
lend, and the cells that values refer to. -/
structure Encoder where
  output : Output
  registry : Registry
  options : Options
  /-- The buffer, unless it is lent out. -/
  scratch : Option Scratch
  /-- How many bytes were written, header included. -/
  position : Nat
  store : Store

instance : Inhabited Encoder := ⟨⟨default, {}, default, none, 0, {}⟩⟩

/-- Why encoding stopped: with an error, or because it would never end. -/
inductive Halt where
  | refused (error : StreamError)
  | endless

instance : Inhabited Halt := ⟨.endless⟩

/-- Encoding: steps that change an encoder and may stop. -/
abbrev EncodeM := EStateM Halt Encoder

namespace Encoder

/-- An encoder that has written nothing. -/
def fresh (registry : Registry) (options : Options) (output : Output) (store : Store) :
    Encoder where
  output
  registry
  options
  scratch := some { room := options.objectChunkSize }
  position := 0
  store

end Encoder

namespace EncodeM

/-- Puts a slice. The position moves when all of it was taken. -/
def put (op : String) (slice : List UInt8) : EncodeM Unit
  | ⟨output, registry, options, scratch, position, store⟩ =>
    match output.put slice with
    | (none, output) => .ok () ⟨output, registry, options, scratch, position + slice.length, store⟩
    | (some cause, output) =>
      .error (.refused (.io op slice.length cause))
        ⟨output, registry, options, scratch, position, store⟩

/-- Stops with an error. -/
def refuse {α : Type} (error : StreamError) : EncodeM α := throw (.refused error)

/-- Stops because the work would never end. -/
def endless {α : Type} : EncodeM α := throw .endless

instance : ByteSink EncodeM where
  put := put
  refuse := refuse

/-- Runs a step and goes on after an error with the state that the step left. -/
def attempt {α : Type} (step : EncodeM α) : EncodeM (Except StreamError α) := fun encoder =>
  match step encoder with
  | .ok result encoder => .ok (.ok result) encoder
  | .error (.refused error) encoder => .ok (.error error) encoder
  | .error .endless encoder => .error .endless encoder

/-- Goes on with what a step came to. -/
def conclude {α : Type} : Except StreamError α → EncodeM α
  | .ok result => pure result
  | .error error => refuse error

/-- Does something with the store. -/
def onStore {α : Type} (action : Store → α × Store) : EncodeM α
  | ⟨output, registry, options, scratch, position, store⟩ =>
    match action store with
    | (result, store) => .ok result ⟨output, registry, options, scratch, position, store⟩

/-- The settings. -/
def settings : EncodeM Options := do return (← get).options

/-- Waits for a deferred value as long as the settings say. -/
def resolve (d : Deferred Value) : EncodeM Value := do
  match ← onStore (Store.resolve (← settings).derefTimeout d) with
  | .ok value => return value
  | .error failure => refuse (.deferred failure)

/-- Draws an item from a sequence. -/
def draw (cell : Nat) : EncodeM (Option Value) := onStore (Store.draw cell)

/-- Reads up to `want` bytes from a reader. -/
def fill (cell want : Nat) : EncodeM (List UInt8) := do
  match ← onStore (Store.fill cell want) with
  | .bytes content => return content
  | .failure text missing => refuse (.io "read byte stream" missing { text })

/-- Lends the buffer out; while it is out, others get an empty one without room. -/
def rent : EncodeM Scratch := modifyGet fun encoder =>
  (encoder.scratch.getD {}, { encoder with scratch := none })

/-- Takes a buffer back. Of two the one with more room is kept. -/
def giveBack (scratch : Scratch) : EncodeM Unit := modify fun encoder =>
  match encoder.scratch with
  | none => { encoder with scratch := some scratch }
  | some kept =>
    if kept.room < scratch.room then { encoder with scratch := some scratch } else encoder

/-- Writes an identifier of the catalogue. -/
def tagged (tag : Tag) : EncodeM Unit := Wire.writeOid tag.code

/-- Flushes what was written as far as the sink. -/
def flush : EncodeM Unit
  | ⟨output, registry, options, scratch, position, store⟩ =>
    match output.flush with
    | (none, output) => .ok () ⟨output, registry, options, scratch, position, store⟩
    | (some cause, output) =>
      .error (.refused (.io "flush" 0 cause)) ⟨output, registry, options, scratch, position, store⟩

/-- Writes the header, unless the sink holds a stream already. -/
def start : EncodeM Unit := do
  if (← settings).append then return
  Header.write {}

end EncodeM

end TaggedStream
