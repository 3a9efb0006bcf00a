import TaggedStream.Decoder.Item
import TaggedStream.Encoder.Item
import TaggedStream.Extension.Address

/-!
Whole streams: lists of values to bytes and back.
-/

namespace TaggedStream

/-- The stream of some values, and the store after they were written. The header comes first unless
the options leave it out. -/
def encodeStream (registry : Registry) (options : Options) (values : List Value) (store : Store) :
    Except Halt (List UInt8) × Store :=
  let (cell, store) := store.addSequence (.listed values)
  let session : EncodeM Unit := do
    EncodeM.start
    let _ ← EncodeM.encodeAll cell
    EncodeM.flush
  match session (.fresh registry options { sink := .unlimited } store) with
  | .ok () encoder => (.ok encoder.output.received, encoder.store)
  | .error halt encoder => (.error halt, encoder.store)

/-- All values of a stream. -/
def decodeStream (registry : Registry) (options : Options) (bytes : List UInt8) :
    Except StreamError (List Value) :=
  let session : DecodeM (List Value) := do
    DecodeM.start
    DecodeM.decodeAll
  match session (.fresh registry options (.slice bytes)) with
  | .ok values _ => .ok values
  | .error error _ => .error error

/-- The stream of one value with the standard registry and settings. -/
def encodeOne (v : Value) (store : Store) : Except Halt (List UInt8) × Store :=
  encodeStream .standard default [v] store

/-- All values of a stream with the standard registry and settings. -/
def decodeStandard (bytes : List UInt8) : Except StreamError (List Value) :=
  decodeStream .standard default bytes

end TaggedStream
