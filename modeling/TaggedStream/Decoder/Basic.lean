import TaggedStream.Channel.Source
import TaggedStream.Extension.Registry
import TaggedStream.Wire.Header

/-!
The decoder and what it can do in one step: take bytes, look for the end, fail.

A decoder that fails keeps the state it had. A read that fails does not move the position, but the
bytes that were there are gone.
-/

namespace TaggedStream

/-- All that a decoder knows: where its bytes come from and how many it took, its settings, the
version of the stream, and how deep it is in the value that it reads. -/
structure Decoder where
  source : Source
  registry : Registry
  options : Options
  version : UInt16 := 0
  /-- How many bytes were taken, header included. -/
  position : Nat := 0
  /-- The identifier whose handler is running; null's outside all handlers. -/
  extension : Oid := Tag.null.code
  /-- How many values are open. -/
  depth : Nat := 0
  /-- Whether the iteration has ended. -/
  done : Bool := false

instance : Inhabited Decoder := ⟨{ source := default, registry := {}, options := default }⟩

/-- Decoding: steps that change a decoder and may fail. -/
abbrev DecodeM := EStateM StreamError Decoder

namespace Decoder

/-- A decoder that has read nothing. -/
def fresh (registry : Registry) (options : Options) (source : Source) : Decoder where
  source
  registry
  options

/-- The bytes that are left in a source that is a byte string. -/
def rest (decoder : Decoder) : List UInt8 := decoder.source.rest

end Decoder

namespace DecodeM

/-- Takes exactly `size` bytes. The position moves when all of them were there. -/
def takeExact (op : String) (size : Nat) : DecodeM (List UInt8) := fun decoder =>
  match decoder.source.takeExact size with
  | (.ok taken, source) => .ok taken { decoder with source, position := decoder.position + size }
  | (.error cause, source) => .error (.io op size cause) { decoder with source }

instance : ByteSource DecodeM where
  takeExact := takeExact
  refuse := throw

/-- Whether the source is at its end. -/
def atEnd : DecodeM Bool := fun decoder =>
  match decoder.source.atEnd with
  | (.ok answer, source) => .ok answer { decoder with source }
  | (.error cause, source) => .error (.io "peek" 1 cause) { decoder with source }

/-- Runs a step and goes on after an error with the state that the step left. -/
def attempt {α : Type} (step : DecodeM α) : DecodeM (Except StreamError α) := fun decoder =>
  match step decoder with
  | .ok result decoder => .ok (.ok result) decoder
  | .error error decoder => .ok (.error error) decoder

/-- Runs a step in a changed state and then changes back, whether or not it failed. -/
def bracketed {α : Type} (enter leave : Decoder → Decoder) (step : DecodeM α) : DecodeM α :=
  fun decoder =>
    match step (enter decoder) with
    | .ok result decoder => .ok result (leave decoder)
    | .error error decoder => .error error (leave decoder)

/-- The settings. -/
def settings : DecodeM Options := do return (← get).options

/-- Reads the header and keeps its version. -/
def start : DecodeM Unit := do
  let header ← Header.read
  modify fun decoder => { decoder with version := header.version }

end DecodeM

end TaggedStream
