import TaggedStream.Channel.Script

/-!
Sources: where a decoder takes its bytes from. A source is a byte string, or a reader behind a
buffer.

The buffer is filled by one read of its capacity when it is empty and more is asked for; a request
of at least the capacity goes past the empty buffer to the reader. A request that cannot be met has
taken what there was, up to the end or to the failure that ended it.
-/

namespace TaggedStream

/-- The bytes that a decoder has not taken yet. -/
inductive Source where
  | slice (rest : List UInt8)
  | buffered (capacity : Nat) (buffer : List UInt8) (script : Script)

namespace Source

instance : Inhabited Source := ⟨.slice []⟩

/-- An empty buffer in front of a reader. -/
def ofScript (capacity : Nat) (script : Script) : Source := .buffered capacity [] script

/-- The bytes that are in the buffer or may still come. -/
def size : Source → Nat
  | .slice rest => rest.length
  | .buffered _ buffer script => buffer.length + script.size

/-- Takes exactly `want` bytes through an empty buffer of `capacity` bytes. The pieces taken so far
are in `before`, the last one first. -/
def takeThrough (capacity : Nat) (before : List (List UInt8)) (want : Nat) :
    Script → Except IoCause (List UInt8) × Source
  | [] => (.error .shortRead, .buffered capacity [] [])
  | .interrupted :: rest => takeThrough capacity before want rest
  | .failure text :: rest => (.error { text }, .buffered capacity [] rest)
  | .bytes [] :: rest => (.error .shortRead, .buffered capacity [] rest)
  | .bytes piece :: rest =>
    let got := piece.take (max want capacity)
    let left := match piece.drop (max want capacity) with
      | [] => rest
      | left => .bytes left :: rest
    if got.length < want then takeThrough capacity (got :: before) (want - got.length) rest
    else (.ok (got.take want :: before).reverse.flatten, .buffered capacity (got.drop want) left)

/-- Takes exactly `want` bytes. -/
def takeExact (want : Nat) : Source → Except IoCause (List UInt8) × Source
  | .slice rest =>
    match rest.splitAt want with
    | (taken, rest) =>
      if taken.length < want then (.error .shortRead, .slice []) else (.ok taken, .slice rest)
  | .buffered capacity buffer script =>
    match buffer.splitAt want with
    | (taken, buffer) =>
      if taken.length < want then takeThrough capacity [taken] (want - taken.length) script
      else (.ok taken, .buffered capacity buffer script)

/-- Whether the source is at its end. An empty buffer is filled to find out, so with a buffer that
can hold nothing the end is everywhere. -/
def atEnd : Source → Except IoCause Bool × Source
  | .slice rest => (.ok rest.isEmpty, .slice rest)
  | .buffered capacity [] script =>
    match script.readThrough capacity with
    | (.bytes piece, script) => (.ok piece.isEmpty, .buffered capacity piece script)
    | (.failure text, script) => (.error { text }, .buffered capacity [] script)
    | (.interrupted, script) => (.ok true, .buffered capacity [] script)
  | .buffered capacity buffer script => (.ok false, .buffered capacity buffer script)

/-- The bytes that are left in a byte string. -/
def rest : Source → List UInt8
  | .slice rest => rest
  | .buffered _ buffer _ => buffer

end Source

end TaggedStream
