/-!
Readers as scripts: what a source of bytes answers to one read after another.

A read takes at most the bytes of the current turn and leaves the rest of them for the next read. A
turn that is used up is gone, so only an empty turn makes a read of nothing before the end. After
the last turn every read gives nothing.
-/

namespace TaggedStream

/-- Why a read or a write failed. -/
structure IoCause where
  text : String
  /-- Whether the source ended before the bytes that were asked for. -/
  endOfInput : Bool := false
deriving DecidableEq, Repr, Inhabited

/-- The cause of a read that meets the end of its source. -/
def IoCause.shortRead : IoCause := { text := "failed to fill whole buffer", endOfInput := true }

/-- What one read meets: bytes, a passing interruption, or a failure. -/
inductive Turn where
  | bytes (piece : List UInt8)
  | interrupted
  | failure (text : String)
deriving DecidableEq, Repr, Inhabited

/-- The turns that a reader has left. -/
abbrev Script := List Turn

namespace Script

/-- One read of at most `want` bytes: what it meets, and the turns that are left. -/
def read (want : Nat) : Script → Turn × Script
  | [] => (.bytes [], [])
  | .bytes piece :: rest =>
    match piece.drop want with
    | [] => (.bytes piece, rest)
    | left => (.bytes (piece.take want), .bytes left :: rest)
  | turn :: rest => (turn, rest)

/-- Reads until something other than an interruption is met. -/
def readThrough (want : Nat) : Script → Turn × Script
  | .interrupted :: rest => readThrough want rest
  | script => read want script

example : read 2 [.bytes [1, 2, 3]] = (.bytes [1, 2], [.bytes [3]]) := by decide
example : read 3 [.bytes [1, 2, 3], .interrupted] = (.bytes [1, 2, 3], [.interrupted]) := by decide
example : read 4 [.bytes [], .bytes [1]] = (.bytes [], [.bytes [1]]) := by decide

/-- The bytes that all turns together hold. -/
def size : Script → Nat
  | [] => 0
  | .bytes piece :: rest => piece.length + size rest
  | _ :: rest => size rest

/-- What an attempt to fill a buffer ends with. -/
inductive Filled where
  /-- The bytes that came before the buffer was full or a read gave nothing. -/
  | bytes (piece : List UInt8)
  /-- A failure, with the number of bytes that were still missing. -/
  | failure (text : String) (missing : Nat)
deriving DecidableEq, Repr, Inhabited

/-- Reads until `want` bytes are there or a read gives nothing; `before` holds the pieces that came
so far, the last one first. -/
def fillAfter (before : List (List UInt8)) (want : Nat) : Script → Filled × Script
  | [] => (.bytes before.reverse.flatten, [])
  | turn :: rest =>
    if want = 0 then (.bytes before.reverse.flatten, turn :: rest)
    else
      match turn with
      | .interrupted => fillAfter before want rest
      | .failure text => (.failure text want, rest)
      | .bytes [] => (.bytes before.reverse.flatten, rest)
      | .bytes piece =>
        match piece.drop want with
        | [] => fillAfter (piece :: before) (want - piece.length) rest
        | left => (.bytes (piece.take want :: before).reverse.flatten, .bytes left :: rest)

/-- Reads until `want` bytes are there or a read gives nothing. Interruptions are passed over. -/
def fill (want : Nat) (script : Script) : Filled × Script := fillAfter [] want script

example : fill 3 [.bytes [1], .interrupted, .bytes [2, 3, 4]] =
    (.bytes [1, 2, 3], [.bytes [4]]) := by decide
example : fill 3 [.bytes [1], .failure "no"] = (.failure "no" 2, []) := by decide

end Script

end TaggedStream
