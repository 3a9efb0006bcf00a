import TaggedStream.Character.Set

/-!
Sets of characters as sequences of byte ranges.

The encodings of the characters in a range are not all sequences between those of its ends. Cut at
the right places, a range falls into pieces of which that is true: byte by byte, the encodings of a
piece go from the encoding of its first character to that of its last.
-/

namespace TaggedStream.Pattern

-- Powers of natural numbers are the core ones, also where an algebra library is in scope.
attribute [local instance (high)] instPowNat

/-- The first and the last of some bytes. -/
abbrev ByteRange := Nat × Nat

/-- The bytes that encode a code point. -/
def encodedBytes (code : Nat) : List Nat :=
  if code < 0x80 then [code]
  else if code < 0x800 then [0xC0 + code / 0x40, 0x80 + code % 0x40]
  else if code < 0x10000 then
    [0xE0 + code / 0x1000, 0x80 + code / 0x40 % 0x40, 0x80 + code % 0x40]
  else
    [0xF0 + code / 0x40000, 0x80 + code / 0x1000 % 0x40, 0x80 + code / 0x40 % 0x40,
      0x80 + code % 0x40]

/-- The last code point in front of a cut, if the range has to be cut because its ends differ in
more than their last `bits` bits, and not all values of those bits occur. -/
def cutAtBits? (first last bits : Nat) : Option Nat :=
  let block := 2 ^ bits
  if first / block = last / block then none
  else if first % block ≠ 0 then some (first / block * block + block - 1)
  else if last % block ≠ block - 1 then some (last / block * block - 1)
  else none

/-- The last code point in front of the first cut of a range: where the encodings get longer, or
where their last bytes do not go through all values. -/
def cut? (first last : Nat) : Option Nat :=
  match [0x7F, 0x7FF, 0xFFFF].find? fun longest => first ≤ longest ∧ longest < last with
  | some longest => some longest
  | none =>
    if last < 0x80 then none
    else cutAtBits? first last 6 <|> cutAtBits? first last 12 <|> cutAtBits? first last 18

/-- The sequences of byte ranges of a range of code points. Twenty cuts one inside the other are
more than there can be. -/
def sequencesOf (fuel : Nat) (first last : Nat) : List (List ByteRange) :=
  match fuel, cut? first last with
  | fuel + 1, some cut => sequencesOf fuel first cut ++ sequencesOf fuel (cut + 1) last
  | _, _ => [(encodedBytes first).zip (encodedBytes last)]

/-- The sequences of byte ranges of a set of characters, in increasing order. -/
def byteSequences (set : CharSet) : List (List ByteRange) :=
  set.ranges.flatMap fun range => sequencesOf 20 range.1 range.2

example : byteSequences (.range 0x7F 0x802) =
    [[(0x7F, 0x7F)], [(0xC2, 0xDF), (0x80, 0xBF)], [(0xE0, 0xE0), (0xA0, 0xA0), (0x80, 0x82)]] := by
  cbv

end TaggedStream.Pattern
