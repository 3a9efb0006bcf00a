/-!
UTF-8 read strictly: the shortest form only, no surrogates, nothing above U+10FFFF.

A refusal says where the well-formed prefix ends and how many bytes are to blame: the maximal
ill-formed part at that place, or none when the text stops inside a sequence that was good so far.
-/

namespace TaggedStream.Text.Utf8

/-- Why a byte string is not UTF-8. -/
structure Fault where
  /-- The length of the longest well-formed prefix. -/
  index : Nat
  /-- How many bytes from there are ill-formed; `none` when the text ends inside a sequence. -/
  illFormed : Option Nat
deriving DecidableEq, Repr, Inhabited

/-- The words for a fault. -/
def Fault.message (fault : Fault) : String :=
  match fault.illFormed with
  | some count =>
    "invalid utf-8 sequence of " ++ toString count ++ " bytes from index " ++ toString fault.index
  | none => "incomplete utf-8 byte sequence from index " ++ toString fault.index

/-- A byte that continues a sequence. -/
def isTail (byte : UInt8) : Bool := 0x80 ≤ byte && byte ≤ 0xBF

/-- The second byte that a three byte sequence may have after `lead`. -/
def isSecondOfThree (lead byte : UInt8) : Bool :=
  if lead = 0xE0 then 0xA0 ≤ byte && byte ≤ 0xBF
  else if lead = 0xED then 0x80 ≤ byte && byte ≤ 0x9F
  else isTail byte

/-- The second byte that a four byte sequence may have after `lead`. -/
def isSecondOfFour (lead byte : UInt8) : Bool :=
  if lead = 0xF0 then 0x90 ≤ byte && byte ≤ 0xBF
  else if lead = 0xF4 then 0x80 ≤ byte && byte ≤ 0x8F
  else isTail byte

/-- The scalar value of a lead byte's payload followed by six bits from each further byte. -/
def scalar (lead : Nat) (tails : List UInt8) : Char :=
  Char.ofNat (tails.foldl (fun value byte => value * 64 + byte.toNat % 64) lead)

/-- Reads the characters of the bytes that start at `index`, in front of which `read` holds the
characters so far in reverse. -/
def decodeFrom (index : Nat) (read : List Char) : List UInt8 → Except Fault (List Char)
  | [] => .ok read.reverse
  | a :: rest =>
    if a < 0x80 then decodeFrom (index + 1) (scalar a.toNat [] :: read) rest
    else if 0xC2 ≤ a && a ≤ 0xDF then
      match rest with
      | [] => .error ⟨index, none⟩
      | b :: rest =>
        if isTail b then decodeFrom (index + 2) (scalar (a.toNat % 32) [b] :: read) rest
        else .error ⟨index, some 1⟩
    else if 0xE0 ≤ a && a ≤ 0xEF then
      match rest with
      | [] => .error ⟨index, none⟩
      | b :: rest =>
        if isSecondOfThree a b then
          match rest with
          | [] => .error ⟨index, none⟩
          | c :: rest =>
            if isTail c then decodeFrom (index + 3) (scalar (a.toNat % 16) [b, c] :: read) rest
            else .error ⟨index, some 2⟩
        else .error ⟨index, some 1⟩
    else if 0xF0 ≤ a && a ≤ 0xF4 then
      match rest with
      | [] => .error ⟨index, none⟩
      | b :: rest =>
        if isSecondOfFour a b then
          match rest with
          | [] => .error ⟨index, none⟩
          | c :: rest =>
            if isTail c then
              match rest with
              | [] => .error ⟨index, none⟩
              | d :: rest =>
                if isTail d then
                  decodeFrom (index + 4) (scalar (a.toNat % 8) [b, c, d] :: read) rest
                else .error ⟨index, some 3⟩
            else .error ⟨index, some 2⟩
        else .error ⟨index, some 1⟩
    else .error ⟨index, some 1⟩

/-- The text that a byte string spells in UTF-8. -/
def decode (bytes : List UInt8) : Except Fault String :=
  (decodeFrom 0 [] bytes).map String.ofList

/-- The bytes of a text. -/
def encode (text : String) : List UInt8 :=
  text.toList.flatMap String.utf8EncodeChar

example : decodeFrom 0 [] [0x68, 0xC3, 0xA9] = .ok ['h', 'é'] := rfl
example : decodeFrom 0 [] [0x61, 0xE2, 0x82] = .error ⟨1, none⟩ := rfl
example : decodeFrom 0 [] [0xE2, 0x28, 0xA1] = .error ⟨0, some 1⟩ := rfl
example : decodeFrom 0 [] [0xED, 0xA0, 0x80] = .error ⟨0, some 1⟩ := rfl
example : decodeFrom 0 [] [0xF0, 0x9F, 0x98, 0x41] = .error ⟨0, some 3⟩ := rfl

end TaggedStream.Text.Utf8
