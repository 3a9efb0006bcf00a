/-!
Big-endian digits: a natural number as a fixed count of bytes, most significant first.

Main statements: `decode_encode` reads back every number that fits, and `encode_decode` writes back
every byte string at its own length, so the two functions are inverse between the byte strings of
one length and the numbers below 256 to the power of that length.
-/

namespace TaggedStream.BigEndian

-- Powers of natural numbers are the core ones, also where an algebra library is in scope.
attribute [local instance (high)] instPowNat

/-- The `width` low-order base-256 digits of `n`, most significant first, in front of `rest`. -/
def encodeOnto (rest : List UInt8) : (width : Nat) → (n : Nat) → List UInt8
  | 0, _ => rest
  | width + 1, n => encodeOnto (UInt8.ofNat (n % 256) :: rest) width (n / 256)

/-- The `width` low-order base-256 digits of `n`, most significant first. -/
def encode (width n : Nat) : List UInt8 := encodeOnto [] width n

/-- The number that a byte string spells in base 256. -/
def decode (bytes : List UInt8) : Nat :=
  bytes.foldl (fun value byte => value * 256 + byte.toNat) 0

theorem encodeOnto_eq (rest : List UInt8) (width n : Nat) :
    encodeOnto rest width n = encode width n ++ rest := by
  induction width generalizing rest n with
  | zero => rfl
  | succ width ih =>
    rw [encode, encodeOnto, encodeOnto, ih, ih [_]]
    simp

theorem encode_zero (n : Nat) : encode 0 n = [] := rfl

/-- The last digit is the remainder; the digits in front of it are those of the quotient. -/
theorem encode_succ (width n : Nat) :
    encode (width + 1) n = encode width (n / 256) ++ [UInt8.ofNat (n % 256)] := by
  rw [encode, encodeOnto, encodeOnto_eq]

@[simp] theorem length_encode (width n : Nat) : (encode width n).length = width := by
  induction width generalizing n with
  | zero => rfl
  | succ width ih => simp [encode_succ, ih]

theorem decode_append_singleton (bytes : List UInt8) (byte : UInt8) :
    decode (bytes ++ [byte]) = decode bytes * 256 + byte.toNat := by
  simp [decode]

/-- A number that fits in `width` bytes is read back. -/
theorem decode_encode {width n : Nat} (fits : n < 256 ^ width) : decode (encode width n) = n := by
  induction width generalizing n with
  | zero =>
    have zero : n = 0 := by simpa using fits
    simp [encode_zero, decode, zero]
  | succ width ih =>
    have quotient : n / 256 < 256 ^ width := by
      rw [Nat.pow_succ] at fits
      omega
    have digit : (UInt8.ofNat (n % 256)).toNat = n % 256 := by
      simp
    rw [encode_succ, decode_append_singleton, ih quotient, digit]
    omega

/-- Writing the value of a byte string at the string's own length gives the string back. -/
theorem encode_decode (bytes : List UInt8) : encode bytes.length (decode bytes) = bytes := by
  suffices main : ∀ reversed : List UInt8,
      encode reversed.length (decode reversed.reverse) = reversed.reverse by
    simpa using main bytes.reverse
  intro reversed
  induction reversed with
  | nil => rfl
  | cons byte rest ih =>
    have small := byte.toNat_lt
    have quotient : (decode rest.reverse * 256 + byte.toNat) / 256 = decode rest.reverse := by
      omega
    have digit : (decode rest.reverse * 256 + byte.toNat) % 256 = byte.toNat := by
      omega
    rw [List.reverse_cons, List.length_cons, decode_append_singleton, encode_succ, quotient, digit,
      ih, UInt8.ofNat_toNat]

end TaggedStream.BigEndian
