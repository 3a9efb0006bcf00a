import Mathlib.Data.List.Induction
import Mathlib.Tactic.Ring
import TaggedStream.Bytes.TwosComplement

/-!
Integers of any size as byte strings. `Spells` says which integer a byte string stands for, whatever
its length: its first bit is the sign, so a string may be longer than it has to be. `decode` reads
this integer off, and `encode` writes a string for it.
-/

namespace TaggedStream

namespace BigEndian

theorem decode_lt (bytes : List UInt8) : decode bytes < 256 ^ bytes.length := by
  induction bytes using List.reverseRecOn with
  | nil => simp [decode]
  | append_singleton bytes byte ih =>
    have small := byte.toNat_lt
    rw [decode_append_singleton, List.length_append, List.length_singleton, Nat.pow_succ]
    omega

theorem decode_cons (byte : UInt8) (bytes : List UInt8) :
    decode (byte :: bytes) = byte.toNat * 256 ^ bytes.length + decode bytes := by
  induction bytes using List.reverseRecOn with
  | nil => simp [decode]
  | append_singleton bytes last ih =>
    rw [← List.cons_append, decode_append_singleton, ih, decode_append_singleton,
      List.length_append, List.length_singleton, Nat.pow_succ]
    ring

end BigEndian

namespace TwosComplement

/-- The byte string stands for the integer: it is not empty, the integer lies in the range of its
length, and its digits are those of the integer or, below zero, of its complement. -/
structure Spells (bytes : List UInt8) (i : Int) : Prop where
  ne_nil : bytes ≠ []
  low : -((256 ^ bytes.length : Nat) : Int) ≤ 2 * i
  high : 2 * i < (256 ^ bytes.length : Nat)
  digits : (BigEndian.decode bytes : Int) = if i < 0 then i + (256 ^ bytes.length : Nat) else i

/-- A byte string stands for one integer at most. -/
theorem Spells.unique {bytes : List UInt8} {i j : Int} (left : Spells bytes i)
    (right : Spells bytes j) : i = j := by
  have lowLeft := left.low
  have highLeft := left.high
  have lowRight := right.low
  have highRight := right.high
  have same := left.digits.symm.trans right.digits
  generalize 256 ^ bytes.length = size at *
  split at same <;> split at same <;> omega

/-- Every byte string that is not empty stands for the integer that is read off it. -/
theorem spells_decode {bytes : List UInt8} (ne_nil : bytes ≠ []) : Spells bytes (decode bytes) := by
  match bytes, ne_nil with
  | first :: rest, ne_nil =>
    have value := BigEndian.decode_cons first rest
    have bound := BigEndian.decode_lt rest
    have small := first.toNat_lt
    have size : 256 ^ (first :: rest).length = 256 * 256 ^ rest.length := by
      rw [List.length_cons, Nat.pow_succ, Nat.mul_comm]
    by_cases positive : first < 128
    · have sign : first.toNat ≤ 127 := Nat.le_of_lt_succ (UInt8.lt_iff_toNat_lt.1 positive)
      have scaled : first.toNat * 256 ^ rest.length ≤ 127 * 256 ^ rest.length :=
        Nat.mul_le_mul_right _ sign
      have result : decode (first :: rest) = BigEndian.decode (first :: rest) := if_pos positive
      refine ⟨ne_nil, ?_, ?_, ?_⟩ <;> rw [result, size, value]
      · omega
      · omega
      · rw [if_neg (by omega)]
    · have sign : 128 ≤ first.toNat := Nat.le_of_not_lt fun low =>
        positive (UInt8.lt_iff_toNat_lt.2 low)
      have scaledLow : 128 * 256 ^ rest.length ≤ first.toNat * 256 ^ rest.length :=
        Nat.mul_le_mul_right _ sign
      have scaledHigh : first.toNat * 256 ^ rest.length ≤ 255 * 256 ^ rest.length :=
        Nat.mul_le_mul_right _ (by omega)
      have result : decode (first :: rest) =
          BigEndian.decode (first :: rest) - (256 ^ (first :: rest).length : Nat) :=
        if_neg positive
      refine ⟨ne_nil, ?_, ?_, ?_⟩ <;> rw [result, size, value]
      · omega
      · omega
      · rw [if_pos (by omega)]
        omega

/-- Reading finds the integer that a byte string stands for. -/
theorem decode_eq_iff {bytes : List UInt8} {i : Int} (ne_nil : bytes ≠ []) :
    decode bytes = i ↔ Spells bytes i := by
  constructor
  · intro same
    subst same
    exact spells_decode ne_nil
  · intro spells
    exact (spells_decode ne_nil).unique spells

/-! ## Writing -/

/-- The width leaves room for the sign. -/
theorem range_width (i : Int) :
    -((256 ^ width i : Nat) : Int) ≤ 2 * i ∧ 2 * i < (256 ^ width i : Nat) := by
  unfold width
  generalize magnitudeEq : (if i < 0 then (-i - 1).toNat else i.toNat) = magnitude
  generalize bitsEq : (if magnitude = 0 then 0 else magnitude.log2 + 1) = bits
  have fits : magnitude < 2 ^ bits := by
    subst bitsEq
    split
    case isTrue zero => simp [zero]
    case isFalse => exact Nat.lt_log2_self
  have wide : 2 * 2 ^ bits ≤ 256 ^ (bits / 8 + 1) := by
    have asBits : (256 : Nat) ^ (bits / 8 + 1) = 2 ^ (8 * (bits / 8 + 1)) := by
      rw [Nat.pow_mul]
    rw [asBits, ← Nat.pow_succ']
    exact Nat.pow_le_pow_right (by decide) (by omega)
  simp only [bitsEq]
  split at magnitudeEq <;> omega

/-- No width below leaves room for the sign. -/
theorem width_le {i : Int} {size : Nat} (some : 0 < size) (low : -((256 ^ size : Nat) : Int) ≤ 2 * i)
    (high : 2 * i < (256 ^ size : Nat)) : width i ≤ size := by
  unfold width
  generalize magnitudeEq : (if i < 0 then (-i - 1).toNat else i.toNat) = magnitude
  have asBits : (256 : Nat) ^ size = 2 * 2 ^ (8 * size - 1) := by
    rw [← Nat.pow_succ', ← Nat.pow_mul 2 8]
    congr 1
    omega
  have small : magnitude < 2 ^ (8 * size - 1) := by
    split at magnitudeEq <;> omega
  simp only
  split
  case isTrue => omega
  case isFalse ne_zero =>
    have bits : magnitude.log2 < 8 * size - 1 := (Nat.log2_lt ne_zero).2 small
    omega

/-- Writing gives a byte string for the integer. -/
theorem spells_encode (i : Int) : Spells (encode i) i := by
  obtain ⟨low, high⟩ := range_width i
  have length : (encode i).length = width i := BigEndian.length_encode ..
  have positive : 0 < 256 ^ width i := Nat.pow_pos (by decide)
  have remainder : i % (256 ^ width i : Nat) = if i < 0 then i + (256 ^ width i : Nat) else i := by
    split
    case isTrue negative =>
      rw [← Int.add_emod_right, Int.emod_eq_of_lt (by omega) (by omega)]
    case isFalse => exact Int.emod_eq_of_lt (by omega) (by omega)
  have digits : (BigEndian.decode (encode i) : Int) = i % (256 ^ width i : Nat) := by
    have small : (i % (256 ^ width i : Nat)).toNat < 256 ^ width i := by
      have := Int.emod_nonneg i (b := (256 ^ width i : Nat)) (by omega)
      have := Int.emod_lt_of_pos i (b := (256 ^ width i : Nat)) (by omega)
      omega
    rw [encode, BigEndian.decode_encode small, Int.toNat_of_nonneg]
    exact Int.emod_nonneg i (by omega)
  refine ⟨?_, ?_, ?_, ?_⟩
  · intro empty
    rw [empty] at length
    simp [width] at length
  · rwa [length]
  · rwa [length]
  · rw [length, digits, remainder]

/-- No byte string for the integer is shorter than the one that is written. -/
theorem Spells.length_encode_le {bytes : List UInt8} {i : Int} (spells : Spells bytes i) :
    (encode i).length ≤ bytes.length := by
  rw [encode, BigEndian.length_encode]
  exact width_le (List.length_pos_iff.2 spells.ne_nil) spells.low spells.high

end TwosComplement

end TaggedStream
