/-!
Numerals in base ten and base sixteen at a least width, and hexadecimal dumps of bytes.

Main statement: `ofDump?_dump` reads every dump back.
-/

namespace TaggedStream.Text

/-- Lower-case hexadecimal digits, without leading zeros. -/
def hex (n : Nat) : String := String.ofList (Nat.toDigits 16 n)

/-- Text padded on the left with zeros to at least `width` characters. -/
def padded (width : Nat) (text : String) : String :=
  String.ofList (List.replicate (width - text.length) '0') ++ text

/-- Lower-case hexadecimal digits, at least `width` of them. -/
def hexPadded (width n : Nat) : String := padded width (hex n)

/-- Decimal digits, at least `width` of them. -/
def decimalPadded (width n : Nat) : String := padded width (toString n)

example : hexPadded 4 0x5f = "005f" := by decide
example : decimalPadded 2 7 = "07" := by decide

/-! ## Dumps -/

/-- Two lower-case hexadecimal digits for each byte. -/
def dump (bytes : List UInt8) : String :=
  String.ofList
    (bytes.flatMap fun byte => [Nat.digitChar (byte.toNat / 16), Nat.digitChar (byte.toNat % 16)])

/-- The number below sixteen that a lower-case hexadecimal digit stands for. -/
def hexDigit? (c : Char) : Option Nat :=
  if c.isDigit then some (c.toNat - 48)
  else if 'a' ≤ c ∧ c ≤ 'f' then some (c.toNat - 87)
  else none

/-- Reads pairs of digits behind the bytes that were read before, the last of which comes first. -/
def ofDigits? (before : List UInt8) : List Char → Option (List UInt8)
  | [] => some before.reverse
  | [_] => none
  | high :: low :: rest =>
    match hexDigit? high, hexDigit? low with
    | some high, some low => ofDigits? (UInt8.ofNat (high * 16 + low) :: before) rest
    | _, _ => none

/-- The bytes that a dump shows. -/
def ofDump? (text : String) : Option (List UInt8) := ofDigits? [] text.toList

theorem hexDigit?_digitChar : ∀ n < 16, hexDigit? (Nat.digitChar n) = some n := by
  decide

theorem ofDigits?_flatMap (before bytes : List UInt8) :
    ofDigits? before
        (bytes.flatMap fun byte =>
          [Nat.digitChar (byte.toNat / 16), Nat.digitChar (byte.toNat % 16)]) =
      some (before.reverse ++ bytes) := by
  induction bytes generalizing before with
  | nil => simp [ofDigits?]
  | cons byte rest ih =>
    have small := byte.toNat_lt
    have whole : byte.toNat / 16 * 16 + byte.toNat % 16 = byte.toNat := by omega
    simp only [List.flatMap_cons, List.cons_append, List.nil_append, ofDigits?]
    rw [hexDigit?_digitChar _ (by omega), hexDigit?_digitChar _ (by omega)]
    simp [whole, ih]

/-- A dump is read back. -/
theorem ofDump?_dump (bytes : List UInt8) : ofDump? (dump bytes) = some bytes := by
  rw [ofDump?, dump, String.toList_ofList, ofDigits?_flatMap]
  rfl

end TaggedStream.Text
