import Mathlib.Tactic.Common
import TaggedStream.Text.Utf8

/-!
Reading and writing UTF-8 are inverse: `Utf8.decode` accepts exactly the byte strings that
`Utf8.encode` writes, each as the text that it was written from.

The well-formed sequences stand in four rows, one for each length. A row is used twice: to see that
the bytes of a character lie in it, and to see that the bytes in it are those of a character.
-/

namespace TaggedStream.Text.Utf8

/-! ## Bytes as numbers -/

theorem isTail_iff (byte : UInt8) : isTail byte = true ↔ 0x80 ≤ byte.toNat ∧ byte.toNat ≤ 0xBF := by
  simp [isTail, UInt8.le_iff_toNat_le]

/-- Which second bytes a lead byte of three allows: an early lead excludes longer forms than needed,
and the surrogates are left out. -/
theorem isSecondOfThree_iff (lead byte : UInt8) :
    isSecondOfThree lead byte = true ↔
      0x80 ≤ byte.toNat ∧ byte.toNat ≤ 0xBF ∧ (lead.toNat = 0xE0 → 0xA0 ≤ byte.toNat) ∧
        (lead.toNat = 0xED → byte.toNat ≤ 0x9F) := by
  have lower : lead = 0xE0 ↔ lead.toNat = 0xE0 := by simp [← UInt8.toNat_inj]
  have upper : lead = 0xED ↔ lead.toNat = 0xED := by simp [← UInt8.toNat_inj]
  unfold isSecondOfThree
  simp only [lower, upper]
  split
  · simp only [Bool.and_eq_true, decide_eq_true_eq, UInt8.le_iff_toNat_le, UInt8.reduceToNat]
    omega
  · split
    · simp only [Bool.and_eq_true, decide_eq_true_eq, UInt8.le_iff_toNat_le, UInt8.reduceToNat]
      omega
    · rw [isTail_iff]
      omega

/-- Which second bytes a lead byte of four allows: the first lead excludes longer forms than needed,
the last one what lies above the largest code. -/
theorem isSecondOfFour_iff (lead byte : UInt8) :
    isSecondOfFour lead byte = true ↔
      0x80 ≤ byte.toNat ∧ byte.toNat ≤ 0xBF ∧ (lead.toNat = 0xF0 → 0x90 ≤ byte.toNat) ∧
        (lead.toNat = 0xF4 → byte.toNat ≤ 0x8F) := by
  have lower : lead = 0xF0 ↔ lead.toNat = 0xF0 := by simp [← UInt8.toNat_inj]
  have upper : lead = 0xF4 ↔ lead.toNat = 0xF4 := by simp [← UInt8.toNat_inj]
  unfold isSecondOfFour
  simp only [lower, upper]
  split
  · simp only [Bool.and_eq_true, decide_eq_true_eq, UInt8.le_iff_toNat_le, UInt8.reduceToNat]
    omega
  · split
    · simp only [Bool.and_eq_true, decide_eq_true_eq, UInt8.le_iff_toNat_le, UInt8.reduceToNat]
      omega
    · rw [isTail_iff]
      omega

theorem ofNat_toNat_of_lt {n : Nat} (small : n < 256) : (UInt8.ofNat n).toNat = n := by
  simpa using small

/-- The code of a character that is built from a valid code. -/
theorem toNat_ofNat_of_valid {n : Nat} (valid : n < 0xD800 ∨ 0xDFFF < n ∧ n < 0x110000) :
    (Char.ofNat n).toNat = n := by
  have isValid : n.isValidChar := valid
  rw [Char.ofNat, dif_pos isValid]
  rfl

/-- The codes that a character may have. -/
theorem code_range (c : Char) : c.toNat < 0xD800 ∨ 0xDFFF < c.toNat ∧ c.toNat < 0x110000 :=
  c.valid

/-- The bytes of a character, by the size of its code. -/
theorem utf8EncodeChar_eq (c : Char) :
    String.utf8EncodeChar c =
      if c.toNat ≤ 0x7F then [UInt8.ofNat c.toNat]
      else if c.toNat ≤ 0x7FF then
        [UInt8.ofNat (c.toNat / 64 % 32 + 192), UInt8.ofNat (c.toNat % 64 + 128)]
      else if c.toNat ≤ 0xFFFF then
        [UInt8.ofNat (c.toNat / 4096 % 16 + 224), UInt8.ofNat (c.toNat / 64 % 64 + 128),
          UInt8.ofNat (c.toNat % 64 + 128)]
      else
        [UInt8.ofNat (c.toNat / 262144 % 8 + 240), UInt8.ofNat (c.toNat / 4096 % 64 + 128),
          UInt8.ofNat (c.toNat / 64 % 64 + 128), UInt8.ofNat (c.toNat % 64 + 128)] :=
  rfl

/-! ## The rows -/

/-- A well-formed sequence and the character that it spells. -/
inductive Row : List UInt8 → Char → Prop where
  | one {a : UInt8} (lead : a.toNat < 0x80) : Row [a] (scalar a.toNat [])
  | two {a b : UInt8} (low : 0xC2 ≤ a.toNat) (high : a.toNat ≤ 0xDF) (second : isTail b = true) :
      Row [a, b] (scalar (a.toNat % 32) [b])
  | three {a b c : UInt8} (low : 0xE0 ≤ a.toNat) (high : a.toNat ≤ 0xEF)
      (second : isSecondOfThree a b = true) (third : isTail c = true) :
      Row [a, b, c] (scalar (a.toNat % 16) [b, c])
  | four {a b c d : UInt8} (low : 0xF0 ≤ a.toNat) (high : a.toNat ≤ 0xF4)
      (second : isSecondOfFour a b = true) (third : isTail c = true) (fourth : isTail d = true) :
      Row [a, b, c, d] (scalar (a.toNat % 8) [b, c, d])

/-- A sequence consists of the bytes of its character. -/
theorem Row.encodeChar {bytes : List UInt8} {char : Char} (row : Row bytes char) :
    String.utf8EncodeChar char = bytes := by
  cases row with
  | @one a lead =>
    have code : (scalar a.toNat []).toNat = a.toNat := toNat_ofNat_of_valid (by simp; omega)
    rw [utf8EncodeChar_eq, code, if_pos (by omega), UInt8.ofNat_toNat]
  | @two a b low high second =>
    obtain ⟨bLow, bHigh⟩ := (isTail_iff b).1 second
    have code : (scalar (a.toNat % 32) [b]).toNat = a.toNat % 32 * 64 + b.toNat % 64 :=
      toNat_ofNat_of_valid (by simp; omega)
    rw [utf8EncodeChar_eq, code, if_neg (by omega), if_pos (by omega)]
    generalize nEq : a.toNat % 32 * 64 + b.toNat % 64 = n
    have first : n / 64 % 32 + 192 = a.toNat := by omega
    have last : n % 64 + 128 = b.toNat := by omega
    simp only [first, last, UInt8.ofNat_toNat]
  | @three a b c low high second third =>
    obtain ⟨bLow, bHigh, shortest, noSurrogate⟩ := (isSecondOfThree_iff a b).1 second
    obtain ⟨cLow, cHigh⟩ := (isTail_iff c).1 third
    have code : (scalar (a.toNat % 16) [b, c]).toNat =
        (a.toNat % 16 * 64 + b.toNat % 64) * 64 + c.toNat % 64 :=
      toNat_ofNat_of_valid (by simp; omega)
    rw [utf8EncodeChar_eq, code, if_neg (by omega), if_neg (by omega), if_pos (by omega)]
    generalize nEq : (a.toNat % 16 * 64 + b.toNat % 64) * 64 + c.toNat % 64 = n
    have first : n / 4096 % 16 + 224 = a.toNat := by omega
    have middle : n / 64 % 64 + 128 = b.toNat := by omega
    have last : n % 64 + 128 = c.toNat := by omega
    simp only [first, middle, last, UInt8.ofNat_toNat]
  | @four a b c d low high second third fourth =>
    obtain ⟨bLow, bHigh, shortest, largest⟩ := (isSecondOfFour_iff a b).1 second
    obtain ⟨cLow, cHigh⟩ := (isTail_iff c).1 third
    obtain ⟨dLow, dHigh⟩ := (isTail_iff d).1 fourth
    have code : (scalar (a.toNat % 8) [b, c, d]).toNat =
        ((a.toNat % 8 * 64 + b.toNat % 64) * 64 + c.toNat % 64) * 64 + d.toNat % 64 :=
      toNat_ofNat_of_valid (by simp; omega)
    rw [utf8EncodeChar_eq, code, if_neg (by omega), if_neg (by omega), if_neg (by omega)]
    generalize nEq : ((a.toNat % 8 * 64 + b.toNat % 64) * 64 + c.toNat % 64) * 64 +
      d.toNat % 64 = n
    have first : n / 262144 % 8 + 240 = a.toNat := by omega
    have second : n / 4096 % 64 + 128 = b.toNat := by omega
    have third : n / 64 % 64 + 128 = c.toNat := by omega
    have last : n % 64 + 128 = d.toNat := by omega
    simp only [first, second, third, last, UInt8.ofNat_toNat]

/-- The bytes of a character are a sequence that spells it. -/
theorem row_encodeChar (char : Char) : Row (String.utf8EncodeChar char) char := by
  have range := code_range char
  rw [utf8EncodeChar_eq]
  generalize codeEq : char.toNat = n at range
  split
  case isTrue small =>
    have first : (UInt8.ofNat n).toNat = n := ofNat_toNat_of_lt (by omega)
    generalize UInt8.ofNat n = a at first
    have charEq : scalar a.toNat [] = char := Char.toNat_inj.1 (by
      rw [scalar, toNat_ofNat_of_valid (by simp; omega)]
      simp
      omega)
    exact charEq ▸ .one (by omega)
  case isFalse notOne =>
    have last : (UInt8.ofNat (n % 64 + 128)).toNat = n % 64 + 128 :=
      ofNat_toNat_of_lt (by omega)
    have middle : (UInt8.ofNat (n / 64 % 64 + 128)).toNat = n / 64 % 64 + 128 :=
      ofNat_toNat_of_lt (by omega)
    generalize UInt8.ofNat (n % 64 + 128) = z at last ⊢
    generalize UInt8.ofNat (n / 64 % 64 + 128) = y at middle ⊢
    have lastTail : isTail z = true := (isTail_iff z).2 (by omega)
    have middleTail : isTail y = true := (isTail_iff y).2 (by omega)
    split
    case isTrue small =>
      have first : (UInt8.ofNat (n / 64 % 32 + 192)).toNat = n / 64 % 32 + 192 :=
        ofNat_toNat_of_lt (by omega)
      generalize UInt8.ofNat (n / 64 % 32 + 192) = a at first ⊢
      have charEq : scalar (a.toNat % 32) [z] = char := Char.toNat_inj.1 (by
        rw [scalar, toNat_ofNat_of_valid (by simp; omega)]
        simp
        omega)
      exact charEq ▸ .two (by omega) (by omega) lastTail
    case isFalse notTwo =>
      split
      case isTrue small =>
        have first : (UInt8.ofNat (n / 4096 % 16 + 224)).toNat = n / 4096 % 16 + 224 :=
          ofNat_toNat_of_lt (by omega)
        generalize UInt8.ofNat (n / 4096 % 16 + 224) = a at first ⊢
        have second : isSecondOfThree a y = true := (isSecondOfThree_iff a y).2 (by omega)
        have charEq : scalar (a.toNat % 16) [y, z] = char := Char.toNat_inj.1 (by
          rw [scalar, toNat_ofNat_of_valid (by simp; omega)]
          simp
          omega)
        exact charEq ▸ .three (by omega) (by omega) second lastTail
      case isFalse notThree =>
        have first : (UInt8.ofNat (n / 262144 % 8 + 240)).toNat = n / 262144 % 8 + 240 :=
          ofNat_toNat_of_lt (by omega)
        have next : (UInt8.ofNat (n / 4096 % 64 + 128)).toNat = n / 4096 % 64 + 128 :=
          ofNat_toNat_of_lt (by omega)
        generalize UInt8.ofNat (n / 262144 % 8 + 240) = a at first ⊢
        generalize UInt8.ofNat (n / 4096 % 64 + 128) = x at next ⊢
        have second : isSecondOfFour a x = true := (isSecondOfFour_iff a x).2 (by omega)
        have charEq : scalar (a.toNat % 8) [x, y, z] = char := Char.toNat_inj.1 (by
          rw [scalar, toNat_ofNat_of_valid (by simp; omega)]
          simp
          omega)
        exact charEq ▸ .four (by omega) (by omega) second middleTail lastTail

/-- The reader passes over a sequence and keeps its character. -/
theorem Row.decodeFrom {bytes : List UInt8} {char : Char} (row : Row bytes char) (index : Nat)
    (read : List Char) (rest : List UInt8) :
    decodeFrom index read (bytes ++ rest) =
      decodeFrom (index + bytes.length) (char :: read) rest := by
  cases row with
  | @one a lead =>
    have ascii : a < 0x80 := UInt8.lt_iff_toNat_lt.2 lead
    rw [Utf8.decodeFrom.eq_def]
    exact if_pos ascii
  | @two a b low high second =>
    have notAscii : ¬ a < 0x80 := by simp [UInt8.lt_iff_toNat_lt]; omega
    have lead : (0xC2 ≤ a && a ≤ 0xDF) = true := by simp [UInt8.le_iff_toNat_le]; omega
    rw [Utf8.decodeFrom.eq_def]
    simp only [List.cons_append, List.nil_append]
    rw [if_neg notAscii, if_pos lead, if_pos second]
    rfl
  | @three a b c low high second third =>
    have notAscii : ¬ a < 0x80 := by simp [UInt8.lt_iff_toNat_lt]; omega
    have notTwo : ¬ (0xC2 ≤ a && a ≤ 0xDF) = true := by simp [UInt8.le_iff_toNat_le]; omega
    have lead : (0xE0 ≤ a && a ≤ 0xEF) = true := by simp [UInt8.le_iff_toNat_le]; omega
    rw [Utf8.decodeFrom.eq_def]
    simp only [List.cons_append, List.nil_append]
    rw [if_neg notAscii, if_neg notTwo, if_pos lead, if_pos second, if_pos third]
    rfl
  | @four a b c d low high second third fourth =>
    have notAscii : ¬ a < 0x80 := by simp [UInt8.lt_iff_toNat_lt]; omega
    have notTwo : ¬ (0xC2 ≤ a && a ≤ 0xDF) = true := by simp [UInt8.le_iff_toNat_le]; omega
    have notThree : ¬ (0xE0 ≤ a && a ≤ 0xEF) = true := by simp [UInt8.le_iff_toNat_le]; omega
    have lead : (0xF0 ≤ a && a ≤ 0xF4) = true := by simp [UInt8.le_iff_toNat_le]; omega
    rw [Utf8.decodeFrom.eq_def]
    simp only [List.cons_append, List.nil_append]
    rw [if_neg notAscii, if_neg notTwo, if_neg notThree, if_pos lead, if_pos second, if_pos third,
      if_pos fourth]
    rfl

/-! ## Whole texts -/

/-- The reader passes over the bytes of any characters. -/
theorem decodeFrom_flatMap (index : Nat) (read chars : List Char) :
    decodeFrom index read (chars.flatMap String.utf8EncodeChar) = .ok (read.reverse ++ chars) := by
  induction chars generalizing index read with
  | nil => simp [decodeFrom]
  | cons char chars ih =>
    rw [List.flatMap_cons, (row_encodeChar char).decodeFrom, ih]
    simp

/-- The bytes of the characters `all` behind those that were read already. -/
def SpellsBehind (read all : List Char) (bytes : List UInt8) : Prop :=
  ∃ chars, all = read.reverse ++ chars ∧ bytes = chars.flatMap String.utf8EncodeChar

theorem SpellsBehind.row {read all : List Char} {bytes rest : List UInt8} {char : Char}
    (row : Row bytes char) (spells : SpellsBehind (char :: read) all rest) :
    SpellsBehind read all (bytes ++ rest) := by
  obtain ⟨chars, rfl, rfl⟩ := spells
  exact ⟨char :: chars, by simp, by rw [List.flatMap_cons, row.encodeChar]⟩

/-- What the reader accepts is the bytes of the characters that it adds. -/
theorem spellsBehind_of_decodeFrom {index : Nat} {read : List Char} {bytes : List UInt8}
    {all : List Char} (accepted : decodeFrom index read bytes = .ok all) :
    SpellsBehind read all bytes := by
  fun_induction decodeFrom index read bytes with
  | case1 index read =>
    cases accepted
    exact ⟨[], by simp, rfl⟩
  | case2 index read a rest lead ih =>
    exact .row (.one (UInt8.lt_iff_toNat_lt.1 lead)) (ih accepted)
  | case4 index read a notAscii lead b rest second ih =>
    simp only [Bool.and_eq_true, decide_eq_true_eq, UInt8.le_iff_toNat_le] at lead
    exact .row (.two lead.1 lead.2 second) (ih accepted)
  | case8 index read a notAscii notTwo lead b second c rest third ih =>
    simp only [Bool.and_eq_true, decide_eq_true_eq, UInt8.le_iff_toNat_le] at lead
    exact .row (.three lead.1 lead.2 second third) (ih accepted)
  | case14 index read a notAscii notTwo notThree lead b second c third d rest fourth ih =>
    simp only [Bool.and_eq_true, decide_eq_true_eq, UInt8.le_iff_toNat_le] at lead
    exact .row (.four lead.1 lead.2 second third fourth) (ih accepted)
  | _ => cases accepted

/-- Reading accepts exactly what writing produces. -/
theorem decode_eq_ok_iff {bytes : List UInt8} {text : String} :
    decode bytes = .ok text ↔ bytes = encode text := by
  constructor
  · intro accepted
    unfold decode at accepted
    cases outcome : decodeFrom 0 [] bytes with
    | error fault => simp [outcome, Except.map] at accepted
    | ok all =>
      obtain ⟨chars, rfl, rfl⟩ := spellsBehind_of_decodeFrom outcome
      simp only [outcome, Except.map, Except.ok.injEq] at accepted
      simp [encode, ← accepted]
  · intro same
    subst same
    simp [decode, encode, decodeFrom_flatMap, Except.map]

end TaggedStream.Text.Utf8
