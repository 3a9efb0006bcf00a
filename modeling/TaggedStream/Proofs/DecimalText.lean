import Mathlib.Algebra.Field.Rat
import Mathlib.Tactic.FieldSimp
import Mathlib.Tactic.IntervalCases
import Mathlib.Tactic.Ring
import TaggedStream.Number.Decimal

/-!
The text of a decimal, read as a number.

A plain literal is a sign or none, digits, and perhaps a point with more digits behind it. The text
of every decimal is one, whatever its scale is: the zeros that stand in the place of missing digits
change neither the form nor the number.
-/

namespace TaggedStream.Decimal

/-! ## Plain literals -/

/-- What stands in a plain literal: whether there is a minus sign, the digits in front of the point,
and those behind it, if there is a point. -/
structure Literal where
  negative : Bool
  whole : List Char
  fraction : Option (List Char)
deriving DecidableEq, Repr

namespace Literal

/-- The digits behind the point. -/
def places (l : Literal) : List Char := l.fraction.getD []

/-- Reads what follows the sign: at least one digit, and at least one behind a point. -/
def unsigned? (negative : Bool) (text : List Char) : Option Literal :=
  match text.takeWhile Char.isDigit, text.dropWhile Char.isDigit with
  | [], _ => none
  | whole, [] => some ⟨negative, whole, none⟩
  | whole, '.' :: fraction =>
    if fraction ≠ [] ∧ fraction.all Char.isDigit then some ⟨negative, whole, some fraction⟩
    else none
  | _, _ => none

/-- Reads a plain literal. -/
def read? : List Char → Option Literal
  | '-' :: text => unsigned? true text
  | text => unsigned? false text

/-- The number that a literal stands for. -/
def value (l : Literal) : ℚ :=
  (if l.negative then -1 else 1) *
    (Nat.ofDigitChars 10 l.whole 0 + Nat.ofDigitChars 10 l.places 0 / 10 ^ l.places.length)

example : read? ['-', '0', '.', '0', '5'] = some ⟨true, ['0'], some ['0', '5']⟩ := by decide
example : read? ['5', '.'] = none ∧ read? ['.', '5'] = none ∧ read? ['-', '-', '5'] = none := by
  decide

/-- The characters of a literal. -/
def chars (l : Literal) : List Char :=
  (if l.negative then ['-'] else []) ++ (l.whole ++ l.fraction.elim [] ('.' :: ·))

/-- Digits and nothing else, in front of the point and behind it. -/
structure Plain (l : Literal) : Prop where
  whole : l.whole ≠ []
  fraction : l.fraction ≠ some []
  digits : ∀ c ∈ l.whole ++ l.places, c.isDigit = true

/-- Digits in front of something else are what is taken of a text. -/
theorem span_digits {digits rest : List Char} (all : ∀ c ∈ digits, c.isDigit = true)
    (other : ∀ c ∈ rest.head?, c.isDigit = false) :
    (digits ++ rest).takeWhile Char.isDigit = digits ∧
      (digits ++ rest).dropWhile Char.isDigit = rest := by
  rw [List.takeWhile_append_of_pos all, List.dropWhile_append_of_pos all]
  cases rest with
  | nil => simp
  | cons c rest => simp [other c rfl]

theorem unsigned?_of_plain {l : Literal} (plain : l.Plain) :
    unsigned? l.negative (l.whole ++ l.fraction.elim [] ('.' :: ·)) = some l := by
  obtain ⟨negative, whole, fraction⟩ := l
  obtain ⟨nonempty, places, digits⟩ := plain
  obtain ⟨before, behind⟩ := List.forall_mem_append.1 digits
  have other : ∀ c ∈ (fraction.elim [] ('.' :: ·)).head?, c.isDigit = false := by
    intro c first
    cases fraction with
    | none => cases first
    | some fraction =>
      cases first
      rfl
  obtain ⟨taken, left⟩ := span_digits before other
  rw [unsigned?, taken, left]
  cases whole with
  | nil => exact absurd rfl nonempty
  | cons =>
    cases fraction with
    | none => rfl
    | some fraction =>
      exact if_pos ⟨fun none => places (congrArg some none), List.all_eq_true.2 behind⟩

/-- A plain literal is read as what it is. -/
theorem read?_chars {l : Literal} (plain : l.Plain) : read? l.chars = some l := by
  refine Eq.trans ?_ (unsigned?_of_plain plain)
  obtain ⟨negative, whole, fraction⟩ := l
  cases negative with
  | true => rfl
  | false =>
    cases whole with
    | nil => exact absurd rfl plain.whole
    | cons c whole =>
      -- a digit is not a sign
      have digit : c.isDigit = true := plain.digits c (List.mem_cons_self ..)
      have other : c ≠ '-' := by
        rintro rfl
        cases digit
      change read? (c :: (whole ++ fraction.elim [] ('.' :: ·))) = _
      unfold read?
      split
      next same => exact absurd (List.cons.inj same).1 other
      next => rfl

/-- The point only divides. -/
theorem value_eq (l : Literal) : l.value = (if l.negative then -1 else 1) *
    (Nat.ofDigitChars 10 (l.whole ++ l.places) 0 : ℚ) / 10 ^ l.places.length := by
  have joined : Nat.ofDigitChars 10 (l.whole ++ l.places) 0 =
      10 ^ l.places.length * Nat.ofDigitChars 10 l.whole 0 + Nat.ofDigitChars 10 l.places 0 := by
    rw [Nat.ofDigitChars_append]
    exact Nat.ofDigitChars_eq_ofDigitChars_zero
  rw [value, joined]
  push_cast
  field_simp

end Literal

/-! ## Digits of numbers -/

theorem isDigit_of_mem_toDigits (n : ℕ) : ∀ c ∈ Nat.toDigits 10 n, c.isDigit = true :=
  fun _ => Nat.isDigit_of_mem_toDigits (by decide) (by decide)

theorem isDigit_of_mem_zeros (count : ℕ) : ∀ c ∈ List.replicate count '0', c.isDigit = true := by
  intro c zero
  rw [List.eq_of_mem_replicate zero]
  rfl

/-- Zeros in front do not count. -/
theorem ofDigitChars_zeros_append (count : ℕ) (digits : List Char) :
    Nat.ofDigitChars 10 (List.replicate count '0' ++ digits) 0 = Nat.ofDigitChars 10 digits 0 := by
  rw [Nat.ofDigitChars_append, Nat.ofDigitChars_replicate_zero, Nat.mul_zero]

/-- Only zero begins with the digit zero. -/
theorem head?_toDigits_ne {n : ℕ} (pos : 0 < n) : (Nat.toDigits 10 n).head? ≠ some '0' := by
  induction n using Nat.strong_induction_on with
  | h n ih =>
    by_cases small : n < 10
    · rw [Nat.toDigits_of_lt_base small]
      interval_cases n <;> decide
    · rw [Nat.toDigits_of_base_le (by decide) (Nat.le_of_not_lt small),
        List.head?_append_of_ne_nil _ Nat.toDigits_ne_nil]
      exact ih (n / 10) (by omega) (by omega)

/-- A sign and a magnitude make up an integer. -/
theorem signed_natAbs (i : ℤ) :
    (if decide (i < 0) then -1 else 1) * (i.natAbs : ℚ) = i := by
  rw [← Int.cast_natCast, Int.natCast_natAbs]
  by_cases negative : i < 0
  · simp [negative, abs_of_neg negative]
  · simp [negative, abs_of_nonneg (Int.not_lt.1 negative)]

/-! ## Texts -/

/-- A plain literal that says exactly what a decimal is: the same number, with a point when the
scale is positive and as many digits behind it, and then with no zero in front that could be left
out. -/
structure Literal.Faithful (l : Literal) (unscaled scale : ℤ) : Prop extends l.Plain where
  value : l.value = unscaled * (10 : ℚ) ^ (-scale)
  point : l.fraction.isSome ↔ 0 < scale
  count : (l.places.length : ℤ) = max scale 0
  leading : 0 < scale → l.whole.head? = some '0' → l.whole = ['0']

section

variable {unscaled scale : ℤ}

/-- The digits of a decimal are read as its number, wherever the point and the zeros are. -/
theorem Literal.value_of_digits {l : Literal} (zeros : ℕ)
    (negative : l.negative = decide (unscaled < 0))
    (digits : Nat.ofDigitChars 10 (l.whole ++ l.places) 0 = 10 ^ zeros * unscaled.natAbs)
    (shift : (zeros : ℤ) - l.places.length = -scale) :
    l.value = unscaled * (10 : ℚ) ^ (-scale) := by
  rw [l.value_eq, digits, negative, ← shift, zpow_sub₀ (by norm_num), zpow_natCast, zpow_natCast,
    ← signed_natAbs unscaled]
  push_cast
  ring

/-- Without a positive scale, zeros are appended. -/
theorem faithful_of_nonpos (nonpos : scale ≤ 0) :
    ∃ l : Literal, digits unscaled scale = l.chars ∧ l.Faithful unscaled scale := by
  let magnitude := Nat.toDigits 10 unscaled.natAbs
  let zeros := List.replicate scale.natAbs '0'
  refine ⟨⟨decide (unscaled < 0), magnitude ++ zeros, none⟩, ?_, ⟨?_, nofun, ?_⟩, ?_, ?_, ?_, ?_⟩
  · simp [digits, Literal.chars, nonpos, magnitude, zeros]
  · exact List.append_ne_nil_of_left_ne_nil Nat.toDigits_ne_nil _
  · rw [Literal.places, Option.getD_none, List.append_nil]
    exact List.forall_mem_append.2 ⟨isDigit_of_mem_toDigits _, isDigit_of_mem_zeros _⟩
  · apply Literal.value_of_digits scale.natAbs rfl
    · rw [Literal.places, Option.getD_none, List.append_nil, Nat.ofDigitChars_append,
        Nat.ofDigitChars_replicate_zero, Nat.ofDigitChars_ten_toDigits]
    · simp [Literal.places, abs_of_nonpos nonpos]
  · simp [nonpos]
  · simp [Literal.places, nonpos]
  · exact fun pos => absurd nonpos (Int.not_le.2 pos)

/-- With a positive scale, there is a point in front of as many digits. -/
theorem faithful_of_point (pos : 0 < scale) (whole fraction : List Char)
    (text : digits unscaled scale =
      (if unscaled < 0 then ['-'] else []) ++ (whole ++ '.' :: fraction))
    (nonempty : whole ≠ []) (isDigit : ∀ c ∈ whole ++ fraction, c.isDigit = true)
    (count : fraction.length = scale.toNat)
    (number : Nat.ofDigitChars 10 (whole ++ fraction) 0 = unscaled.natAbs)
    (leading : whole.head? = some '0' → whole = ['0']) :
    ∃ l : Literal, digits unscaled scale = l.chars ∧ l.Faithful unscaled scale := by
  have places : (fraction.length : ℤ) = scale := by omega
  refine ⟨⟨decide (unscaled < 0), whole, some fraction⟩, ?_, ⟨nonempty, ?_, isDigit⟩, ?_, ?_, ?_,
    fun _ => leading⟩
  · rw [text, Literal.chars]
    simp only [decide_eq_true_eq, Option.elim_some]
  · intro none
    rw [Option.some.inj none] at places
    exact pos.ne places
  · apply Literal.value_of_digits 0 rfl
    · rw [pow_zero, one_mul]
      exact number
    · simp [Literal.places, places]
  · simp [pos]
  · simp [Literal.places, places, pos.le]

/-- With more digits than places, the point stands among them, and the first digit is not zero. -/
theorem faithful_of_many_digits (pos : 0 < scale)
    (many : scale.toNat < (Nat.toDigits 10 unscaled.natAbs).length) :
    ∃ l : Literal, digits unscaled scale = l.chars ∧ l.Faithful unscaled scale := by
  obtain ⟨magnitude, isMagnitude⟩ : ∃ m, m = Nat.toDigits 10 unscaled.natAbs := ⟨_, rfl⟩
  rw [← isMagnitude] at many
  obtain ⟨front, isFront⟩ : ∃ front, front = magnitude.length - scale.toNat := ⟨_, rfl⟩
  have whole : magnitude.take front ++ magnitude.drop front = magnitude := List.take_append_drop ..
  have taken : (magnitude.take front).length = front := by
    rw [List.length_take]
    omega
  apply faithful_of_point pos (magnitude.take front) (magnitude.drop front)
  · rw [digits, ← isMagnitude]
    simp only [Int.not_le.2 pos, many, ← isFront, if_true, if_false, List.append_assoc]
  · exact List.ne_nil_of_length_pos (by omega)
  · rw [whole, isMagnitude]
    exact isDigit_of_mem_toDigits _
  · rw [List.length_drop]
    omega
  · rw [whole, isMagnitude, Nat.ofDigitChars_ten_toDigits]
  · -- a number of two digits or more is positive
    intro zero
    have first : magnitude.head? = some '0' := by
      rw [← whole, List.head?_append_of_ne_nil _ (List.ne_nil_of_length_pos (by omega)), zero]
    rw [isMagnitude] at first many
    rcases Nat.eq_zero_or_pos unscaled.natAbs with none | some
    · rw [none, Nat.toDigits_zero, List.length_singleton] at many
      omega
    · exact absurd first (head?_toDigits_ne some)

/-- With no more digits than places, there is one zero before the point and more behind it. -/
theorem faithful_of_few_digits (pos : 0 < scale)
    (few : (Nat.toDigits 10 unscaled.natAbs).length ≤ scale.toNat) :
    ∃ l : Literal, digits unscaled scale = l.chars ∧ l.Faithful unscaled scale := by
  obtain ⟨magnitude, isMagnitude⟩ : ∃ m, m = Nat.toDigits 10 unscaled.natAbs := ⟨_, rfl⟩
  rw [← isMagnitude] at few
  let zeros := List.replicate (scale.toNat - magnitude.length) '0'
  apply faithful_of_point pos ['0'] (zeros ++ magnitude)
  · rw [digits, ← isMagnitude]
    simp only [Int.not_le.2 pos, Nat.not_lt.2 few, if_false]
    rfl
  · exact List.cons_ne_nil _ _
  · change ∀ c ∈ '0' :: (zeros ++ magnitude), c.isDigit = true
    rw [isMagnitude]
    exact List.forall_mem_cons.2 ⟨rfl, List.forall_mem_append.2
      ⟨isDigit_of_mem_zeros _, isDigit_of_mem_toDigits _⟩⟩
  · rw [List.length_append, List.length_replicate]
    omega
  · change Nat.ofDigitChars 10 (zeros ++ magnitude) 0 = _
    rw [ofDigitChars_zeros_append, isMagnitude, Nat.ofDigitChars_ten_toDigits]
  · exact fun _ => rfl

end

/-- The text of a decimal is a plain literal, and reading it gives the decimal back exactly. -/
theorem text_faithful (d : Decimal) : ∃ l : Literal, Literal.read? d.text.toList = some l ∧
    l.Faithful d.unscaled d.scale.toInt := by
  have spelled : ∃ l : Literal, digits d.unscaled d.scale.toInt = l.chars ∧
      l.Faithful d.unscaled d.scale.toInt := by
    rcases le_or_gt d.scale.toInt 0 with nonpos | pos
    · exact faithful_of_nonpos nonpos
    rcases Nat.lt_or_ge d.scale.toInt.toNat (Nat.toDigits 10 d.unscaled.natAbs).length with
      many | few
    · exact faithful_of_many_digits pos many
    · exact faithful_of_few_digits pos few
  obtain ⟨l, text, faithful⟩ := spelled
  refine ⟨l, ?_, faithful⟩
  rw [Decimal.text, String.toList_ofList, text]
  exact Literal.read?_chars faithful.toPlain

end TaggedStream.Decimal
