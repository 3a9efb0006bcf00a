import Mathlib.Algebra.Group.Int.Defs
import Mathlib.Tactic.Common
import TaggedStream.Time.Reckoning

/-!
Machine reckoning is exact.

Where the ranges of the calendar keep an operation within its bytes, it comes to what the integers
come to; where they do not, the operation is checked. So counting in machine integers gives the same
values and the same refusals as counting without bounds.
-/

namespace TaggedStream

/-! ## Operations that stay within their bytes -/

namespace Reckoning

/-- A sum that eight bytes hold is the sum of the integers. -/
theorem toInt_add {a b : Int64} (low : -2 ^ 63 ≤ a.toInt + b.toInt)
    (high : a.toInt + b.toInt < 2 ^ 63) : (a + b).toInt = a.toInt + b.toInt := by
  rw [Int64.toInt_add]
  exact Int.bmod_eq_of_le (by omega) (by omega)

/-- A sum that four bytes hold is the sum of the integers. -/
theorem toInt_add_short {a b : Int32} (low : -2 ^ 31 ≤ a.toInt + b.toInt)
    (high : a.toInt + b.toInt < 2 ^ 31) : (a + b).toInt = a.toInt + b.toInt := by
  rw [Int32.toInt_add]
  exact Int.bmod_eq_of_le (by omega) (by omega)

/-- A difference that eight bytes hold is the difference of the integers. -/
theorem toInt_sub {a b : Int64} (low : -2 ^ 63 ≤ a.toInt - b.toInt)
    (high : a.toInt - b.toInt < 2 ^ 63) : (a - b).toInt = a.toInt - b.toInt := by
  rw [Int64.toInt_sub]
  exact Int.bmod_eq_of_le (by omega) (by omega)

/-- A product that eight bytes hold is the product of the integers. -/
theorem toInt_mul {a b : Int64} (low : -2 ^ 63 ≤ a.toInt * b.toInt)
    (high : a.toInt * b.toInt < 2 ^ 63) : (a * b).toInt = a.toInt * b.toInt := by
  rw [Int64.toInt_mul]
  exact Int.bmod_eq_of_le (by omega) (by omega)

theorem toInt_nanosPerSecond : nanosPerSecond.toInt = 1000000000 := by decide

/-- A checked sum is the sum of the integers. -/
theorem add?_eq_some_iff {a b c : Int64} : add? a b = some c ↔ c.toInt = a.toInt + b.toInt := by
  unfold add?
  constructor
  · intro checked
    split at checked
    case isTrue fits =>
      cases checked
      exact toInt_add (by omega) (by omega)
    case isFalse => cases checked
  · intro same
    have low := c.le_toInt
    have high := c.toInt_lt
    have sum : (a + b).toInt = a.toInt + b.toInt := toInt_add (by omega) (by omega)
    rw [if_pos (by omega), Int64.toInt_inj.1 (same.trans sum.symm)]

/-- A narrowed count is the same integer. -/
theorem narrow?_eq_some_iff {a : Int64} {b : Int32} : narrow? a = some b ↔ b.toInt = a.toInt := by
  have kept (fits : -2147483648 ≤ a.toInt ∧ a.toInt ≤ 2147483647) :
      a.toInt32.toInt = a.toInt := by
    rw [Int64.toInt_toInt32]
    exact Int.bmod_eq_of_le (by omega) (by omega)
  unfold narrow?
  constructor
  · intro checked
    split at checked
    case isTrue fits =>
      cases checked
      exact kept fits
    case isFalse => cases checked
  · intro same
    have low := b.le_toInt
    have high := b.toInt_lt
    have fits : -2147483648 ≤ a.toInt ∧ a.toInt ≤ 2147483647 := by omega
    rw [if_pos fits, Int32.toInt_inj.1 (same.trans (kept fits).symm)]

/-- The low four bytes of a count that they can hold are the count. -/
theorem toNat_low {a : Int64} (nonneg : 0 ≤ a.toInt) (small : a.toInt < 2 ^ 32) :
    a.toUInt64.toUInt32.toNat = a.toInt.toNat := by
  have whole : a.toUInt64.toNat = a.toInt.toNat :=
    Int64.toNat_toUInt64_of_le (Int64.le_iff_toInt_le.2 (by simpa using nonneg))
  rw [UInt64.toNat_toUInt32, whole]
  exact Nat.mod_eq_of_lt (by omega)

/-- A count that is not negative splits into whole seconds and nanoseconds as a natural number
does. -/
theorem split_of_nonneg {n : Int64} (nonneg : 0 ≤ n.toInt) :
    (n / nanosPerSecond).toInt = n.toInt / 1000000000 ∧
      (n % nanosPerSecond).toInt = n.toInt % 1000000000 := by
  constructor
  · rw [Int64.toInt_div_of_ne_right _ _ (by decide), toInt_nanosPerSecond,
      Int.tdiv_eq_ediv_of_nonneg nonneg]
  · rw [Int64.toInt_mod, toInt_nanosPerSecond, Int.tmod_eq_emod_of_nonneg nonneg]

end Reckoning

/-! ## Dates -/

namespace Date

/-- The number of a day, in four bytes, is its distance from the day before 0001-01-01. -/
theorem toInt_number (d : Date) : d.number.toInt = d.day + 719163 := by
  have range := d.inRange
  unfold min max at range
  exact Int32.toInt_ofInt_of_le (by omega) (by omega)

/-- Taking off the number of 1970-01-01 does not wrap. -/
theorem toInt_epochDay (d : Date) : d.epochDay.toInt = d.number.toInt - 719163 := by
  have epoch : epochNumber.toInt = 719163 := by decide
  have low := d.number.le_toInt
  have high := d.number.toInt_lt
  unfold epochDay
  rw [Reckoning.toInt_sub] <;> rw [Int32.toInt_toInt64, epoch] <;> omega

theorem epochDay_eq (d : Date) : d.epochDay = .ofInt d.day := by
  rw [← Int64.ofInt_toInt d.epochDay, toInt_epochDay, toInt_number, Int.add_sub_cancel]

/-- The checked steps from a count of days to a date let every day of the calendar pass and nothing
else. -/
theorem ofEpochDay?_eq (day : Int64) : ofEpochDay? day = ofDay? day.toInt := by
  have epoch : epochNumber.toInt = 719163 := by decide
  unfold ofEpochDay?
  by_cases onCalendar : min ≤ day.toInt ∧ day.toInt ≤ max
  · have range := onCalendar
    unfold min max at range
    have number : (Int32.ofInt (day.toInt + 719163)).toInt = day.toInt + 719163 :=
      Int32.toInt_ofInt_of_le (by omega) (by omega)
    have sum : (Int64.ofInt (day.toInt + 719163)).toInt = day.toInt + 719163 :=
      Int64.toInt_ofInt_of_le (by omega) (by omega)
    rw [Reckoning.add?_eq_some_iff.2 (sum.trans (by rw [epoch])), Option.bind_some,
      Reckoning.narrow?_eq_some_iff.2 (number.trans sum.symm), Option.bind_some]
    unfold ofNumber?
    rw [number, Int.add_sub_cancel]
  · have refused : ofDay? day.toInt = none := dif_neg onCalendar
    rw [refused]
    cases added : Reckoning.add? day epochNumber with
    | none => rfl
    | some sum =>
      rw [Option.bind_some]
      cases narrowed : Reckoning.narrow? sum with
      | none => rfl
      | some number =>
        have numberEq : number.toInt = day.toInt + 719163 := by
          rw [Reckoning.narrow?_eq_some_iff.1 narrowed, Reckoning.add?_eq_some_iff.1 added, epoch]
        rw [Option.bind_some]
        unfold ofNumber?
        rw [numberEq, Int.add_sub_cancel, refused]

end Date

/-! ## Times of day -/

namespace TimeOfDay

/-- Neither the product nor the sum in a count of nanoseconds wraps, in a leap second either. -/
theorem toInt_wireNanos (t : TimeOfDay) :
    (Int64.ofNat t.second * Reckoning.nanosPerSecond).toInt = t.second * 1000000000 ∧
      t.wireNanos.toInt = t.second * 1000000000 + t.nanos := by
  have secondBound := t.second_lt
  have nanosBound : t.nanos < 2000000000 := by rcases t.subSecond with small | ⟨small, -⟩ <;> omega
  have second : (Int64.ofNat t.second).toInt = t.second := Int64.toInt_ofNat_of_lt (by omega)
  have nanos : (Int64.ofNat t.nanos).toInt = t.nanos := Int64.toInt_ofNat_of_lt (by omega)
  have product : (Int64.ofNat t.second * Reckoning.nanosPerSecond).toInt =
      t.second * 1000000000 := by
    rw [Reckoning.toInt_mul] <;> rw [second, Reckoning.toInt_nanosPerSecond] <;> omega
  refine ⟨product, ?_⟩
  unfold wireNanos
  rw [Reckoning.toInt_add] <;> rw [product, nanos] <;> omega

theorem wireNanos_eq (t : TimeOfDay) : t.wireNanos = .ofNat t.nanoOfDay := by
  rw [← Int64.ofInt_toInt t.wireNanos, t.toInt_wireNanos.2]
  exact Int64.ofInt_eq_ofNat

/-- Neither the seconds nor the nanoseconds of a count lose bytes on the way to a time of day. -/
theorem ofWireNanos?_eq (nanos : Int64) : ofWireNanos? nanos = ofNanoOfDay? nanos.toInt := by
  unfold ofWireNanos? ofNanoOfDay?
  by_cases negative : nanos.toInt < 0
  · rw [if_pos negative, if_pos (Int64.lt_iff_toInt_lt.2 (by simpa using negative))]
  · rw [if_neg negative, if_neg fun less => negative (by simpa using Int64.lt_iff_toInt_lt.1 less)]
    have nonneg : 0 ≤ nanos.toInt := by omega
    obtain ⟨whole, beyond⟩ := Reckoning.split_of_nonneg nonneg
    have beyondNat : (nanos % Reckoning.nanosPerSecond).toUInt64.toUInt32.toNat =
        nanos.toInt.toNat % 1000000000 := by
      rw [Reckoning.toNat_low] <;> rw [beyond] <;> omega
    rw [beyondNat]
    unfold Reckoning.unsigned?
    split
    case isTrue fits =>
      rw [Option.bind_some, Reckoning.toNat_low fits.1 (by omega), whole]
      congr 1
      omega
    case isFalse large =>
      unfold ofSecond?
      rw [Option.bind_none, dif_neg fun found => large (by omega)]

end TimeOfDay

/-! ## Durations -/

namespace Duration

/-- Rounded towards zero, a negative duration with nanoseconds has one second more than rounded
down, and lacks the nanoseconds up to it. -/
theorem truncated (d : Duration) :
    d.total.tdiv 1000000000 = d.seconds + (if d.seconds < 0 ∧ 0 < d.nanos then 1 else 0) ∧
      d.total.tmod 1000000000 =
        d.nanos - (if d.seconds < 0 ∧ 0 < d.nanos then 1000000000 else 0) := by
  have proper := d.inRange.1
  have positive : (1000000000 : Int).sign = 1 := by decide
  unfold total
  constructor
  · rw [Int.tdiv_eq_ediv, positive]
    split <;> split <;> omega
  · rw [Int.tmod_eq_emod]
    split <;> split <;> omega

/-- The whole seconds fit eight bytes, and the nanoseconds beyond them four. -/
theorem toInt_fields (d : Duration) :
    d.wholeSeconds.toInt = d.total.tdiv 1000000000 ∧
      d.subsecNanos.toInt = d.total.tmod 1000000000 := by
  obtain ⟨whole, beyond⟩ := d.truncated
  have range := d.inRange
  unfold InRange at range
  constructor
  · refine Int64.toInt_ofInt_of_le ?_ ?_ <;> rw [whole] <;> split <;> omega
  · refine Int32.toInt_ofInt_of_le ?_ ?_ <;> rw [beyond] <;> split <;> omega

/-- Neither a second less nor a second's nanoseconds more wraps where the nanoseconds are
negative. -/
theorem toInt_borrowed {d : Duration} (negative : d.subsecNanos < 0) :
    (d.wholeSeconds - 1).toInt = d.wholeSeconds.toInt - 1 ∧
      (d.subsecNanos + 1000000000).toInt = d.subsecNanos.toInt + 1000000000 := by
  obtain ⟨whole, beyond⟩ := d.truncated
  obtain ⟨wholeInt, beyondInt⟩ := d.toInt_fields
  have range := d.inRange
  unfold InRange at range
  have one : (1 : Int64).toInt = 1 := by decide
  have second : (1000000000 : Int32).toInt = 1000000000 := by decide
  have below : d.subsecNanos.toInt < 0 := by simpa using Int32.lt_iff_toInt_lt.1 negative
  constructor
  · rw [Reckoning.toInt_sub] <;> rw [wholeInt, whole, one] <;> split <;> omega
  · rw [Reckoning.toInt_add_short] <;> rw [beyondInt, beyond, second] <;> split <;> omega

/-- Borrowing a second gives back the seconds rounded down, with the nanoseconds above them. -/
theorem floorFields_eq (d : Duration) : d.floorFields = (.ofInt d.seconds, .ofNat d.nanos) := by
  obtain ⟨whole, beyond⟩ := d.truncated
  obtain ⟨wholeInt, beyondInt⟩ := d.toInt_fields
  have range := d.inRange
  unfold InRange at range
  have seconds : (Int64.ofInt d.seconds).toInt = d.seconds :=
    Int64.toInt_ofInt_of_le (by omega) (by omega)
  have nanos : (Int32.ofNat d.nanos).toInt = d.nanos := Int32.toInt_ofNat_of_lt (by omega)
  have sign : d.subsecNanos < 0 ↔ d.seconds < 0 ∧ 0 < d.nanos := by
    rw [Int32.lt_iff_toInt_lt, beyondInt, beyond, Int32.toInt_zero]
    split <;> omega
  unfold floorFields
  by_cases borrows : d.seconds < 0 ∧ 0 < d.nanos
  · obtain ⟨secondLess, nanosMore⟩ := toInt_borrowed (sign.2 borrows)
    rw [if_pos borrows] at whole beyond
    rw [if_pos (sign.2 borrows)]
    rw [Prod.mk.injEq]
    exact ⟨Int64.toInt_inj.1 (by omega), Int32.toInt_inj.1 (by omega)⟩
  · rw [if_neg borrows] at whole beyond
    rw [if_neg (sign.not.2 borrows)]
    rw [Prod.mk.injEq]
    exact ⟨Int64.toInt_inj.1 (by omega), Int32.toInt_inj.1 (by omega)⟩

end Duration

end TaggedStream
