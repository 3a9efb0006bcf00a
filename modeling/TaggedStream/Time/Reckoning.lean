import TaggedStream.Time.Temporal

/-!
Calendar values as the wire counts them, reckoned in the integers of a machine.

A sum or a conversion that may leave its range is checked. Every other operation wraps round, so it
is for its callers to keep it within range.
-/

namespace TaggedStream

/-! ## Checked operations -/

namespace Reckoning

/-- The sum of two counts, unless eight bytes are too few for it. -/
def add? (a b : Int64) : Option Int64 :=
  if -9223372036854775808 ≤ a.toInt + b.toInt ∧ a.toInt + b.toInt ≤ 9223372036854775807 then
    some (a + b)
  else none

/-- A count in four bytes, unless they are too few for it. -/
def narrow? (a : Int64) : Option Int32 :=
  if -2147483648 ≤ a.toInt ∧ a.toInt ≤ 2147483647 then some a.toInt32 else none

/-- A count in four bytes without a sign, unless they are too few for it. -/
def unsigned? (a : Int64) : Option UInt32 :=
  if 0 ≤ a.toInt ∧ a.toInt ≤ 4294967295 then some a.toUInt64.toUInt32 else none

/-- The nanoseconds in a second. -/
def nanosPerSecond : Int64 := 1000000000

end Reckoning

/-! ## Dates -/

namespace Date

/-- The number of 1970-01-01, where days are numbered from one at 0001-01-01. -/
def epochNumber : Int64 := 719163

/-- The day with a number, if the calendar has it. -/
def ofNumber? (number : Int32) : Option Date := ofDay? (number.toInt - 719163)

/-- The number of a day. -/
def number (d : Date) : Int32 := .ofInt (d.day + 719163)

/-- The day so many days after 1970-01-01, if the calendar has it. -/
def ofEpochDay? (day : Int64) : Option Date :=
  ((Reckoning.add? day epochNumber).bind Reckoning.narrow?).bind ofNumber?

/-- The days since 1970-01-01. -/
def epochDay (d : Date) : Int64 := d.number.toInt64 - epochNumber

end Date

/-! ## Times of day -/

namespace TimeOfDay

/-- The nanoseconds since midnight. -/
def wireNanos (t : TimeOfDay) : Int64 :=
  .ofNat t.second * Reckoning.nanosPerSecond + .ofNat t.nanos

/-- The time so many nanoseconds after midnight, if the day is that long. -/
def ofWireNanos? (nanos : Int64) : Option TimeOfDay :=
  if nanos < 0 then none
  else
    (Reckoning.unsigned? (nanos / Reckoning.nanosPerSecond)).bind fun second =>
      ofSecond? second.toNat (nanos % Reckoning.nanosPerSecond).toUInt64.toUInt32.toNat

end TimeOfDay

/-! ## Durations -/

namespace Duration

/-- The nanoseconds of a duration. -/
def total (d : Duration) : Int := d.seconds * 1000000000 + d.nanos

/-- The whole seconds of a duration, rounded towards zero. -/
def wholeSeconds (d : Duration) : Int64 := .ofInt (d.total.tdiv 1000000000)

/-- The nanoseconds beyond the whole seconds, with the sign of the duration. -/
def subsecNanos (d : Duration) : Int32 := .ofInt (d.total.tmod 1000000000)

/-- The seconds, rounded down, and the nanoseconds above them. -/
def floorFields (d : Duration) : Int64 × Int32 :=
  if d.subsecNanos < 0 then (d.wholeSeconds - 1, d.subsecNanos + 1000000000)
  else (d.wholeSeconds, d.subsecNanos)

end Duration

end TaggedStream
