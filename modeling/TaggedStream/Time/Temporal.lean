import TaggedStream.Time.Calendar

/-!
Calendar values. Each type holds its range: dates run from -262143-01-01 to +262142-12-31, an offset
stays below a day, a duration within 2 ^ 63 - 1 milliseconds either way.

A leap second is the second 59 of a minute with a thousand million to two thousand million
nanoseconds.
-/

namespace TaggedStream

/-- The first day of the calendar, in days from 1970-01-01. -/
def Date.min : Int := -96465292

/-- The last day of the calendar. -/
def Date.max : Int := 95026236

/-- A day, counted from 1970-01-01. -/
structure Date where
  day : Int
  inRange : Date.min ≤ day ∧ day ≤ Date.max
deriving DecidableEq

namespace Date

/-- The day `day`, if the calendar has it. -/
def ofDay? (day : Int) : Option Date :=
  if h : Date.min ≤ day ∧ day ≤ Date.max then some ⟨day, h⟩ else none

/-- The text of a date. -/
def text (d : Date) : String := Calendar.dateText d.day

end Date

/-- Nanoseconds that may stand beside a second: fewer than a thousand million, or up to twice that
in the last second of a minute. -/
def SubSecond (second : Int) (nanos : Nat) : Prop :=
  nanos < 1000000000 ∨ (nanos < 2000000000 ∧ second % 60 = 59)

instance (second : Int) (nanos : Nat) : Decidable (SubSecond second nanos) :=
  inferInstanceAs (Decidable (_ ∨ _))

/-- A point on a time line of seconds from 1970-01-01T00:00:00. -/
structure Timestamp where
  seconds : Int
  nanos : Nat
  inRange : Date.min * 86400 ≤ seconds ∧ seconds < (Date.max + 1) * 86400
  subSecond : SubSecond seconds nanos
deriving DecidableEq

namespace Timestamp

/-- Whether a second lies on a day of the calendar. -/
def Covers (seconds : Int) : Prop :=
  Date.min * 86400 ≤ seconds ∧ seconds < (Date.max + 1) * 86400

instance (seconds : Int) : Decidable (Covers seconds) := inferInstanceAs (Decidable (_ ∧ _))

/-- The point `nanos` after `seconds`, if the calendar has it. -/
def ofSeconds? (seconds : Int) (nanos : Nat) : Option Timestamp :=
  if h : Covers seconds ∧ SubSecond seconds nanos then some ⟨seconds, nanos, h.1, h.2⟩ else none

/-- Date and time of day with `between` between them. -/
def textWith (between : String) (t : Timestamp) : String :=
  Calendar.dateText (t.seconds / 86400) ++ between ++
    Calendar.clockText (t.seconds % 86400).toNat t.nanos

/-- Date and time of day around the letter T. -/
def text (t : Timestamp) : String := t.textWith "T"

/-- Date and time of day with a blank between them. -/
def spacedText (t : Timestamp) : String := t.textWith " "

end Timestamp

/-- A time of day. -/
structure TimeOfDay where
  second : Nat
  nanos : Nat
  second_lt : second < 86400
  subSecond : SubSecond second nanos
deriving DecidableEq

namespace TimeOfDay

/-- The time `nanos` after the second `second` of the day, if there is one. -/
def ofSecond? (second nanos : Nat) : Option TimeOfDay :=
  if h : second < 86400 ∧ SubSecond second nanos then some ⟨second, nanos, h.1, h.2⟩ else none

/-- Whether the time lies in a leap second. -/
def isLeap (t : TimeOfDay) : Bool := 1000000000 ≤ t.nanos

/-- Nanoseconds since midnight. A leap second has the count of the second after it. -/
def nanoOfDay (t : TimeOfDay) : Nat := t.second * 1000000000 + t.nanos

/-- The time with a count of nanoseconds since midnight, if the day is that long. -/
def ofNanoOfDay? (nanos : Int) : Option TimeOfDay :=
  if nanos < 0 then none
  else ofSecond? (nanos.toNat / 1000000000) (nanos.toNat % 1000000000)

/-- The text of a time of day. -/
def text (t : TimeOfDay) : String := Calendar.clockText t.second t.nanos

end TimeOfDay

/-- A distance from UTC in seconds, positive to the east. -/
structure UtcOffset where
  seconds : Int
  inRange : -86400 < seconds ∧ seconds < 86400
deriving DecidableEq

namespace UtcOffset

/-- The offset of `seconds`, if it is below a day. -/
def ofSeconds? (seconds : Int) : Option UtcOffset :=
  if h : -86400 < seconds ∧ seconds < 86400 then some ⟨seconds, h⟩ else none

/-- The text of an offset. -/
def text (o : UtcOffset) : String := Calendar.offsetText o.seconds

end UtcOffset

/-- A wall clock reading at an offset. Both the reading and the instant it names are on the
calendar. -/
structure OffsetDateTime where
  wall : Timestamp
  offset : UtcOffset
  covered : Timestamp.Covers (wall.seconds - offset.seconds)
deriving DecidableEq

namespace OffsetDateTime

/-- The reading `wall` at `offset`, if it names an instant of the calendar. -/
def ofWall? (wall : Timestamp) (offset : UtcOffset) : Option OffsetDateTime :=
  if h : Timestamp.Covers (wall.seconds - offset.seconds) then some ⟨wall, offset, h⟩ else none

/-- The second of the instant in UTC. -/
def utcSeconds (t : OffsetDateTime) : Int := t.wall.seconds - t.offset.seconds

/-- Two readings are equal when they name the same instant, whatever their offsets. -/
def sameInstant (a b : OffsetDateTime) : Bool :=
  a.utcSeconds = b.utcSeconds && a.wall.nanos = b.wall.nanos

/-- The text of a reading. -/
def text (t : OffsetDateTime) : String := t.wall.text ++ t.offset.text

end OffsetDateTime

/-- What `seconds` and `nanos` must be for a duration: a proper fraction of a second, and at most
2 ^ 63 - 1 milliseconds either way. -/
def Duration.InRange (seconds : Int) (nanos : Nat) : Prop :=
  nanos < 1000000000 ∧
    -(9223372036854775807 * 1000000) ≤ seconds * 1000000000 + nanos ∧
    seconds * 1000000000 + nanos ≤ 9223372036854775807 * 1000000

instance (seconds : Int) (nanos : Nat) : Decidable (Duration.InRange seconds nanos) :=
  inferInstanceAs (Decidable (_ ∧ _))

/-- A signed length of time: whole seconds, rounded down, and the nanoseconds above them. -/
structure Duration where
  seconds : Int
  nanos : Nat
  inRange : Duration.InRange seconds nanos
deriving DecidableEq

namespace Duration

/-- The duration of `seconds` and `nanos`, if it is in range. -/
def ofSeconds? (seconds : Int) (nanos : Nat) : Option Duration :=
  if h : Duration.InRange seconds nanos then some ⟨seconds, nanos, h⟩ else none

end Duration

/-- A calendar period. -/
structure Period where
  years : Int32
  months : Int32
  days : Int32
deriving DecidableEq, Inhabited

/-- A time of day at an offset. -/
structure OffsetTime where
  time : TimeOfDay
  offset : UtcOffset
deriving DecidableEq

/-- A wall clock reading in a zone, which is carried as text. -/
structure ZonedDateTime where
  wall : Timestamp
  zone : String
deriving DecidableEq

end TaggedStream
