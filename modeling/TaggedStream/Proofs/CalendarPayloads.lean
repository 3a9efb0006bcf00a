import TaggedStream.Proofs.Conveyance
import TaggedStream.Proofs.Innermost

/-!
Calendar values have one spelling each.

Behind the identifier of a calendar value stand a few machine integers, and for a zone also a text.
Whatever these are, the decoder either blames the identifier or gives a value that is encoded as the
same bytes again. Which of the two is said in exact integers: the fields have to lie on the
calendar.
-/

namespace TaggedStream

/-! ## Payloads -/

/-- What stands behind the identifier of a calendar value, in the order of the wire. -/
inductive CalendarFields
  | instant (seconds : Int64) (nanos : Int32)
  | date (day : Int64)
  | time (nanos : Int64)
  | dateTime (seconds : Int64) (nanos : Int32)
  | offsetDateTime (seconds : Int64) (nanos offset : Int32)
  | duration (seconds : Int64) (nanos : Int32)
  | period (years months days : Int32)
  | offsetTime (nanos : Int64) (offset : Int32)
  /-- The zone is any byte string. -/
  | zonedDateTime (seconds : Int64) (nanos : Int32) (zone : List UInt8)

namespace CalendarFields

/-- The tag that calls for the fields. -/
def tag : CalendarFields → Tag
  | instant .. => .instant
  | date .. => .date
  | time .. => .time
  | dateTime .. => .dateTime
  | offsetDateTime .. => .offsetDateTime
  | duration .. => .duration
  | period .. => .period
  | offsetTime .. => .offsetTime
  | zonedDateTime .. => .zonedDateTime

/-- Eight bytes in two's complement, most significant first. -/
def long (i : Int64) : List UInt8 := BigEndian.encode 8 i.toUInt64.toNat

/-- Four bytes in two's complement, most significant first. -/
def int (i : Int32) : List UInt8 := BigEndian.encode 4 i.toUInt32.toNat

/-- The bytes of the fields. -/
def payload : CalendarFields → List UInt8
  | instant seconds nanos => long seconds ++ int nanos
  | date day => long day
  | time nanos => long nanos
  | dateTime seconds nanos => long seconds ++ int nanos
  | offsetDateTime seconds nanos offset => (long seconds ++ int nanos) ++ int offset
  | duration seconds nanos => long seconds ++ int nanos
  | period years months days => int years ++ (int months ++ int days)
  | offsetTime nanos offset => long nanos ++ int offset
  | zonedDateTime seconds nanos zone =>
    (long seconds ++ int nanos) ++ (BigEndian.encode 4 zone.length ++ zone)

/-- The identifier and the fields behind it. -/
def bytes (f : CalendarFields) : List UInt8 := f.tag.spelled ++ f.payload

/-- A length in front of a zone can say how long it is. -/
def Fits : CalendarFields → Prop
  | zonedDateTime _ _ zone => zone.length ≤ Form.maxLength
  | _ => True

/-- A second on a day of the calendar, and nanoseconds that may stand beside it: those of a leap
second only beside the last second of a minute. -/
def OnTimeLine (seconds nanos : Int) : Prop :=
  Date.min * 86400 ≤ seconds ∧ seconds < (Date.max + 1) * 86400 ∧ 0 ≤ nanos ∧
    (nanos < 1000000000 ∨ nanos < 2000000000 ∧ seconds % 60 = 59)

/-- Nanoseconds of a day without a leap second. -/
def InDay (nanos : Int) : Prop := 0 ≤ nanos ∧ nanos < 86400 * 1000000000

/-- An offset of less than a day. -/
def BelowDay (offset : Int) : Prop := -86400 < offset ∧ offset < 86400

/-- The fields of a calendar value. -/
def OnCalendar : CalendarFields → Prop
  | instant seconds nanos => OnTimeLine seconds.toInt nanos.toInt
  | date day => Date.min ≤ day.toInt ∧ day.toInt ≤ Date.max
  | time nanos => InDay nanos.toInt
  | dateTime seconds nanos => OnTimeLine seconds.toInt nanos.toInt
  | offsetDateTime seconds nanos offset =>
    OnTimeLine seconds.toInt nanos.toInt ∧ BelowDay offset.toInt ∧
      -- the instant is on the calendar as well
      Date.min * 86400 ≤ seconds.toInt - offset.toInt ∧
        seconds.toInt - offset.toInt < (Date.max + 1) * 86400
  | duration seconds nanos =>
    0 ≤ nanos.toInt ∧ nanos.toInt < 1000000000 ∧
      -((2 ^ 63 - 1) * 1000000) ≤ seconds.toInt * 1000000000 + nanos.toInt ∧
        seconds.toInt * 1000000000 + nanos.toInt ≤ (2 ^ 63 - 1) * 1000000
  | period .. => True
  | offsetTime nanos offset => InDay nanos.toInt ∧ BelowDay offset.toInt
  | zonedDateTime seconds nanos zone =>
    OnTimeLine seconds.toInt nanos.toInt ∧ ∃ text : String, zone = Text.Utf8.encode text

end CalendarFields

/-! ## Readers over given bytes -/

section

variable {α β : Type} {m : DecodeM α} {k : α → DecodeM β} {oid : Oid}
  {front back bytes : List UInt8} {a : α}

/-- The reader takes these bytes, whatever follows them. -/
def Reads (m : DecodeM α) (bytes : List UInt8) (a : α) : Prop :=
  ∀ (d : Decoder) (rest : List UInt8), d.source = .slice (bytes ++ rest) →
    m d = .ok a (d.past bytes rest)

/-- The reader blames an identifier for these bytes, whatever follows them. -/
def Refuses (oid : Oid) (m : DecodeM α) (bytes : List UInt8) : Prop :=
  ∀ (d : Decoder) (rest : List UInt8), d.source = .slice (bytes ++ rest) →
    ∃ fault after, m d = .error (.malformed oid fault) after

theorem Reads.of_recognises {form : Form α} (h : ∀ scope, Recognises scope m form)
    (isForm : form bytes a) : Reads m bytes a :=
  fun _ _ source => (h _).complete rfl source isForm

theorem Refuses.malformed (fault : Fault) :
    Refuses oid (Wire.malformed oid fault : DecodeM α) [] :=
  fun d _ _ => ⟨fault, d, rfl⟩

/-- It does not matter what follows. -/
theorem Refuses.more (h : Refuses oid m front) : Refuses oid m (front ++ back) := by
  intro d rest source
  rw [List.append_assoc] at source
  exact h d _ source

/-- What the first step refuses, both do. -/
theorem Refuses.bind (h : Refuses oid m bytes) : Refuses oid (m >>= k) bytes := by
  intro d rest source
  obtain ⟨fault, after, run⟩ := h d rest source
  exact ⟨fault, after, DecodeM.bind_of_error run⟩

/-- Behind what the first step takes, the second one refuses. -/
theorem Reads.bind_refuses (h : Reads m front a) (h' : Refuses oid (k a) back) :
    Refuses oid (m >>= k) (front ++ back) := by
  intro d rest source
  rw [List.append_assoc] at source
  rw [DecodeM.bind_of_ok (h d _ source)]
  exact h' _ rest rfl

/-- A check fails on what was taken. -/
theorem Reads.checked (h : Reads m bytes a) (fails : ∃ fault, k a = Wire.malformed oid fault) :
    Refuses oid (m >>= k) bytes := by
  obtain ⟨fault, run⟩ := fails
  have refused : Refuses oid (k a) [] := run ▸ .malformed fault
  exact List.append_nil bytes ▸ h.bind_refuses refused

end

/-! ## Fields that lie on the calendar -/

namespace CalendarFields

open EncodeM

variable {seconds day : Int64} {nanos offset : Int32}

theorem int_ofNat (nonneg : 0 ≤ nanos.toInt) : Int32.ofNat nanos.toInt.toNat = nanos :=
  Int32.ofNat_toNatClampNeg nanos (Int32.le_iff_toInt_le.2 (by simpa using nonneg))

/-- Seconds and nanoseconds on the time line are a point of it. -/
theorem exists_timestamp (on : OnTimeLine seconds.toInt nanos.toInt) :
    ∃ t : Timestamp, t.seconds = seconds.toInt ∧
      (Int64.ofInt t.seconds, Int32.ofNat t.nanos) = (seconds, nanos) := by
  obtain ⟨first, last, nonneg, beside⟩ := on
  refine ⟨⟨seconds.toInt, nanos.toInt.toNat, ⟨first, last⟩, ?_⟩, rfl, ?_⟩
  · unfold SubSecond
    omega
  · rw [Int64.ofInt_toInt, int_ofNat nonneg]

/-- Nanoseconds of a day are a time of day outside leap seconds. -/
theorem exists_timeOfDay {nanos : Int64} (inDay : InDay nanos.toInt) :
    ∃ t : TimeOfDay, t.isLeap = false ∧ Int64.ofNat t.nanoOfDay = nanos := by
  obtain ⟨nonneg, small⟩ := inDay
  refine ⟨⟨nanos.toInt.toNat / 1000000000, nanos.toInt.toNat % 1000000000, by omega,
    .inl (Nat.mod_lt _ (by decide))⟩, ?_, ?_⟩
  · exact decide_eq_false (Nat.not_le.2 (Nat.mod_lt _ (by decide)))
  · rw [TimeOfDay.nanoOfDay, Nat.div_add_mod']
    exact Int64.ofNat_toNatClampNeg nanos (Int64.le_iff_toInt_le.2 (by simpa using nonneg))

theorem exists_offset (below : BelowDay offset.toInt) :
    ∃ o : UtcOffset, o.seconds = offset.toInt ∧ Int32.ofInt o.seconds = offset :=
  ⟨⟨offset.toInt, below⟩, rfl, Int32.ofInt_toInt offset⟩

theorem exists_date (on : Date.min ≤ day.toInt ∧ day.toInt ≤ Date.max) :
    ∃ d : Date, Int64.ofInt d.day = day :=
  ⟨⟨day.toInt, on⟩, Int64.ofInt_toInt day⟩

theorem exists_duration (on : (duration seconds nanos).OnCalendar) :
    ∃ d : Duration, (Int64.ofInt d.seconds, Int32.ofNat d.nanos) = (seconds, nanos) := by
  obtain ⟨nonneg, proper, low, high⟩ := on
  refine ⟨⟨seconds.toInt, nanos.toInt.toNat, ?_⟩, ?_⟩
  · unfold Duration.InRange
    omega
  · rw [Int64.ofInt_toInt, int_ofNat nonneg]

/-! ### What is written -/

section

variable {setting : Setting} {v : Value} {write : EncodeM Unit} {bytes : List UInt8}

theorem writes_timestamp (t : Timestamp) :
    Writes setting (Wire.writeTimestamp t) (long (.ofInt t.seconds) ++ int (.ofNat t.nanos)) :=
  (Writes.put _ _).bind (Writes.put _ _)

theorem writes_nanoOfDay (t : TimeOfDay) :
    Writes setting (Wire.writeNanoOfDay t) (long (.ofNat t.nanoOfDay)) := by
  rw [← t.wireNanos_eq]
  exact Writes.put _ _

theorem writes_offset (o : UtcOffset) :
    Writes setting (Wire.writeOffset o) (int (.ofInt o.seconds)) :=
  Writes.put _ _

theorem writes_date (d : Date) : Writes setting (Wire.writeDate d) (long (.ofInt d.day)) := by
  rw [← d.epochDay_eq]
  exact Writes.put _ _

theorem writes_duration (d : Duration) :
    Writes setting (Wire.writeDuration d) (long (.ofInt d.seconds) ++ int (.ofNat d.nanos)) := by
  unfold Wire.writeDuration
  rw [d.floorFields_eq]
  exact (Writes.put _ _).bind (Writes.put _ _)

theorem writes_text (oid : Oid) {text : String} (fits : Value.TextFits text) :
    Writes setting (Wire.writeText oid text)
      (BigEndian.encode 4 (Text.Utf8.encode text).length ++ Text.Utf8.encode text) := by
  have renders : Renders setting (Wire.writeText oid text) Form.text text :=
    Renders.writeText oid fits
  obtain ⟨_, writes, ⟨counted⟩⟩ := renders
  rwa [counted.2] at writes

/-- A value whose first phase does nothing is written in the second. -/
theorem writes_tagged {tag : Tag} (phase : prepare 1 v = pure (do tagged tag; write))
    (writes : Writes setting write bytes) :
    Writes setting (inTurn (prepare 1) v) (tag.spelled ++ bytes) := by
  intro e same willing
  rw [inTurn, phase]
  exact (Writes.tagged tag).bind writes e same willing

end

/-- The payload is one of the value, and the value is written as the payload behind the
identifier. -/
structure Spells (f : CalendarFields) (v : Value) : Prop where
  payload : ∀ element, Payload element f.tag f.payload v
  writes : ∀ setting, Writes setting (inTurn (prepare 1) v) f.bytes

/-- Fields on the calendar spell a value. -/
theorem exists_spells {f : CalendarFields} (fits : f.Fits) (on : f.OnCalendar) :
    ∃ v, f.Spells v := by
  cases f with
  | instant seconds nanos =>
    obtain ⟨t, -, fields⟩ := exists_timestamp on
    cases fields
    exact ⟨.instant t, fun _ => .instant (.mk rfl rfl),
      fun _ => writes_tagged rfl (writes_timestamp t)⟩
  | date day =>
    obtain ⟨d, rfl⟩ := exists_date on
    exact ⟨.date d, fun _ => .date rfl, fun _ => writes_tagged rfl (writes_date d)⟩
  | time nanos =>
    obtain ⟨t, notLeap, rfl⟩ := exists_timeOfDay on
    refine ⟨.time t, fun _ => .time ⟨notLeap, rfl⟩,
      fun _ => writes_tagged ?_ (writes_nanoOfDay t)⟩
    simp [prepare, prepareAbove, refuseLeapSecond, notLeap, tag]
  | dateTime seconds nanos =>
    obtain ⟨t, -, fields⟩ := exists_timestamp on
    cases fields
    exact ⟨.dateTime t, fun _ => .dateTime (.mk rfl rfl),
      fun _ => writes_tagged rfl (writes_timestamp t)⟩
  | offsetDateTime seconds nanos offset =>
    obtain ⟨onTimeLine, below, first, last⟩ := on
    obtain ⟨wall, second, fields⟩ := exists_timestamp onTimeLine
    obtain ⟨o, distance, rfl⟩ := exists_offset below
    have covered : Timestamp.Covers (wall.seconds - o.seconds) := by
      rw [second, distance]
      exact ⟨first, last⟩
    cases fields
    exact ⟨.offsetDateTime ⟨wall, o, covered⟩, fun _ => .offsetDateTime (.mk rfl rfl) rfl,
      fun _ => writes_tagged rfl ((writes_timestamp wall).bind (writes_offset o))⟩
  | duration seconds nanos =>
    obtain ⟨d, fields⟩ := exists_duration on
    cases fields
    exact ⟨.duration d, fun _ => .duration (.mk rfl rfl),
      fun _ => writes_tagged rfl (writes_duration d)⟩
  | period years months days =>
    exact ⟨.period ⟨years, months, days⟩, fun _ => .period rfl rfl rfl,
      fun _ => writes_tagged rfl ((Writes.put _ _).bind ((Writes.put _ _).bind (Writes.put _ _)))⟩
  | offsetTime nanos offset =>
    obtain ⟨inDay, below⟩ := on
    obtain ⟨t, notLeap, rfl⟩ := exists_timeOfDay inDay
    obtain ⟨o, -, rfl⟩ := exists_offset below
    refine ⟨.offsetTime ⟨t, o⟩, fun _ => .offsetTime ⟨notLeap, rfl⟩ rfl,
      fun _ => writes_tagged ?_ ((writes_nanoOfDay t).bind (writes_offset o))⟩
    simp [prepare, prepareAbove, refuseLeapSecond, notLeap, tag]
  | zonedDateTime seconds nanos zone =>
    obtain ⟨onTimeLine, text, rfl⟩ := on
    obtain ⟨wall, -, fields⟩ := exists_timestamp onTimeLine
    cases fields
    exact ⟨.zonedDateTime ⟨wall, text⟩, fun _ => .zonedDateTime (.mk rfl rfl) (.mk ⟨fits, rfl⟩),
      fun _ => writes_tagged rfl ((writes_timestamp wall).bind (writes_text _ fits))⟩

/-! ## Fields that do not lie on the calendar -/

section

variable (oid : Oid)

theorem reads_long (i : Int64) : Reads Wire.readInt64 (long i) i :=
  .of_recognises (fun _ => .readInt64) rfl

theorem reads_int (i : Int32) : Reads Wire.readInt32 (int i) i :=
  .of_recognises (fun _ => .readInt32) rfl

theorem reads_timestamp (on : OnTimeLine seconds.toInt nanos.toInt) :
    ∃ t : Timestamp, t.seconds = seconds.toInt ∧
      Reads (Wire.readTimestamp oid) (long seconds ++ int nanos) t := by
  obtain ⟨t, second, fields⟩ := exists_timestamp on
  cases fields
  exact ⟨t, second, .of_recognises (fun _ => .readTimestamp oid) (.mk rfl rfl)⟩

theorem toInt_nonneg (nonneg : ¬ nanos < 0) : 0 ≤ nanos.toInt := by
  simpa using Int32.le_iff_toInt_le.1 (Int32.not_lt.1 nonneg)

theorem refuses_timestamp (off : ¬ OnTimeLine seconds.toInt nanos.toInt) :
    Refuses oid (Wire.readTimestamp oid) (long seconds ++ int nanos) := by
  apply (reads_long seconds).bind_refuses
  apply (reads_int nanos).checked
  by_cases negative : nanos < 0
  · exact ⟨_, if_pos negative⟩
  · have nonneg := toInt_nonneg negative
    have refused : Timestamp.ofSeconds? seconds.toInt nanos.toNatClampNeg = none := by
      refine dif_neg fun found => off ?_
      obtain ⟨⟨first, last⟩, beside⟩ := found
      unfold SubSecond Int32.toNatClampNeg at beside
      exact ⟨first, last, nonneg, by omega⟩
    exact ⟨_, by rw [if_neg negative, refused]⟩

theorem reads_nanoOfDay {nanos : Int64} (inDay : InDay nanos.toInt) :
    ∃ t : TimeOfDay, Reads (Wire.readNanoOfDay oid) (long nanos) t := by
  obtain ⟨t, notLeap, rfl⟩ := exists_timeOfDay inDay
  exact ⟨t, .of_recognises (fun _ => .readNanoOfDay oid) ⟨notLeap, rfl⟩⟩

theorem refuses_nanoOfDay {nanos : Int64} (off : ¬ InDay nanos.toInt) :
    Refuses oid (Wire.readNanoOfDay oid) (long nanos) := by
  apply (reads_long nanos).checked
  have refused : TimeOfDay.ofWireNanos? nanos = none := by
    rw [TimeOfDay.ofWireNanos?_eq, TimeOfDay.ofNanoOfDay?]
    split
    case isTrue => rfl
    case isFalse nonneg =>
      exact dif_neg fun found => off ⟨by omega, by have := found.1; omega⟩
  exact ⟨_, by rw [refused]⟩

theorem reads_offset (below : BelowDay offset.toInt) :
    ∃ o : UtcOffset, o.seconds = offset.toInt ∧ Reads (Wire.readOffset oid) (int offset) o := by
  obtain ⟨o, distance, rfl⟩ := exists_offset below
  exact ⟨o, distance, .of_recognises (fun _ => .readOffset oid) rfl⟩

theorem refuses_offset (off : ¬ BelowDay offset.toInt) :
    Refuses oid (Wire.readOffset oid) (int offset) := by
  apply (reads_int offset).checked
  have refused : UtcOffset.ofSeconds? offset.toInt = none := dif_neg off
  exact ⟨_, by rw [refused]⟩

theorem refuses_date (off : ¬ (date day).OnCalendar) :
    Refuses oid (Wire.readDate oid) (long day) := by
  apply (reads_long day).checked
  have refused : Date.ofEpochDay? day = none := (Date.ofEpochDay?_eq day).trans (dif_neg off)
  exact ⟨_, by rw [refused]⟩

theorem refuses_duration (off : ¬ (duration seconds nanos).OnCalendar) :
    Refuses oid (Wire.readDuration oid) (long seconds ++ int nanos) := by
  apply (reads_long seconds).bind_refuses
  apply (reads_int nanos).checked
  by_cases negative : nanos < 0
  · exact ⟨_, if_pos negative⟩
  · have nonneg := toInt_nonneg negative
    have refused : Duration.ofSeconds? seconds.toInt nanos.toNatClampNeg = none := by
      refine dif_neg fun found => off ?_
      unfold Duration.InRange Int32.toNatClampNeg at found
      unfold OnCalendar
      omega
    exact ⟨_, by rw [if_neg negative, refused]⟩

theorem refuses_text {zone : List UInt8} (fits : zone.length ≤ Form.maxLength)
    (off : ¬ ∃ text : String, zone = Text.Utf8.encode text) :
    Refuses oid (Wire.readText oid) (BigEndian.encode 4 zone.length ++ zone) := by
  have framed : Reads (Wire.readBytes oid) (BigEndian.encode 4 zone.length ++ zone) zone :=
    .of_recognises (fun _ => .readBytes oid) (.mk ⟨fits, rfl⟩)
  apply framed.checked
  cases outcome : Text.Utf8.decode zone with
  | ok text => exact absurd ⟨text, Text.Utf8.decode_eq_ok_iff.1 outcome⟩ off
  | error fault => exact ⟨_, rfl⟩

end

/-- Fields that do not lie on the calendar are refused in the name of their own identifier. -/
theorem refuses {f : CalendarFields} (fits : f.Fits) (off : ¬ f.OnCalendar)
    (element : Oid → DecodeM Value) :
    Refuses f.tag.code (DecodeM.readTagged element f.tag) f.payload := by
  cases f with
  | instant => exact (refuses_timestamp _ off).bind
  | date => exact (refuses_date _ off).bind
  | time => exact (refuses_nanoOfDay _ off).bind
  | dateTime => exact (refuses_timestamp _ off).bind
  | offsetDateTime seconds nanos offset =>
    by_cases onTimeLine : OnTimeLine seconds.toInt nanos.toInt
    case neg => exact (refuses_timestamp _ onTimeLine).bind.more
    obtain ⟨wall, second, readsWall⟩ := reads_timestamp _ onTimeLine
    apply readsWall.bind_refuses
    by_cases below : BelowDay offset.toInt
    case neg => exact (refuses_offset _ below).bind
    obtain ⟨o, distance, readsOffset⟩ := reads_offset _ below
    apply readsOffset.checked
    have refused : OffsetDateTime.ofWall? wall o = none := by
      refine dif_neg fun covered => off ⟨onTimeLine, below, ?_⟩
      rwa [second, distance] at covered
    exact ⟨_, by rw [refused]⟩
  | duration => exact (refuses_duration _ off).bind
  | period => exact absurd trivial off
  | offsetTime nanos offset =>
    by_cases inDay : InDay nanos.toInt
    case neg => exact (refuses_nanoOfDay _ inDay).bind.more
    obtain ⟨t, readsTime⟩ := reads_nanoOfDay _ inDay
    apply readsTime.bind_refuses
    exact (refuses_offset _ fun below => off ⟨inDay, below⟩).bind
  | zonedDateTime seconds nanos zone =>
    by_cases onTimeLine : OnTimeLine seconds.toInt nanos.toInt
    case neg => exact (refuses_timestamp _ onTimeLine).bind.more
    obtain ⟨wall, -, readsWall⟩ := reads_timestamp _ onTimeLine
    apply readsWall.bind_refuses
    exact (refuses_text _ fits fun isText => off ⟨onTimeLine, isText⟩).bind

end CalendarFields

/-! ## Whole values -/

open CalendarFields

namespace DecodeM

variable {tag : Tag} {behind payload rest : List UInt8} {d after : Decoder}

/-- The error of a value behind its identifier is the error of the decoder. -/
theorem decode_of_nested {error : StreamError} (source : d.source = .slice (tag.spelled ++ behind))
    (nested : decodeNested d.options.maxDepth tag.code tag.code (d.past tag.spelled behind) =
      .error error after) : decode d = .error error after := by
  have identified : Reads Wire.readOid tag.spelled tag.code :=
    .of_recognises (fun _ => .readOid) rfl
  have present : (tag.spelled ++ behind).isEmpty = false := by
    rw [Tag.spelled, BigEndian.encode_succ]
    simp
  rw [decode, bind_of_ok (atEnd_slice source), present]
  refine (bind_of_ok (identified d _ source)).trans ?_
  rw [settings_bind]
  exact bind_of_error nested

/-- What a tag refuses behind its identifier, the decoder refuses. -/
theorem decode_of_refuses (refuses : ∀ element, Refuses tag.code (readTagged element tag) payload)
    (source : d.source = .slice (tag.spelled ++ (payload ++ rest)))
    (room : d.depth < d.options.maxDepth) :
    ∃ fault after, decode d = .error (.malformed tag.code fault) after := by
  obtain ⟨levels, most⟩ : ∃ levels, d.options.maxDepth = levels + 1 :=
    ⟨d.options.maxDepth - 1, by omega⟩
  let body := d.past tag.spelled (payload ++ rest)
  obtain ⟨fault, after, run⟩ :=
    refuses (readElement (decodeNested levels)) { body with depth := body.depth + 1 } rest rfl
  refine ⟨fault, { after with depth := after.depth - 1 }, decode_of_nested source ?_⟩
  have same : body.depth < body.options.maxDepth := room
  rw [most, decodeNested_succ, nested_eq, if_neg same.not_ge, bracketed_eq_error_iff]
  refine ⟨after, ?_, rfl⟩
  rw [readBody, Tag.ofCode?_code]
  exact run

end DecodeM

/-- The machine arithmetic of the readers and of the writers comes to what integers come to. -/
structure Reckoning.Exact : Prop where
  /-- A count of days that passes its checks has become a day number without wrapping. -/
  checked : ∀ (day sum : Int64) (number : Int32), add? day Date.epochNumber = some sum →
    narrow? sum = some number → number.toInt = day.toInt + 719163
  days : ∀ d : Date,
    d.number.toInt = d.day + 719163 ∧ d.epochDay.toInt = d.number.toInt - 719163
  seconds : ∀ t : TimeOfDay,
    (Int64.ofNat t.second * nanosPerSecond).toInt = t.second * 1000000000 ∧
      t.wireNanos.toInt = t.second * 1000000000 + t.nanos
  quotient : ∀ n : Int64, 0 ≤ n.toInt →
    (n / nanosPerSecond).toInt = n.toInt / 1000000000 ∧
      (n % nanosPerSecond).toInt = n.toInt % 1000000000 ∧
      (n % nanosPerSecond).toUInt64.toUInt32.toNat = n.toInt.toNat % 1000000000
  timestamps : ∀ t : Timestamp,
    (Int64.ofInt t.seconds).toInt = t.seconds ∧ (Int32.ofNat t.nanos).toInt = t.nanos
  fields : ∀ d : Duration, d.wholeSeconds.toInt = d.total.tdiv 1000000000 ∧
    d.subsecNanos.toInt = d.total.tmod 1000000000
  borrowed : ∀ d : Duration, d.subsecNanos < 0 →
    (d.wholeSeconds - 1).toInt = d.wholeSeconds.toInt - 1 ∧
      (d.subsecNanos + 1000000000).toInt = d.subsecNanos.toInt + 1000000000

theorem Reckoning.exact : Exact where
  checked day sum number added narrowed := by
    have epoch : Date.epochNumber.toInt = 719163 := by decide
    rw [narrow?_eq_some_iff.1 narrowed, add?_eq_some_iff.1 added, epoch]
  days d := ⟨d.toInt_number, d.toInt_epochDay⟩
  seconds := TimeOfDay.toInt_wireNanos
  quotient n nonneg := by
    obtain ⟨whole, beyond⟩ := split_of_nonneg nonneg
    refine ⟨whole, beyond, ?_⟩
    rw [toNat_low] <;> rw [beyond] <;> omega
  timestamps t := by
    have range := t.inRange
    have beside := t.subSecond
    unfold Date.min Date.max at range
    unfold SubSecond at beside
    exact ⟨Int64.toInt_ofInt_of_le (by omega) (by omega), Int32.toInt_ofNat_of_lt (by omega)⟩
  fields := Duration.toInt_fields
  borrowed _ := Duration.toInt_borrowed

namespace EncodeM

/-- What one level of fuel writes is the encoding. -/
theorem writes_encode {setting : Setting} {v : Value} {bytes : List UInt8}
    (writes : Writes setting (inTurn (prepare 1) v) bytes) : Writes setting (encode v) bytes :=
  fun e same willing => Writes.deepening writes (v.height + e.store.height) e same willing

end EncodeM

/-- Calendar payloads are canonical. Fields that lie on the calendar are decoded, where a level is
left for them, as a value that whatever encoder writes as the same bytes; all others are refused in
the name of their own identifier. No step of machine arithmetic wraps on the way, and a duration,
negative or not, is written as its seconds, rounded down, and the nanoseconds above them. -/
theorem calendar_canonical :
    Reckoning.Exact ∧
      (∀ (setting : Setting) (d : Duration), Writes setting (EncodeM.encode (.duration d))
        (Tag.duration.spelled ++
          (long (.ofInt (d.total / 1000000000)) ++ int (.ofInt (d.total % 1000000000))))) ∧
      ∀ (f : CalendarFields) (d : Decoder) (rest : List UInt8), f.Fits →
        d.source = .slice (f.bytes ++ rest) →
        ((f.OnCalendar ∧ d.depth < d.options.maxDepth) ∧
          ∃ v, DecodeM.decode d = .ok (some v) (d.past f.bytes rest) ∧
            ∀ setting, Writes setting (EncodeM.encode v) f.bytes) ∨
        (¬ (f.OnCalendar ∧ d.depth < d.options.maxDepth) ∧ ∃ fault after,
          DecodeM.decode d = .error (.malformed f.tag.code fault) after) := by
  refine ⟨Reckoning.exact, ?_, ?_⟩
  · intro setting d
    have proper := d.inRange.1
    have seconds : d.total / 1000000000 = d.seconds := by
      unfold Duration.total
      omega
    have nanos : d.total % 1000000000 = d.nanos := by
      unfold Duration.total
      omega
    rw [seconds, nanos]
    exact EncodeM.writes_encode (writes_tagged rfl (writes_duration d))
  · intro f d rest fits source
    have behind : d.source = .slice (f.tag.spelled ++ (f.payload ++ rest)) := by
      rwa [bytes, List.append_assoc] at source
    by_cases full : d.options.maxDepth ≤ d.depth
    · exact .inr ⟨fun found => full.not_gt found.2, _, _,
        DecodeM.decode_of_nested behind (DecodeM.decodeNested_of_full _ _ full)⟩
    have room := Nat.lt_of_not_le full
    by_cases on : f.OnCalendar
    · obtain ⟨v, spells⟩ := exists_spells fits on
      refine .inl ⟨⟨on, room⟩, v, DecodeM.decode_of_derives source ?_,
        fun setting => EncodeM.writes_encode (spells.writes setting)⟩
      obtain ⟨levels, left⟩ : ∃ levels, d.scope.levels = levels + 1 :=
        ⟨d.options.maxDepth - d.depth - 1, by change _ - _ = _; omega⟩
      rw [left]
      exact ⟨f.tag.code, f.payload, rfl, .tagged (spells.payload _)⟩
    · exact .inr ⟨fun found => on found.1, DecodeM.decode_of_refuses (refuses fits on) behind room⟩

/-- One and a half seconds backwards, and the first nanosecond after a day. -/
theorem calendar_canonical_at_boundaries :
    (∃ v, DecodeM.decode (.fresh {} {} (.slice ((duration (-2) 500000000).bytes ++ [7]))) =
        .ok (some v) (Decoder.past (duration (-2) 500000000).bytes [7]
          (.fresh {} {} (.slice ((duration (-2) 500000000).bytes ++ [7])))) ∧
      ∀ setting, Writes setting (EncodeM.encode v) (duration (-2) 500000000).bytes) ∧
    ∃ fault after, DecodeM.decode (.fresh {} {} (.slice ((time 86400000000000).bytes ++ []))) =
      .error (.malformed Tag.time.code fault) after := by
  have on : (duration (-2) 500000000).OnCalendar := by
    unfold OnCalendar
    decide
  have off : ¬ (time 86400000000000).OnCalendar := by
    unfold OnCalendar InDay
    decide
  have read := calendar_canonical.2.2 (duration (-2) 500000000)
    (.fresh {} {} (.slice ((duration (-2) 500000000).bytes ++ [7]))) [7] trivial rfl
  have refused := calendar_canonical.2.2 (time 86400000000000)
    (.fresh {} {} (.slice ((time 86400000000000).bytes ++ []))) [] trivial rfl
  have room : (0 : Nat) < ({} : Options).maxDepth := by decide
  exact ⟨(read.resolve_right fun found => found.1 ⟨on, room⟩).2,
    (refused.resolve_left fun found => off found.1.1).2⟩

end TaggedStream
