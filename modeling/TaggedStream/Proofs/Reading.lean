import TaggedStream.Proofs.Recognition
import TaggedStream.Proofs.Reckoning

/-!
The readers of the wire recognise the forms of the wire.
-/

namespace TaggedStream

/-! ## Fields with a range

A type that holds its own range has one constructor that checks it. The check passes exactly for
the fields of a member. -/

theorem UtcOffset.ofSeconds?_eq_some_iff (seconds : Int) (o : UtcOffset) :
    ofSeconds? seconds = some o ↔ seconds = o.seconds := by
  unfold ofSeconds?
  constructor
  · intro passed
    split at passed <;> cases passed
    rfl
  · intro same
    subst same
    exact dif_pos o.inRange

theorem Date.ofDay?_eq_some_iff (day : Int) (d : Date) : ofDay? day = some d ↔ day = d.day := by
  unfold ofDay?
  constructor
  · intro passed
    split at passed <;> cases passed
    rfl
  · intro same
    subst same
    exact dif_pos d.inRange

theorem Timestamp.ofSeconds?_eq_some_iff (seconds : Int) (nanos : Nat) (t : Timestamp) :
    ofSeconds? seconds nanos = some t ↔ seconds = t.seconds ∧ nanos = t.nanos := by
  unfold ofSeconds?
  constructor
  · intro passed
    split at passed <;> cases passed
    exact ⟨rfl, rfl⟩
  · intro found
    rcases found with ⟨rfl, rfl⟩
    exact dif_pos ⟨t.inRange, t.subSecond⟩

theorem Duration.ofSeconds?_eq_some_iff (seconds : Int) (nanos : Nat) (d : Duration) :
    ofSeconds? seconds nanos = some d ↔ seconds = d.seconds ∧ nanos = d.nanos := by
  unfold ofSeconds?
  constructor
  · intro passed
    split at passed <;> cases passed
    exact ⟨rfl, rfl⟩
  · intro found
    rcases found with ⟨rfl, rfl⟩
    exact dif_pos d.inRange

/-- A count of nanoseconds gives the time that has it and does not lie in a leap second. -/
theorem TimeOfDay.ofNanoOfDay?_eq_some_iff (nanos : Int) (t : TimeOfDay) :
    ofNanoOfDay? nanos = some t ↔ t.isLeap = false ∧ nanos = t.nanoOfDay := by
  unfold ofNanoOfDay? ofSecond? nanoOfDay isLeap
  constructor
  · intro passed
    split at passed
    · cases passed
    · split at passed <;> cases passed
      simp only [decide_eq_false_iff_not]
      omega
  · intro found
    rcases found with ⟨notLeap, rfl⟩
    have small : t.nanos < 1000000000 := by simpa using notLeap
    have second : (t.second * 1000000000 + t.nanos) / 1000000000 = t.second := by omega
    have nanos : (t.second * 1000000000 + t.nanos) % 1000000000 = t.nanos := by omega
    rw [if_neg (by omega), Int.toNat_natCast, second, nanos, dif_pos ⟨t.second_lt, t.subSecond⟩]

theorem OffsetDateTime.ofWall?_eq_some_iff (wall : Timestamp) (offset : UtcOffset)
    (t : OffsetDateTime) : ofWall? wall offset = some t ↔ wall = t.wall ∧ offset = t.offset := by
  unfold ofWall?
  constructor
  · intro passed
    split at passed <;> cases passed
    exact ⟨rfl, rfl⟩
  · intro found
    rcases found with ⟨rfl, rfl⟩
    exact dif_pos t.covered

theorem Ratio.ofInts?_eq_some_iff (numerator denominator : Int) (r : Ratio) :
    ofInts? numerator denominator = some r ↔
      numerator = r.numerator ∧ denominator = r.denominator := by
  unfold ofInts?
  constructor
  · intro passed
    split at passed <;> cases passed
    exact ⟨rfl, rfl⟩
  · intro found
    rcases found with ⟨rfl, rfl⟩
    exact dif_neg r.denominator_ne_zero

theorem Pattern.compile?_eq_some_iff (source : String) (p : Pattern) :
    compile? source = some p ↔ source = p.source := by
  unfold compile?
  constructor
  · intro passed
    split at passed <;> cases passed
    rfl
  · intro same
    subst same
    exact dif_pos p.wellFormed

namespace Form

theorem nonneg_ofNat {n : Nat} (small : n < 2 ^ 31) : 0 ≤ Int32.ofNat n := by
  rw [Int32.le_iff_toInt_le, Int32.toInt_ofNat_of_lt small]
  exact Int.natCast_nonneg n

/-- A signed number that is not negative has the digits of a natural number. -/
theorem int32_ofNat_iff {bytes : List UInt8} {n : Nat} (small : n < 2 ^ 31) :
    int32 bytes (.ofNat n) ↔ bytes = BigEndian.encode 4 n := by
  have digits : (Int32.ofNat n).toUInt32.toNat = n :=
    UInt32.toNat_ofNat_of_lt' (Nat.lt_of_lt_of_le small (by decide))
  simp only [int32, fixed, digits]

end Form

namespace Recognises

open DecodeM Wire

variable {scope : Scope}

/-- Taking a fixed count of bytes recognises all byte strings of that length. -/
theorem takeExact (op : String) (size : Nat) :
    Recognises scope (DecodeM.takeExact op size)
      (fun bytes content => bytes = content ∧ content.length = size) := by
  constructor
  · rintro ⟨source, _, _, _, _, _, _, _⟩ bytes rest content - sourceEq ⟨rfl, rfl⟩
    cases sourceEq
    simp [DecodeM.takeExact, Source.takeExact, Decoder.past]
  · rintro ⟨source, _, _, _, _, _, _, _⟩ d' input content - - sourceEq run
    cases sourceEq
    simp only [DecodeM.takeExact, Source.takeExact, List.splitAt_eq] at run
    split at run
    case h_2 => cases run
    case h_1 taken source outcome =>
      split at outcome
      case isTrue => cases outcome
      case isFalse enough =>
        cases outcome
        cases run
        have length : (input.take size).length = size := by
          rw [List.length_take] at enough ⊢
          omega
        refine ⟨input.take size, input.drop size, (List.take_append_drop ..).symm,
          ⟨rfl, length⟩, ?_⟩
        simp only [Decoder.past, length]

/-! ## Numbers -/

theorem readNat (op : String) (size : Nat) :
    Recognises scope (Wire.readNat op size)
      (fun bytes n => n < 256 ^ size ∧ bytes = BigEndian.encode size n) := by
  apply (takeExact op size).as
  · intro bytes n found
    rcases found with ⟨small, rfl⟩
    exact ⟨_, ⟨rfl, BigEndian.length_encode ..⟩, BigEndian.decode_encode small⟩
  · intro bytes content found
    rcases found with ⟨rfl, rfl⟩
    exact ⟨BigEndian.decode_lt bytes, (BigEndian.encode_decode bytes).symm⟩

/-- A type whose members are numbers of a fixed size is read as these numbers. -/
theorem fixed {α : Type} (op : String) {size : Nat} {digits : α → Nat} {f : Nat → α}
    (small : ∀ a, digits a < 256 ^ size) (left : ∀ a, f (digits a) = a)
    (right : ∀ n, n < 256 ^ size → digits (f n) = n) :
    Recognises scope (do return f (← Wire.readNat op size)) (Form.fixed size digits) := by
  apply (readNat op size).as
  · intro bytes a same
    subst same
    exact ⟨digits a, ⟨small a, rfl⟩, left a⟩
  · intro bytes n found
    rcases found with ⟨fits, rfl⟩
    exact (congrArg _ (right n fits)).symm

/-- Members of another type that stand for the same numbers are read through them. -/
theorem through {α β : Type} {m : DecodeM α} {size : Nat} {digits : α → Nat} {f : α → β}
    (h : Recognises scope m (Form.fixed size digits)) (back : β → α)
    (left : ∀ b, f (back b) = b) (right : ∀ a, back (f a) = a) :
    Recognises scope (do return f (← m)) (Form.fixed size fun b => digits (back b)) := by
  apply h.as
  · intro bytes b same
    subst same
    exact ⟨back b, rfl, left b⟩
  · intro bytes a same
    subst same
    exact congrArg (fun a => BigEndian.encode size (digits a)) (right a).symm

theorem readUInt8 : Recognises scope Wire.readUInt8 Form.uint8 :=
  fixed _ UInt8.toNat_lt (fun _ => UInt8.ofNat_toNat) fun _ => UInt8.toNat_ofNat_of_lt

theorem readUInt16 : Recognises scope Wire.readUInt16 Form.uint16 :=
  fixed _ UInt16.toNat_lt (fun _ => UInt16.ofNat_toNat) fun _ => UInt16.toNat_ofNat_of_lt

theorem readUInt32 : Recognises scope Wire.readUInt32 Form.uint32 :=
  fixed _ UInt32.toNat_lt (fun _ => UInt32.ofNat_toNat) fun _ => UInt32.toNat_ofNat_of_lt

theorem readUInt64 : Recognises scope Wire.readUInt64 Form.uint64 :=
  fixed _ UInt64.toNat_lt (fun _ => UInt64.ofNat_toNat) fun _ => UInt64.toNat_ofNat_of_lt

theorem readInt8 : Recognises scope Wire.readInt8 Form.int8 :=
  readUInt8.through Int8.toUInt8 (fun _ => rfl) fun _ => rfl

theorem readInt16 : Recognises scope Wire.readInt16 Form.int16 :=
  readUInt16.through Int16.toUInt16 (fun _ => rfl) fun _ => rfl

theorem readInt32 : Recognises scope Wire.readInt32 Form.int32 :=
  readUInt32.through Int32.toUInt32 (fun _ => rfl) fun _ => rfl

theorem readInt64 : Recognises scope Wire.readInt64 Form.int64 :=
  readUInt64.through Int64.toUInt64 (fun _ => rfl) fun _ => rfl

theorem readBool (oid : Oid) : Recognises scope (Wire.readBool oid) Form.bool := by
  apply readUInt8.checked
  · intro bytes b same
    subst same
    refine ⟨if b then 1 else 0, ?_, ?_⟩ <;> cases b <;> rfl
  · intro bytes n same
    subst same
    by_cases zero : n = 0
    · subst zero
      exact .inl ⟨false, rfl, rfl⟩
    · by_cases one : n = 1
      · subst one
        exact .inl ⟨true, rfl, rfl⟩
      · refine .inr ⟨.malformed oid (.notBoolean n), ?_⟩
        split
        case h_1 => exact absurd rfl zero
        case h_2 => exact absurd rfl one
        case h_3 => rfl

theorem readChar (oid : Oid) : Recognises scope (Wire.readChar oid) Form.char := by
  apply readUInt32.checked
  · intro bytes c same
    subst same
    exact ⟨c.val, rfl, dif_pos c.valid⟩
  · intro bytes code same
    subst same
    by_cases valid : code.isValidChar
    · exact .inl ⟨⟨code, valid⟩, dif_pos valid, rfl⟩
    · exact .inr ⟨_, dif_neg valid⟩

theorem readOid : Recognises scope Wire.readOid Form.uint16 := readUInt16

theorem readLength (oid : Oid) : Recognises scope (Wire.readLength oid) Form.length := by
  apply readInt32.checked
  · intro bytes n isLength
    have small : n < 2 ^ 31 := Nat.lt_succ_of_le isLength.1
    refine ⟨.ofNat n, Form.int32_ofNat_iff small |>.2 isLength.2, ?_⟩
    rw [if_neg (Int32.not_lt.2 (Form.nonneg_ofNat small)), Int32.toNatClampNeg_ofNat_of_lt small]
  · intro bytes i isInt
    by_cases negative : i < 0
    · exact .inr ⟨_, if_pos negative⟩
    · have nonneg : 0 ≤ i := Int32.not_lt.1 negative
      refine .inl ⟨_, if_neg negative, Nat.le_of_lt_succ i.toNatClampNeg_lt, ?_⟩
      rwa [← Form.int32_ofNat_iff i.toNatClampNeg_lt, Int32.ofNat_toNatClampNeg _ nonneg]

/-! ## Byte strings and what they spell -/

/-- Pieces are taken one after another and put together. -/
theorem readPieces (before : List (List UInt8)) (last full : Nat) :
    Recognises scope (Wire.readPieces before last full)
      (fun bytes content => content = before.reverse.flatten ++ bytes ∧
        bytes.length = full * pieceLimit + last) := by
  induction full generalizing before with
  | zero =>
    unfold Wire.readPieces
    by_cases none : last = 0
    · rw [if_pos none]
      apply (Recognises.pure _).congr
      intro bytes content
      constructor
      · intro found
        rcases found with ⟨rfl, rfl⟩
        simp [none]
      · intro found
        rcases found with ⟨rfl, length⟩
        obtain rfl : bytes = [] := List.eq_nil_of_length_eq_zero (by omega)
        simp
    · rw [if_neg none]
      apply (takeExact _ last).as
      · intro bytes content found
        rcases found with ⟨rfl, length⟩
        exact ⟨bytes, ⟨rfl, by omega⟩, by simp⟩
      · intro bytes piece found
        rcases found with ⟨rfl, rfl⟩
        simp
  | succ full ih =>
    refine ((takeExact _ pieceLimit).bind fun piece => ih (piece :: before)).congr
      fun bytes content => ?_
    constructor
    · intro found
      rcases found with ⟨piece, back, _, rfl, ⟨rfl, first⟩, rfl, length⟩
      rw [List.length_append, first, length, Nat.succ_mul]
      exact ⟨by simp, by omega⟩
    · intro found
      rcases found with ⟨rfl, length⟩
      rw [Nat.succ_mul] at length
      refine ⟨bytes.take pieceLimit, bytes.drop pieceLimit, _,
        (List.take_append_drop ..).symm, ⟨rfl, ?_⟩, ?_, ?_⟩
      · rw [List.length_take]
        omega
      · simp
      · rw [List.length_drop]
        omega

/-- Any count of bytes is read as it stands. -/
theorem readRaw (length : Nat) :
    Recognises scope (Wire.readRaw length)
      (fun bytes content => bytes = content ∧ content.length = length) := by
  apply (readPieces [] (length % pieceLimit) (length / pieceLimit)).congr
  intro bytes content
  have whole := Nat.div_add_mod' length pieceLimit
  constructor
  · intro found
    rcases found with ⟨rfl, size⟩
    exact ⟨rfl, size.trans whole⟩
  · intro found
    rcases found with ⟨rfl, size⟩
    exact ⟨rfl, by rw [whole, size]⟩

theorem readBytes (oid : Oid) : Recognises scope (Wire.readBytes oid) Form.blob := by
  apply ((readLength oid).bind readRaw).congr
  intro bytes content
  constructor
  · intro found
    rcases found with ⟨count, _, _, rfl, isLength, rfl, rfl⟩
    exact .mk isLength
  · intro found
    rcases found with ⟨isLength⟩
    exact ⟨_, _, _, rfl, isLength, rfl, rfl⟩

theorem readText (oid : Oid) : Recognises scope (Wire.readText oid) Form.text := by
  apply (readBytes oid).checked
  · intro bytes s isText
    refine ⟨_, isText, ?_⟩
    rw [Text.Utf8.decode_eq_ok_iff.2 rfl]
  · intro bytes content isBlob
    cases outcome : Text.Utf8.decode content with
    | ok s =>
      obtain rfl := Text.Utf8.decode_eq_ok_iff.1 outcome
      exact .inl ⟨s, rfl, isBlob⟩
    | error fault => exact .inr ⟨_, rfl⟩

theorem readInteger (oid : Oid) : Recognises scope (Wire.readInteger oid) Form.integer := by
  apply (readBytes oid).checked
  · intro bytes i found
    rcases found with ⟨framed, spells⟩
    refine ⟨_, framed, ?_⟩
    split
    case h_1 => exact absurd rfl spells.ne_nil
    case h_2 ne_nil => exact congrArg _ ((TwosComplement.decode_eq_iff ne_nil).2 spells)
  · intro bytes content isBlob
    cases content with
    | nil => exact .inr ⟨_, rfl⟩
    | cons byte rest =>
      exact .inl ⟨_, rfl, .mk isBlob (TwosComplement.spells_decode (List.cons_ne_nil _ _))⟩

/-! ## Calendar fields -/

/-- What passes a check of its range is the fields of what the check gives. -/
theorem admitted {α β : Type} {m : DecodeM α} {k : α → DecodeM β} {form : Form α}
    (h : Recognises scope m form) (check : α → Option β) (error : α → StreamError)
    (fields : β → α) (run : ∀ a, k a = (check a).elim (throw (error a)) Pure.pure)
    (admits : ∀ a b, check a = some b ↔ a = fields b) :
    Recognises scope (m >>= k) (fun bytes b => form bytes (fields b)) := by
  apply h.checked
  · intro bytes b isForm
    exact ⟨fields b, isForm, by rw [run, (admits (fields b) b).2 rfl]; rfl⟩
  · intro bytes a isForm
    cases outcome : check a with
    | some b =>
      exact .inl ⟨b, by rw [run, outcome]; rfl, (admits a b).1 outcome ▸ isForm⟩
    | none => exact .inr ⟨error a, by rw [run, outcome]; rfl⟩

theorem readOffset (oid : Oid) : Recognises scope (Wire.readOffset oid) Form.offset := by
  refine readInt32.admitted (fun seconds => UtcOffset.ofSeconds? seconds.toInt)
    (fun seconds => .malformed oid (.offsetOutOfRange seconds)) (fun o => .ofInt o.seconds)
    (fun seconds => by cases UtcOffset.ofSeconds? seconds.toInt <;> rfl) fun seconds o => ?_
  constructor
  · intro passed
    rw [← Int32.ofInt_toInt seconds, (UtcOffset.ofSeconds?_eq_some_iff ..).1 passed]
  · intro same
    subst same
    have range := o.inRange
    rw [Int32.toInt_ofInt_of_le (by omega) (by omega)]
    exact (UtcOffset.ofSeconds?_eq_some_iff ..).2 rfl

theorem readDate (oid : Oid) : Recognises scope (Wire.readDate oid) Form.date := by
  refine readInt64.admitted Date.ofEpochDay?
    (fun day => .malformed oid (.dayOutOfRange day)) (fun d => .ofInt d.day)
    (fun day => by cases Date.ofEpochDay? day <;> rfl) fun day d => ?_
  rw [Date.ofEpochDay?_eq]
  constructor
  · intro passed
    rw [← Int64.ofInt_toInt day, (Date.ofDay?_eq_some_iff ..).1 passed]
  · intro same
    subst same
    have range := d.inRange
    unfold Date.min Date.max at range
    rw [Int64.toInt_ofInt_of_le (by omega) (by omega)]
    exact (Date.ofDay?_eq_some_iff ..).2 rfl

/-- Two fields pass a common check. -/
theorem pairAdmitted {α β γ : Type} {m : DecodeM α} {m' : DecodeM β} {k : α → β → DecodeM γ}
    {form : Form α} {form' : Form β} (h : Recognises scope m form)
    (h' : Recognises scope m' form') (check : α → β → Option γ) (error : α → β → StreamError)
    (first : γ → α) (second : γ → β)
    (run : ∀ a b, k a b = (check a b).elim (throw (error a b)) Pure.pure)
    (admits : ∀ a b c, check a b = some c ↔ a = first c ∧ b = second c) :
    Recognises scope (do let a ← m; let b ← m'; k a b)
      (fun bytes c => Form.pair form form' bytes (first c, second c)) := by
  apply h.pairChecked h'
  · intro bytes c both
    exact ⟨first c, second c, both, by rw [run, (admits _ _ c).2 ⟨rfl, rfl⟩]; rfl⟩
  · intro bytes a b both
    cases outcome : check a b with
    | some c =>
      obtain ⟨rfl, rfl⟩ := (admits a b c).1 outcome
      exact .inl ⟨c, by rw [run, outcome]; rfl, both⟩
    | none => exact .inr ⟨error a b, by rw [run, outcome]; rfl⟩

/-- A check of seconds and nanoseconds, of which the latter must not be negative. -/
theorem signed_admits {β : Type} {check : Int → Nat → Option β} {seconds : β → Int}
    {nanos : β → Nat} (admits : ∀ s n b, check s n = some b ↔ s = seconds b ∧ n = nanos b)
    (low : ∀ b, -2 ^ 63 ≤ seconds b) (high : ∀ b, seconds b < 2 ^ 63)
    (small : ∀ b, nanos b < 2 ^ 31)
    (s : Int64) (n : Int32) (b : β) :
    (if n < 0 then none else check s.toInt n.toNatClampNeg) = some b ↔
      s = .ofInt (seconds b) ∧ n = .ofNat (nanos b) := by
  constructor
  · intro passed
    split at passed
    case isTrue => cases passed
    case isFalse nonneg =>
      obtain ⟨secondsEq, nanosEq⟩ := (admits ..).1 passed
      rw [← secondsEq, ← nanosEq, Int64.ofInt_toInt,
        Int32.ofNat_toNatClampNeg _ (Int32.not_lt.1 nonneg)]
      exact ⟨rfl, rfl⟩
  · intro found
    rcases found with ⟨rfl, rfl⟩
    rw [if_neg (Int32.not_lt.2 (Form.nonneg_ofNat (small b))),
      Int64.toInt_ofInt_of_le (low b) (high b), Int32.toNatClampNeg_ofNat_of_lt (small b)]
    exact (admits ..).2 ⟨rfl, rfl⟩

theorem readTimestamp (oid : Oid) :
    Recognises scope (Wire.readTimestamp oid) Form.timestamp := by
  have nanosBound (t : Timestamp) : t.nanos < 2 ^ 31 := by
    rcases t.subSecond with small | ⟨small, -⟩ <;> omega
  refine readInt64.pairAdmitted readInt32
    (fun s n => if n < 0 then none else Timestamp.ofSeconds? s.toInt n.toNatClampNeg)
    (fun s n => .malformed oid
      (if n < 0 then .nanosOutOfRange n else .timestampOutOfRange s n))
    (fun t => .ofInt t.seconds) (fun t => .ofNat t.nanos) ?_
    (signed_admits Timestamp.ofSeconds?_eq_some_iff ?_ ?_ nanosBound)
  · intro s n
    by_cases negative : n < 0
    · simp only [if_pos negative]
      rfl
    · simp only [if_neg negative]
      cases Timestamp.ofSeconds? s.toInt n.toNatClampNeg <;> rfl
  · intro t
    have range := t.inRange
    unfold Date.min at range
    omega
  · intro t
    have range := t.inRange
    unfold Date.max at range
    omega

theorem readDuration (oid : Oid) : Recognises scope (Wire.readDuration oid) Form.duration := by
  refine readInt64.pairAdmitted readInt32
    (fun s n => if n < 0 then none else Duration.ofSeconds? s.toInt n.toNatClampNeg)
    (fun s n => .malformed oid (.durationOutOfRange s n))
    (fun d => .ofInt d.seconds) (fun d => .ofNat d.nanos) ?_
    (signed_admits Duration.ofSeconds?_eq_some_iff ?_ ?_ ?_)
  · intro s n
    by_cases negative : n < 0
    · simp only [if_pos negative]
      rfl
    · simp only [if_neg negative]
      cases Duration.ofSeconds? s.toInt n.toNatClampNeg <;> rfl
  · intro d
    have range := d.inRange
    unfold Duration.InRange at range
    omega
  · intro d
    have range := d.inRange
    unfold Duration.InRange at range
    omega
  · intro d
    have range := d.inRange.1
    omega

theorem readNanoOfDay (oid : Oid) :
    Recognises scope (Wire.readNanoOfDay oid) Form.nanoOfDay := by
  apply readInt64.checked
  · intro bytes t found
    rcases found with ⟨notLeap, isInt⟩
    have small : t.nanoOfDay < 2 ^ 63 := by
      have second := t.second_lt
      have nanos : t.nanos < 1000000000 := by simpa [TimeOfDay.isLeap] using notLeap
      unfold TimeOfDay.nanoOfDay
      omega
    refine ⟨_, isInt, ?_⟩
    rw [TimeOfDay.ofWireNanos?_eq, Int64.toInt_ofNat_of_lt small,
      (TimeOfDay.ofNanoOfDay?_eq_some_iff ..).2 ⟨notLeap, rfl⟩]
  · intro bytes nanos isInt
    rw [TimeOfDay.ofWireNanos?_eq]
    cases outcome : TimeOfDay.ofNanoOfDay? nanos.toInt with
    | some t =>
      obtain ⟨notLeap, nanosEq⟩ := (TimeOfDay.ofNanoOfDay?_eq_some_iff ..).1 outcome
      refine .inl ⟨t, rfl, notLeap, ?_⟩
      rwa [← Int64.ofInt_eq_ofNat, ← nanosEq, Int64.ofInt_toInt]
    | none => exact .inr ⟨_, rfl⟩

end Recognises

end TaggedStream
