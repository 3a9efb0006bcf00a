import TaggedStream.Proofs.Handling
import TaggedStream.Proofs.Portable

/-!
Writers of values that write payloads.

What a value has inside is written in some form of values, whatever that is; then the value is
written as the identifier of a tag and a payload of this tag, and what a handler puts is written as
its cargo.
-/

namespace TaggedStream

theorem Folded.bits_of_ofBits? {f : BinaryFormat} {pattern : Nat} {constant : Folded}
    (h : ofBits? f pattern = some constant) : constant.bits f = pattern := by
  unfold ofBits? at h
  split at h
  · cases h
    simp [bits, *]
  · split at h
    · cases h
      simp [bits, *]
    · split at h
      · cases h
        simp [bits, *]
      · cases h

/-- The identifier of a tag and a payload. -/
def Form.tagged (element : Form Value) : Form Value := fun bytes v =>
  ∃ tag payload, bytes = Tag.spelled tag ++ payload ∧ Payload element tag payload v

/-! ## What the writers of values write -/

namespace Renders

open EncodeM Value

variable {setting : Setting} {element : Form Value}

/-- A tag that says all. -/
theorem bare {tag : Tag} {v : Value} (payload : Payload element tag [] v) :
    Renders setting (EncodeM.tagged tag) (Form.tagged element) v :=
  ⟨tag.spelled, Writes.tagged tag, tag, [], (List.append_nil _).symm, payload⟩

/-- A tag and its payload. -/
theorem tagged {tag : Tag} {m : EncodeM Unit} {v : Value}
    (payload : Renders setting m (Payload element tag) v) :
    Renders setting (do EncodeM.tagged tag; m) (Form.tagged element) v := by
  obtain ⟨bytes, writes, isPayload⟩ := payload
  exact ⟨tag.spelled ++ bytes, (Writes.tagged tag).bind writes, tag, bytes, rfl, isPayload⟩

/-- A number is its constant or has a payload. -/
theorem number {kind : NumericKind} {constant : Option Folded} {payload : EncodeM Unit} {v : Value}
    (isConstant : ∀ c, constant = some c → DecodeM.constantValue kind c = v)
    (h : Renders setting payload (NumberPayload kind) v) :
    Renders setting (writeNumber kind constant payload) (Form.tagged element) v := by
  cases constant with
  | none => exact (h.imp fun _ => Payload.number).tagged
  | some c => exact bare (isConstant c rfl ▸ Payload.constant)

/-- A primitive array. -/
theorem array {α : Type} {tag : Tag} {item : α → EncodeM Unit} {form : Form α} {items : List α}
    {v : Value} (fits : items.length ≤ Form.maxLength) (h : ∀ a, Renders setting (item a) form a)
    (wrap : ∀ {bytes}, Form.counted form bytes items → Payload element tag bytes v) :
    Renders setting (writeArray tag item items) (Form.tagged element) v :=
  ((counted tag.code fits fun a _ => h a).imp fun _ => wrap).tagged

section

variable {write : Value → EncodeM Unit}

/-- A countable aggregate, which has a tag of its own when it is empty. -/
theorem countable {items : List Value} {tag emptyTag : Tag} {v : Value}
    (fits : items.length ≤ Form.maxLength)
    (h : ∀ w ∈ items, Renders setting (write w) element w)
    (none : items = [] → Payload element emptyTag [] v)
    (some : ∀ {bytes}, Form.counted element bytes items → Payload element tag bytes v) :
    Renders setting
      (if items.isEmpty then EncodeM.tagged emptyTag else writeCountable write tag.code items)
      (Form.tagged element) v := by
  by_cases empty : items = []
  · rw [if_pos (List.isEmpty_iff.2 empty)]
    exact bare (none empty)
  · rw [if_neg (mt List.isEmpty_iff.1 empty), writeCountable, writeAll_eq_forM]
    exact ((counted _ fits h).imp fun _ => some).tagged

/-- A map. -/
theorem map {m : OrderedMap Value Value} (fits : m.entries.length ≤ Form.maxLength)
    (keys : ∀ entry ∈ m.entries, Renders setting (write entry.1) element entry.1)
    (values : ∀ entry ∈ m.entries, Renders setting (write entry.2) element entry.2) :
    Renders setting (writeMap write m) (Form.tagged element) (.map m) := by
  obtain ⟨entries⟩ := m
  rw [writeMap]
  cases entries with
  | nil => exact bare .mapEmpty
  | cons first rest =>
    rw [if_neg (by simp [OrderedMap.isEmpty]), writeEntries_eq_forM]
    refine ((counted _ fits fun entry mem => ?_).imp fun _ => Payload.map).tagged
    exact (keys entry mem).pair (values entry mem)

/-- A sequence in memory, cut into chunks. -/
theorem seq {items : List Value}
    (uncut : ∀ most, setting.options.uncountableMaxItems = some most → items.length ≤ most)
    (fits : min setting.options.objectChunkSize items.length ≤ Form.maxLength)
    (h : ∀ w ∈ items, Renders setting (write w) element w) :
    Renders setting (writeSeq write items) (Form.tagged element) (.seq items) := by
  have bounds : ∀ piece ∈ chunks setting.options.objectChunkSize items,
      piece ≠ [] ∧ piece.length ≤ Form.maxLength := by
    intro piece mem
    obtain ⟨ne_nil, short⟩ := bounds_chunks setting.options.objectChunkSize_pos mem
    exact ⟨ne_nil, Nat.le_trans short fits⟩
  have inside : ∀ piece ∈ chunks setting.options.objectChunkSize items, ∀ w ∈ piece,
      Renders setting (write w) element w := by
    intro piece memPiece w mem
    apply h w
    rw [← flatten_chunks setting.options.objectChunkSize items]
    exact List.mem_flatten_of_mem memPiece mem
  have pieces := chunked Tag.seq.code bounds inside
  rw [flatten_chunks] at pieces
  obtain ⟨bytes, writes, isTagged⟩ := (pieces.imp fun _ => Payload.seq).tagged
  refine ⟨bytes, Writes.settings ?_, isTagged⟩
  cases most : setting.options.uncountableMaxItems with
  | none => exact writes
  | some most' => simpa only [List.take_of_length_le (uncut most' most)] using writes

/-- What an error has below its identifier, or its data. -/
theorem throwableBody {t : Throwable Value} (message : ∀ s, t.message = some s → TextFits s)
    (frameCount : t.frames.length ≤ Form.maxLength) (frames : ∀ f ∈ t.frames, FrameFits f)
    (cause : ∀ c, t.cause = some c →
      Renders setting (writeThrowable write c) element (.throwable c))
    (suppressedCount : t.suppressed.length ≤ Form.maxLength)
    (suppressed : ∀ c ∈ t.suppressed,
      Renders setting (writeThrowable write c) element (.throwable c)) :
    Renders setting
      (do
        EncodeM.writeOptionalText t.message
        Wire.writeLength Tag.throwable.code t.frames.length
        t.frames.forM EncodeM.writeFrame
        writeCause write t.cause
        Wire.writeLength Tag.throwable.code t.suppressed.length
        writeSuppressed write t.suppressed)
      (Form.throwable element t.data) t := by
  obtain ⟨text, trace, below, beside, data⟩ := t
  have writesCause : Renders setting (writeCause write below)
      (Form.optional fun bytes t => element bytes (.throwable t)) below := by
    cases below with
    | none => exact (writeBool false).imp fun _ isBool => isBool ▸ .none
    | some c =>
      apply (writeBool true).both (cause c rfl)
      intro _ back rfl isCause
      exact .some isCause
  have writesFrames : Renders setting
      (do
        Wire.writeLength Tag.throwable.code trace.length
        trace.forM EncodeM.writeFrame)
      (Form.counted Form.frame) trace :=
    counted _ frameCount fun f mem => writeFrame (frames f mem)
  have writesSuppressed := counted Tag.throwable.code suppressedCount suppressed
  rw [← writeSuppressed_eq_forM] at writesSuppressed
  have parts := (writeOptionalText message).pair
    (writesFrames.pair (writesCause.pair writesSuppressed))
  simp only [bind_assoc] at parts
  apply parts.imp
  intro _ found
  rcases found with ⟨isText, areFrames, isCause, areSuppressed⟩
  exact .mk isText areFrames isCause areSuppressed rfl

/-- An error, whose data, cause and suppressed errors are values one level lower. -/
theorem throwable {t : Throwable Value} (message : ∀ s, t.message = some s → TextFits s)
    (frameCount : t.frames.length ≤ Form.maxLength) (frames : ∀ f ∈ t.frames, FrameFits f)
    (cause : ∀ c, t.cause = some c →
      Renders setting (writeThrowable write c) element (.throwable c))
    (suppressedCount : t.suppressed.length ≤ Form.maxLength)
    (suppressed : ∀ c ∈ t.suppressed,
      Renders setting (writeThrowable write c) element (.throwable c))
    (data : ∀ m, t.data = some m → Renders setting (writeMap write m) element (.map m)) :
    Renders setting (writeThrowable write t) (Form.tagged element) (.throwable t) := by
  have body := throwableBody message frameCount frames cause suppressedCount suppressed
  obtain ⟨text, trace, below, beside, data'⟩ := t
  cases data' with
  | none => exact (body.imp fun _ => Payload.throwable).tagged
  | some m => exact ((data m rfl).both body Payload.throwableWithData).tagged

/-- A plan, whose values are written as what they stand for. -/
theorem runPlan {plan : WritePlan Unit} {cargo : Cargo} {u : Unit} (puts : plan.Puts cargo u)
    (h : ∀ v, .inr v ∈ cargo → Renders setting (write v) element v) :
    Renders setting (EncodeM.runPlan write plan) (Form.cargo element) cargo := by
  induction puts with
  | done => exact ⟨[], Writes.nothing, .nil⟩
  | @put op slice _ _ _ _ ih =>
    obtain ⟨back, writes, form⟩ := ih fun v mem => h v (List.mem_append_right _ mem)
    exact ⟨slice ++ back, (Writes.put op slice).attempted writes,
      Form.cargo_ofBytes_append_iff.2 ⟨back, rfl, form⟩⟩
  | value _ ih =>
    obtain ⟨front, first, isValue⟩ := h _ (List.mem_cons_self ..)
    obtain ⟨back, writes, form⟩ := ih fun v mem => h v (List.mem_cons_of_mem _ mem)
    exact ⟨front ++ back, first.attempted writes, .cons isValue form⟩

end

/-- An atom is written in the second phase, whatever stands for values. -/
theorem atom {size : Nat} {v : Value} (portable : Portable size v) (isAtom : v.isAtom = true) :
    ∃ write, (∀ fuel, EncodeM.prepare (fuel + 1) v = pure write) ∧
      Renders setting write (Form.tagged element) v := by
  cases portable with
  | null => exact ⟨_, fun _ => rfl, bare .null⟩
  | bool b =>
    cases b
    · exact ⟨_, fun _ => rfl, bare .boolFalse⟩
    · exact ⟨_, fun _ => rfl, bare .boolTrue⟩
  | byte i =>
    refine ⟨_, fun _ => rfl, number (fun c h => ?_) ((writeInt8 i).imp fun _ => .byte)⟩
    rw [DecodeM.constantValue, Folded.toInt_of_ofInt? h, Int8.ofInt_toInt]
  | short i =>
    refine ⟨_, fun _ => rfl, number (fun c h => ?_) ((writeInt16 i).imp fun _ => .short)⟩
    rw [DecodeM.constantValue, Folded.toInt_of_ofInt? h, Int16.ofInt_toInt]
  | int i =>
    refine ⟨_, fun _ => rfl, number (fun c h => ?_) ((writeInt32 i).imp fun _ => .int)⟩
    rw [DecodeM.constantValue, Folded.toInt_of_ofInt? h, Int32.ofInt_toInt]
  | long i =>
    refine ⟨_, fun _ => rfl, number (fun c h => ?_) ((writeInt64 i).imp fun _ => .long)⟩
    rw [DecodeM.constantValue, Folded.toInt_of_ofInt? h, Int64.ofInt_toInt]
  | half bits =>
    refine ⟨_, fun _ => rfl, number (fun c h => ?_) ((writeUInt16 bits).imp fun _ => .half)⟩
    rw [DecodeM.constantValue, Folded.bits_of_ofBits? h, UInt16.ofNat_toNat]
  | float bits =>
    refine ⟨_, fun _ => rfl, number (fun c h => ?_) ((writeFloat bits).imp fun _ => .float)⟩
    rw [DecodeM.constantValue, Folded.bits_of_ofBits? h, UInt32.ofNat_toNat]
  | double bits =>
    refine ⟨_, fun _ => rfl, number (fun c h => ?_) ((writeDouble bits).imp fun _ => .double)⟩
    rw [DecodeM.constantValue, Folded.bits_of_ofBits? h, UInt64.ofNat_toNat]
  | @bigInt i fits =>
    refine ⟨_, fun _ => rfl, number (fun c h => ?_) ((writeInteger _ fits).imp fun _ => .bigInt)⟩
    rw [DecodeM.constantValue, Folded.toInt_of_ofInt? h]
  | char c => exact ⟨_, fun _ => rfl, ((writeChar c).imp fun _ => Payload.char).tagged⟩
  | @decimal d unscaled =>
    exact ⟨_, fun _ => rfl,
      ((writeInt32 d.scale).both (writeInteger _ unscaled) Payload.decimal).tagged⟩
  | ratio numerator denominator =>
    exact ⟨_, fun _ => rfl,
      ((writeInteger _ numerator).both (writeInteger _ denominator) Payload.ratio).tagged⟩
  | @string s fits =>
    refine ⟨_, fun _ => rfl, ?_⟩
    by_cases empty : s.isEmpty
    · rw [if_pos empty]
      obtain rfl := String.isEmpty_iff.1 empty
      exact bare .stringEmpty
    · rw [if_neg empty]
      exact ((writeText _ fits).imp fun _ => Payload.string).tagged
  | @bytes content fits =>
    refine ⟨_, fun _ => rfl, ?_⟩
    by_cases empty : content.isEmpty
    · rw [if_pos empty]
      obtain rfl := List.isEmpty_iff.1 empty
      exact bare .bytesEmpty
    · rw [if_neg empty]
      exact ((writeBytes _ fits).imp fun _ => Payload.bytes).tagged
  | uuid u =>
    exact ⟨_, fun _ => rfl, ((writeUInt64 u.high).both (writeUInt64 u.low) Payload.uuid).tagged⟩
  | regex fits => exact ⟨_, fun _ => rfl, ((writeText _ fits).imp fun _ => Payload.regex).tagged⟩
  | instant t =>
    exact ⟨_, fun _ => rfl, ((writeTimestamp t).imp fun _ => Payload.instant).tagged⟩
  | date d =>
    exact ⟨_, fun _ => rfl, ((writeDate d).imp fun _ => Payload.date).tagged⟩
  | @time t notLeap =>
    refine ⟨_, fun _ => ?_, ((writeNanoOfDay notLeap).imp fun _ => Payload.time).tagged⟩
    simp [prepare, prepareAbove, refuseLeapSecond, notLeap]
  | dateTime t =>
    exact ⟨_, fun _ => rfl, ((writeTimestamp t).imp fun _ => Payload.dateTime).tagged⟩
  | offsetDateTime t =>
    exact ⟨_, fun _ => rfl,
      ((writeTimestamp t.wall).both (writeOffset t.offset) Payload.offsetDateTime).tagged⟩
  | duration d =>
    exact ⟨_, fun _ => rfl, ((writeDuration d).imp fun _ => Payload.duration).tagged⟩
  | period p =>
    refine ⟨_, fun _ => rfl, (((writeInt32 p.years).pair
      ((writeInt32 p.months).pair (writeInt32 p.days))).imp ?_).tagged⟩
    intro _ found
    rcases found with ⟨years, months, days⟩
    exact .period years months days
  | @offsetTime t notLeap =>
    refine ⟨_, fun _ => ?_,
      ((writeNanoOfDay notLeap).both (writeOffset t.offset) Payload.offsetTime).tagged⟩
    simp [prepare, prepareAbove, refuseLeapSecond, notLeap]
  | @zonedDateTime t fits =>
    exact ⟨_, fun _ => rfl,
      ((writeTimestamp t.wall).both (writeText _ fits) Payload.zonedDateTime).tagged⟩
  | zoneId fits => exact ⟨_, fun _ => rfl, ((writeText _ fits).imp fun _ => Payload.zoneId).tagged⟩
  | intArray fits => exact ⟨_, fun _ => rfl, array fits writeInt32 .intArray⟩
  | longArray fits => exact ⟨_, fun _ => rfl, array fits writeInt64 .longArray⟩
  | doubleArray fits => exact ⟨_, fun _ => rfl, array fits writeDouble .doubleArray⟩
  | boolArray fits => exact ⟨_, fun _ => rfl, array fits writeBool .boolArray⟩
  | shortArray fits => exact ⟨_, fun _ => rfl, array fits writeInt16 .shortArray⟩
  | floatArray fits => exact ⟨_, fun _ => rfl, array fits writeFloat .floatArray⟩
  | charArray fits => exact ⟨_, fun _ => rfl, array fits writeChar .charArray⟩
  | unsupported className content =>
    exact ⟨_, fun _ => rfl,
      ((writeText _ className).both (writeText _ content) Payload.unsupported).tagged⟩
  | vector | set | map | seq | future | throwable | annotated => cases isAtom

end Renders

end TaggedStream
