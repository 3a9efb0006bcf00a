import TaggedStream.Encoder.Item
import TaggedStream.Proofs.Grammar
import TaggedStream.Proofs.Reckoning

/-!
Writers that write a form.

`Writes setting m bytes` says that `m`, run by an encoder with these settings over a sink that is
willing to take bytes, succeeds, puts exactly these bytes behind all that was written before, and
changes nothing else. `Renders` hides which bytes: they have some form. There is one lemma for each
way in which writers are put together, and then one for each writer.
-/

namespace TaggedStream

/-! ## Sinks that take everything -/

namespace Sink

/-- A sink that takes at least one byte of whatever it is offered. -/
def Willing (sink : Sink) : Prop :=
  ∀ refused taken offered, 0 < offered →
    ∃ more, sink.accept refused taken offered = .ok (more + 1)

/-- The sink after it took a slice. -/
def filled (slice : List UInt8) (sink : Sink) : Sink :=
  { sink with received := sink.received ++ slice.toArray }

/-- A willing sink takes the whole of a slice, however the slice is cut up on the way. -/
theorem deliver_of_willing (stalled : IoCause) (granted : Nat) (slice : List UInt8) (sink : Sink)
    (willing : sink.Willing) : sink.deliver stalled granted slice = (none, sink.filled slice) := by
  induction slice generalizing granted sink with
  | nil => simp [deliver, filled]
  | cons byte rest ih =>
    have step (granted : Nat) :
        deliver stalled granted rest { sink with received := sink.received.push byte } =
          (none, sink.filled (byte :: rest)) := by
      apply (ih granted { sink with received := sink.received.push byte } willing).trans
      simp [filled]
    cases granted with
    | succ granted => exact step granted
    | zero =>
      obtain ⟨more, accepted⟩ :=
        willing sink.refused sink.received.size (rest.length + 1) (Nat.succ_pos _)
      rw [deliver]
      simp only [accepted]
      exact step more

end Sink

namespace Output

/-- What was written: the bytes that reached the sink and those that the buffer holds back. -/
def written (output : Output) : List UInt8 :=
  output.received ++ match output.buffer with
    | none => []
    | some buffer => buffer.held.toList

/-- The sink is willing. -/
def Willing (output : Output) : Prop := output.sink.Willing

/-- A sink that takes everything is willing, whatever it has taken. -/
theorem willing_of_unlimited {received : Array UInt8} : Willing { sink := { received } } :=
  fun _ _ offered positive =>
    ⟨offered - 1, congrArg Except.ok (Nat.succ_pred_eq_of_pos positive).symm⟩

/-- What stays the same of a channel while bytes go through it: the rule of the sink, whether it can
be flushed, and the capacity of the buffer. -/
structure Channel where
  accept : (refused : Nat) → (taken : Nat) → (offered : Nat) → Except IoCause Nat
  flushes : Bool
  capacity? : Option Nat

/-- The channel of an output. -/
def channel (output : Output) : Channel :=
  ⟨output.sink.accept, output.sink.flushes, output.buffer.map OutputBuffer.capacity⟩

theorem Willing.of_channel_eq {output after : Output} (willing : output.Willing)
    (same : after.channel = output.channel) : after.Willing := by
  have accept : after.sink.accept = output.sink.accept := congrArg Channel.accept same
  intro refused taken offered pos
  rw [accept]
  exact willing refused taken offered pos

/-- In front of a slice that leaves the buffer no room, the buffer is emptied unless the slice fits
exactly. What was written stays the same, and a slice that goes past the buffer overtakes
nothing. -/
theorem release_if_full (slice : List UInt8) (buffer : OutputBuffer) {sink : Sink}
    (willing : sink.Willing) (full : buffer.capacity - buffer.held.size ≤ slice.length) :
    ∃ buffer' sink',
      (if buffer.capacity - buffer.held.size < slice.length then buffer.release sink
        else (none, buffer, sink)) = (none, buffer', sink') ∧
      channel ⟨sink', some buffer'⟩ = channel ⟨sink, some buffer⟩ ∧
      sink'.received.toList ++ buffer'.held.toList =
        sink.received.toList ++ buffer.held.toList ∧
      (buffer'.capacity ≤ slice.length → buffer'.held = #[] ∨ slice = []) := by
  by_cases tight : buffer.capacity - buffer.held.size < slice.length
  · refine ⟨{ buffer with held := #[] }, sink.filled buffer.held.toList, ?_, rfl, ?_, ?_⟩
    · rw [if_pos tight, OutputBuffer.release, Sink.deliver_of_willing _ _ _ _ willing]
    · simp [Sink.filled]
    · intro _
      exact .inl rfl
  · refine ⟨buffer, sink, if_neg tight, rfl, rfl, fun large => ?_⟩
    by_cases empty : slice = []
    · exact .inr empty
    · have some := List.length_pos_iff.2 empty
      exact .inl (Array.eq_empty_of_size_eq_zero (by omega))

/-- A slice is put behind all that was written, whether or not a buffer holds some of it back. -/
theorem put_of_willing (slice : List UInt8) {output : Output} (willing : output.Willing) :
    ∃ after, output.put slice = (none, after) ∧ after.channel = output.channel ∧
      after.written = output.written ++ slice := by
  obtain ⟨sink, buffer⟩ := output
  cases buffer with
  | none =>
    refine ⟨⟨sink.filled slice, none⟩, ?_, rfl, ?_⟩
    · rw [put, Sink.put, Sink.deliver_of_willing _ _ _ _ willing]
      rfl
    · simp [written, received, Sink.filled]
  | some buffer =>
    simp only [put]
    by_cases fits : slice.length < buffer.capacity - buffer.held.size
    · refine ⟨⟨sink, some (buffer.hold slice)⟩, if_pos fits, rfl, ?_⟩
      simp [written, received, OutputBuffer.hold]
    · rw [if_neg fits]
      obtain ⟨buffer', sink', released, kept, same, past⟩ :=
        release_if_full slice buffer willing (Nat.le_of_not_lt fits)
      have willing' : sink'.Willing := Willing.of_channel_eq willing kept
      rw [released]
      by_cases large : buffer'.capacity ≤ slice.length
      · refine ⟨⟨sink'.filled slice, some buffer'⟩, ?_, kept, ?_⟩
        · simp only [if_pos large, Sink.put, Sink.deliver_of_willing _ _ _ _ willing']
          rfl
        · -- nothing is held back that the slice overtakes
          rcases past large with empty | rfl
          · simp [written, received, Sink.filled, ← same, empty]
          · simp [written, received, Sink.filled, same]
      · refine ⟨⟨sink', some (buffer'.hold slice)⟩, ?_, kept, ?_⟩
        · simp only [if_neg large]
        · simp [written, received, OutputBuffer.hold, ← same]

end Output

/-- One state of an encoder comes from another by writing some bytes and nothing else. -/
structure Encoder.Extends (before : Encoder) (bytes : List UInt8) (after : Encoder) : Prop where
  frame : after =
    { before with output := after.output, position := before.position + bytes.length }
  written : after.output.written = before.output.written ++ bytes
  willing : after.output.Willing

theorem Encoder.Extends.trans {before between after : Encoder} {front back : List UInt8}
    (first : before.Extends front between) (second : between.Extends back after) :
    before.Extends (front ++ back) after := by
  refine ⟨?_, ?_, second.willing⟩
  · rw [second.frame, first.frame]
    simp [Nat.add_assoc]
  · rw [second.written, first.written, List.append_assoc]

/-- What an encoder looks up while it writes: its settings and the handlers. -/
structure Setting where
  options : Options
  registry : Registry

/-- The settings and the handlers of an encoder. -/
def Encoder.setting (e : Encoder) : Setting := ⟨e.options, e.registry⟩

/-- An encoder that has written more, to the same channel, keeps its setting. -/
structure Encoder.Grows (before : Encoder) (bytes : List UInt8) (after : Encoder) : Prop
    extends before.Extends bytes after where
  channel : after.output.channel = before.output.channel

theorem Encoder.Grows.setting_eq {before after : Encoder} {bytes : List UInt8}
    (grown : before.Grows bytes after) : after.setting = before.setting := by
  rw [grown.frame]
  rfl

theorem Encoder.Grows.store_eq {before after : Encoder} {bytes : List UInt8}
    (grown : before.Grows bytes after) : after.store = before.store := by
  rw [grown.frame]

theorem Encoder.Grows.refl {e : Encoder} (willing : e.output.Willing) : e.Grows [] e :=
  ⟨⟨rfl, (List.append_nil _).symm, willing⟩, rfl⟩

theorem Encoder.Grows.trans {before between after : Encoder} {front back : List UInt8}
    (first : before.Grows front between) (second : between.Grows back after) :
    before.Grows (front ++ back) after :=
  ⟨first.toExtends.trans second.toExtends, second.channel.trans first.channel⟩

/-- The writer succeeds and puts exactly these bytes. -/
def Writes (setting : Setting) (m : EncodeM Unit) (bytes : List UInt8) : Prop :=
  ∀ e : Encoder, e.setting = setting → e.output.Willing →
    ∃ after, m e = .ok () after ∧ e.Grows bytes after

/-- The writer succeeds and puts bytes that stand for something in a form. -/
def Renders {α : Type} (setting : Setting) (m : EncodeM Unit) (form : Form α) (a : α) : Prop :=
  ∃ bytes, Writes setting m bytes ∧ form bytes a

namespace EncodeM

variable {α β : Type} {e e' : Encoder} {m : EncodeM α} {k : α → EncodeM β}

theorem bind_of_ok {a : α} (first : m e = .ok a e') : (m >>= k) e = k a e' := by
  change EStateM.bind m k e = k a e'
  simp [EStateM.bind, first]

theorem bind_of_error {halt : Halt} (first : m e = .error halt e') :
    (m >>= k) e = .error halt e' := by
  change EStateM.bind m k e = .error halt e'
  simp [EStateM.bind, first]

/-- What goes well goes well step by step. -/
theorem bind_eq_ok {b : β} (run : (m >>= k) e = .ok b e') :
    ∃ a s, m e = .ok a s ∧ k a s = .ok b e' := by
  cases first : m e with
  | ok a s => exact ⟨a, s, rfl, (bind_of_ok first).symm.trans run⟩
  | error halt s => cases (bind_of_error first).symm.trans run

theorem get_bind (k : Encoder → EncodeM β) : (get >>= k) e = k e e := rfl

theorem settings_bind (k : Options → EncodeM β) : (settings >>= k) e = k e.options e := rfl

end EncodeM

namespace Writes

variable {setting : Setting}

theorem nothing : Writes setting (pure ()) [] :=
  fun e _ willing => ⟨e, rfl, .refl willing⟩

theorem bind {m m' : EncodeM Unit} {front back : List UInt8} (h : Writes setting m front)
    (h' : Writes setting m' back) : Writes setting (do m; m') (front ++ back) := by
  intro e same willing
  obtain ⟨between, first, grown⟩ := h e same willing
  obtain ⟨after, second, grown'⟩ := h' between (grown.setting_eq.trans same) grown.willing
  exact ⟨after, (EncodeM.bind_of_ok first).trans second, grown.trans grown'⟩

/-- A step behind an attempt goes on with its success. -/
theorem attempted {m : EncodeM Unit} {k : Except StreamError Unit → EncodeM Unit}
    {front back : List UInt8} (h : Writes setting m front) (h' : Writes setting (k (.ok ())) back) :
    Writes setting (do k (← EncodeM.attempt m)) (front ++ back) := by
  intro e same willing
  obtain ⟨between, first, grown⟩ := h e same willing
  obtain ⟨after, second, grown'⟩ := h' between (grown.setting_eq.trans same) grown.willing
  have attempted : EncodeM.attempt m e = .ok (.ok ()) between := by rw [EncodeM.attempt, first]
  exact ⟨after, (EncodeM.bind_of_ok attempted).trans second, grown.trans grown'⟩

theorem put (op : String) (slice : List UInt8) : Writes setting (EncodeM.put op slice) slice := by
  intro e _ willing
  obtain ⟨output, run, kept, written⟩ := Output.put_of_willing slice willing
  refine ⟨{ e with output, position := e.position + slice.length }, ?_,
    ⟨rfl, written, willing.of_channel_eq kept⟩, kept⟩
  rw [EncodeM.put, run]

theorem tagged (tag : Tag) : Writes setting (EncodeM.tagged tag) tag.spelled := put _ _

/-- A step that looks at the settings writes what it writes under these settings. -/
theorem settings {k : Options → EncodeM Unit} {bytes : List UInt8}
    (h : Writes setting (k setting.options) bytes) :
    Writes setting (do k (← EncodeM.settings)) bytes := by
  intro e same willing
  subst same
  exact h e rfl willing

end Writes

namespace Renders

variable {α β : Type} {setting : Setting} {m m' : EncodeM Unit} {form : Form α} {a : α}

theorem imp {other : Form β} {b : β} (h : Renders setting m form a)
    (sub : ∀ bytes, form bytes a → other bytes b) : Renders setting m other b := by
  obtain ⟨bytes, writes, isForm⟩ := h
  exact ⟨bytes, writes, sub bytes isForm⟩

theorem put (op : String) {slice : List UInt8} (isForm : form slice a) :
    Renders setting (EncodeM.put op slice) form a :=
  ⟨slice, Writes.put op slice, isForm⟩

/-- One form behind another. -/
theorem pair {second : Form β} {b : β} (h : Renders setting m form a)
    (h' : Renders setting m' second b) :
    Renders setting (do m; m') (Form.pair form second) (a, b) := by
  obtain ⟨front, writesFront, isFront⟩ := h
  obtain ⟨back, writesBack, isBack⟩ := h'
  exact ⟨front ++ back, writesFront.bind writesBack, .mk isFront isBack⟩

/-- Two forms that make up a third. -/
theorem both {γ : Type} {second : Form β} {b : β} {whole : Form γ} {c : γ}
    (h : Renders setting m form a) (h' : Renders setting m' second b)
    (compose : ∀ {front back}, form front a → second back b → whole (front ++ back) c) :
    Renders setting (do m; m') whole c := by
  apply (h.pair h').imp
  intro _ found
  rcases found with ⟨isFront, isBack⟩
  exact compose isFront isBack

/-! ## The wire -/

theorem writeInt8 (i : Int8) : Renders setting (Wire.writeInt8 i) Form.int8 i := by
  apply put _
  simp [Form.int8, Form.fixed, BigEndian.encode_succ, BigEndian.encode_zero]

theorem writeBool (b : Bool) : Renders setting (Wire.writeBool b) Form.bool b := put _ rfl

theorem writeUInt16 (n : UInt16) : Renders setting (Wire.writeUInt16 n) Form.uint16 n := put _ rfl

theorem writeInt16 (i : Int16) : Renders setting (Wire.writeInt16 i) Form.int16 i := put _ rfl

theorem writeFloat (n : UInt32) : Renders setting (Wire.writeFloat n) Form.uint32 n := put _ rfl

theorem writeInt32 (i : Int32) : Renders setting (Wire.writeInt32 i) Form.int32 i := put _ rfl

theorem writeUInt64 (n : UInt64) : Renders setting (Wire.writeUInt64 n) Form.uint64 n := put _ rfl

theorem writeDouble (n : UInt64) : Renders setting (Wire.writeDouble n) Form.uint64 n := put _ rfl

theorem writeInt64 (i : Int64) : Renders setting (Wire.writeInt64 i) Form.int64 i := put _ rfl

theorem writeChar (c : Char) : Renders setting (Wire.writeChar c) Form.char c := put _ rfl

theorem writeLength (oid : Oid) {n : Nat} (fits : n ≤ Form.maxLength) :
    Renders setting (Wire.writeLength oid n) Form.length n := by
  have small : n < 2 ^ 32 := Nat.lt_of_le_of_lt fits (by decide)
  have prefixed : wireLength? n = some (.ofNat n) := if_pos fits
  rw [Wire.writeLength, prefixed]
  exact put _ ⟨fits, by rw [UInt32.toNat_ofNat_of_lt' small]⟩

theorem writeBytes (oid : Oid) {content : List UInt8} (fits : content.length ≤ Form.maxLength) :
    Renders setting (Wire.writeBytes oid content) Form.blob content := by
  have raw : Renders setting (EncodeM.put "write bytes" content) Form.raw content := put _ rfl
  apply (writeLength oid fits).both raw
  intro front _ isLength same
  subst same
  exact .mk isLength

theorem writeText (oid : Oid) {s : String} (fits : (Text.Utf8.encode s).length ≤ Form.maxLength) :
    Renders setting (Wire.writeText oid s) Form.text s :=
  writeBytes oid fits

theorem writeInteger (oid : Oid) {i : Int}
    (fits : (TwosComplement.encode i).length ≤ Form.maxLength) :
    Renders setting (Wire.writeInteger oid i) Form.integer i :=
  (writeBytes oid fits).imp fun _ isBlob => .mk isBlob (TwosComplement.spells_encode i)

theorem writeTimestamp (t : Timestamp) :
    Renders setting (Wire.writeTimestamp t) Form.timestamp t :=
  (writeInt64 _).pair (writeInt32 _)

theorem writeNanoOfDay {t : TimeOfDay} (notLeap : t.isLeap = false) :
    Renders setting (Wire.writeNanoOfDay t) Form.nanoOfDay t := by
  unfold Wire.writeNanoOfDay
  rw [t.wireNanos_eq]
  exact (writeInt64 _).imp fun _ isInt => ⟨notLeap, isInt⟩

theorem writeOffset (o : UtcOffset) : Renders setting (Wire.writeOffset o) Form.offset o :=
  writeInt32 _

theorem writeDate (d : Date) : Renders setting (Wire.writeDate d) Form.date d := by
  unfold Wire.writeDate
  rw [d.epochDay_eq]
  exact writeInt64 _

theorem writeDuration (d : Duration) : Renders setting (Wire.writeDuration d) Form.duration d := by
  unfold Wire.writeDuration
  rw [d.floorFields_eq]
  exact (writeInt64 _).pair (writeInt32 _)

/-! ## Many things -/

/-- Things are written one after another. -/
theorem forM {item : α → EncodeM Unit} (items : List α)
    (h : ∀ a ∈ items, Renders setting (item a) form a) :
    Renders setting (items.forM item) (Form.many form) items := by
  induction items with
  | nil => exact ⟨[], Writes.nothing, .nil⟩
  | cons a rest ih =>
    have following := ih fun a mem => h a (List.mem_cons_of_mem _ mem)
    exact (h a (List.mem_cons_self ..)).both following .cons

/-- A count and as many things. -/
theorem counted {item : α → EncodeM Unit} (oid : Oid) {items : List α}
    (fits : items.length ≤ Form.maxLength) (h : ∀ a ∈ items, Renders setting (item a) form a) :
    Renders setting
      (do
        Wire.writeLength oid items.length
        items.forM item)
      (Form.counted form) items :=
  (writeLength oid fits).both (forM items h) .mk

end Renders

/-! ## Chunks -/

section

variable {α : Type}

/-- Pieces are cut from a list without losing an item. -/
theorem flatten_chunksBehind (size : Nat) (current : List α) (room : Nat) (items : List α) :
    (chunksBehind size current room items).flatten = current.reverse ++ items := by
  fun_induction chunksBehind size current room items with
  | case1 current room empty =>
    rw [List.isEmpty_iff] at empty
    simp [empty]
  | case2 => simp
  | case3 current room item rest last ih => simp [ih]
  | case4 current room item rest more ih => simp [ih]

theorem flatten_chunks (size : Nat) (items : List α) : (chunks size items).flatten = items :=
  flatten_chunksBehind size [] size items

/-- No piece is empty, and none has more items than its size allows. -/
theorem bounds_chunksBehind {size : Nat} (pos : 0 < size) {current : List α} {room : Nat}
    {items : List α} (some : 0 < room) (whole : current.length + room = size) :
    ∀ piece ∈ chunksBehind size current room items, piece ≠ [] ∧ piece.length ≤ size := by
  fun_induction chunksBehind size current room items with
  | case1 => simp
  | case2 current room ne_empty =>
    rw [List.isEmpty_iff] at ne_empty
    simp
    exact ⟨ne_empty, by omega⟩
  | case3 current room item rest last ih =>
    simp only [List.mem_cons, forall_eq_or_imp]
    refine ⟨⟨by simp, ?_⟩, ih pos (by simp)⟩
    simp
    omega
  | case4 current room item rest more ih =>
    apply ih (by omega)
    simp
    omega

/-- A piece is not empty and has at most as many items as the size, or as there are. -/
theorem bounds_chunks {size : Nat} (pos : 0 < size) {items piece : List α}
    (mem : piece ∈ chunks size items) :
    piece ≠ [] ∧ piece.length ≤ min size items.length := by
  have start : ([] : List α).length + size = size := Nat.zero_add size
  obtain ⟨ne_nil, short⟩ := bounds_chunksBehind pos pos start piece mem
  have part := (List.sublist_flatten_of_mem mem).length_le
  rw [flatten_chunks] at part
  exact ⟨ne_nil, Nat.le_min.2 ⟨short, part⟩⟩

end

/-! ## Aggregates -/

namespace EncodeM

theorem writeAll_eq_forM (write : Value → EncodeM Unit) (items : List Value) :
    writeAll write items = items.forM write := by
  induction items with
  | nil => rfl
  | cons v rest ih => rw [writeAll, ih]; rfl

theorem writeEntries_eq_forM (write : Value → EncodeM Unit) (entries : List (Value × Value)) :
    writeEntries write entries = entries.forM (fun entry => do write entry.1; write entry.2) := by
  induction entries with
  | nil => rfl
  | cons entry rest ih =>
    rw [writeEntries, ih]
    exact (bind_assoc ..).symm

theorem writeSuppressed_eq_forM (write : Value → EncodeM Unit) (ts : List (Throwable Value)) :
    writeSuppressed write ts = ts.forM (writeThrowable write) := by
  induction ts with
  | nil => rfl
  | cons t rest ih => rw [writeSuppressed, ih]; rfl

end EncodeM

namespace Renders

variable {setting : Setting} {form : Form Value} {write : Value → EncodeM Unit}

/-- Pieces that are not empty are written as chunks, and a zero behind them. -/
theorem chunked (oid : Oid) {pieces : List (List Value)}
    (bounds : ∀ piece ∈ pieces, piece ≠ [] ∧ piece.length ≤ Form.maxLength)
    (h : ∀ piece ∈ pieces, ∀ v ∈ piece, Renders setting (write v) form v) :
    Renders setting
      (do
        EncodeM.writeChunks write oid pieces
        EncodeM.writeTerminator)
      (Form.chunked (Form.many form)) pieces.flatten := by
  induction pieces with
  | nil =>
    have zero : Renders setting EncodeM.writeTerminator Form.length 0 :=
      put _ ⟨Nat.zero_le _, rfl⟩
    exact zero.imp fun _ isZero => .done isZero
  | cons piece rest ih =>
    obtain ⟨ne_nil, fits⟩ := bounds piece (List.mem_cons_self ..)
    have chunk := counted oid fits (h piece (List.mem_cons_self ..))
    have others := ih (fun piece mem => bounds piece (List.mem_cons_of_mem _ mem))
      (fun piece mem => h piece (List.mem_cons_of_mem _ mem))
    rw [EncodeM.writeChunks, EncodeM.writeChunk, EncodeM.writeAll_eq_forM, bind_assoc,
      List.flatten_cons]
    apply chunk.both others
    rintro _ back ⟨number, all⟩ tail
    rw [List.append_assoc]
    exact .chunk number ne_nil all tail

theorem writeOptionalText {text : Option String}
    (fits : ∀ s, text = some s → (Text.Utf8.encode s).length ≤ Form.maxLength) :
    Renders setting (EncodeM.writeOptionalText text) (Form.optional Form.text) text := by
  cases text with
  | none =>
    have absent : Renders setting (Wire.writeBool false) Form.bool false := writeBool false
    obtain ⟨_, writes, rfl⟩ := absent
    exact ⟨_, writes.bind Writes.nothing, .none⟩
  | some s =>
    apply (writeBool true).both (writeText _ (fits s rfl))
    intro _ back rfl isText
    exact .some isText

/-- The texts of a line of a stack trace can be written. -/
structure FrameFits (f : Frame) : Prop where
  className : (Text.Utf8.encode f.className).length ≤ Form.maxLength
  method : (Text.Utf8.encode f.method).length ≤ Form.maxLength
  file : ∀ s, f.file = some s → (Text.Utf8.encode s).length ≤ Form.maxLength

theorem writeFrame {f : Frame} (fits : FrameFits f) :
    Renders setting (EncodeM.writeFrame f) Form.frame f := by
  refine ((writeText _ fits.className).pair ((writeText _ fits.method).pair
    ((writeOptionalText fits.file).pair (writeInt32 f.line)))).imp ?_
  intro _ found
  rcases found with ⟨className, method, file, line⟩
  exact .mk className method file line

end Renders

end TaggedStream
