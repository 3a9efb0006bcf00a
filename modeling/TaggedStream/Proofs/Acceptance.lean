import TaggedStream.Proofs.Reading

/-!
The decoder accepts exactly the grammar.

Each reader of a part of a value recognises the form of that part, given that the reader of the
values inside recognises some form of values. The payload of every tag follows, and from it, by
induction on the levels that may still be opened, the derivations of whole values.
-/

namespace TaggedStream

namespace Recognises

open DecodeM Wire

variable {α : Type} {scope : Scope}

/-! ## Many things -/

/-- A count of things is read behind those that were read already. -/
theorem readMany {item : DecodeM α} {form : Form α} (h : Recognises scope item form)
    (before : List α) (count : Nat) :
    Recognises scope (DecodeM.readMany item before count)
      (fun bytes items => ∃ new, items = before.reverse ++ new ∧ new.length = count ∧
        Form.many form bytes new) := by
  induction count generalizing before with
  | zero =>
    apply (Recognises.pure before.reverse).congr
    intro bytes items
    constructor
    · intro found
      rcases found with ⟨rfl, rfl⟩
      exact ⟨[], by simp, rfl, .nil⟩
    · intro found
      rcases found with ⟨new, rfl, none, all⟩
      obtain rfl := List.eq_nil_of_length_eq_zero none
      cases all
      exact ⟨rfl, by simp⟩
  | succ count ih =>
    refine (h.bind fun a => ih (a :: before)).congr fun bytes items => ?_
    constructor
    · intro found
      rcases found with ⟨front, back, a, rfl, head, new, rfl, length, tail⟩
      exact ⟨a :: new, by simp, congrArg (· + 1) length, .cons head tail⟩
    · intro found
      rcases found with ⟨new, rfl, length, all⟩
      cases all with
      | nil => cases length
      | cons head tail => exact ⟨_, _, _, rfl, head, _, by simp, Nat.succ.inj length, tail⟩

/-- A count of things from the start. -/
theorem readExactly {item : DecodeM α} {form : Form α} (h : Recognises scope item form)
    (count : Nat) :
    Recognises scope (DecodeM.readMany item [] count)
      (fun bytes items => items.length = count ∧ Form.many form bytes items) := by
  apply (h.readMany [] count).congr
  intro bytes items
  constructor
  · intro found
    rcases found with ⟨_, rfl, length, all⟩
    exact ⟨length, all⟩
  · intro found
    rcases found with ⟨length, all⟩
    exact ⟨items, rfl, length, all⟩

theorem readCounted {item : DecodeM α} {form : Form α} (h : Recognises scope item form)
    (oid : Oid) : Recognises scope (DecodeM.readCounted oid item) (Form.counted form) := by
  apply ((readLength oid).bind h.readExactly).congr
  intro bytes items
  constructor
  · intro found
    rcases found with ⟨count, body, _, rfl, number, rfl, all⟩
    exact .mk number all
  · intro found
    rcases found with ⟨number, all⟩
    exact ⟨_, _, _, rfl, number, rfl, all⟩

theorem length_of_isLength {bytes : List UInt8} {n : Nat} (h : Form.length bytes n) :
    bytes.length = 4 := by
  rw [h.2, BigEndian.length_encode]

theorem readChunkLength (oid : Oid) :
    Recognises scope (DecodeM.readChunkLength oid) Form.length :=
  (readLength oid).notAtEnd (fun _ h => by simpa using length_of_isLength h) _

/-- One round of the chunk reader. -/
theorem readChunks_succ {chunk : Nat → DecodeM (List α)} {oid : Oid} {before : List (List α)}
    {fuel n : Nat} {d d' : Decoder} (first : DecodeM.readChunkLength oid d = .ok n d') :
    DecodeM.readChunks oid chunk before (fuel + 1) d =
      if n = 0 then .ok before.reverse.flatten d'
      else (chunk n >>= fun items => DecodeM.readChunks oid chunk (items :: before) fuel) d' := by
  rw [DecodeM.readChunks, bind_of_ok first]
  cases n <;> rfl

/-- With enough fuel, chunks are read up to the zero, behind those that were read already. Every
chunk takes the four bytes of its count, so the bytes of all chunks are fuel enough. -/
theorem complete_readChunks {chunk : Nat → DecodeM (List α)} {form : Form (List α)} (oid : Oid)
    (h : ∀ n, Recognises scope (chunk n) (fun bytes items => items.length = n ∧ form bytes items))
    {bytes : List UInt8} {items : List α} (isChunked : Form.chunked form bytes items)
    (before : List (List α)) {fuel : Nat} (enough : bytes.length ≤ fuel) {d : Decoder}
    {rest : List UInt8} (room : d.scope = scope)
    (source : d.source = .slice (bytes ++ rest)) :
    DecodeM.readChunks oid chunk before fuel d =
      .ok (before.reverse.flatten ++ items) (d.past bytes rest) := by
  induction isChunked generalizing before fuel d with
  | @done terminator zero =>
    have size := length_of_isLength zero
    obtain ⟨fuel, rfl⟩ : ∃ more, fuel = more + 1 := ⟨fuel - 1, by omega⟩
    rw [readChunks_succ ((readChunkLength oid).complete room source zero), if_pos rfl,
      List.append_nil]
  | @chunk count body others items more number ne_nil head tail ih =>
    have size := length_of_isLength number
    simp only [List.length_append] at enough
    obtain ⟨fuel, rfl⟩ : ∃ more, fuel = more + 1 := ⟨fuel - 1, by omega⟩
    rw [List.append_assoc] at source
    have first := (readChunkLength oid).complete room source number
    have between : (d.past count (body ++ others ++ rest)).source =
        .slice (body ++ (others ++ rest)) := by rw [Decoder.past, List.append_assoc]
    have second := (h items.length).complete (d := d.past count (body ++ others ++ rest)) room
      between ⟨rfl, head⟩
    have enoughLeft : others.length ≤ fuel := by omega
    have third := ih (items :: before) enoughLeft room rfl
      (d := (d.past count (body ++ others ++ rest)).past body (others ++ rest))
    rw [readChunks_succ first, if_neg (mt List.eq_nil_of_length_eq_zero ne_nil),
      bind_of_ok second, third]
    simp [Decoder.past_past]

/-- Whatever fuel there is, what is read are chunks. -/
theorem sound_readChunks {chunk : Nat → DecodeM (List α)} {form : Form (List α)} (oid : Oid)
    (h : ∀ n, Recognises scope (chunk n) (fun bytes items => items.length = n ∧ form bytes items))
    {before : List (List α)} {fuel : Nat} {d d' : Decoder} {input : List UInt8} {all : List α}
    (room : d.scope = scope) (strict : scope.Strict)
    (source : d.source = .slice input)
    (run : DecodeM.readChunks oid chunk before fuel d = .ok all d') :
    ∃ bytes rest items, input = bytes ++ rest ∧ all = before.reverse.flatten ++ items ∧
      Form.chunked form bytes items ∧ d' = d.past bytes rest := by
  induction fuel generalizing before d input with
  | zero => cases run
  | succ fuel ih =>
    obtain ⟨n, between, first, -⟩ := bind_eq_ok_iff.1 run
    rw [readChunks_succ first] at run
    obtain ⟨count, middle, rfl, isLength, rfl⟩ :=
      (readChunkLength oid).sound room strict source first
    by_cases zero : n = 0
    · subst zero
      cases run
      exact ⟨count, middle, [], rfl, by simp, .done isLength, rfl⟩
    · rw [if_neg zero] at run
      obtain ⟨items, after, third, fourth⟩ := bind_eq_ok_iff.1 run
      obtain ⟨body, following, rfl, ⟨length, isChunk⟩, rfl⟩ :=
        (h _).sound (d := d.past count middle) room strict rfl third
      obtain ⟨others, rest, more, rfl, rfl, tail, rfl⟩ :=
        ih (d := (d.past count (body ++ following)).past body following) room rfl fourth
      have ne_nil : items ≠ [] := by
        intro same
        subst same
        exact zero length.symm
      refine ⟨count ++ (body ++ others), rest, items ++ more, by simp, by simp,
        .chunk (length ▸ isLength) ne_nil isChunk tail, ?_⟩
      simp [Decoder.past_past]

theorem readUncountable {chunk : Nat → DecodeM (List α)} {form : Form (List α)} (oid : Oid)
    (h : ∀ n, Recognises scope (chunk n)
      (fun bytes items => items.length = n ∧ form bytes items)) :
    Recognises scope (DecodeM.readUncountable oid chunk) (Form.chunked form) := by
  have unfolded (d : Decoder) : DecodeM.readUncountable oid chunk d =
      DecodeM.readChunks oid chunk [] (d.source.size + 1) d := rfl
  constructor
  · intro d bytes rest items room source isChunked
    have enough : bytes.length ≤ d.source.size + 1 := by
      rw [source, Source.size, List.length_append]
      omega
    rw [unfolded, complete_readChunks oid h isChunked [] enough room source]
    rfl
  · intro d d' input items room strict source run
    rw [unfolded] at run
    obtain ⟨bytes, rest, items, rfl, rfl, isChunked, rfl⟩ :=
      sound_readChunks oid h room strict source run
    exact ⟨bytes, rest, rfl, isChunked, rfl⟩

/-! ## Parts of values -/

/-- A boolean decides how reading goes on. -/
theorem whether (oid : Oid) {k : Bool → DecodeM α} {yes no : Form α}
    (present : Recognises scope (k true) yes) (absent : Recognises scope (k false) no) :
    Recognises scope (Wire.readBool oid >>= k)
      (fun bytes a => ∃ rest,
        bytes = [1] ++ rest ∧ yes rest a ∨ bytes = [0] ++ rest ∧ no rest a) := by
  have either (b : Bool) :
      Recognises scope (k b) (fun bytes a => if b then yes bytes a else no bytes a) := by
    cases b
    · exact absent
    · exact present
  apply ((readBool oid).bind either).congr
  intro bytes a
  constructor
  · intro found
    rcases found with ⟨_, rest, b, rfl, rfl, isRest⟩
    cases b
    · exact ⟨rest, .inr ⟨rfl, isRest⟩⟩
    · exact ⟨rest, .inl ⟨rfl, isRest⟩⟩
  · intro found
    rcases found with ⟨rest, ⟨rfl, isRest⟩ | ⟨rfl, isRest⟩⟩
    · exact ⟨_, rest, true, rfl, rfl, isRest⟩
    · exact ⟨_, rest, false, rfl, rfl, isRest⟩

theorem readOptionalText :
    Recognises scope DecodeM.readOptionalText (Form.optional Form.text) := by
  apply (whether _ ((readText _).wrapped some) (.pure none)).congr
  intro bytes text
  constructor
  · intro found
    rcases found with ⟨rest, ⟨rfl, s, isText, rfl⟩ | ⟨rfl, rfl, rfl⟩⟩
    · exact .some isText
    · exact .none
  · rintro (_ | isText)
    · exact ⟨[], .inr ⟨rfl, rfl, rfl⟩⟩
    · exact ⟨_, .inl ⟨rfl, _, isText, rfl⟩⟩

theorem readFrame : Recognises scope DecodeM.readFrame Form.frame := by
  refine ((readText _).bind fun className => (readText _).bind fun method =>
    readOptionalText.bind fun file =>
      readInt32.wrapped fun line => ({ className, method, file, line } : Frame)).congr
    fun bytes f => ?_
  constructor
  · intro found
    rcases found with ⟨a, _, _, rfl, isClassName, b, _, _, rfl, isMethod, c, d, _, rfl, isFile, _,
      isLine, rfl⟩
    exact .mk isClassName isMethod isFile isLine
  · intro found
    rcases found with ⟨isClassName, isMethod, isFile, isLine⟩
    exact ⟨_, _, _, rfl, isClassName, _, _, _, rfl, isMethod, _, _, _, rfl, isFile, _, isLine, rfl⟩

section

variable {element : Oid → DecodeM Value} {inner : Form Value}
  (h : ∀ parent, Recognises scope (element parent) inner)

include h

theorem readEntry (oid : Oid) :
    Recognises scope (DecodeM.readEntry element oid) (Form.pair inner inner) :=
  (h oid).pair (h oid)

theorem readMap (oid : Oid) :
    Recognises scope (DecodeM.readMap element oid)
      (fun bytes m => Form.counted (Form.pair inner inner) bytes m.entries) := by
  apply ((readEntry h oid).readCounted oid).as
  · intro bytes m isMap
    exact ⟨m.entries, isMap, rfl⟩
  · intro bytes entries isMap
    exact isMap

theorem readMapValue (parent : Oid) :
    Recognises scope (DecodeM.readMapValue element parent)
      (fun bytes m => inner bytes (.map m)) := by
  apply (h parent).checked
  · intro bytes m isMap
    exact ⟨.map m, isMap, rfl⟩
  · intro bytes v isValue
    cases v with
    | map m => exact .inl ⟨m, rfl, isValue⟩
    | _ => exact .inr ⟨_, rfl⟩

theorem readNestedThrowable :
    Recognises scope (DecodeM.readNestedThrowable element)
      (fun bytes t => inner bytes (.throwable t)) := by
  apply (h _).checked
  · intro bytes t isThrowable
    exact ⟨.throwable t, isThrowable, rfl⟩
  · intro bytes v isValue
    cases v with
    | throwable t => exact .inl ⟨t, rfl, isValue⟩
    | _ => exact .inr ⟨_, rfl⟩

theorem readThrowable (data : Option (OrderedMap Value Value)) :
    Recognises scope (DecodeM.readThrowable element data) (Form.throwable inner data) := by
  have nested := readNestedThrowable h
  have beside := nested.readCounted Tag.throwable.code
  refine (readOptionalText.bind fun message => (readFrame.readCounted _).bind fun frames =>
    whether _
      ((nested.wrapped some).bind fun cause => beside.wrapped fun suppressed =>
        ({ message, frames, cause, suppressed, data } : Throwable Value))
      ((Recognises.pure none).bind fun cause => beside.wrapped fun suppressed =>
        ({ message, frames, cause, suppressed, data } : Throwable Value))).congr fun bytes t => ?_
  constructor
  · intro found
    rcases found with ⟨a, _, _, rfl, isMessage, b, _, _, rfl, areFrames, _,
      ⟨rfl, c, d, _, rfl, ⟨_, isCause, rfl⟩, _, areSuppressed, rfl⟩ |
      ⟨rfl, c, d, _, rfl, ⟨rfl, rfl⟩, _, areSuppressed, rfl⟩⟩
    · rw [← List.append_assoc [1]]
      exact .mk isMessage areFrames (.some isCause) areSuppressed rfl
    · exact .mk isMessage areFrames .none areSuppressed rfl
  · intro found
    rcases found with ⟨isMessage, areFrames, isCause, areSuppressed, rfl⟩
    refine ⟨_, _, _, rfl, isMessage, _, _, _, rfl, areFrames, ?_⟩
    obtain ⟨message, frames, cause, suppressed, data⟩ := t
    cases isCause with
    | none => exact ⟨_, .inr ⟨rfl, [], _, _, rfl, ⟨rfl, rfl⟩, _, areSuppressed, rfl⟩⟩
    | some isCause =>
      exact ⟨_, .inl ⟨List.append_assoc .., _, _, _, rfl, ⟨_, isCause, rfl⟩, _, areSuppressed, rfl⟩⟩

/-! ## Payloads -/

omit h in
theorem readNumber (kind : NumericKind) :
    Recognises scope (DecodeM.readNumber kind) (NumberPayload kind) := by
  cases kind with
  | byte => exact readInt8.as (fun | .byte p => ⟨_, p, rfl⟩) .byte
  | short => exact readInt16.as (fun | .short p => ⟨_, p, rfl⟩) .short
  | int => exact readInt32.as (fun | .int p => ⟨_, p, rfl⟩) .int
  | long => exact readInt64.as (fun | .long p => ⟨_, p, rfl⟩) .long
  | half => exact readUInt16.as (fun | .half p => ⟨_, p, rfl⟩) .half
  | float => exact readUInt32.as (fun | .float p => ⟨_, p, rfl⟩) .float
  | double => exact readUInt64.as (fun | .double p => ⟨_, p, rfl⟩) .double
  | bigInt => exact (readInteger _).as (fun | .bigInt p => ⟨_, p, rfl⟩) .bigInt

omit h in
/-- A tag that says all has no payload. -/
theorem payloadFree {tag : Tag} {v : Value} (into : Payload inner tag [] v)
    (out : ∀ bytes w, Payload inner tag bytes w → bytes = [] ∧ w = v) :
    Recognises scope (Pure.pure v) (Payload inner tag) := by
  apply (Recognises.pure v).congr
  intro bytes w
  constructor
  · intro found
    rcases found with ⟨rfl, rfl⟩
    exact into
  · exact out bytes w

/-- The reader of each tag recognises its payloads. -/
theorem readTagged (tag : Tag) :
    Recognises scope (DecodeM.readTagged element tag) (Payload inner tag) := by
  cases tag with
  | null => exact payloadFree .null fun _ _ p => by cases p; exact ⟨rfl, rfl⟩
  | annotated =>
    apply (readMapValue h _).pairAs (h _)
    · intro _ _ found
      cases found
      exact ⟨_, _, .mk ‹_› ‹_›, rfl⟩
    · intro _ _ _ found
      rcases found with ⟨notes, value⟩
      exact .annotated notes value
  | unsupported =>
    apply (readText _).pairAs (readText _)
    · intro _ _ found
      cases found
      exact ⟨_, _, .mk ‹_› ‹_›, rfl⟩
    · intro _ _ _ found
      rcases found with ⟨className, content⟩
      exact .unsupported className content
  | number kind =>
    apply (readNumber kind).congr
    intro _ _
    exact ⟨.number, fun | .number p => p⟩
  | constant kind constant =>
    exact payloadFree .constant fun _ _ p => by cases p; exact ⟨rfl, rfl⟩
  | boolTrue => exact payloadFree .boolTrue fun _ _ p => by cases p; exact ⟨rfl, rfl⟩
  | boolFalse => exact payloadFree .boolFalse fun _ _ p => by cases p; exact ⟨rfl, rfl⟩
  | char => exact (readChar _).as (fun | .char p => ⟨_, p, rfl⟩) .char
  | decimal =>
    apply readInt32.pairAs (readInteger _)
    · intro _ _ found
      cases found
      exact ⟨_, _, .mk ‹_› ‹_›, rfl⟩
    · intro _ _ _ found
      rcases found with ⟨scale, unscaled⟩
      exact .decimal scale unscaled
  | ratio =>
    apply (readInteger _).pairChecked (readInteger _)
    · intro _ _ found
      cases found
      exact ⟨_, _, .mk ‹_› ‹_›, by rw [(Ratio.ofInts?_eq_some_iff ..).2 ⟨rfl, rfl⟩]⟩
    · intro _ n d found
      rcases found with ⟨numerator, denominator⟩
      cases outcome : Ratio.ofInts? n d with
      | some r =>
        obtain ⟨rfl, rfl⟩ := (Ratio.ofInts?_eq_some_iff ..).1 outcome
        exact .inl ⟨_, rfl, .ratio numerator denominator⟩
      | none => exact .inr ⟨_, rfl⟩
  | string => exact (readText _).as (fun | .string p => ⟨_, p, rfl⟩) .string
  | stringEmpty => exact payloadFree .stringEmpty fun _ _ p => by cases p; exact ⟨rfl, rfl⟩
  | bytes => exact (readBytes _).as (fun | .bytes p => ⟨_, p, rfl⟩) .bytes
  | bytesEmpty => exact payloadFree .bytesEmpty fun _ _ p => by cases p; exact ⟨rfl, rfl⟩
  | byteStream =>
    refine (readUncountable _ fun n => (readRaw n).congr fun _ _ => And.comm).as
      (fun | .byteStream p => ⟨_, p, rfl⟩) .byteStream
  | regex =>
    apply (readText _).checked
    · intro _ _ found
      cases found
      exact ⟨_, ‹_›, by rw [(Pattern.compile?_eq_some_iff ..).2 rfl]⟩
    · intro _ source isText
      cases outcome : Pattern.compile? source with
      | some p =>
        obtain rfl := (Pattern.compile?_eq_some_iff ..).1 outcome
        exact .inl ⟨_, rfl, .regex isText⟩
      | none => exact .inr ⟨_, rfl⟩
  | uuid =>
    apply readUInt64.pairAs readUInt64
    · intro _ _ found
      cases found
      exact ⟨_, _, .mk ‹_› ‹_›, rfl⟩
    · intro _ _ _ found
      rcases found with ⟨high, low⟩
      exact .uuid high low
  | vector => exact ((h _).readCounted _).as (fun | .vector p => ⟨_, p, rfl⟩) .vector
  | vectorEmpty => exact payloadFree .vectorEmpty fun _ _ p => by cases p; exact ⟨rfl, rfl⟩
  | set => exact ((h _).readCounted _).as (fun | .set p => ⟨_, p, rfl⟩) .set
  | setEmpty => exact payloadFree .setEmpty fun _ _ p => by cases p; exact ⟨rfl, rfl⟩
  | map => exact (readMap h _).as (fun | .map p => ⟨_, p, rfl⟩) .map
  | mapEmpty => exact payloadFree .mapEmpty fun _ _ p => by cases p; exact ⟨rfl, rfl⟩
  | intArray => exact (readInt32.readCounted _).as (fun | .intArray p => ⟨_, p, rfl⟩) .intArray
  | longArray => exact (readInt64.readCounted _).as (fun | .longArray p => ⟨_, p, rfl⟩) .longArray
  | doubleArray =>
    exact (readUInt64.readCounted _).as (fun | .doubleArray p => ⟨_, p, rfl⟩) .doubleArray
  | boolArray =>
    exact ((readBool _).readCounted _).as (fun | .boolArray p => ⟨_, p, rfl⟩) .boolArray
  | shortArray =>
    exact (readInt16.readCounted _).as (fun | .shortArray p => ⟨_, p, rfl⟩) .shortArray
  | floatArray =>
    exact (readUInt32.readCounted _).as (fun | .floatArray p => ⟨_, p, rfl⟩) .floatArray
  | charArray =>
    exact ((readChar _).readCounted _).as (fun | .charArray p => ⟨_, p, rfl⟩) .charArray
  | seq =>
    exact (readUncountable _ fun n => (h _).readExactly n).as (fun | .seq p => ⟨_, p, rfl⟩) .seq
  | instant => exact (readTimestamp _).as (fun | .instant p => ⟨_, p, rfl⟩) .instant
  | date => exact (readDate _).as (fun | .date p => ⟨_, p, rfl⟩) .date
  | time => exact (readNanoOfDay _).as (fun | .time p => ⟨_, p, rfl⟩) .time
  | dateTime => exact (readTimestamp _).as (fun | .dateTime p => ⟨_, p, rfl⟩) .dateTime
  | offsetDateTime =>
    apply (readTimestamp _).pairChecked (readOffset _)
    · intro _ _ found
      cases found
      exact ⟨_, _, .mk ‹_› ‹_›, by rw [(OffsetDateTime.ofWall?_eq_some_iff ..).2 ⟨rfl, rfl⟩]⟩
    · intro _ w o found
      rcases found with ⟨wall, offset⟩
      cases outcome : OffsetDateTime.ofWall? w o with
      | some t =>
        obtain ⟨rfl, rfl⟩ := (OffsetDateTime.ofWall?_eq_some_iff ..).1 outcome
        exact .inl ⟨_, rfl, .offsetDateTime wall offset⟩
      | none => exact .inr ⟨_, rfl⟩
  | duration => exact (readDuration _).as (fun | .duration p => ⟨_, p, rfl⟩) .duration
  | period =>
    refine (readInt32.bind fun years => readInt32.bind fun months =>
      readInt32.wrapped fun days => Value.period { years, months, days }).congr fun _ _ => ?_
    constructor
    · intro found
      rcases found with ⟨_, _, _, rfl, years, _, _, _, rfl, months, _, days, rfl⟩
      exact .period years months days
    · intro found
      cases found
      exact ⟨_, _, _, rfl, ‹_›, _, _, _, rfl, ‹_›, _, ‹_›, rfl⟩
  | offsetTime =>
    apply (readNanoOfDay _).pairAs (readOffset _)
    · intro _ _ found
      cases found
      exact ⟨_, _, .mk ‹_› ‹_›, rfl⟩
    · intro _ _ _ found
      rcases found with ⟨time, offset⟩
      exact .offsetTime time offset
  | zonedDateTime =>
    apply (readTimestamp _).pairAs (readText _)
    · intro _ _ found
      cases found
      exact ⟨_, _, .mk ‹_› ‹_›, rfl⟩
    · intro _ _ _ found
      rcases found with ⟨wall, zone⟩
      exact .zonedDateTime wall zone
  | zoneId => exact (readText _).as (fun | .zoneId p => ⟨_, p, rfl⟩) .zoneId
  | throwable => exact (readThrowable h none).as (fun | .throwable p => ⟨_, p, rfl⟩) .throwable
  | throwableWithData =>
    refine ((readMapValue h _).bind fun data => (readThrowable h (some data)).wrapped
      Value.throwable).congr fun _ _ => ?_
    constructor
    · intro found
      rcases found with ⟨_, _, _, rfl, data, _, body, rfl⟩
      exact .throwableWithData data body
    · intro found
      cases found
      exact ⟨_, _, _, rfl, ‹_›, _, ‹_›, rfl⟩
  | future => exact (h _).as (fun | .future p => ⟨_, p, rfl⟩) .future

/-! ## Handlers -/

/-- A plan that takes a cargo takes the bytes that stand for it. -/
theorem complete_runPlan {plan : ReadPlan α} {cargo : Cargo} {a : α} (takes : plan.Takes cargo a)
    {bytes rest : List UInt8} (form : Form.cargo inner bytes cargo) {d : Decoder}
    (room : d.scope = scope) (source : d.source = .slice (bytes ++ rest)) :
    DecodeM.runPlan element plan d = .ok a (d.past bytes rest) := by
  induction takes generalizing bytes d with
  | done =>
    cases form
    exact congrArg _ (Decoder.past_nil source).symm
  | @takeExact op size _ _ _ _ length _ ih =>
    obtain ⟨back, rfl, tail⟩ := Form.cargo_ofBytes_append_iff.1 form
    rw [List.append_assoc] at source
    have first := (takeExact op size).complete room source ⟨rfl, length⟩
    rw [DecodeM.runPlan, bind_of_ok (attempt_of_ok first), ih (d := d.past _ _) tail room rfl,
      Decoder.past_past]
  | value _ ih =>
    cases form with
    | cons head tail =>
      rw [List.append_assoc] at source
      have first := (h d.extension).complete room source head
      rw [DecodeM.runPlan, get_bind, bind_of_ok (attempt_of_ok first),
        ih (d := d.past _ _) tail room rfl, Decoder.past_past]

/-- What a plan that passes errors on reads stands for a cargo that it takes. -/
theorem sound_runPlan {plan : ReadPlan α} (passing : plan.Strict) (strict : scope.Strict)
    {d d' : Decoder} {input : List UInt8} {a : α} (room : d.scope = scope)
    (source : d.source = .slice input) (run : DecodeM.runPlan element plan d = .ok a d') :
    ∃ bytes rest cargo, input = bytes ++ rest ∧ plan.Takes cargo a ∧
      Form.cargo inner bytes cargo ∧ d' = d.past bytes rest := by
  induction passing generalizing d input with
  | done =>
    cases run
    exact ⟨[], input, [], rfl, .done, .nil, (Decoder.past_nil source).symm⟩
  | refuse => cases run
  | takeExact passes _ ih =>
    obtain ⟨taken, between, first, second⟩ := attempt_bind_eq_ok (fun error => by
      rw [passes error]; rfl) run
    obtain ⟨front, middle, rfl, ⟨rfl, length⟩, rfl⟩ :=
      (takeExact _ _).sound room strict source first
    obtain ⟨back, rest, cargo, rfl, takes, form, rfl⟩ :=
      ih _ (d := d.past _ _) room rfl second
    exact ⟨front ++ back, rest, _, (List.append_assoc ..).symm, .takeExact length takes,
      Form.cargo_ofBytes_append_iff.2 ⟨back, rfl, form⟩, Decoder.past_past ..⟩
  | value passes _ ih =>
    rw [DecodeM.runPlan, get_bind] at run
    obtain ⟨v, between, first, second⟩ := attempt_bind_eq_ok (fun error => by
      rw [passes error]; rfl) run
    obtain ⟨front, middle, rfl, head, rfl⟩ := (h _).sound room strict source first
    obtain ⟨back, rest, cargo, rfl, takes, form, rfl⟩ :=
      ih v (d := d.past _ _) room rfl second
    exact ⟨front ++ back, rest, _, (List.append_assoc ..).symm, .value takes,
      .cons head form, Decoder.past_past ..⟩

/-- What follows an identifier outside the catalogue is what its handler takes. -/
theorem readExtension (oid : Oid) :
    Recognises scope (DecodeM.readExtension element oid) (fun bytes v => ∃ plan cargo,
      scope.handlers oid = some plan ∧ plan.Takes cargo v ∧ Form.cargo inner bytes cargo) := by
  constructor
  · intro d bytes rest v room source found
    rcases found with ⟨plan, cargo, handled, takes, form⟩
    rw [← room] at handled
    obtain ⟨reader, registered, rfl⟩ := Option.map_eq_some_iff.1 handled
    have inside := complete_runPlan h takes form (d := { d with extension := oid }) room source
    rw [readExtension_of_registered registered, bracketed, inside]
    rfl
  · intro d d' input v room strict source run
    cases registered : d.registry.reader? oid with
    | none =>
      rw [DecodeM.readExtension, get_bind, registered] at run
      cases run
    | some reader =>
      have handled : scope.handlers oid = some (reader d.options) := by
        rw [← room]
        exact Option.map_eq_some_iff.2 ⟨reader, registered, rfl⟩
      rw [readExtension_of_registered registered, bracketed] at run
      split at run
      case h_2 => cases run
      case h_1 v' inside ran =>
        cases run
        obtain ⟨bytes, rest, cargo, rfl, takes, form, rfl⟩ :=
          sound_runPlan h (strict oid _ handled) strict (d := { d with extension := oid }) room
            source ran
        exact ⟨bytes, rest, rfl, ⟨_, cargo, handled, takes, form⟩, rfl⟩

/-! ## Whole values -/

/-- What follows an identifier is a payload of its tag, or what its handler takes. -/
theorem readBody (oid : Oid) :
    Recognises scope (DecodeM.readBody element oid) (Body scope.handlers inner oid) := by
  cases known : Tag.ofCode? oid with
  | some tag =>
    obtain rfl := Tag.code_of_ofCode? known
    have tagged : DecodeM.readBody element tag.code = DecodeM.readTagged element tag := by
      rw [DecodeM.readBody, known]
    rw [tagged]
    apply (readTagged h tag).congr
    intro bytes v
    constructor
    · exact .tagged
    · intro body
      generalize codeEq : tag.code = oid at body known
      cases body with
      | tagged payload =>
        rw [Tag.ofCode?_code] at known
        cases known
        exact payload
      | extension foreign =>
        rw [foreign] at known
        cases known
  | none =>
    have extended : DecodeM.readBody element oid = DecodeM.readExtension element oid := by
      rw [DecodeM.readBody, known]
    rw [extended]
    apply (readExtension h oid).congr
    intro bytes v
    constructor
    · intro found
      rcases found with ⟨plan, cargo, handled, takes, form⟩
      exact .extension known handled takes form
    · intro body
      cases body with
      | tagged payload =>
        rw [Tag.ofCode?_code] at known
        cases known
      | extension _ handled takes form => exact ⟨_, _, handled, takes, form⟩

end

/-- A derivation of a value is an identifier and what may follow it, in which values are one level
lower. -/
theorem identified {handlers : Handlers} {levels : Nat} {nested : Oid → DecodeM Value}
    (h : ∀ oid, Recognises ⟨levels, handlers⟩ (nested oid) (fun bytes v =>
      ∃ lower, levels = lower + 1 ∧ Body handlers (DerivesUnder handlers lower) oid bytes v)) :
    Recognises ⟨levels, handlers⟩ (do nested (← Wire.readOid)) (DerivesUnder handlers levels) := by
  apply (readOid.bind h).congr
  intro bytes v
  constructor
  · intro found
    rcases found with ⟨_, payload, oid, rfl, rfl, lower, rfl, body⟩
    exact ⟨oid, payload, rfl, body⟩
  · intro derivation
    cases levels with
    | zero => exact derivation.elim
    | succ lower =>
      obtain ⟨oid, payload, rfl, body⟩ := derivation
      exact ⟨_, payload, oid, rfl, rfl, lower, rfl, body⟩

/-- A value that another one needs is a derivation. -/
theorem readElement {handlers : Handlers} {levels : Nat} {nested : Oid → Oid → DecodeM Value}
    (h : ∀ parent oid, Recognises ⟨levels, handlers⟩ (nested parent oid) (fun bytes v =>
      ∃ lower, levels = lower + 1 ∧ Body handlers (DerivesUnder handlers lower) oid bytes v))
    (parent : Oid) :
    Recognises ⟨levels, handlers⟩ (DecodeM.readElement nested parent)
      (DerivesUnder handlers levels) :=
  (identified (h parent)).notAtEnd (fun _ derivation => derivation.ne_nil rfl) _

/-- Values are read level by level. With as much fuel as levels may be opened, the fuel never runs
out. -/
theorem decodeNested {handlers : Handlers} {levels : Nat} (fuel : Nat) (enough : levels ≤ fuel)
    (parent oid : Oid) :
    Recognises ⟨levels, handlers⟩ (DecodeM.decodeNested fuel parent oid) (fun bytes v =>
      ∃ lower, levels = lower + 1 ∧ Body handlers (DerivesUnder handlers lower) oid bytes v) := by
  -- Fuel and levels count down together, and the levels run out first or at the same time.
  induction fuel generalizing levels parent oid with
  | zero =>
    obtain rfl := Nat.le_zero.1 enough
    constructor
    · intro d bytes rest v _ _ found
      rcases found with ⟨lower, impossible, -⟩
      cases impossible
    · intro d d' input v _ _ _ run
      cases run
  | succ fuel ih =>
    cases levels with
    | zero =>
      constructor
      · intro d bytes rest v _ _ found
        rcases found with ⟨lower, impossible, -⟩
        cases impossible
      · intro d d' input v room _ _ run
        have full := Nat.sub_eq_zero_iff_le.1 (congrArg Scope.levels room)
        rw [decodeNested_succ, nested_eq, if_pos full] at run
        cases run
    | succ lower =>
      have body := readBody (readElement (ih (Nat.le_of_succ_le_succ enough))) oid
      constructor
      · intro d bytes rest v room source found
        rcases found with ⟨lower', same, isBody⟩
        obtain rfl := Nat.succ.inj same
        have inside := body.complete (d := { d with depth := d.depth + 1 })
          (Decoder.scope_deeper room) source isBody
        rw [decodeNested_succ, nested_eq, if_neg (Decoder.depth_lt room).not_ge, bracketed, inside]
        simp [Decoder.past]
      · intro d d' input v room strict source run
        rw [decodeNested_succ, nested_eq, if_neg (Decoder.depth_lt room).not_ge, bracketed] at run
        split at run
        case h_2 => cases run
        case h_1 v' inside ran =>
          cases run
          obtain ⟨bytes, rest, split, isBody, rfl⟩ :=
            body.sound (d := { d with depth := d.depth + 1 }) (Decoder.scope_deeper room) strict
              source ran
          exact ⟨bytes, rest, split, ⟨lower, rfl, isBody⟩, by simp [Decoder.past]⟩

end Recognises

namespace DecodeM

variable {d : Decoder}

/-- Reading an identifier leaves the settings as they are. -/
theorem options_of_readOid {d' : Decoder} {oid : Oid}
    (run : (Wire.readOid : DecodeM Oid) d = .ok oid d') :
    d'.options = d.options := by
  obtain ⟨n, between, first, second⟩ := bind_eq_ok_iff.1 run
  obtain ⟨content, after, taken, last⟩ := bind_eq_ok_iff.1 first
  cases second
  cases last
  simp only [ByteSource.takeExact, takeExact] at taken
  split at taken <;> cases taken
  rfl

/-- In front of at least one byte, a value is read. -/
theorem decode_of_present {byte : UInt8} {input : List UInt8}
    (source : d.source = .slice (byte :: input)) :
    decode d =
      (do
        let oid ← Wire.readOid
        return some (← decodeNested d.options.maxDepth oid oid) : DecodeM (Option Value)) d := by
  rw [decode, bind_of_ok (atEnd_slice source)]
  simp only [List.isEmpty_cons, Bool.false_eq_true, if_false]
  cases first : (Wire.readOid : DecodeM Oid) d with
  | ok oid after =>
    rw [bind_of_ok first, bind_of_ok first, settings_bind, options_of_readOid first]
  | error error after => rw [bind_of_error first, bind_of_error first]

/-- The reader of whole values recognises derivations. -/
theorem recognises_decode {handlers : Handlers} {levels fuel : Nat} (enough : levels ≤ fuel) :
    Recognises ⟨levels, handlers⟩
      (do
        let oid ← Wire.readOid
        return some (← decodeNested fuel oid oid) : DecodeM (Option Value))
      (fun bytes found => ∃ v, DerivesUnder handlers levels bytes v ∧ found = some v) := by
  have nested (oid : Oid) : Recognises ⟨levels, handlers⟩ (decodeNested fuel oid oid) _ :=
    Recognises.decodeNested fuel enough oid oid
  have value := Recognises.identified nested
  simpa only [bind_assoc] using value.wrapped some

/-- Whatever follows it, a derivation is read, and nothing behind it. -/
theorem decode_of_derives {bytes rest : List UInt8} {v : Value}
    (source : d.source = .slice (bytes ++ rest))
    (derivation : DerivesUnder d.scope.handlers d.scope.levels bytes v) :
    decode d = .ok (some v) (d.past bytes rest) := by
  cases bytes with
  | nil => exact absurd rfl derivation.ne_nil
  | cons byte bytes =>
    rw [decode_of_present source]
    exact (recognises_decode (Nat.sub_le ..)).complete rfl source ⟨v, derivation, rfl⟩

/-- What is read is a derivation, if every handler passes errors on. -/
theorem derives_of_decode {d' : Decoder} {input : List UInt8} {v : Value}
    (strict : d.scope.Strict) (source : d.source = .slice input)
    (run : decode d = .ok (some v) d') :
    ∃ bytes rest, input = bytes ++ rest ∧
      DerivesUnder d.scope.handlers d.scope.levels bytes v ∧ d' = d.past bytes rest := by
  cases input with
  | nil =>
    rw [decode, bind_of_ok (atEnd_slice source)] at run
    cases run
  | cons byte input =>
    rw [decode_of_present source] at run
    obtain ⟨bytes, rest, split, ⟨_, derivation, same⟩, after⟩ :=
      (recognises_decode (Nat.sub_le ..)).sound rfl strict source run
    obtain rfl := Option.some.inj same
    exact ⟨bytes, rest, split, derivation, after⟩

/-- Without readers there are no handlers. -/
theorem handlers_of_unregistered (unregistered : d.registry.readers = .empty) :
    d.scope.handlers = fun _ => none := by
  funext oid
  change (d.registry.readers.get? oid).map _ = none
  rw [unregistered]
  rfl

/-- The decoder accepts exactly the grammar: with nothing registered, it reads a value off a byte
string and takes `n` bytes for it if and only if the first `n` bytes are a derivation of this value
that opens no more levels than the settings leave, which are all of them outside a value. -/
theorem decode_iff_derives {input : List UInt8} {v : Value} {n : Nat}
    (unregistered : d.registry.readers = .empty) (source : d.source = .slice input) :
    (∃ d', decode d = .ok (some v) d' ∧ d'.position = d.position + n) ↔
      n ≤ input.length ∧ Derives (d.options.maxDepth - d.depth) (input.take n) v := by
  have handlers := handlers_of_unregistered unregistered
  have strict : d.scope.Strict := by
    intro oid plan handled
    rw [handlers] at handled
    cases handled
  constructor
  · intro found
    rcases found with ⟨d', run, moved⟩
    obtain ⟨bytes, rest, rfl, derivation, rfl⟩ := derives_of_decode strict source run
    obtain rfl : n = bytes.length := by simpa [Decoder.past] using moved.symm
    rw [List.take_left]
    rw [handlers] at derivation
    exact ⟨by simp, derivesUnder_none_iff.1 derivation⟩
  · intro found
    rcases found with ⟨enough, derivation⟩
    have whole : input = input.take n ++ input.drop n := (List.take_append_drop ..).symm
    have under : DerivesUnder d.scope.handlers d.scope.levels (input.take n) v := by
      rw [handlers]
      exact derivesUnder_none_iff.2 derivation
    refine ⟨_, decode_of_derives (source.trans (congrArg _ whole)) under, ?_⟩
    simp [Decoder.past, enough]

/-- A vector of one null, in front of two bytes of something else. -/
theorem decode_vector_of_null :
    ∃ d', decode (.fresh {} {} (.slice [0, 0x60, 0, 0, 0, 1, 0, 0, 0xFF, 0xFF])) =
      .ok (some (.vector [.null])) d' ∧ d'.position = 0 + 8 := by
  have null : Derives 127 [0, 0] .null := ⟨.null, [], rfl, .null⟩
  have items : Form.counted (Derives 127) ([0, 0, 0, 1] ++ ([0, 0] ++ [])) [.null] :=
    .mk ⟨by decide, rfl⟩ (.cons null .nil)
  exact (decode_iff_derives rfl rfl).2 ⟨by decide, .vector, _, rfl, .vector items⟩

end DecodeM

end TaggedStream
