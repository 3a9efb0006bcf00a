import TaggedStream.Decoder.Item

/-!
Relations between decoding steps that reach all readers.

A relation that respects sequences and looks for the end in front of a step, and that holds between
taking bytes and taking them once more, holds between each reader of the wire and itself. If it also
holds between aggregates of related chunks, it holds between the readers of a tag for related readers
of the values inside. So what is to be known of all readers is proved of the steps alone.
-/

namespace TaggedStream

namespace DecodeM

/-- Related steps in sequence are related, also if the second one is only reached when the source is
not at its end, and taking bytes is related to itself. -/
structure Congruence (R : (α : Type) → DecodeM α → DecodeM α → Prop) : Prop where
  result {α : Type} (a : α) : R α (pure a) (pure a)
  refusal {α : Type} (error : StreamError) : R α (throw error) (throw error)
  sequence {α β : Type} {m m' : DecodeM α} {k k' : α → DecodeM β} (first : R α m m')
    (second : ∀ a, R β (k a) (k' a)) : R β (m >>= k) (m' >>= k')
  taken (op : String) (size : Nat) : R (List UInt8) (takeExact op size) (takeExact op size)
  guarded {α : Type} (oid : Oid) (fault : Fault) {m m' : DecodeM α} (related : R α m m') : R α
    (do
      if ← atEnd then Wire.malformed oid fault
      m)
    (do
      if ← atEnd then Wire.malformed oid fault
      m')

/-- Related chunks make related aggregates too. -/
structure ItemCongruence (R : (α : Type) → DecodeM α → DecodeM α → Prop) : Prop
    extends Congruence R where
  chunked {α : Type} (oid : Oid) {chunk chunk' : Nat → DecodeM (List α)}
    (related : ∀ n, R (List α) (chunk n) (chunk' n)) :
    R (List α) (readUncountable oid chunk) (readUncountable oid chunk')

/-! ## Readers of the wire -/

namespace Congruence

variable {α β : Type} {R : (α : Type) → DecodeM α → DecodeM α → Prop} (c : Congruence R)

include c

theorem mapped {m m' : DecodeM α} (related : R α m m') (f : α → β) :
    R β (do return f (← m)) (do return f (← m')) :=
  c.sequence related fun a => c.result (f a)

theorem malformed (oid : Oid) (fault : Fault) :
    R α (Wire.malformed oid fault) (Wire.malformed oid fault) :=
  c.refusal _

theorem readNat (op : String) (size : Nat) :
    R Nat (Wire.readNat op size) (Wire.readNat op size) :=
  c.mapped (c.taken op size) _

theorem readUInt8 : R UInt8 Wire.readUInt8 Wire.readUInt8 := c.mapped (c.readNat _ _) _

theorem readInt8 : R Int8 Wire.readInt8 Wire.readInt8 := c.mapped c.readUInt8 _

theorem readBool (oid : Oid) : R Bool (Wire.readBool oid) (Wire.readBool oid) := by
  apply c.sequence c.readUInt8
  intro byte
  split
  · exact c.result _
  · exact c.result _
  · exact c.malformed _ _

theorem readUInt16 : R UInt16 Wire.readUInt16 Wire.readUInt16 := c.mapped (c.readNat _ _) _

theorem readInt16 : R Int16 Wire.readInt16 Wire.readInt16 := c.mapped c.readUInt16 _

theorem readUInt32 : R UInt32 Wire.readUInt32 Wire.readUInt32 := c.mapped (c.readNat _ _) _

theorem readInt32 : R Int32 Wire.readInt32 Wire.readInt32 := c.mapped c.readUInt32 _

theorem readUInt64 : R UInt64 Wire.readUInt64 Wire.readUInt64 := c.mapped (c.readNat _ _) _

theorem readInt64 : R Int64 Wire.readInt64 Wire.readInt64 := c.mapped c.readUInt64 _

theorem readChar (oid : Oid) : R Char (Wire.readChar oid) (Wire.readChar oid) := by
  apply c.sequence c.readUInt32
  intro code
  split
  · exact c.result _
  · exact c.malformed _ _

theorem readLength (oid : Oid) : R Nat (Wire.readLength oid) (Wire.readLength oid) := by
  apply c.sequence c.readInt32
  intro length
  split
  · exact c.malformed _ _
  · exact c.result _

theorem readPieces (before : List (List UInt8)) (last full : Nat) :
    R (List UInt8) (Wire.readPieces before last full) (Wire.readPieces before last full) := by
  induction full generalizing before with
  | zero =>
    unfold Wire.readPieces
    split
    · exact c.result _
    · exact c.mapped (c.taken _ _) _
  | succ full ih => exact c.sequence (c.taken _ _) fun piece => ih (piece :: before)

theorem readRaw (length : Nat) : R (List UInt8) (Wire.readRaw length) (Wire.readRaw length) :=
  c.readPieces _ _ _

theorem readBytes (oid : Oid) : R (List UInt8) (Wire.readBytes oid) (Wire.readBytes oid) :=
  c.sequence (c.readLength oid) c.readRaw

theorem readText (oid : Oid) : R String (Wire.readText oid) (Wire.readText oid) := by
  apply c.sequence (c.readBytes oid)
  intro bytes
  split
  · exact c.result _
  · exact c.malformed _ _

theorem readInteger (oid : Oid) : R Int (Wire.readInteger oid) (Wire.readInteger oid) := by
  apply c.sequence (c.readBytes oid)
  intro bytes
  split
  · exact c.malformed _ _
  · exact c.result _

theorem readTimestamp (oid : Oid) :
    R Timestamp (Wire.readTimestamp oid) (Wire.readTimestamp oid) := by
  apply c.sequence c.readInt64
  intro seconds
  apply c.sequence c.readInt32
  intro nanos
  split
  · exact c.malformed _ _
  · split
    · exact c.result _
    · exact c.malformed _ _

theorem readNanoOfDay (oid : Oid) :
    R TimeOfDay (Wire.readNanoOfDay oid) (Wire.readNanoOfDay oid) := by
  apply c.sequence c.readInt64
  intro nanos
  split
  · exact c.result _
  · exact c.malformed _ _

theorem readOffset (oid : Oid) : R UtcOffset (Wire.readOffset oid) (Wire.readOffset oid) := by
  apply c.sequence c.readInt32
  intro seconds
  split
  · exact c.result _
  · exact c.malformed _ _

theorem readDate (oid : Oid) : R Date (Wire.readDate oid) (Wire.readDate oid) := by
  apply c.sequence c.readInt64
  intro day
  split
  · exact c.result _
  · exact c.malformed _ _

theorem readDuration (oid : Oid) : R Duration (Wire.readDuration oid) (Wire.readDuration oid) := by
  apply c.sequence c.readInt64
  intro seconds
  apply c.sequence c.readInt32
  intro nanos
  split
  · exact c.malformed _ _
  · split
    · exact c.result _
    · exact c.malformed _ _

/-! ## Readers of many things -/

theorem readMany {item item' : DecodeM α} (related : R α item item') (before : List α)
    (count : Nat) : R (List α) (DecodeM.readMany item before count)
      (DecodeM.readMany item' before count) := by
  induction count generalizing before with
  | zero => exact c.result _
  | succ count ih => exact c.sequence related fun a => ih (a :: before)

theorem readCounted {item item' : DecodeM α} (related : R α item item') (oid : Oid) :
    R (List α) (DecodeM.readCounted oid item) (DecodeM.readCounted oid item') :=
  c.sequence (c.readLength oid) (c.readMany related [])

theorem readChunkLength (oid : Oid) :
    R Nat (DecodeM.readChunkLength oid) (DecodeM.readChunkLength oid) :=
  c.guarded oid .missingTerminator (c.readLength oid)

/-- Related chunks make related aggregates, as long as the number of chunks has the same bound. -/
theorem readChunks {chunk chunk' : Nat → DecodeM (List α)}
    (related : ∀ n, R (List α) (chunk n) (chunk' n)) (oid : Oid) (before : List (List α))
    (fuel : Nat) : R (List α) (DecodeM.readChunks oid chunk before fuel)
      (DecodeM.readChunks oid chunk' before fuel) := by
  induction fuel generalizing before with
  | zero => exact c.malformed _ _
  | succ fuel ih =>
    apply c.sequence (c.readChunkLength oid)
    intro count
    cases count with
    | zero => exact c.result _
    | succ count => exact c.sequence (related _) fun items => ih (items :: before)

theorem readOptionalText :
    R (Option String) DecodeM.readOptionalText DecodeM.readOptionalText := by
  apply c.sequence (c.readBool _)
  intro present
  split
  · exact c.mapped (c.readText _) some
  · exact c.result none

theorem readFrame : R Frame DecodeM.readFrame DecodeM.readFrame :=
  c.sequence (c.readText _) fun _ => c.sequence (c.readText _) fun _ =>
    c.sequence c.readOptionalText fun _ => c.mapped c.readInt32 _

theorem readNumber (kind : NumericKind) :
    R Value (DecodeM.readNumber kind) (DecodeM.readNumber kind) := by
  cases kind with
  | byte => exact c.mapped c.readInt8 _
  | short => exact c.mapped c.readInt16 _
  | int => exact c.mapped c.readInt32 _
  | long => exact c.mapped c.readInt64 _
  | half => exact c.mapped c.readUInt16 _
  | float => exact c.mapped c.readUInt32 _
  | double => exact c.mapped c.readUInt64 _
  | bigInt => exact c.mapped (c.readInteger _) _

end Congruence

/-! ## Readers of values -/

namespace ItemCongruence

variable {R : (α : Type) → DecodeM α → DecodeM α → Prop} (c : ItemCongruence R)
  {element element' : Oid → DecodeM Value}
  (related : ∀ parent, R Value (element parent) (element' parent))

include c

include related

theorem readEntry (oid : Oid) :
    R (Value × Value) (DecodeM.readEntry element oid) (DecodeM.readEntry element' oid) :=
  c.sequence (related oid) fun _ => c.mapped (related oid) _

theorem readMap (oid : Oid) : R (OrderedMap Value Value) (DecodeM.readMap element oid)
    (DecodeM.readMap element' oid) :=
  c.mapped (c.readCounted (c.readEntry related oid) oid) _

theorem readMapValue (parent : Oid) : R (OrderedMap Value Value)
    (DecodeM.readMapValue element parent) (DecodeM.readMapValue element' parent) := by
  apply c.sequence (related parent)
  intro found
  split
  · exact c.result _
  · exact c.malformed _ _

theorem readNestedThrowable : R (Throwable Value) (DecodeM.readNestedThrowable element)
    (DecodeM.readNestedThrowable element') := by
  apply c.sequence (related _)
  intro found
  split
  · exact c.result _
  · exact c.malformed _ _

theorem readThrowable (data : Option (OrderedMap Value Value)) : R (Throwable Value)
    (DecodeM.readThrowable element data) (DecodeM.readThrowable element' data) := by
  have nested := c.readNestedThrowable related
  apply c.sequence c.readOptionalText
  intro message
  apply c.sequence (c.readCounted c.readFrame _)
  intro frames
  apply c.sequence (c.readBool _)
  intro caused
  cases caused with
  | true =>
    exact c.sequence (c.mapped nested some) fun _ => c.mapped (c.readCounted nested _) _
  | false =>
    exact c.sequence (c.result none) fun _ => c.mapped (c.readCounted nested _) _

theorem readTagged (tag : Tag) :
    R Value (DecodeM.readTagged element tag) (DecodeM.readTagged element' tag) := by
  cases tag with
  | null | boolTrue | boolFalse | stringEmpty | bytesEmpty | vectorEmpty | setEmpty | mapEmpty =>
    exact c.result _
  | constant kind constant => exact c.result _
  | number kind => exact c.readNumber kind
  | annotated =>
    exact c.sequence (c.readMapValue related _) fun notes => c.mapped (related _) _
  | unsupported => exact c.sequence (c.readText _) fun className => c.mapped (c.readText _) _
  | char => exact c.mapped (c.readChar _) _
  | decimal => exact c.sequence c.readInt32 fun scale => c.mapped (c.readInteger _) _
  | ratio =>
    apply c.sequence (c.readInteger _)
    intro numerator
    apply c.sequence (c.readInteger _)
    intro denominator
    split
    · exact c.result _
    · exact c.malformed _ _
  | string => exact c.mapped (c.readText _) _
  | bytes => exact c.mapped (c.readBytes _) _
  | byteStream => exact c.mapped (c.chunked _ c.readRaw) _
  | regex =>
    apply c.sequence (c.readText _)
    intro source
    split
    · exact c.result _
    · exact c.malformed _ _
  | uuid => exact c.sequence c.readUInt64 fun high => c.mapped c.readUInt64 _
  | vector => exact c.mapped (c.readCounted (related _) _) _
  | set => exact c.mapped (c.readCounted (related _) _) _
  | map => exact c.mapped (c.readMap related _) _
  | intArray => exact c.mapped (c.readCounted c.readInt32 _) _
  | longArray => exact c.mapped (c.readCounted c.readInt64 _) _
  | doubleArray => exact c.mapped (c.readCounted c.readUInt64 _) _
  | boolArray => exact c.mapped (c.readCounted (c.readBool _) _) _
  | shortArray => exact c.mapped (c.readCounted c.readInt16 _) _
  | floatArray => exact c.mapped (c.readCounted c.readUInt32 _) _
  | charArray => exact c.mapped (c.readCounted (c.readChar _) _) _
  | seq => exact c.mapped (c.chunked _ (c.readMany (related _) [])) _
  | instant => exact c.mapped (c.readTimestamp _) _
  | date => exact c.mapped (c.readDate _) _
  | time => exact c.mapped (c.readNanoOfDay _) _
  | dateTime => exact c.mapped (c.readTimestamp _) _
  | offsetDateTime =>
    apply c.sequence (c.readTimestamp _)
    intro wall
    apply c.sequence (c.readOffset _)
    intro offset
    split
    · exact c.result _
    · exact c.malformed _ _
  | duration => exact c.mapped (c.readDuration _) _
  | period =>
    exact c.sequence c.readInt32 fun years => c.sequence c.readInt32 fun months =>
      c.mapped c.readInt32 _
  | offsetTime => exact c.sequence (c.readNanoOfDay _) fun time => c.mapped (c.readOffset _) _
  | zonedDateTime => exact c.sequence (c.readTimestamp _) fun wall => c.mapped (c.readText _) _
  | zoneId => exact c.mapped (c.readText _) _
  | throwable => exact c.mapped (c.readThrowable related none) _
  | throwableWithData =>
    exact c.sequence (c.readMapValue related _) fun data =>
      c.mapped (c.readThrowable related (some data)) _
  | future => exact c.mapped (related _) _

/-- What follows an identifier is read alike if what follows one outside the catalogue is. -/
theorem readBody (extended : ∀ oid, R Value (DecodeM.readExtension element oid)
    (DecodeM.readExtension element' oid)) (oid : Oid) :
    R Value (DecodeM.readBody element oid) (DecodeM.readBody element' oid) := by
  unfold DecodeM.readBody
  split
  · exact c.readTagged related _
  · exact extended oid

omit related

theorem readElement {nested nested' : (parent oid : Oid) → DecodeM Value}
    (related : ∀ parent oid, R Value (nested parent oid) (nested' parent oid)) (parent : Oid) :
    R Value (DecodeM.readElement nested parent) (DecodeM.readElement nested' parent) :=
  c.guarded parent .missingValue (c.sequence c.readUInt16 (related parent))

end ItemCongruence

end DecodeM

end TaggedStream
