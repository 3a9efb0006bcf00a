import TaggedStream.Encoder.Aggregate

/-!
Values written by an encoder.

A value is written in two phases. The first decides all that can fail before a byte is written:
along a chain of deferred and annotated values it waits for what is deferred, finds the handler of
an object or its placeholder, and turns away times that the wire cannot tell apart. Its result is
the second phase, which writes. So a value that is refused in the first phase leaves the sink as it
was, and each deferred value is asked for once.

Notes that are not to be saved end the first phase: the value below them starts again with its own.
-/

namespace TaggedStream

namespace EncodeM

/-- Writes a number of a kind: its constant, or the kind and a payload. -/
def writeNumber (kind : NumericKind) (constant : Option Folded) (payload : EncodeM Unit) :
    EncodeM Unit :=
  match constant with
  | some constant => tagged (.constant kind constant)
  | none => do
    tagged (.number kind)
    payload

/-- Writes a placeholder. -/
def writePlaceholder (p : Placeholder) : EncodeM Unit := do
  tagged .unsupported
  Wire.writeText Tag.unsupported.code p.className
  Wire.writeText Tag.unsupported.code p.content

/-- Runs the plan of a handler, given a way to write a value. -/
def runPlan (write : Value → EncodeM Unit) {α : Type} : WritePlan α → EncodeM α
  | .done result => return result
  | .refuse error => refuse error
  | .put op slice next => do runPlan write (next (← attempt (put op slice)))
  | .value v next => do runPlan write (next (← attempt (write v)))

/-- Refuses a time in a leap second: its count of nanoseconds is that of another time. -/
def refuseLeapSecond (tag : Tag) (t : TimeOfDay) : EncodeM Unit :=
  if t.isLeap then refuse (.malformed tag.code (.leapSecond t)) else return

/-- The placeholder of an object without a handler, unless placeholders are off. -/
def placeholderOf (o : HostObject Value) : EncodeM Placeholder := do
  if (← settings).encodeUnsupported then return (← get).store.placeholder o
  else refuse (.unsupportedType o.type.typeName)

/-- Does both phases. -/
def inTurn (prepare : Value → EncodeM (EncodeM Unit)) (v : Value) : EncodeM Unit := do
  let write ← prepare v
  write

/-- The first phase for a value, given the one for the values below it. The result is the second
phase. -/
def prepareAbove (below : Value → EncodeM (EncodeM Unit)) (v : Value) : EncodeM (EncodeM Unit) :=
  let item := inTurn below
  match v with
  | .future d => do
    let write ← below (← resolve d)
    return do
      tagged .future
      write
  | .annotated inner notes => do
    if (← settings).saveMeta then
      let write ← below inner
      return do
        tagged .annotated
        writeMap item notes
        write
    else return item inner
  | .object o => do
    match (← get).registry.writer? o.type with
    | some writer => return do runPlan item (writer (← settings) o)
    | none =>
      let placeholder ← placeholderOf o
      return writePlaceholder placeholder
  | .time t => do
    refuseLeapSecond .time t
    return do
      tagged .time
      Wire.writeNanoOfDay t
  | .offsetTime t => do
    refuseLeapSecond .offsetTime t.time
    return do
      tagged .offsetTime
      Wire.writeNanoOfDay t.time
      Wire.writeOffset t.offset
  | .null => return tagged .null
  | .bool b => return tagged (if b then .boolTrue else .boolFalse)
  | .byte i => return writeNumber .byte (Folded.ofInt? i.toInt) (Wire.writeInt8 i)
  | .short i => return writeNumber .short (Folded.ofInt? i.toInt) (Wire.writeInt16 i)
  | .int i => return writeNumber .int (Folded.ofInt? i.toInt) (Wire.writeInt32 i)
  | .long i => return writeNumber .long (Folded.ofInt? i.toInt) (Wire.writeInt64 i)
  | .half bits => return writeNumber .half (Folded.ofBits? .half bits.toNat) (Wire.writeHalf bits)
  | .float bits =>
    return writeNumber .float (Folded.ofBits? .single bits.toNat) (Wire.writeFloat bits)
  | .double bits =>
    return writeNumber .double (Folded.ofBits? .double bits.toNat) (Wire.writeDouble bits)
  | .bigInt i =>
    return writeNumber .bigInt (Folded.ofInt? i) (Wire.writeInteger NumericKind.bigInt.base i)
  | .char c => return do
    tagged .char
    Wire.writeChar c
  | .decimal d => return do
    tagged .decimal
    Wire.writeInt32 d.scale
    Wire.writeInteger Tag.decimal.code d.unscaled
  | .ratio r => return do
    tagged .ratio
    Wire.writeInteger Tag.ratio.code r.numerator
    Wire.writeInteger Tag.ratio.code r.denominator
  | .string s => return do
    if s.isEmpty then tagged .stringEmpty
    else
      tagged .string
      Wire.writeText Tag.string.code s
  | .bytes content => return do
    if content.isEmpty then tagged .bytesEmpty
    else
      tagged .bytes
      Wire.writeBytes Tag.bytes.code content
  | .uuid u => return do
    tagged .uuid
    Wire.writeUInt64 u.high
    Wire.writeUInt64 u.low
  | .regex p => return do
    tagged .regex
    Wire.writeText Tag.regex.code p.source
  | .instant t => return do
    tagged .instant
    Wire.writeTimestamp t
  | .date d => return do
    tagged .date
    Wire.writeDate d
  | .dateTime t => return do
    tagged .dateTime
    Wire.writeTimestamp t
  | .offsetDateTime t => return do
    tagged .offsetDateTime
    Wire.writeTimestamp t.wall
    Wire.writeOffset t.offset
  | .duration d => return do
    tagged .duration
    Wire.writeDuration d
  | .period p => return do
    tagged .period
    Wire.writeInt32 p.years
    Wire.writeInt32 p.months
    Wire.writeInt32 p.days
  | .zonedDateTime t => return do
    tagged .zonedDateTime
    Wire.writeTimestamp t.wall
    Wire.writeText Tag.zonedDateTime.code t.zone
  | .zoneId zone => return do
    tagged .zoneId
    Wire.writeText Tag.zoneId.code zone
  | .vector items => return do
    if items.isEmpty then tagged .vectorEmpty
    else writeCountable item Tag.vector.code items
  | .set items => return do
    if items.isEmpty then tagged .setEmpty
    else writeCountable item Tag.set.code items
  | .map m => return writeMap item m
  | .intArray items => return writeArray .intArray Wire.writeInt32 items
  | .longArray items => return writeArray .longArray Wire.writeInt64 items
  | .doubleArray items => return writeArray .doubleArray Wire.writeDouble items
  | .boolArray items => return writeArray .boolArray Wire.writeBool items
  | .shortArray items => return writeArray .shortArray Wire.writeInt16 items
  | .floatArray items => return writeArray .floatArray Wire.writeFloat items
  | .charArray items => return writeArray .charArray Wire.writeChar items
  | .seq items => return writeSeq item items
  | .lazySeq cell => return writeLazySeq item cell
  | .byteStream cell => return do
    let _ ← writeByteStream cell
  | .throwable t => return writeThrowable item t
  | .unsupported p => return writePlaceholder p

/-- The first phase for a value at most `fuel` levels high, the cells it refers to included. -/
def prepare : (fuel : Nat) → Value → EncodeM (EncodeM Unit)
  | 0, _ => endless
  | fuel + 1, v => prepareAbove (prepare fuel) v

/-- Writes a value at most `fuel` levels high, the cells it refers to included. -/
def encodeWithin (fuel : Nat) (v : Value) : EncodeM Unit := inTurn (prepare fuel) v

/-- What a job comes to with some number of levels. -/
abbrev Reached {α : Type} (job : (fuel : Nat) → EncodeM α) (encoder : Encoder) : Type :=
  { outcome : EStateM.Result Halt Encoder α // ∃ fuel, job fuel encoder = outcome }

instance {α : Type} (job : (fuel : Nat) → EncodeM α) (encoder : Encoder) :
    Nonempty (Reached job encoder) :=
  ⟨⟨job 0 encoder, 0, rfl⟩⟩

/-- Tries a job, and says with how many levels to try it next if it stops for want of levels. -/
def tryLevels {α : Type} (job : (fuel : Nat) → EncodeM α) (encoder : Encoder) (levels : Nat) :
    Id (Nat ⊕ Reached job encoder) :=
  match run : job levels encoder with
  | .error .endless _ => return .inl (levels + 1)
  | outcome => return .inr ⟨outcome, levels, run⟩

/-- Does a job with as many levels as it takes, `levels` at least. -/
def deepening {α : Type} (job : (fuel : Nat) → EncodeM α) (levels : Nat) : EncodeM α :=
  fun encoder => (Id.run (repeatM (tryLevels job encoder) levels)).val

/-- Runs a session that writes values. The levels of a value and of all cells bound every descent
that ends, unless it asks one resolver again and again or a handler writes values of its own that are
higher than the object. So they are what a value gets at first, and it gets more when it needs more;
cells are only ever used up while values are written, so their levels at the start will do. -/
def withLevels {α : Type} (session : (Value → EncodeM Unit) → EncodeM α) : EncodeM α := do
  let levels := (← get).store.height
  session fun v => deepening (fun fuel => encodeWithin fuel v) (v.height + levels)

/-- Writes a value. -/
def encode (v : Value) : EncodeM Unit := withLevels fun write => write v

/-! ## Sessions -/

/-- Writes an identifier, a count and the items. -/
def encodeCountable (oid : Oid) (items : List Value) : EncodeM Unit :=
  withLevels fun write => writeCountable write oid items

/-- Writes what is drawn from a sequence, in chunks under an identifier, and counts it. -/
def encodeUncountable (oid : Oid) (cell : Nat) : EncodeM Nat :=
  withLevels fun write => writeUncountable write oid cell

/-- Writes a map. -/
def encodeMap (m : OrderedMap Value Value) : EncodeM Unit :=
  withLevels fun write => writeMap write m

/-- Writes what a reader gives, in chunks, and counts it. -/
def encodeByteStream (cell : Nat) : EncodeM Nat := writeByteStream cell

/-- Draws at most `limit` values and writes each by itself. -/
def encodeDrawn (write : Value → EncodeM Unit) (cell : Nat) :
    (limit : Nat) → (written : Nat) → EncodeM Nat
  | 0, written => return written
  | limit + 1, written => do
    match ← draw cell with
    | none => return written
    | some v =>
      write v
      encodeDrawn write cell limit (written + 1)

/-- Writes the values that are drawn from a sequence, as many as the settings allow, each by itself,
and counts them. -/
def encodeAll (cell : Nat) : EncodeM Nat := do
  let limit ← drawLimit cell
  withLevels fun write => encodeDrawn write cell limit 0

end EncodeM

end TaggedStream
