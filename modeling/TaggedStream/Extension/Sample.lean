import TaggedStream.Extension.Registry
import TaggedStream.Value.Conversion

/-!
Sample host types. Between them their handlers use all that a handler may do: primitives of every
sort, options, whole values, and refusals of their own.

The path under which the types are declared is up to the host.
-/

namespace TaggedStream.Sample

variable (path : String)

/-- A point of the plane. -/
def pointType : HostType := ⟨path, "Point", .record ["x", "y"]⟩

/-- A type that nothing is ever registered for. -/
def unregisteredType : HostType := ⟨path, "Opaque", .tuple⟩

/-- A type whose handlers give up on the way. -/
def failingType : HostType := ⟨path, "Partial", .tuple⟩

/-- A type without content, whose handlers report the options. -/
def probeType : HostType := ⟨path, "Probe", .unit⟩

/-- A type of byte strings. -/
def blobType : HostType := ⟨path, "Blob", .tuple⟩

/-- A type of labelled integers. -/
def taggedType : HostType := ⟨path, "Tagged", .tuple⟩

/-- A type around one value. -/
def boxedType : HostType := ⟨path, "Boxed", .tuple⟩

/-- An object of a type with the given fields. -/
def object (type : HostType) (parts : List (HostPart Value)) : Value := .object { type, parts }

/-- A point. -/
def point (x y : Int32) : Value := object (pointType path) [.integer x.toInt, .integer y.toInt]

/-- Refuses an object whose fields are not those of its type. -/
def refuseShape (o : HostObject Value) : WritePlan Unit :=
  .refuse (.unsupportedType o.type.typeName)

/-! ## Points -/

/-- Writes a point with coordinates of four bytes. -/
def writePoint : ObjectWriter := fun _ o =>
  match o.parts with
  | [.integer x, .integer y] => do
    Wire.writeOid 0x8001
    Wire.writeInt32 (.ofInt x)
    Wire.writeInt32 (.ofInt y)
  | _ => refuseShape o

/-- Reads a point with coordinates of four bytes. -/
def readPoint : ObjectReader := fun _ => do
  let x ← Wire.readInt32
  let y ← Wire.readInt32
  return point path x y

/-- Writes a point with coordinates of eight bytes. -/
def writeWidePoint : ObjectWriter := fun _ o =>
  match o.parts with
  | [.integer x, .integer y] => do
    Wire.writeOid 0x8003
    Wire.writeInt64 (.ofInt x)
    Wire.writeInt64 (.ofInt y)
  | _ => refuseShape o

/-- Reads a point with coordinates of eight bytes, of which the low four count. -/
def readWidePoint : ObjectReader := fun _ => do
  let x ← Wire.readInt64
  let y ← Wire.readInt64
  return point path x.toInt32 y.toInt32

/-! ## Handlers that give up -/

/-- Writes an identifier and then refuses. -/
def writeFailing : ObjectWriter := fun _ o =>
  match o.parts with
  | [.integer n] => do
    Wire.writeOid 0x8400
    ByteSink.refuse (.malformed 0x8400 (.refused ("refused " ++ toString n)))
  | _ => refuseShape o

/-- Reads a byte and then refuses. -/
def readFailing : ObjectReader := fun _ => do
  let n ← Wire.readUInt8
  Wire.malformed 0x8400 (.refused ("refused " ++ toString n.toNat))

/-! ## Handlers that look at the options -/

/-- Writes the items per chunk and whether notes are written. -/
def writeProbe : ObjectWriter := fun options _ => do
  Wire.writeOid 0x8300
  Wire.writeUInt64 (.ofNat options.objectChunkSize)
  Wire.writeBool options.saveMeta

/-- Reads what the writer knew, and adds the nesting bound. -/
def readProbe : ObjectReader := fun options => do
  let size ← Wire.readUInt64
  let saved ← Wire.readBool 0x8300
  return .vector [.ofUInt64 size, .bool saved, .ofUInt64 (.ofNat options.maxDepth)]

/-! ## Byte strings -/

/-- Writes a gap, a byte string and its length. -/
def writeBlob : ObjectWriter := fun _ o =>
  match o.parts with
  | [.bytes content] => do
    Wire.writeOid 0x8500
    Wire.writeGap 3
    Wire.writeBytes 0x8500 content
    Wire.writeInteger 0x8500 content.length
  | _ => refuseShape o

/-- Reads a byte string and checks its length. -/
def readBlob : ObjectReader := fun _ => do
  Wire.skip 3
  let content ← Wire.readBytes 0x8500
  let length ← Wire.readInteger 0x8500
  if length = content.length then return object (blobType path) [.bytes content]
  else
    Wire.malformed 0x8500 (.refused (toString length ++ " is not " ++ toString content.length))

/-! ## Whole values -/

/-- Writes a text and an array of longs. -/
def writeTagged : ObjectWriter := fun _ o =>
  match o.parts with
  | [.text label, .integers is] => do
    Wire.writeOid 0x8100
    WritePlan.writeValue (.string label)
    WritePlan.writeValue (.longArray (is.map Int64.ofInt))
  | _ => refuseShape o

/-- Reads a text and an array of longs. -/
def readTagged : ObjectReader := fun _ => do
  match (← ReadPlan.readValue).toText with
  | .error error => Wire.malformed 0x8100 (.conversion error)
  | .ok label =>
    match ← ReadPlan.readValue with
    | .longArray is => return object (taggedType path) [.text label, .integers (is.map Int64.toInt)]
    | found => Wire.malformed 0x8100 (.unwanted found)

/-- Writes the value in a box. -/
def writeBoxed : ObjectWriter := fun _ o =>
  match o.parts with
  | [.value v] => do
    Wire.writeOid 0x8200
    WritePlan.writeValue v
  | _ => refuseShape o

/-- Reads a value into a box. -/
def readBoxed : ObjectReader := fun _ => do
  return object (boxedType path) [.value (← ReadPlan.readValue)]

/-- Reads nothing and gives one value again and again. -/
def readConstant (v : Value) : ObjectReader := fun _ => return v

/-! ## Registrations -/

/-- Registers the handlers of points under an identifier; the writer keeps its own. -/
def registerPoint (oid : Oid) (registry : Registry) : Except StreamError Registry :=
  registry.register (pointType path) oid writePoint (readPoint path)

/-- Registers the wide handlers of points. -/
def registerWidePoint (registry : Registry) : Except StreamError Registry :=
  registry.register (pointType path) 0x8003 writeWidePoint (readWidePoint path)

/-- Registers the writer of points alone. -/
def registerPointWriter (registry : Registry) : Registry :=
  registry.registerWriter (pointType path) writePoint

/-- Registers the handlers that give up. -/
def registerFailing (registry : Registry) : Except StreamError Registry :=
  registry.register (failingType path) 0x8400 writeFailing readFailing

/-- Registers the handlers that look at the options. -/
def registerProbe (registry : Registry) : Except StreamError Registry :=
  registry.register (probeType path) 0x8300 writeProbe readProbe

/-- Registers the handlers of byte strings. -/
def registerBlob (registry : Registry) : Except StreamError Registry :=
  registry.register (blobType path) 0x8500 writeBlob (readBlob path)

/-- Registers the handlers of labelled integers. -/
def registerTagged (registry : Registry) : Except StreamError Registry :=
  registry.register (taggedType path) 0x8100 writeTagged (readTagged path)

/-- Registers the handlers of boxes. -/
def registerBoxed (registry : Registry) : Except StreamError Registry :=
  registry.register (boxedType path) 0x8200 writeBoxed (readBoxed path)

/-- The sample types by name. -/
def types : List (String × HostType) :=
  [("point", pointType path), ("opaque", unregisteredType path), ("partial", failingType path),
    ("probe", probeType path), ("blob", blobType path), ("tagged", taggedType path),
    ("boxed", boxedType path)]

/-- The registrations of sample handlers by name. -/
def registrations : List (String × (Registry → Except StreamError Registry)) :=
  [("point", registerPoint path 0x8001), ("point_wide", registerWidePoint path),
    ("point_encoder", fun registry => return registerPointWriter path registry),
    ("partial", registerFailing path), ("probe", registerProbe path), ("blob", registerBlob path),
    ("tagged", registerTagged path), ("boxed", registerBoxed path)]

end TaggedStream.Sample
