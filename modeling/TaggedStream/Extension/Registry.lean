import TaggedStream.Extension.Plan
import TaggedStream.Options

/-!
The registry: which handler writes the objects of a type, and which reads what follows an
identifier.

The last registration of a type or an identifier counts. Identifiers of the catalogue cannot be
taken; an attempt leaves the registry as it was, also when it brings a writing handler along.
-/

namespace TaggedStream

/-- Writes an object, its identifier included, under the options of the encoder. -/
abbrev ObjectWriter := Options → HostObject Value → WritePlan Unit

/-- Reads what follows an identifier under the options of the decoder. -/
abbrev ObjectReader := Options → ReadPlan Value

/-- The handlers of host types. -/
structure Registry where
  writers : OrderedMap HostType ObjectWriter := .empty
  readers : OrderedMap Oid ObjectReader := .empty

namespace Registry

instance : Inhabited Registry := ⟨{}⟩

/-- The registry without handlers. -/
def empty : Registry := {}

/-- The handler that writes objects of a type. -/
def writer? (registry : Registry) (type : HostType) : Option ObjectWriter :=
  registry.writers.get? type

/-- The handler that reads what follows an identifier. -/
def reader? (registry : Registry) (oid : Oid) : Option ObjectReader := registry.readers.get? oid

/-- A handler that refuses objects of other types. -/
def guarded (type : HostType) (writer : ObjectWriter) : ObjectWriter := fun options object =>
  if object.type = type then writer options object
  else .refuse (.unsupportedType object.type.typeName)

/-- Lets a handler write the objects of a type. -/
def registerWriter (type : HostType) (writer : ObjectWriter) (registry : Registry) : Registry :=
  { registry with writers := registry.writers.insert type (guarded type writer) }

/-- Lets a handler read what follows an identifier. -/
def registerReader (oid : Oid) (reader : ObjectReader) (registry : Registry) :
    Except StreamError Registry :=
  if oid.isBuiltin then .error (.oidConflict oid)
  else .ok { registry with readers := registry.readers.insert oid reader }

/-- Registers both handlers of a type. -/
def register (type : HostType) (oid : Oid) (writer : ObjectWriter) (reader : ObjectReader)
    (registry : Registry) : Except StreamError Registry := do
  let registry ← registry.registerReader oid reader
  return registry.registerWriter type writer

/-- The description of a registry: how many types it writes, and the identifiers it reads in
ascending order. -/
def describe (registry : Registry) : String :=
  let oids := (registry.readers.keys.map UInt16.toNat).mergeSort
  Text.labelled "Dispatch"
    [("encoders", toString registry.writers.size),
      ("decoders", Text.bracketed (oids.map toString))]

end Registry

end TaggedStream
