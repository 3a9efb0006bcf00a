import TaggedStream.Number.Folded

/-!
Object identifiers: the two bytes in front of every value that fix the shape of what follows.

`Tag` lists the identifiers of the built-in catalogue by meaning. A numeric kind owns a block of
four: one with a payload and one for each folded constant. `Tag.code` and `Tag.ofCode?` go between
tags and numbers; `Tag.ofCode?_code` says that no two tags share a number. A few more numbers
belong to the bundled address adapters, and those from 0x8000 are open to host extensions.
-/

namespace TaggedStream

/-- An object identifier as it stands on the wire. -/
abbrev Oid := UInt16

/-- The numeric types whose zero, one and minus one have identifiers of their own. -/
inductive NumericKind where
  | byte
  | short
  | int
  | long
  | half
  | float
  | double
  | bigInt
deriving DecidableEq, Repr, Inhabited

namespace NumericKind

/-- The identifier of a number of this kind that carries a payload. -/
def base : NumericKind → Oid
  | .byte => 0x0010
  | .short => 0x0014
  | .int => 0x0018
  | .long => 0x001C
  | .half => 0x0020
  | .float => 0x0024
  | .double => 0x0028
  | .bigInt => 0x0040

/-- The upper-case name of the kind. -/
def name : NumericKind → String
  | .byte => "BYTE"
  | .short => "SHORT"
  | .int => "INT"
  | .long => "LONG"
  | .half => "HALF"
  | .float => "FLOAT"
  | .double => "DOUBLE"
  | .bigInt => "BIG_INT"

/-- Every numeric kind. -/
def all : List NumericKind := [.byte, .short, .int, .long, .half, .float, .double, .bigInt]

end NumericKind

/-- What an identifier of the built-in catalogue announces. -/
inductive Tag where
  | null
  | annotated
  | unsupported
  | number (kind : NumericKind)
  | constant (kind : NumericKind) (value : Folded)
  | boolTrue
  | boolFalse
  | char
  | decimal
  | ratio
  | string
  | stringEmpty
  | bytes
  | bytesEmpty
  | byteStream
  | regex
  | uuid
  | vector
  | vectorEmpty
  | set
  | setEmpty
  | map
  | mapEmpty
  | intArray
  | longArray
  | doubleArray
  | boolArray
  | shortArray
  | floatArray
  | charArray
  | seq
  | instant
  | date
  | time
  | dateTime
  | offsetDateTime
  | duration
  | period
  | offsetTime
  | zonedDateTime
  | zoneId
  | throwable
  | throwableWithData
  | future
deriving DecidableEq, Repr, Inhabited

namespace Tag

/-- The number of a tag. -/
def code : Tag → Oid
  | .null => 0x0000
  | .annotated => 0x0001
  | .unsupported => 0x0003
  | .number kind => kind.base
  | .constant kind value => value.oid kind.base
  | .boolTrue => 0x0030
  | .boolFalse => 0x0031
  | .char => 0x0032
  | .decimal => 0x0044
  | .ratio => 0x0045
  | .string => 0x0050
  | .stringEmpty => 0x0051
  | .bytes => 0x0052
  | .bytesEmpty => 0x0053
  | .byteStream => 0x0054
  | .regex => 0x0055
  | .uuid => 0x0056
  | .vector => 0x0060
  | .vectorEmpty => 0x0061
  | .set => 0x0062
  | .setEmpty => 0x0063
  | .map => 0x0064
  | .mapEmpty => 0x0065
  | .intArray => 0x0068
  | .longArray => 0x0069
  | .doubleArray => 0x006A
  | .boolArray => 0x006B
  | .shortArray => 0x006C
  | .floatArray => 0x006D
  | .charArray => 0x006E
  | .seq => 0x0070
  | .instant => 0x0080
  | .date => 0x0081
  | .time => 0x0082
  | .dateTime => 0x0083
  | .offsetDateTime => 0x0084
  | .duration => 0x0085
  | .period => 0x0086
  | .offsetTime => 0x0087
  | .zonedDateTime => 0x0088
  | .zoneId => 0x0089
  | .throwable => 0x0090
  | .throwableWithData => 0x0091
  | .future => 0x00A0

/-- The upper-case name of a tag. -/
def name : Tag → String
  | .null => "NULL"
  | .annotated => "META"
  | .unsupported => "UNSUPPORTED"
  | .number kind => kind.name
  | .constant kind .zero => kind.name ++ "_ZERO"
  | .constant kind .one => kind.name ++ "_ONE"
  | .constant kind .minusOne => kind.name ++ "_MINUS_ONE"
  | .boolTrue => "BOOL_TRUE"
  | .boolFalse => "BOOL_FALSE"
  | .char => "CHAR"
  | .decimal => "DECIMAL"
  | .ratio => "RATIO"
  | .string => "STRING"
  | .stringEmpty => "STRING_EMPTY"
  | .bytes => "BYTES"
  | .bytesEmpty => "BYTES_EMPTY"
  | .byteStream => "BYTE_STREAM"
  | .regex => "REGEX"
  | .uuid => "UUID"
  | .vector => "VECTOR"
  | .vectorEmpty => "VECTOR_EMPTY"
  | .set => "SET"
  | .setEmpty => "SET_EMPTY"
  | .map => "MAP"
  | .mapEmpty => "MAP_EMPTY"
  | .intArray => "INT_ARRAY"
  | .longArray => "LONG_ARRAY"
  | .doubleArray => "DOUBLE_ARRAY"
  | .boolArray => "BOOL_ARRAY"
  | .shortArray => "SHORT_ARRAY"
  | .floatArray => "FLOAT_ARRAY"
  | .charArray => "CHAR_ARRAY"
  | .seq => "SEQ"
  | .instant => "INSTANT"
  | .date => "DATE"
  | .time => "TIME"
  | .dateTime => "DATE_TIME"
  | .offsetDateTime => "OFFSET_DATE_TIME"
  | .duration => "DURATION"
  | .period => "PERIOD"
  | .offsetTime => "OFFSET_TIME"
  | .zonedDateTime => "ZONED_DATE_TIME"
  | .zoneId => "ZONE_ID"
  | .throwable => "THROWABLE"
  | .throwableWithData => "EX_INFO"
  | .future => "FUTURE"

/-- Every tag. -/
def all : List Tag :=
  [.null, .annotated, .unsupported] ++
  NumericKind.all.flatMap (fun kind =>
    [.number kind, .constant kind .zero, .constant kind .one, .constant kind .minusOne]) ++
  [.boolTrue, .boolFalse, .char, .decimal, .ratio, .string, .stringEmpty, .bytes, .bytesEmpty,
    .byteStream, .regex, .uuid, .vector, .vectorEmpty, .set, .setEmpty, .map, .mapEmpty, .intArray,
    .longArray, .doubleArray, .boolArray, .shortArray, .floatArray, .charArray, .seq, .instant,
    .date, .time, .dateTime, .offsetDateTime, .duration, .period, .offsetTime, .zonedDateTime,
    .zoneId, .throwable, .throwableWithData, .future]

/-- The tag whose number is `oid`, if the catalogue has one. -/
def ofCode? (oid : Oid) : Option Tag := all.find? fun tag => tag.code == oid

/-- The catalogue gives no number to two tags. -/
theorem ofCode?_code (tag : Tag) : ofCode? tag.code = some tag := by
  cases tag with
  | number kind => cases kind <;> decide
  | constant kind value => cases kind <;> cases value <;> decide
  | _ => decide

theorem code_of_ofCode? {oid : Oid} {tag : Tag} (h : ofCode? oid = some tag) : tag.code = oid := by
  simpa using List.find?_some h

end Tag

namespace Oid

/-- The identifier of an IPv4 address object. -/
def ipv4 : Oid := 0x0100

/-- The identifier of an IPv6 address object. -/
def ipv6 : Oid := 0x0101

/-- The identifier of an object that pairs an IPv4 address with a port. -/
def socketV4 : Oid := 0x0102

/-- Whether the catalogue owns the identifier, so that no registry is asked about it. -/
def isBuiltin (oid : Oid) : Bool := (Tag.ofCode? oid).isSome

/-- Whether the identifier is in the range of the bundled adapters. -/
def isAdapter (oid : Oid) : Bool := 0x0100 ≤ oid && oid ≤ 0x01FF

/-- Whether the identifier is in the range that is open to host extensions. -/
def isExtension (oid : Oid) : Bool := 0x8000 ≤ oid

/-- The name of an identifier that has one. -/
def name? (oid : Oid) : Option String :=
  match Tag.ofCode? oid with
  | some tag => some tag.name
  | none =>
    if oid = ipv4 then some "IPV4_ADDR"
    else if oid = ipv6 then some "IPV6_ADDR"
    else if oid = socketV4 then some "SOCKET_ADDR_V4"
    else none

end Oid

end TaggedStream
