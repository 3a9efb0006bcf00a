import TaggedStream.Extension.Registry

/-!
Network addresses as host objects, with the handlers that every standard registry has.
-/

namespace TaggedStream.Address

/-- The type of IPv4 addresses. -/
def ipv4Type : HostType := ⟨"core::net::ip_addr", "Ipv4Addr", .ipv4⟩

/-- The type of IPv6 addresses. -/
def ipv6Type : HostType := ⟨"core::net::ip_addr", "Ipv6Addr", .ipv6⟩

/-- The type of IPv4 addresses with a port. -/
def socketV4Type : HostType := ⟨"core::net::socket_addr", "SocketAddrV4", .socketV4⟩

/-- An IPv4 address. -/
def ipv4 (address : UInt32) : HostObject Value :=
  { type := ipv4Type, parts := [.integer address.toNat] }

/-- An IPv6 address of sixteen bytes. -/
def ipv6 (octets : List UInt8) : HostObject Value :=
  { type := ipv6Type, parts := [.bytes octets] }

/-- An IPv4 address with a port. -/
def socketV4 (address : UInt32) (port : UInt16) : HostObject Value :=
  { type := socketV4Type, parts := [.integer address.toNat, .integer port.toNat] }

/-- Refuses an object whose fields are not those of its type. -/
def misshapen (o : HostObject Value) : WritePlan Unit := .refuse (.unsupportedType o.type.typeName)

/-- Writes an IPv4 address. -/
def writeIpv4 : ObjectWriter := fun _ o =>
  match o.parts with
  | [.integer address] => do
    Wire.writeOid Oid.ipv4
    Wire.writeUInt32 (.ofNat address.toNat)
  | _ => misshapen o

/-- Reads an IPv4 address. -/
def readIpv4 : ObjectReader := fun _ => do
  return .object (ipv4 (← Wire.readUInt32))

/-- Writes an IPv6 address. -/
def writeIpv6 : ObjectWriter := fun _ o =>
  match o.parts with
  | [.bytes octets] => do
    Wire.writeOid Oid.ipv6
    ByteSink.put "write ipv6" octets
  | _ => misshapen o

/-- Reads an IPv6 address. -/
def readIpv6 : ObjectReader := fun _ => do
  return .object (ipv6 (← ByteSource.takeExact "read ipv6" 16))

/-- Writes an IPv4 address with a port. -/
def writeSocketV4 : ObjectWriter := fun _ o =>
  match o.parts with
  | [.integer address, .integer port] => do
    Wire.writeOid Oid.socketV4
    Wire.writeUInt32 (.ofNat address.toNat)
    Wire.writeUInt16 (.ofNat port.toNat)
  | _ => misshapen o

/-- Reads an IPv4 address with a port. -/
def readSocketV4 : ObjectReader := fun _ => do
  let address ← Wire.readUInt32
  let port ← Wire.readUInt16
  return .object (socketV4 address port)

/-- Registers the handlers of all three types. -/
def registerAll (registry : Registry) : Except StreamError Registry := do
  let registry ← registry.register ipv4Type Oid.ipv4 writeIpv4 readIpv4
  let registry ← registry.register ipv6Type Oid.ipv6 writeIpv6 readIpv6
  registry.register socketV4Type Oid.socketV4 writeSocketV4 readSocketV4

end TaggedStream.Address

namespace TaggedStream

/-- The registry that has the handlers of network addresses. -/
def Registry.standard : Registry :=
  match Address.registerAll .empty with
  | .ok registry => registry
  | .error _ => .empty

end TaggedStream
