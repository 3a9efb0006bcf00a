import TaggedStream.Extension.Address
import TaggedStream.Proofs.Conveyance

/-!
The handlers of network addresses.

They put and take bytes alone, pass errors on, and are inverse to each other on every address. What
they take is always an address.
-/

namespace TaggedStream

/-! ## Numbers in plans -/

namespace ReadPlan

variable {α β : Type} {plan : ReadPlan α} {cargo : Cargo}

theorem Takes.mapped {a : α} (h : plan.Takes cargo a) (f : α → β) :
    (do return f (← plan)).Takes cargo (f a) := by
  have whole := h.bind (k := fun a => pure (f a)) .done
  rwa [List.append_nil] at whole

/-- What is made of a result comes from a result. -/
theorem Takes.of_mapped {f : α → β} {b : β} (h : (do return f (← plan)).Takes cargo b) :
    ∃ a, b = f a ∧ plan.Takes cargo a := by
  obtain ⟨front, back, a, rfl, first, second⟩ := Takes.of_bind h
  cases second
  exact ⟨a, rfl, by rwa [List.append_nil]⟩

theorem Bytewise.mapped (h : plan.Bytewise) (f : α → β) : (do return f (← plan)).Bytewise :=
  h.bind fun _ => .done

theorem Takes.length_of_byteSource {op : String} {size : Nat} {taken : List UInt8}
    (h : (ByteSource.takeExact op size : ReadPlan (List UInt8)).Takes cargo taken) :
    taken.length = size := by
  cases h with
  | takeExact length rest =>
    cases rest
    exact length

theorem Takes.readNat (op : String) {size n : Nat} (small : n < 256 ^ size) :
    (Wire.readNat op size : ReadPlan Nat).Takes (Cargo.ofBytes (BigEndian.encode size n)) n := by
  have taken := (Takes.byteSource op (BigEndian.encode size n)).mapped BigEndian.decode
  rwa [BigEndian.decode_encode small, BigEndian.length_encode] at taken

theorem Takes.readUInt32 (n : UInt32) : (Wire.readUInt32 : ReadPlan UInt32).Takes
    (Cargo.ofBytes (BigEndian.encode 4 n.toNat)) n := by
  have small : n.toNat < 256 ^ 4 := n.toNat_lt
  have taken := (Takes.readNat "read u32" small).mapped UInt32.ofNat
  rwa [UInt32.ofNat_toNat] at taken

theorem Takes.readUInt16 (n : UInt16) : (Wire.readUInt16 : ReadPlan UInt16).Takes
    (Cargo.ofBytes (BigEndian.encode 2 n.toNat)) n := by
  have small : n.toNat < 256 ^ 2 := n.toNat_lt
  have taken := (Takes.readNat "read u16" small).mapped UInt16.ofNat
  rwa [UInt16.ofNat_toNat] at taken

theorem Bytewise.readNat (op : String) (size : Nat) :
    (Wire.readNat op size : ReadPlan Nat).Bytewise :=
  (byteSource op size).mapped _

theorem Bytewise.readUInt32 : (Wire.readUInt32 : ReadPlan UInt32).Bytewise :=
  (readNat _ _).mapped _

theorem Bytewise.readUInt16 : (Wire.readUInt16 : ReadPlan UInt16).Bytewise :=
  (readNat _ _).mapped _

end ReadPlan

/-- Bytes arrive as they are. -/
theorem Cargo.eq_of_arrives_ofBytes {same : HostObject Value → HostObject Value → Prop}
    {slice : List UInt8} {cargo : Cargo} (h : Cargo.Arrives same (Cargo.ofBytes slice) cargo) :
    cargo = Cargo.ofBytes slice := by
  induction slice generalizing cargo with
  | nil => cases h; rfl
  | cons byte slice ih =>
    cases h with
    | cons head tail =>
      cases head with
      | inl same => exact same ▸ congrArg _ (ih tail)

/-- Handlers that put and take bytes alone are inverse to each other on an object if the one takes
what the other puts. -/
theorem Terms.inverse_of_bytes {terms : Terms} {o o' : HostObject Value} {oid : Oid}
    {writer : ObjectWriter} {plan : ReadPlan Value} {slice : List UInt8}
    (foreign : Tag.ofCode? oid = none)
    (written : terms.setting.registry.writer? o.type = some writer)
    (puts : (writer terms.setting.options o).Puts
      (Cargo.ofBytes (Oid.spelled oid) ++ Cargo.ofBytes slice) ())
    (handled : terms.handlers oid = some plan)
    (takes : plan.Takes (Cargo.ofBytes slice) (.object o'))
    (arrives : Value.Arrives terms.same (.object o) (.object o')) :
    terms.Inverse o oid (Cargo.ofBytes slice) where
  foreign := foreign
  puts := ⟨writer, written, puts⟩
  takes := ⟨plan, handled, fun _ arrive =>
    ⟨_, Cargo.eq_of_arrives_ofBytes arrive ▸ takes, arrives⟩⟩

namespace Address

/-! ## What is put and taken -/

theorem puts_ipv4 (options : Options) (address : UInt32) :
    (writeIpv4 options (ipv4 address)).Puts (Cargo.ofBytes (Oid.spelled Oid.ipv4) ++
      Cargo.ofBytes (BigEndian.encode 4 address.toNat)) () := by
  have number := WritePlan.Puts.byteSink "write u32" (BigEndian.encode 4 address.toNat)
  exact (WritePlan.Puts.byteSink "write u16" (Oid.spelled Oid.ipv4)).bind
    (k := fun _ => Wire.writeUInt32 (.ofNat (Int.toNat address.toNat)))
    (by rwa [Int.toNat_natCast, UInt32.ofNat_toNat])

theorem takes_ipv4 (options : Options) (address : UInt32) :
    (readIpv4 options).Takes (Cargo.ofBytes (BigEndian.encode 4 address.toNat))
      (.object (ipv4 address)) :=
  (ReadPlan.Takes.readUInt32 address).mapped fun address => Value.object (ipv4 address)

theorem puts_ipv6 (options : Options) (octets : List UInt8) :
    (writeIpv6 options (ipv6 octets)).Puts (Cargo.ofBytes (Oid.spelled Oid.ipv6) ++
      Cargo.ofBytes octets) () :=
  (WritePlan.Puts.byteSink "write u16" (Oid.spelled Oid.ipv6)).bind
    (WritePlan.Puts.byteSink "write ipv6" octets)

theorem takes_ipv6 (options : Options) {octets : List UInt8} (size : octets.length = 16) :
    (readIpv6 options).Takes (Cargo.ofBytes octets) (.object (ipv6 octets)) := by
  have taken := ReadPlan.Takes.byteSource "read ipv6" octets
  rw [size] at taken
  exact taken.mapped fun octets => Value.object (ipv6 octets)

theorem puts_socketV4 (options : Options) (address : UInt32) (port : UInt16) :
    (writeSocketV4 options (socketV4 address port)).Puts
      (Cargo.ofBytes (Oid.spelled Oid.socketV4) ++
        Cargo.ofBytes (BigEndian.encode 4 address.toNat ++ BigEndian.encode 2 port.toNat)) () := by
  have number := WritePlan.Puts.byteSink "write u32" (BigEndian.encode 4 address.toNat)
  have last := WritePlan.Puts.byteSink "write u16" (BigEndian.encode 2 port.toNat)
  have both := number.bind (k := fun _ => Wire.writeUInt16 (.ofNat (Int.toNat port.toNat)))
    (by rwa [Int.toNat_natCast, UInt16.ofNat_toNat])
  rw [Cargo.ofBytes_append]
  exact (WritePlan.Puts.byteSink "write u16" (Oid.spelled Oid.socketV4)).bind
    (k := fun _ => do
      Wire.writeUInt32 (.ofNat (Int.toNat address.toNat))
      Wire.writeUInt16 (.ofNat (Int.toNat port.toNat)))
    (by rwa [Int.toNat_natCast, UInt32.ofNat_toNat])

theorem takes_socketV4 (options : Options) (address : UInt32) (port : UInt16) :
    (readSocketV4 options).Takes
      (Cargo.ofBytes (BigEndian.encode 4 address.toNat ++ BigEndian.encode 2 port.toNat))
      (.object (socketV4 address port)) := by
  have last := (ReadPlan.Takes.readUInt16 port).mapped fun port =>
    Value.object (socketV4 address port)
  rw [Cargo.ofBytes_append]
  exact (ReadPlan.Takes.readUInt32 address).bind last

/-! ## Addresses that arrive -/

/-- The objects that are addresses: those that the handlers make, whatever handle they carry. -/
inductive IsAddress : HostObject Value → Prop
  | ipv4 (handle : Option Nat) (address : UInt32) :
      IsAddress ⟨handle, ipv4Type, [.integer address.toNat]⟩
  | ipv6 (handle : Option Nat) {octets : List UInt8} (size : octets.length = 16) :
      IsAddress ⟨handle, ipv6Type, [.bytes octets]⟩
  | socketV4 (handle : Option Nat) (address : UInt32) (port : UInt16) :
      IsAddress ⟨handle, socketV4Type, [.integer address.toNat, .integer port.toNat]⟩

/-- Both ends have the handlers of the standard registry for addresses. -/
structure Known (terms : Terms) (options : Options) : Prop where
  writers : ∀ type ∈ [ipv4Type, ipv6Type, socketV4Type],
    terms.setting.registry.writer? type = Registry.standard.writer? type
  readers : ∀ oid ∈ [Oid.ipv4, Oid.ipv6, Oid.socketV4],
    terms.handlers oid = Registry.standard.handlers options oid

theorem inverse_of_known {terms : Terms} {options : Options} (known : Known terms options)
    {o : HostObject Value} (isAddress : IsAddress o) :
    ∃ oid slice, terms.Inverse o oid (Cargo.ofBytes slice) := by
  cases isAddress with
  | ipv4 handle address =>
    have written : terms.setting.registry.writer? ipv4Type =
        some (Registry.guarded ipv4Type writeIpv4) := (known.writers _ (by simp)).trans rfl
    have handled : terms.handlers Oid.ipv4 = some (readIpv4 options) :=
      (known.readers _ (by simp)).trans rfl
    exact ⟨_, _, Terms.inverse_of_bytes (by decide) written
      (puts_ipv4 terms.setting.options address) handled (takes_ipv4 options address)
      (.object (.cons (.integer _) .nil))⟩
  | @ipv6 handle octets size =>
    have written : terms.setting.registry.writer? ipv6Type =
        some (Registry.guarded ipv6Type writeIpv6) := (known.writers _ (by simp)).trans rfl
    have handled : terms.handlers Oid.ipv6 = some (readIpv6 options) :=
      (known.readers _ (by simp)).trans rfl
    exact ⟨_, _, Terms.inverse_of_bytes (by decide) written
      (puts_ipv6 terms.setting.options octets) handled (takes_ipv6 options size)
      (.object (.cons (.bytes _) .nil))⟩
  | socketV4 handle address port =>
    have written : terms.setting.registry.writer? socketV4Type =
        some (Registry.guarded socketV4Type writeSocketV4) := (known.writers _ (by simp)).trans rfl
    have handled : terms.handlers Oid.socketV4 = some (readSocketV4 options) :=
      (known.readers _ (by simp)).trans rfl
    exact ⟨_, _, Terms.inverse_of_bytes (by decide) written
      (puts_socketV4 terms.setting.options address port) handled
      (takes_socketV4 options address port)
      (.object (.cons (.integer _) (.cons (.integer _) .nil)))⟩

/-- An address goes through a stream in one level. -/
theorem conveyable {terms : Terms} {options : Options} (known : Known terms options)
    {o : HostObject Value} (isAddress : IsAddress o) (n : Nat) :
    Value.Conveyable terms (n + 1) (.object o) := by
  obtain ⟨oid, slice, inverse⟩ := inverse_of_known known isAddress
  exact .object inverse (by simp [Cargo.ofBytes])

end Address

/-! ## The standard registry -/

namespace Registry

theorem handlers_standard (options : Options) (oid : Oid) :
    Registry.standard.handlers options oid =
      if oid = Oid.ipv4 then some (Address.readIpv4 options)
      else if oid = Oid.ipv6 then some (Address.readIpv6 options)
      else if oid = Oid.socketV4 then some (Address.readSocketV4 options)
      else none := by
  have readers : Registry.standard.readers.entries =
      [(Oid.ipv4, Address.readIpv4), (Oid.ipv6, Address.readIpv6),
        (Oid.socketV4, Address.readSocketV4)] := rfl
  rw [handlers, reader?, OrderedMap.get?, readers]
  simp only [List.find?_cons, beq_eq_decide, List.find?_nil]
  grind

/-- The standard registry reads addresses and nothing else. -/
theorem handlers_standard_eq_some {options : Options} {oid : Oid} {plan : ReadPlan Value}
    (handled : Registry.standard.handlers options oid = some plan) :
    plan = Address.readIpv4 options ∨ plan = Address.readIpv6 options ∨
      plan = Address.readSocketV4 options := by
  rw [handlers_standard] at handled
  grind

/-- The handlers of the standard registry do not look at the settings. -/
theorem handlers_standard_const (options options' : Options) :
    Registry.standard.handlers options = Registry.standard.handlers options' := by
  funext oid
  rw [handlers_standard, handlers_standard]
  rfl

/-- The handlers of the standard registry take bytes alone, and pass errors on. -/
theorem bytewise_standard {options : Options} {oid : Oid} {plan : ReadPlan Value}
    (handled : Registry.standard.handlers options oid = some plan) : plan.Bytewise := by
  rcases handlers_standard_eq_some handled with rfl | rfl | rfl
  · exact ReadPlan.Bytewise.readUInt32.mapped _
  · exact (ReadPlan.Bytewise.byteSource _ _).mapped _
  · exact ReadPlan.Bytewise.readUInt32.bind fun _ => ReadPlan.Bytewise.readUInt16.mapped _

theorem strict_standard {options : Options} {oid : Oid} {plan : ReadPlan Value}
    (handled : Registry.standard.handlers options oid = some plan) : plan.Strict :=
  (bytewise_standard handled).strict

/-- What the handlers of the standard registry take is an address without a handle. -/
theorem isAddress_of_takes {options : Options} {oid : Oid} {plan : ReadPlan Value}
    (handled : Registry.standard.handlers options oid = some plan) {cargo : Cargo} {v : Value}
    (takes : plan.Takes cargo v) :
    ∃ type parts, v = .object ⟨none, type, parts⟩ ∧ Address.IsAddress ⟨none, type, parts⟩ := by
  rcases handlers_standard_eq_some handled with rfl | rfl | rfl
  · obtain ⟨address, rfl, -⟩ := ReadPlan.Takes.of_mapped takes
    exact ⟨_, _, rfl, .ipv4 none address⟩
  · obtain ⟨octets, rfl, taken⟩ := ReadPlan.Takes.of_mapped takes
    exact ⟨_, _, rfl, .ipv6 none taken.length_of_byteSource⟩
  · obtain ⟨_, _, address, _, _, rest⟩ := ReadPlan.Takes.of_bind takes
    obtain ⟨port, rfl, -⟩ := ReadPlan.Takes.of_mapped rest
    exact ⟨_, _, rfl, .socketV4 none address port⟩

end Registry

namespace Decoder

variable {d d' : Decoder}

theorem strict_of_standard (standard : d.registry = .standard) : d.scope.Strict := by
  intro oid plan handled
  rw [scope, standard] at handled
  exact Registry.strict_standard handled

theorem handlers_of_standard (standard : d.registry = .standard)
    (standard' : d'.registry = .standard) : d'.scope.handlers = d.scope.handlers := by
  rw [scope, scope, standard, standard']
  exact Registry.handlers_standard_const _ _

end Decoder

end TaggedStream
