import TaggedStream.Proofs.Streams
import TaggedStream.Value.Conversion

/-!
Integers between the host, values and the wire.

Every integer of the host is a value that stands for the same integer: an unsigned one takes a wider
signed kind, and one that no signed kind holds becomes a big integer. The wire keeps the value, so
the integer is found again. An integer comes out of a value where the kind that is asked for is wide
enough for the kind of the value, whatever the integer; nothing else comes out of any value.
-/

namespace TaggedStream

/-! ## Integers of the host -/

/-- An integer of the host, of a fixed size or of any size. -/
inductive HostInteger where
  | int8 (n : Int8)
  | int16 (n : Int16)
  | int32 (n : Int32)
  | int64 (n : Int64)
  | uint8 (n : UInt8)
  | uint16 (n : UInt16)
  | uint32 (n : UInt32)
  | uint64 (n : UInt64)
  | big (n : Int)

namespace HostInteger

/-- The integer itself. -/
def toInt : HostInteger → Int
  | int8 n => n.toInt
  | int16 n => n.toInt
  | int32 n => n.toInt
  | int64 n => n.toInt
  | uint8 n => n.toNat
  | uint16 n => n.toNat
  | uint32 n => n.toNat
  | uint64 n => n.toNat
  | big n => n

/-- The value that the host makes of the integer. -/
def toValue : HostInteger → Value
  | int8 n => .byte n
  | int16 n => .short n
  | int32 n => .int n
  | int64 n => .long n
  | uint8 n => .ofUInt8 n
  | uint16 n => .ofUInt16 n
  | uint32 n => .ofUInt32 n
  | uint64 n => .ofUInt64 n
  | big n => .bigInt n

/-- The integer has a fixed size, or the length of its bytes fits a prefix. -/
def Fits : HostInteger → Prop
  | big n => Value.IntegerFits n
  | _ => True

end HostInteger

/-! ## Integers that are values -/

/-- The kinds of values that are integers, and of host integers that come out of values. -/
inductive IntegerKind where
  | byte
  | short
  | int
  | long
  | unbounded

namespace IntegerKind

/-- Where a kind stands among the others, the narrowest first. -/
def rank : IntegerKind → Nat
  | byte => 0
  | short => 1
  | int => 2
  | long => 3
  | unbounded => 4

/-- The host integers of a kind. -/
def Carrier : IntegerKind → Type
  | byte => Int8
  | short => Int16
  | int => Int32
  | long => Int64
  | unbounded => Int

/-- The integer itself. -/
def toInt : (kind : IntegerKind) → kind.Carrier → Int
  | byte, n => Int8.toInt n
  | short, n => Int16.toInt n
  | int, n => Int32.toInt n
  | long, n => Int64.toInt n
  | unbounded, n => n

/-- Takes an integer of a kind out of a value. -/
def extract : (kind : IntegerKind) → Value → Except ConversionError kind.Carrier
  | byte => Value.toInt8
  | short => Value.toInt16
  | int => Value.toInt32
  | long => Value.toInt64
  | unbounded => Value.toInt

/-- The words for a kind in a refusal. -/
def name : IntegerKind → String
  | byte => "byte"
  | short => "short"
  | int => "int"
  | long => "long"
  | unbounded => "big integer"

end IntegerKind

/-- The value is of this kind and stands for this integer. -/
inductive Value.IsInteger : IntegerKind → Int → Value → Prop
  | byte (n : Int8) : IsInteger .byte n.toInt (.byte n)
  | short (n : Int16) : IsInteger .short n.toInt (.short n)
  | int (n : Int32) : IsInteger .int n.toInt (.int n)
  | long (n : Int64) : IsInteger .long n.toInt (.long n)
  | bigInt (n : Int) : IsInteger .unbounded n (.bigInt n)

namespace Value.IsInteger

variable {n : Nat}

theorem ofNat_short (small : n < 2 ^ 15) : IsInteger .short n (.short (.ofNat n)) := by
  have is := IsInteger.short (.ofNat n)
  rwa [Int16.toInt_ofNat_of_lt small] at is

theorem ofNat_int (small : n < 2 ^ 31) : IsInteger .int n (.int (.ofNat n)) := by
  have is := IsInteger.int (.ofNat n)
  rwa [Int32.toInt_ofNat_of_lt small] at is

theorem ofNat_long (small : n < 2 ^ 63) : IsInteger .long n (.long (.ofNat n)) := by
  have is := IsInteger.long (.ofNat n)
  rwa [Int64.toInt_ofNat_of_lt small] at is

end Value.IsInteger

/-- The host makes a value of some kind, which stands for the integer. -/
theorem HostInteger.isInteger_toValue (n : HostInteger) :
    ∃ kind, Value.IsInteger kind n.toInt n.toValue := by
  cases n with
  | int8 n => exact ⟨_, .byte n⟩
  | int16 n => exact ⟨_, .short n⟩
  | int32 n => exact ⟨_, .int n⟩
  | int64 n => exact ⟨_, .long n⟩
  | uint8 n => exact ⟨_, .ofNat_short (Nat.lt_trans n.toNat_lt (by decide))⟩
  | uint16 n => exact ⟨_, .ofNat_int (Nat.lt_trans n.toNat_lt (by decide))⟩
  | uint32 n => exact ⟨_, .ofNat_long (Nat.lt_trans n.toNat_lt (by decide))⟩
  | uint64 n =>
    rw [toValue, Value.ofUInt64]
    split
    next small => exact ⟨_, .ofNat_long small⟩
    next => exact ⟨_, .bigInt n.toNat⟩
  | big n => exact ⟨_, .bigInt n⟩

/-! ## Taking integers out -/

namespace IntegerKind

variable {kind asked : IntegerKind} {i : Int} {v : Value}

/-- A kind that is wide enough gets the same integer. -/
theorem extract_of_isInteger (is : Value.IsInteger kind i v) (within : kind.rank ≤ asked.rank) :
    ∃ a, asked.extract v = .ok a ∧ asked.toInt a = i := by
  cases is with
  | byte n =>
    cases asked with
    | byte => exact ⟨n, rfl, rfl⟩
    | short => exact ⟨n.toInt16, rfl, n.toInt_toInt16⟩
    | int => exact ⟨n.toInt32, rfl, n.toInt_toInt32⟩
    | long => exact ⟨n.toInt64, rfl, n.toInt_toInt64⟩
    | unbounded => exact ⟨n.toInt, rfl, rfl⟩
  | short n =>
    cases asked with
    | byte => exact absurd within (by decide)
    | short => exact ⟨n, rfl, rfl⟩
    | int => exact ⟨n.toInt32, rfl, n.toInt_toInt32⟩
    | long => exact ⟨n.toInt64, rfl, n.toInt_toInt64⟩
    | unbounded => exact ⟨n.toInt, rfl, rfl⟩
  | int n =>
    cases asked with
    | int => exact ⟨n, rfl, rfl⟩
    | long => exact ⟨n.toInt64, rfl, n.toInt_toInt64⟩
    | unbounded => exact ⟨n.toInt, rfl, rfl⟩
    | _ => exact absurd within (by decide)
  | long n =>
    cases asked with
    | long => exact ⟨n, rfl, rfl⟩
    | unbounded => exact ⟨n.toInt, rfl, rfl⟩
    | _ => exact absurd within (by decide)
  | bigInt =>
    cases asked with
    | unbounded => exact ⟨i, rfl, rfl⟩
    | _ => exact absurd within (by decide)

/-- Any other value is refused, and kept. -/
theorem extract_of_wider (wider : ∀ kind i, Value.IsInteger kind i v → asked.rank < kind.rank) :
    asked.extract v = .error ⟨asked.name, v⟩ := by
  cases v with
  | byte n => exact absurd (wider _ _ (.byte n)) (Nat.not_lt_zero _)
  | short n =>
    have narrow := wider _ _ (.short n)
    cases asked with
    | byte => rfl
    | _ => exact absurd narrow (by decide)
  | int n =>
    have narrow := wider _ _ (.int n)
    cases asked with
    | byte | short => rfl
    | _ => exact absurd narrow (by decide)
  | long n =>
    have narrow := wider _ _ (.long n)
    cases asked with
    | byte | short | int => rfl
    | _ => exact absurd narrow (by decide)
  | bigInt n =>
    have narrow := wider _ _ (.bigInt n)
    cases asked with
    | unbounded => exact absurd narrow (by decide)
    | _ => rfl
  | _ => cases asked <;> rfl

end IntegerKind

/-! ## Through the wire -/

namespace HostInteger

/-- An unsigned integer of eight bytes needs nine at most. -/
theorem integerFits_of_uint64 (n : UInt64) : Value.IntegerFits n.toNat := by
  have small : (n.toNat : Int) < 2 ^ 64 := by exact_mod_cast n.toNat_lt
  have width : TwosComplement.width n.toNat ≤ 9 :=
    TwosComplement.width_le (by decide) (by omega) (by omega)
  rw [Value.IntegerFits, TwosComplement.encode, BigEndian.length_encode]
  exact Nat.le_trans width (by decide)

theorem portable_toValue {n : HostInteger} (fits : n.Fits) (size : Nat) :
    Value.Portable size n.toValue ∧ n.toValue.isAtom = true := by
  cases n with
  | int8 n => exact ⟨.byte n, rfl⟩
  | int16 n => exact ⟨.short n, rfl⟩
  | int32 n => exact ⟨.int n, rfl⟩
  | int64 n => exact ⟨.long n, rfl⟩
  | uint8 n => exact ⟨.short _, rfl⟩
  | uint16 n => exact ⟨.int _, rfl⟩
  | uint32 n => exact ⟨.long _, rfl⟩
  | uint64 n =>
    rw [toValue, Value.ofUInt64]
    split
    · exact ⟨.long _, rfl⟩
    · exact ⟨.bigInt (integerFits_of_uint64 n), rfl⟩
  | big n => exact ⟨.bigInt fits, rfl⟩

end HostInteger

/-- An atom arrives as it is, under any settings. -/
theorem EncodeM.decode_encode_of_atom {v : Value} {e : Encoder} (willing : e.output.Willing)
    (portable : Value.Portable e.options.objectChunkSize v) (isAtom : v.isAtom = true) :
    ∃ bytes after, encode v e = .ok () after ∧ e.Extends bytes after ∧
      ∀ (d : Decoder) (rest : List UInt8), d.source = .slice (bytes ++ rest) →
        d.depth < d.options.maxDepth →
          DecodeM.decode d = .ok (some v) (d.past bytes rest) := by
  let terms : Terms := ⟨e.setting, fun _ => none, fun _ _ => False⟩
  have conveyable : Value.Conveyable terms 1 v := .atom portable isAtom
  obtain ⟨bytes, ⟨w, arrives, derivation⟩, writes⟩ := writes_of_conveyable conveyable
  obtain rfl : w = v := by
    cases arrives with
    | atom => rfl
    | _ => cases isAtom
  obtain ⟨after, run, grown⟩ := writes (w.height + e.store.height) e rfl willing
  refine ⟨bytes, after, run, grown.toExtends, fun d rest source room => ?_⟩
  have known : DerivesUnder (d.registry.handlers d.options) 1 bytes w :=
    derivation.more (by simp [terms])
  exact DecodeM.decode_of_derives source (known.mono (Nat.sub_pos_of_lt room))

/-- Integers keep their value. The value that the host makes of an integer gives the integer back,
and so does what is decoded from its encoding, under any settings and wherever it stands. And for
each kind of host integers and every value: an integer of the kind comes out exactly when the value
is an integer no wider than the kind, and then it is the same integer; otherwise the refusal keeps
the value. -/
theorem HostInteger.value_kept :
    (∀ n : HostInteger, n.toValue.toInt = .ok n.toInt) ∧
    (∀ n : HostInteger, n.Fits → ∀ e : Encoder, e.output.Willing →
      ∃ bytes after, EncodeM.encode n.toValue e = .ok () after ∧ e.Extends bytes after ∧
        ∀ (d : Decoder) (rest : List UInt8), d.source = .slice (bytes ++ rest) →
          d.depth < d.options.maxDepth →
            ∃ v, DecodeM.decode d = .ok (some v) (d.past bytes rest) ∧ v = n.toValue ∧
              v.toInt = .ok n.toInt) ∧
    ∀ (asked : IntegerKind) (v : Value),
      ((∃ a, asked.extract v = .ok a) ↔
        ∃ kind i, Value.IsInteger kind i v ∧ kind.rank ≤ asked.rank) ∧
      (∀ a, asked.extract v = .ok a → ∃ kind, Value.IsInteger kind (asked.toInt a) v) ∧
      ∀ error, asked.extract v = .error error → error = ⟨asked.name, v⟩ := by
  have given (n : HostInteger) : n.toValue.toInt = .ok n.toInt := by
    obtain ⟨kind, is⟩ := n.isInteger_toValue
    have within : kind.rank ≤ IntegerKind.unbounded.rank := by cases kind <;> decide
    obtain ⟨a, taken, same⟩ := IntegerKind.extract_of_isInteger is within
    exact taken.trans (congrArg Except.ok same)
  refine ⟨given, fun n fits e willing => ?_, fun asked v => ?_⟩
  · obtain ⟨portable, isAtom⟩ := portable_toValue fits e.options.objectChunkSize
    obtain ⟨bytes, after, run, extended, reads⟩ :=
      EncodeM.decode_encode_of_atom willing portable isAtom
    exact ⟨bytes, after, run, extended, fun d rest source room =>
      ⟨_, reads d rest source room, rfl, given n⟩⟩
  · by_cases narrow : ∃ kind i, Value.IsInteger kind i v ∧ kind.rank ≤ asked.rank
    · obtain ⟨kind, i, is, within⟩ := narrow
      obtain ⟨a, taken, rfl⟩ := IntegerKind.extract_of_isInteger is within
      refine ⟨⟨fun _ => ⟨kind, _, is, within⟩, fun _ => ⟨a, taken⟩⟩, fun b other => ?_,
        fun error refused => ?_⟩
      · cases taken.symm.trans other
        exact ⟨kind, is⟩
      · cases taken.symm.trans refused
    · have refused : asked.extract v = .error ⟨asked.name, v⟩ :=
        IntegerKind.extract_of_wider fun kind i is =>
          Nat.lt_of_not_le fun within => narrow ⟨kind, i, is, within⟩
      refine ⟨⟨fun ⟨a, taken⟩ => ?_, fun some => absurd some narrow⟩, fun a taken => ?_,
        fun error other => ?_⟩
      · cases refused.symm.trans taken
      · cases refused.symm.trans taken
      · cases refused.symm.trans other
        rfl

/-- The largest integer that a long holds, the one above it, and a constant: all go through the
wire, and the second one does not come out as a long. -/
theorem HostInteger.value_kept_around_longs :
    (∀ n ∈ [uint64 0x7FFFFFFFFFFFFFFF, uint64 0x8000000000000000, big (-1)],
      n.toValue.toInt = .ok n.toInt ∧
      ∃ bytes after,
        EncodeM.encode n.toValue (.fresh {} {} { sink := .unlimited } {}) = .ok () after ∧
        after.output.written = bytes ∧
        ∃ v d, DecodeM.decode (.fresh {} {} (.slice (bytes ++ [0xFF]))) = .ok (some v) d ∧
          v.toInt = .ok n.toInt) ∧
    (∃ kind, Value.IsInteger kind 0x7FFFFFFFFFFFFFFF (.long 0x7FFFFFFFFFFFFFFF)) ∧
    ∀ error, IntegerKind.long.extract (uint64 0x8000000000000000).toValue = .error error →
      error = ⟨"long", .bigInt 0x8000000000000000⟩ := by
  obtain ⟨given, wired, taken⟩ := value_kept
  refine ⟨fun n there => ⟨given n, ?_⟩, ?_, (taken .long _).2.2⟩
  · have fits : n.Fits := by
      simp only [List.mem_cons, List.not_mem_nil, or_false] at there
      rcases there with rfl | rfl | rfl
      · trivial
      · trivial
      · change (TwosComplement.encode (-1)).length ≤ 0x7FFFFFFF
        decide
    obtain ⟨bytes, after, run, extended, reads⟩ :=
      wired n fits (.fresh {} {} { sink := .unlimited } {}) Output.willing_of_unlimited
    obtain ⟨v, decoded, -, same⟩ := reads (.fresh {} {} _) [0xFF] rfl (by change 0 < 128; decide)
    exact ⟨bytes, after, run, extended.written, v, _, decoded, same⟩
  · exact (taken .long (.long 0x7FFFFFFFFFFFFFFF)).2.1 (0x7FFFFFFFFFFFFFFF : Int64) rfl

end TaggedStream
