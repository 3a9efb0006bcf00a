import TaggedStream.Proofs.TwosComplement
import TaggedStream.Proofs.Utf8
import TaggedStream.Value.Basic

/-!
Written forms: which byte strings stand for what, said without reading or writing anything.

A form relates byte strings to what they stand for. The forms of numbers, texts and calendar fields
come first, then the ways in which a form is built from others: one behind another, one that may be
absent, a count with as many, and chunks up to a zero.
-/

namespace TaggedStream

/-- A relation between byte strings and what they stand for. -/
abbrev Form (α : Type) := List UInt8 → α → Prop

namespace Form

variable {α β : Type}

/-! ## Numbers and texts -/

/-- The digits of a number in a fixed count of bytes, most significant first. -/
def fixed (size : Nat) (digits : α → Nat) : Form α := fun bytes a =>
  bytes = BigEndian.encode size (digits a)

/-- An unsigned byte. -/
def uint8 : Form UInt8 := fixed 1 UInt8.toNat

/-- A signed byte in two's complement. -/
def int8 : Form Int8 := fixed 1 fun i => i.toUInt8.toNat

/-- An unsigned number of two bytes. -/
def uint16 : Form UInt16 := fixed 2 UInt16.toNat

/-- A signed number of two bytes. -/
def int16 : Form Int16 := fixed 2 fun i => i.toUInt16.toNat

/-- An unsigned number of four bytes. -/
def uint32 : Form UInt32 := fixed 4 UInt32.toNat

/-- A signed number of four bytes. -/
def int32 : Form Int32 := fixed 4 fun i => i.toUInt32.toNat

/-- An unsigned number of eight bytes. -/
def uint64 : Form UInt64 := fixed 8 UInt64.toNat

/-- A signed number of eight bytes. -/
def int64 : Form Int64 := fixed 8 fun i => i.toUInt64.toNat

/-- A boolean: a byte that is one or zero. -/
def bool : Form Bool := fun bytes b => bytes = [if b then 1 else 0]

/-- The code of a character, which is a scalar value of Unicode. -/
def char : Form Char := fixed 4 Char.toNat

/-- The largest count that a prefix can hold. -/
def maxLength : Nat := 0x7FFFFFFF

/-- A count in four bytes whose sign bit is clear. -/
def length : Form Nat := fun bytes n => n ≤ maxLength ∧ bytes = BigEndian.encode 4 n

/-- A byte string behind its length. -/
inductive blob : Form (List UInt8)
  | mk {count content : List UInt8} (counted : length count content.length) :
      blob (count ++ content) content

/-- A text in UTF-8 behind its length. -/
def text : Form String := fun bytes s => blob bytes (Text.Utf8.encode s)

/-- An integer in two's complement behind its length, which is at least one byte but may be more
than the integer needs. -/
inductive integer : Form Int
  | mk {bytes content : List UInt8} {i : Int} (framed : blob bytes content)
      (spells : TwosComplement.Spells content i) : integer bytes i

/-! ## Forms built from forms -/

/-- One form behind another. -/
inductive pair (first : Form α) (second : Form β) : Form (α × β)
  | mk {front back : List UInt8} {a : α} {b : β} (left : first front a) (right : second back b) :
      pair first second (front ++ back) (a, b)

/-- A boolean that says whether something follows. -/
inductive optional (item : Form α) : Form (Option α)
  | none : optional item [0] none
  | some {bytes : List UInt8} {a : α} (present : item bytes a) :
      optional item ([1] ++ bytes) (some a)

/-- Things one behind another. -/
inductive many (item : Form α) : Form (List α)
  | nil : many item [] []
  | cons {front back : List UInt8} {a : α} {rest : List α} (head : item front a)
      (tail : many item back rest) : many item (front ++ back) (a :: rest)

/-- Things that take at least one byte are no more than their bytes. -/
theorem many.length_le {items : List α} (some : ∀ a, ¬ item [] a) (h : many item bytes items) :
    items.length ≤ bytes.length := by
  induction h with
  | nil => exact Nat.le_refl _
  | @cons front back a rest head _ ih =>
    have taken : 0 < front.length := by
      rw [List.length_pos_iff]
      rintro rfl
      exact some a head
    rw [List.length_cons, List.length_append]
    omega

/-- A count and as many things. -/
inductive counted (item : Form α) : Form (List α)
  | mk {count body : List UInt8} {items : List α} (number : length count items.length)
      (all : many item body items) : counted item (count ++ body) items

/-- Chunks that are not empty, each behind the count of its items, and a zero that ends them. They
stand for their items together, however these are cut. -/
inductive chunked (piece : Form (List α)) : Form (List α)
  | done {terminator : List UInt8} (zero : length terminator 0) : chunked piece terminator []
  | chunk {count body others : List UInt8} {items rest : List α}
      (number : length count items.length) (ne_nil : items ≠ []) (head : piece body items)
      (tail : chunked piece others rest) :
      chunked piece (count ++ (body ++ others)) (items ++ rest)

/-- Chunks that are no longer than their bytes are together no longer than theirs. -/
theorem chunked.length_le {piece : Form (List α)} {items : List α}
    (short : ∀ bytes items, piece bytes items → items.length ≤ bytes.length)
    (h : chunked piece bytes items) : items.length ≤ bytes.length := by
  induction h with
  | done => exact Nat.zero_le _
  | chunk _ _ head _ ih =>
    have first := short _ _ head
    simp only [List.length_append]
    omega

/-- Bytes that stand for themselves. -/
def raw : Form (List UInt8) := fun bytes content => bytes = content

/-! ## Calendar fields -/

/-- Seconds in eight bytes and nanoseconds in four. -/
def timestamp : Form Timestamp := fun bytes t =>
  pair int64 int32 bytes (.ofInt t.seconds, .ofNat t.nanos)

/-- Nanoseconds since midnight in eight bytes. Times in a leap second have no form. -/
def nanoOfDay : Form TimeOfDay := fun bytes t =>
  t.isLeap = false ∧ int64 bytes (.ofNat t.nanoOfDay)

/-- An offset in seconds in four bytes. -/
def offset : Form UtcOffset := fun bytes o => int32 bytes (.ofInt o.seconds)

/-- A date as a count of days in eight bytes. -/
def date : Form Date := fun bytes d => int64 bytes (.ofInt d.day)

/-- Seconds in eight bytes and nanoseconds in four. -/
def duration : Form Duration := fun bytes d =>
  pair int64 int32 bytes (.ofInt d.seconds, .ofNat d.nanos)

/-! ## Stack traces -/

/-- A line of a stack trace. -/
inductive frame : Form Frame
  | mk {a b c d : List UInt8} {f : Frame} (className : text a f.className)
      (method : text b f.method) (file : optional text c f.file) (line : int32 d f.line) :
      frame (a ++ (b ++ (c ++ d))) f

end Form

end TaggedStream
