import TaggedStream.Decoder.Item
import TaggedStream.Proofs.Form
import TaggedStream.Value.Conversion

/-!
The grammar of the wire: which byte strings are derivations of which value.

A derivation is the identifier of a tag and a payload. `Payload` lists the payloads tag by tag,
given which byte strings stand for the values inside; `Derives` closes the list over itself, one
level of nesting at a time. An identifier that says all has an empty payload, and one that announces
a payload takes every payload of its form, also where a shorter derivation exists.
-/

namespace TaggedStream

/-- The two bytes of an identifier. -/
def Tag.spelled (tag : Tag) : List UInt8 := BigEndian.encode 2 tag.code.toNat

/-- What follows the identifier of an error, or its data. An error below it is a value of its
own. -/
inductive Form.throwable (element : Form Value) (data : Option (OrderedMap Value Value)) :
    Form (Throwable Value)
  | mk {a b c d : List UInt8} {t : Throwable Value} (message : optional text a t.message)
      (frames : counted frame b t.frames)
      (cause : optional (fun bytes t => element bytes (.throwable t)) c t.cause)
      (suppressed : counted (fun bytes t => element bytes (.throwable t)) d t.suppressed)
      (dataEq : t.data = data) : throwable element data (a ++ (b ++ (c ++ d))) t

open Form in
/-- The payload of a number that is no constant of its kind, and of one that is. -/
inductive NumberPayload : NumericKind → Form Value
  | byte {bytes : List UInt8} {i : Int8} : int8 bytes i → NumberPayload .byte bytes (.byte i)
  | short {bytes : List UInt8} {i : Int16} : int16 bytes i → NumberPayload .short bytes (.short i)
  | int {bytes : List UInt8} {i : Int32} : int32 bytes i → NumberPayload .int bytes (.int i)
  | long {bytes : List UInt8} {i : Int64} : int64 bytes i → NumberPayload .long bytes (.long i)
  | half {bytes : List UInt8} {n : UInt16} : uint16 bytes n → NumberPayload .half bytes (.half n)
  | float {bytes : List UInt8} {n : UInt32} : uint32 bytes n → NumberPayload .float bytes (.float n)
  | double {bytes : List UInt8} {n : UInt64} :
      uint64 bytes n → NumberPayload .double bytes (.double n)
  | bigInt {bytes : List UInt8} {i : Int} :
      integer bytes i → NumberPayload .bigInt bytes (.bigInt i)

open Form in
/-- The payloads of every tag, with the values that they stand for. -/
inductive Payload (element : Form Value) : Tag → Form Value
  | null : Payload element .null [] .null
  | annotated {a b : List UInt8} {notes : OrderedMap Value Value} {inner : Value} :
      element a (.map notes) → element b inner →
        Payload element .annotated (a ++ b) (.annotated inner notes)
  | unsupported {a b : List UInt8} {p : Placeholder} :
      text a p.className → text b p.content →
        Payload element .unsupported (a ++ b) (.unsupported p)
  | number {kind : NumericKind} {bytes : List UInt8} {v : Value} :
      NumberPayload kind bytes v → Payload element (.number kind) bytes v
  | constant {kind : NumericKind} {constant : Folded} :
      Payload element (.constant kind constant) [] (DecodeM.constantValue kind constant)
  | boolTrue : Payload element .boolTrue [] (.bool true)
  | boolFalse : Payload element .boolFalse [] (.bool false)
  | char {bytes : List UInt8} {c : Char} :
      char bytes c → Payload element .char bytes (.char c)
  | decimal {a b : List UInt8} {d : Decimal} :
      int32 a d.scale → integer b d.unscaled → Payload element .decimal (a ++ b) (.decimal d)
  | ratio {a b : List UInt8} {r : Ratio} :
      integer a r.numerator → integer b r.denominator → Payload element .ratio (a ++ b) (.ratio r)
  | string {bytes : List UInt8} {s : String} :
      text bytes s → Payload element .string bytes (.string s)
  | stringEmpty : Payload element .stringEmpty [] (.string "")
  | bytes {bytes content : List UInt8} :
      blob bytes content → Payload element .bytes bytes (.bytes content)
  | bytesEmpty : Payload element .bytesEmpty [] (.bytes [])
  | byteStream {bytes content : List UInt8} :
      chunked raw bytes content → Payload element .byteStream bytes (.bytes content)
  | regex {bytes : List UInt8} {p : Pattern} :
      text bytes p.source → Payload element .regex bytes (.regex p)
  | uuid {a b : List UInt8} {u : Uuid} :
      uint64 a u.high → uint64 b u.low → Payload element .uuid (a ++ b) (.uuid u)
  | vector {bytes : List UInt8} {items : List Value} :
      counted element bytes items → Payload element .vector bytes (.vector items)
  | vectorEmpty : Payload element .vectorEmpty [] (.vector [])
  | set {bytes : List UInt8} {items : List Value} :
      counted element bytes items → Payload element .set bytes (.set items)
  | setEmpty : Payload element .setEmpty [] (.set [])
  | map {bytes : List UInt8} {entries : List (Value × Value)} :
      counted (pair element element) bytes entries → Payload element .map bytes (.map ⟨entries⟩)
  | mapEmpty : Payload element .mapEmpty [] (.map ⟨[]⟩)
  | intArray {bytes : List UInt8} {items : List Int32} :
      counted int32 bytes items → Payload element .intArray bytes (.intArray items)
  | longArray {bytes : List UInt8} {items : List Int64} :
      counted int64 bytes items → Payload element .longArray bytes (.longArray items)
  | doubleArray {bytes : List UInt8} {items : List UInt64} :
      counted uint64 bytes items → Payload element .doubleArray bytes (.doubleArray items)
  | boolArray {bytes : List UInt8} {items : List Bool} :
      counted bool bytes items → Payload element .boolArray bytes (.boolArray items)
  | shortArray {bytes : List UInt8} {items : List Int16} :
      counted int16 bytes items → Payload element .shortArray bytes (.shortArray items)
  | floatArray {bytes : List UInt8} {items : List UInt32} :
      counted uint32 bytes items → Payload element .floatArray bytes (.floatArray items)
  | charArray {bytes : List UInt8} {items : List Char} :
      counted Form.char bytes items → Payload element .charArray bytes (.charArray items)
  | seq {bytes : List UInt8} {items : List Value} :
      chunked (many element) bytes items → Payload element .seq bytes (.seq items)
  | instant {bytes : List UInt8} {t : Timestamp} :
      timestamp bytes t → Payload element .instant bytes (.instant t)
  | date {bytes : List UInt8} {d : Date} :
      date bytes d → Payload element .date bytes (.date d)
  | time {bytes : List UInt8} {t : TimeOfDay} :
      nanoOfDay bytes t → Payload element .time bytes (.time t)
  | dateTime {bytes : List UInt8} {t : Timestamp} :
      timestamp bytes t → Payload element .dateTime bytes (.dateTime t)
  | offsetDateTime {a b : List UInt8} {t : OffsetDateTime} :
      timestamp a t.wall → offset b t.offset →
        Payload element .offsetDateTime (a ++ b) (.offsetDateTime t)
  | duration {bytes : List UInt8} {d : Duration} :
      duration bytes d → Payload element .duration bytes (.duration d)
  | period {a b c : List UInt8} {p : Period} :
      int32 a p.years → int32 b p.months → int32 c p.days →
        Payload element .period (a ++ (b ++ c)) (.period p)
  | offsetTime {a b : List UInt8} {t : OffsetTime} :
      nanoOfDay a t.time → offset b t.offset → Payload element .offsetTime (a ++ b) (.offsetTime t)
  | zonedDateTime {a b : List UInt8} {t : ZonedDateTime} :
      timestamp a t.wall → text b t.zone →
        Payload element .zonedDateTime (a ++ b) (.zonedDateTime t)
  | zoneId {bytes : List UInt8} {zone : String} :
      text bytes zone → Payload element .zoneId bytes (.zoneId zone)
  | throwable {bytes : List UInt8} {t : Throwable Value} :
      Form.throwable element none bytes t → Payload element .throwable bytes (.throwable t)
  | throwableWithData {a b : List UInt8} {data : OrderedMap Value Value} {t : Throwable Value} :
      element a (.map data) → Form.throwable element (some data) b t →
        Payload element .throwableWithData (a ++ b) (.throwable t)
  | future {bytes : List UInt8} {v : Value} :
      element bytes v → Payload element .future bytes (.future (.ready none v))

/-- The byte strings that are derivations of a value, at most `levels` levels deep. -/
def Derives : (levels : Nat) → Form Value
  | 0 => fun _ _ => False
  | levels + 1 => fun bytes v =>
    ∃ tag payload, bytes = tag.spelled ++ payload ∧ Payload (Derives levels) tag payload v

/-! ## More is derived from more -/

section

variable {element wider : Form Value}

theorem Form.many.mono {α : Type} {item other : Form α}
    (sub : ∀ bytes a, item bytes a → other bytes a) {bytes : List UInt8} {items : List α}
    (h : many item bytes items) : many other bytes items := by
  induction h with
  | nil => exact .nil
  | cons head _ ih => exact .cons (sub _ _ head) ih

theorem Form.counted.mono {α : Type} {item other : Form α}
    (sub : ∀ bytes a, item bytes a → other bytes a) {bytes : List UInt8} {items : List α}
    (h : counted item bytes items) : counted other bytes items := by
  obtain ⟨number, all⟩ := h
  exact .mk number (all.mono sub)

theorem Form.chunked.mono {α : Type} {piece other : Form (List α)}
    (sub : ∀ bytes a, piece bytes a → other bytes a) {bytes : List UInt8} {items : List α}
    (h : chunked piece bytes items) : chunked other bytes items := by
  induction h with
  | done zero => exact .done zero
  | chunk number ne_nil head _ ih => exact .chunk number ne_nil (sub _ _ head) ih

theorem Form.optional.mono {α : Type} {item other : Form α}
    (sub : ∀ bytes a, item bytes a → other bytes a) {bytes : List UInt8} {a : Option α}
    (h : optional item bytes a) : optional other bytes a := by
  cases h with
  | none => exact .none
  | some present => exact .some (sub _ _ present)

theorem Form.pair.mono {α β : Type} {first first' : Form α} {second second' : Form β}
    (left : ∀ bytes a, first bytes a → first' bytes a)
    (right : ∀ bytes b, second bytes b → second' bytes b) {bytes : List UInt8} {ab : α × β}
    (h : pair first second bytes ab) : pair first' second' bytes ab := by
  obtain ⟨l, r⟩ := h
  exact .mk (left _ _ l) (right _ _ r)

theorem Form.throwable.mono (sub : ∀ bytes v, element bytes v → wider bytes v)
    {data : Option (OrderedMap Value Value)} {bytes : List UInt8} {t : Throwable Value}
    (h : Form.throwable element data bytes t) : Form.throwable wider data bytes t := by
  obtain ⟨message, frames, cause, suppressed, dataEq⟩ := h
  exact .mk message frames (cause.mono fun _ _ => sub _ _) (suppressed.mono fun _ _ => sub _ _)
    dataEq

theorem Payload.mono (sub : ∀ bytes v, element bytes v → wider bytes v) {tag : Tag}
    {bytes : List UInt8} {v : Value} (h : Payload element tag bytes v) :
    Payload wider tag bytes v := by
  cases h with
  | annotated notes inner => exact .annotated (sub _ _ notes) (sub _ _ inner)
  | vector items => exact .vector (items.mono sub)
  | set items => exact .set (items.mono sub)
  | map entries => exact .map (entries.mono fun _ _ => Form.pair.mono sub sub)
  | seq items => exact .seq (items.mono fun _ _ => Form.many.mono sub)
  | throwable body => exact .throwable (body.mono sub)
  | throwableWithData data body => exact .throwableWithData (sub _ _ data) (body.mono sub)
  | future inner => exact .future (sub _ _ inner)
  | _ => constructor <;> assumption

end

end TaggedStream
