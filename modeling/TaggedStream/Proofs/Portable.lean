import TaggedStream.Proofs.Writing

/-!
Values that a stream can carry, and what of them it carries.

`Portable` says which values can be written: nothing in them is drawn, read or waited for while they
are written, every count fits its prefix, and no time of day lies in a leap second. `nesting` says
how many levels a reader opens for a value. `unshared` is the value as it comes out at the other
end, where nothing is shared yet: handles tell clones of one deferred value from others, and they
are not written.
-/

namespace TaggedStream

namespace Value

/-! ## Levels -/

mutual

/-- How many levels a reader opens for a value: its own, and those of the deepest value inside.
Notes are a map, so their keys and values are two levels below. -/
def nesting : Value → Nat
  | .vector items => nestingOfList items + 1
  | .set items => nestingOfList items + 1
  | .seq items => nestingOfList items + 1
  | .map m => nestingOfMap m + 1
  | .future d => nestingOfDeferred d + 1
  | .throwable t => nestingOfThrowable t + 1
  | .annotated inner notes => max inner.nesting (nestingOfMap notes + 1) + 1
  | _ => 1

/-- The levels of the deepest item. -/
def nestingOfList : List Value → Nat
  | [] => 0
  | v :: rest => max v.nesting (nestingOfList rest)

/-- The levels of the deepest key or value. -/
def nestingOfMap : OrderedMap Value Value → Nat
  | ⟨entries⟩ => nestingOfEntries entries

/-- The levels of the deepest key or value of some entries. -/
def nestingOfEntries : List (Value × Value) → Nat
  | [] => 0
  | (key, value) :: rest => max (max key.nesting value.nesting) (nestingOfEntries rest)

/-- The levels of a deferred value that is there. -/
def nestingOfDeferred : Deferred Value → Nat
  | .ready _ value => value.nesting
  | .shared _ => 0

/-- The levels of the deepest value inside an error. The errors below it are values, and so is the
map of its data. -/
def nestingOfThrowable : Throwable Value → Nat
  | ⟨_, _, cause, suppressed, data⟩ =>
    max (nestingOfCause cause) (max (nestingOfSuppressed suppressed) (nestingOfData data))

/-- The levels of a cause. -/
def nestingOfCause : Option (Throwable Value) → Nat
  | none => 0
  | some t => nestingOfThrowable t + 1

/-- The levels of the deepest suppressed error. -/
def nestingOfSuppressed : List (Throwable Value) → Nat
  | [] => 0
  | t :: rest => max (nestingOfThrowable t + 1) (nestingOfSuppressed rest)

/-- The levels of optional data. -/
def nestingOfData : Option (OrderedMap Value Value) → Nat
  | none => 0
  | some m => nestingOfMap m + 1

end

/-- A value opens at least the level that it is on. -/
theorem nesting_pos (v : Value) : 0 < v.nesting := by
  cases v <;> simp [nesting]

/-- A measure of lists that is the greatest of the measures of their members is bounded with these.
-/
theorem measure_le_iff {α : Type} {whole : List α → Nat} (each : α → Nat) (none : whole [] = 0)
    (step : ∀ a rest, whole (a :: rest) = max (each a) (whole rest)) {items : List α} {n : Nat} :
    whole items ≤ n ↔ ∀ a ∈ items, each a ≤ n := by
  induction items with
  | nil => simp [none]
  | cons a rest ih => rw [step, Nat.max_le, ih, List.forall_mem_cons]

theorem nestingOfList_le_iff {items : List Value} {n : Nat} :
    nestingOfList items ≤ n ↔ ∀ v ∈ items, v.nesting ≤ n :=
  measure_le_iff nesting (by rw [nestingOfList]) fun _ _ => by rw [nestingOfList]

theorem nestingOfEntries_le_iff {entries : List (Value × Value)} {n : Nat} :
    nestingOfEntries entries ≤ n ↔
      ∀ entry ∈ entries, entry.1.nesting ≤ n ∧ entry.2.nesting ≤ n := by
  simp only [← Nat.max_le]
  exact measure_le_iff (fun entry : Value × Value => max entry.1.nesting entry.2.nesting)
    (by rw [nestingOfEntries]) fun (_, _) _ => by rw [nestingOfEntries]

theorem nestingOfSuppressed_le_iff {ts : List (Throwable Value)} {n : Nat} :
    nestingOfSuppressed ts ≤ n ↔ ∀ t ∈ ts, (Value.throwable t).nesting ≤ n :=
  measure_le_iff (fun t => (Value.throwable t).nesting) (by rw [nestingOfSuppressed])
    fun _ _ => by rw [nestingOfSuppressed, nesting]

/-- Below an error are its cause, its suppressed errors and the map of its data. -/
theorem nestingOfThrowable_le_iff {t : Throwable Value} {n : Nat} :
    nestingOfThrowable t ≤ n ↔
      (∀ c, t.cause = some c → (Value.throwable c).nesting ≤ n) ∧
        (∀ c ∈ t.suppressed, (Value.throwable c).nesting ≤ n) ∧
          ∀ m, t.data = some m → (Value.map m).nesting ≤ n := by
  obtain ⟨message, frames, cause, suppressed, data⟩ := t
  rw [nestingOfThrowable, Nat.max_le, Nat.max_le, nestingOfSuppressed_le_iff]
  refine and_congr ?_ (and_congr Iff.rfl ?_)
  · cases cause <;> simp [nestingOfCause, nesting]
  · cases data <;> simp [nestingOfData, nesting]

/-! ## What arrives -/

mutual

/-- The value without the handles of its deferred values. Objects are left as they are. -/
def unshared : Value → Value
  | .vector items => .vector (unsharedList items)
  | .set items => .set (unsharedList items)
  | .seq items => .seq (unsharedList items)
  | .map m => .map (unsharedMap m)
  | .future d => .future (unsharedDeferred d)
  | .throwable t => .throwable (unsharedThrowable t)
  | .annotated inner notes => .annotated inner.unshared (unsharedMap notes)
  | v => v

/-- The items without handles. -/
def unsharedList : List Value → List Value
  | [] => []
  | v :: rest => v.unshared :: unsharedList rest

/-- The map without handles. -/
def unsharedMap : OrderedMap Value Value → OrderedMap Value Value
  | ⟨entries⟩ => ⟨unsharedEntries entries⟩

/-- The entries without handles. -/
def unsharedEntries : List (Value × Value) → List (Value × Value)
  | [] => []
  | (key, value) :: rest => (key.unshared, value.unshared) :: unsharedEntries rest

/-- The deferred value without its handle. -/
def unsharedDeferred : Deferred Value → Deferred Value
  | .ready _ value => .ready none value.unshared
  | .shared cell => .shared cell

/-- The error without handles. -/
def unsharedThrowable : Throwable Value → Throwable Value
  | ⟨message, frames, cause, suppressed, data⟩ =>
    ⟨message, frames, unsharedCause cause, unsharedSuppressed suppressed, unsharedData data⟩

/-- The cause without handles. -/
def unsharedCause : Option (Throwable Value) → Option (Throwable Value)
  | none => none
  | some t => some (unsharedThrowable t)

/-- The suppressed errors without handles. -/
def unsharedSuppressed : List (Throwable Value) → List (Throwable Value)
  | [] => []
  | t :: rest => unsharedThrowable t :: unsharedSuppressed rest

/-- The data without handles. -/
def unsharedData : Option (OrderedMap Value Value) → Option (OrderedMap Value Value)
  | none => none
  | some m => some (unsharedMap m)

end

theorem unsharedList_eq_map (items : List Value) : unsharedList items = items.map unshared := by
  induction items with
  | nil => rfl
  | cons v rest ih => rw [unsharedList, ih, List.map_cons]

theorem unsharedEntries_eq_map (entries : List (Value × Value)) :
    unsharedEntries entries = entries.map fun entry => (entry.1.unshared, entry.2.unshared) := by
  induction entries with
  | nil => rfl
  | cons entry rest ih =>
    obtain ⟨key, value⟩ := entry
    rw [unsharedEntries, ih, List.map_cons]

theorem unsharedSuppressed_eq_map (ts : List (Throwable Value)) :
    unsharedSuppressed ts = ts.map unsharedThrowable := by
  induction ts with
  | nil => rfl
  | cons t rest ih => rw [unsharedSuppressed, ih, List.map_cons]

/-! ## What can be written -/

/-- Whether a value holds no other values and refers to no cell. -/
def isAtom : Value → Bool
  | .vector _ | .set _ | .map _ | .seq _ | .lazySeq _ | .byteStream _ | .future _ | .throwable _
  | .object _ | .annotated .. => false
  | _ => true

/-- A text whose length fits its prefix. -/
def TextFits (s : String) : Prop := (Text.Utf8.encode s).length ≤ Form.maxLength

/-- An integer whose length fits its prefix. -/
def IntegerFits (i : Int) : Prop := (TwosComplement.encode i).length ≤ Form.maxLength

/-- The values that can be written with chunks of `size` items: all that are built without lazy
sequences, byte streams, objects and deferred values that are not there yet, if their counts fit and
their times of day are not in a leap second. -/
inductive Portable (size : Nat) : Value → Prop
  | null : Portable size .null
  | bool (b : Bool) : Portable size (.bool b)
  | byte (i : Int8) : Portable size (.byte i)
  | short (i : Int16) : Portable size (.short i)
  | int (i : Int32) : Portable size (.int i)
  | long (i : Int64) : Portable size (.long i)
  | half (bits : UInt16) : Portable size (.half bits)
  | float (bits : UInt32) : Portable size (.float bits)
  | double (bits : UInt64) : Portable size (.double bits)
  | char (c : Char) : Portable size (.char c)
  | bigInt {i : Int} (fits : IntegerFits i) : Portable size (.bigInt i)
  | decimal {d : Decimal} (unscaled : IntegerFits d.unscaled) : Portable size (.decimal d)
  | ratio {r : Ratio} (numerator : IntegerFits r.numerator)
      (denominator : IntegerFits r.denominator) : Portable size (.ratio r)
  | string {s : String} (fits : TextFits s) : Portable size (.string s)
  | bytes {content : List UInt8} (fits : content.length ≤ Form.maxLength) :
      Portable size (.bytes content)
  | uuid (u : Uuid) : Portable size (.uuid u)
  | regex {p : Pattern} (fits : TextFits p.source) : Portable size (.regex p)
  | instant (t : Timestamp) : Portable size (.instant t)
  | date (d : Date) : Portable size (.date d)
  | time {t : TimeOfDay} (notLeap : t.isLeap = false) : Portable size (.time t)
  | dateTime (t : Timestamp) : Portable size (.dateTime t)
  | offsetDateTime (t : OffsetDateTime) : Portable size (.offsetDateTime t)
  | duration (d : Duration) : Portable size (.duration d)
  | period (p : Period) : Portable size (.period p)
  | offsetTime {t : OffsetTime} (notLeap : t.time.isLeap = false) : Portable size (.offsetTime t)
  | zonedDateTime {t : ZonedDateTime} (fits : TextFits t.zone) : Portable size (.zonedDateTime t)
  | zoneId {zone : String} (fits : TextFits zone) : Portable size (.zoneId zone)
  | vector {items : List Value} (fits : items.length ≤ Form.maxLength)
      (inside : ∀ v ∈ items, Portable size v) : Portable size (.vector items)
  | set {items : List Value} (fits : items.length ≤ Form.maxLength)
      (inside : ∀ v ∈ items, Portable size v) : Portable size (.set items)
  | map {entries : List (Value × Value)} (fits : entries.length ≤ Form.maxLength)
      (keys : ∀ entry ∈ entries, Portable size entry.1)
      (values : ∀ entry ∈ entries, Portable size entry.2) : Portable size (.map ⟨entries⟩)
  | intArray {items : List Int32} (fits : items.length ≤ Form.maxLength) :
      Portable size (.intArray items)
  | longArray {items : List Int64} (fits : items.length ≤ Form.maxLength) :
      Portable size (.longArray items)
  | doubleArray {items : List UInt64} (fits : items.length ≤ Form.maxLength) :
      Portable size (.doubleArray items)
  | boolArray {items : List Bool} (fits : items.length ≤ Form.maxLength) :
      Portable size (.boolArray items)
  | shortArray {items : List Int16} (fits : items.length ≤ Form.maxLength) :
      Portable size (.shortArray items)
  | floatArray {items : List UInt32} (fits : items.length ≤ Form.maxLength) :
      Portable size (.floatArray items)
  | charArray {items : List Char} (fits : items.length ≤ Form.maxLength) :
      Portable size (.charArray items)
  /-- The largest chunk is full, or holds all items. -/
  | seq {items : List Value} (fits : min size items.length ≤ Form.maxLength)
      (inside : ∀ v ∈ items, Portable size v) : Portable size (.seq items)
  | future {handle : Option Nat} {v : Value} (inside : Portable size v) :
      Portable size (.future (.ready handle v))
  | throwable {t : Throwable Value} (message : ∀ s, t.message = some s → TextFits s)
      (frameCount : t.frames.length ≤ Form.maxLength)
      (frames : ∀ f ∈ t.frames, Renders.FrameFits f)
      (cause : ∀ c, t.cause = some c → Portable size (.throwable c))
      (suppressedCount : t.suppressed.length ≤ Form.maxLength)
      (suppressed : ∀ c ∈ t.suppressed, Portable size (.throwable c))
      (data : ∀ m, t.data = some m → Portable size (.map m)) : Portable size (.throwable t)
  | unsupported {p : Placeholder} (className : TextFits p.className)
      (content : TextFits p.content) : Portable size (.unsupported p)
  | annotated {inner : Value} {notes : OrderedMap Value Value} (inside : Portable size inner)
      (beside : Portable size (.map notes)) : Portable size (.annotated inner notes)

end Value

end TaggedStream
