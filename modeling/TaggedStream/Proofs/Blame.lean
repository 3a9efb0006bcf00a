import TaggedStream.Proofs.Acceptance

/-!
Whom readers blame.

A reader of bytes blames what it finds malformed on the identifier that it was given. A reader that
has values read inside passes their errors on, and blames the rest on its own identifier as well.
Where such a value may begin is said by the bytes in front of it: they are all that the reader takes
before it goes on to the value.
-/

namespace TaggedStream

namespace DecodeM

variable {α β : Type} {d after : Decoder} {m : DecodeM α} {k : α → DecodeM β}

/-- A sequence of two steps fails when the first one does, or when it succeeds and the second one
fails. -/
theorem bind_eq_error {error : StreamError} (run : (m >>= k) d = .error error after) :
    m d = .error error after ∨ ∃ a between, m d = .ok a between ∧
      k a between = .error error after := by
  cases first : m d with
  | ok a between =>
    rw [bind_of_ok first] at run
    exact .inr ⟨a, between, rfl, run⟩
  | error error between =>
    rw [bind_of_error first] at run
    cases run
    exact .inl rfl

/-- Whatever the reader finds malformed, it blames on the identifier. -/
structure Blames (own : Oid) (m : DecodeM α) : Prop where
  blamed {d after : Decoder} {oid : Oid} {fault : Fault}
    (run : m d = .error (.malformed oid fault) after) : oid = own

namespace Blames

variable {own : Oid}

theorem result (a : α) : Blames own (pure a : DecodeM α) := by
  constructor
  intro d after oid fault run
  cases run

theorem malformed (fault : Fault) : Blames own (Wire.malformed own fault : DecodeM α) := by
  constructor
  intro d after oid fault run
  cases run
  rfl

theorem takeExact (op : String) (size : Nat) : Blames own (DecodeM.takeExact op size) := by
  constructor
  intro d after oid fault run
  unfold DecodeM.takeExact at run
  split at run <;> cases run

theorem atEnd : Blames own DecodeM.atEnd := by
  constructor
  intro d after oid fault run
  unfold DecodeM.atEnd at run
  split at run <;> cases run

theorem bind (first : Blames own m) (second : ∀ a, Blames own (k a)) : Blames own (m >>= k) := by
  constructor
  intro d after oid fault run
  rcases bind_eq_error run with failed | ⟨a, between, -, failed⟩
  · exact first.blamed failed
  · exact (second a).blamed failed

theorem wrapped (first : Blames own m) (f : α → β) : Blames own (m >>= fun a => pure (f a)) :=
  first.bind fun _ => .result _

/-! ## Fields -/

theorem readNat (op : String) (size : Nat) : Blames own (Wire.readNat op size : DecodeM Nat) :=
  (takeExact op size).wrapped _

theorem readUInt8 : Blames own (Wire.readUInt8 : DecodeM UInt8) := (readNat _ _).wrapped _

theorem readInt8 : Blames own (Wire.readInt8 : DecodeM Int8) := readUInt8.wrapped _

theorem readUInt16 : Blames own (Wire.readUInt16 : DecodeM UInt16) := (readNat _ _).wrapped _

theorem readInt16 : Blames own (Wire.readInt16 : DecodeM Int16) := readUInt16.wrapped _

theorem readUInt32 : Blames own (Wire.readUInt32 : DecodeM UInt32) := (readNat _ _).wrapped _

theorem readInt32 : Blames own (Wire.readInt32 : DecodeM Int32) := readUInt32.wrapped _

theorem readUInt64 : Blames own (Wire.readUInt64 : DecodeM UInt64) := (readNat _ _).wrapped _

theorem readInt64 : Blames own (Wire.readInt64 : DecodeM Int64) := readUInt64.wrapped _

theorem readBool : Blames own (Wire.readBool own : DecodeM Bool) := by
  refine readUInt8.bind fun byte => ?_
  split
  · exact .result false
  · exact .result true
  · exact .malformed _

theorem readChar : Blames own (Wire.readChar own : DecodeM Char) := by
  refine readUInt32.bind fun code => ?_
  split
  · exact .result _
  · exact .malformed _

theorem readLength : Blames own (Wire.readLength own : DecodeM Nat) := by
  refine readInt32.bind fun length => ?_
  split
  · exact .malformed _
  · exact .result _

theorem readPieces (before : List (List UInt8)) (last full : Nat) :
    Blames own (Wire.readPieces before last full : DecodeM (List UInt8)) := by
  induction full generalizing before with
  | zero =>
    unfold Wire.readPieces
    split
    · exact .result _
    · exact (takeExact _ _).wrapped _
  | succ full ih => exact (takeExact _ _).bind fun piece => ih (piece :: before)

theorem readRaw (length : Nat) : Blames own (Wire.readRaw length : DecodeM (List UInt8)) :=
  readPieces _ _ _

theorem readBytes : Blames own (Wire.readBytes own : DecodeM (List UInt8)) :=
  readLength.bind readRaw

theorem readText : Blames own (Wire.readText own : DecodeM String) := by
  refine readBytes.bind fun content => ?_
  split
  · exact .result _
  · exact .malformed _

theorem readInteger : Blames own (Wire.readInteger own : DecodeM Int) := by
  refine readBytes.bind fun content => ?_
  split
  · exact .malformed _
  · exact .result _

theorem readTimestamp : Blames own (Wire.readTimestamp own : DecodeM Timestamp) := by
  refine readInt64.bind fun seconds => readInt32.bind fun nanos => ?_
  split
  · exact .malformed _
  · split
    · exact .result _
    · exact .malformed _

theorem readNanoOfDay : Blames own (Wire.readNanoOfDay own : DecodeM TimeOfDay) := by
  refine readInt64.bind fun field => ?_
  split
  · exact .result _
  · exact .malformed _

theorem readOffset : Blames own (Wire.readOffset own : DecodeM UtcOffset) := by
  refine readInt32.bind fun field => ?_
  split
  · exact .result _
  · exact .malformed _

theorem readDate : Blames own (Wire.readDate own : DecodeM Date) := by
  refine readInt64.bind fun field => ?_
  split
  · exact .result _
  · exact .malformed _

theorem readDuration : Blames own (Wire.readDuration own : DecodeM Duration) := by
  refine readInt64.bind fun seconds => readInt32.bind fun nanos => ?_
  split
  · exact .malformed _
  · split
    · exact .result _
    · exact .malformed _

/-! ## Many things -/

theorem readMany {item : DecodeM α} (h : Blames own item) (before : List α) (count : Nat) :
    Blames own (DecodeM.readMany item before count) := by
  induction count generalizing before with
  | zero => exact .result _
  | succ count ih => exact h.bind fun a => ih (a :: before)

theorem readCounted {item : DecodeM α} (h : Blames own item) :
    Blames own (DecodeM.readCounted own item) :=
  readLength.bind (h.readMany [])

theorem readChunkLength : Blames own (DecodeM.readChunkLength own) := by
  refine atEnd.bind fun ended => ?_
  cases ended with
  | true => exact malformed _
  | false => exact readLength

theorem readUncountable {chunk : Nat → DecodeM (List α)} (h : ∀ n, Blames own (chunk n)) :
    Blames own (DecodeM.readUncountable own chunk) := by
  have chunks (before : List (List α)) (fuel : Nat) :
      Blames own (DecodeM.readChunks own chunk before fuel) := by
    induction fuel generalizing before with
    | zero => exact .malformed _
    | succ fuel ih =>
      refine readChunkLength.bind fun count => ?_
      split
      · exact .result _
      · exact (h _).bind fun items => ih (items :: before)
  constructor
  intro d after oid fault run
  exact (chunks [] (d.source.size + 1)).blamed run

theorem readOptionalText : Blames Tag.throwable.code DecodeM.readOptionalText := by
  refine readBool.bind fun present => ?_
  cases present with
  | true => exact readText.wrapped _
  | false => exact .result _

theorem readFrame : Blames Tag.throwable.code DecodeM.readFrame :=
  readText.bind fun _ => readText.bind fun _ => readOptionalText.bind fun _ => readInt32.wrapped _

theorem readNumber (kind : NumericKind) :
    Blames (Tag.number kind).code (DecodeM.readNumber kind) := by
  cases kind with
  | byte => exact readInt8.wrapped _
  | short => exact readInt16.wrapped _
  | int => exact readInt32.wrapped _
  | long => exact readInt64.wrapped _
  | half => exact readUInt16.wrapped _
  | float => exact readUInt32.wrapped _
  | double => exact readUInt64.wrapped _
  | bigInt => exact readInteger.wrapped _

end Blames

end DecodeM

/-! ## Where values begin -/

namespace Form

variable {α : Type}

/-- What stands in front of a place in one of so many things: some of the things, but not all, and
what stands in front of it in the next one. -/
inductive Among (item : Form α) (place : List UInt8 → Prop) (count : Nat) : List UInt8 → Prop
  | mk {a b : List UInt8} {items : List α} (before : many item a items)
      (more : items.length < count) (inside : place b) : Among item place count (a ++ b)

/-- What stands in front of a place in things behind their count. -/
inductive Counted (item : Form α) (place : List UInt8 → Prop) : List UInt8 → Prop
  | mk {a b : List UInt8} {count : Nat} (number : length a count)
      (inside : Among item place count b) : Counted item place (a ++ b)

/-- What stands in front of a place in one of the first so many chunks: some whole chunks, the count
of the next one, and what stands in front of the place there. -/
inductive Chunked (piece : Form (List α)) (place : Nat → List UInt8 → Prop) :
    (chunks : Nat) → List UInt8 → Prop
  | here {chunks count : Nat} {a b : List UInt8} (number : length a count) (more : count ≠ 0)
      (inside : place count b) : Chunked piece place (chunks + 1) (a ++ b)
  | later {chunks : Nat} {a body others : List UInt8} {items : List α}
      (number : length a items.length) (ne_nil : items ≠ []) (head : piece body items)
      (tail : Chunked piece place chunks others) :
      Chunked piece place (chunks + 1) (a ++ (body ++ others))

/-- A chunk takes at least a byte, so its place is in one of the first so many chunks as there are
bytes in front of it. -/
theorem Chunked.within {piece : Form (List α)} {place : Nat → List UInt8 → Prop} {chunks : Nat}
    {front : List UInt8} (h : Chunked piece place chunks front) {fuel : Nat}
    (enough : front.length ≤ fuel) : Chunked piece place fuel front := by
  induction h generalizing fuel with
  | here number more inside =>
    have size := Recognises.length_of_isLength number
    rw [List.length_append] at enough
    obtain ⟨fuel, rfl⟩ : ∃ less, fuel = less + 1 := ⟨fuel - 1, by omega⟩
    exact .here number more inside
  | later number ne_nil head _ ih =>
    have size := Recognises.length_of_isLength number
    simp only [List.length_append] at enough
    obtain ⟨fuel, rfl⟩ : ∃ less, fuel = less + 1 := ⟨fuel - 1, by omega⟩
    exact .later number ne_nil head (ih (by omega))

end Form

open Form in
/-- What stands in front of the errors below an error, behind its identifier or its data. -/
inductive ThrowableSite (element : Form Value) : List UInt8 → Prop
  | cause {a b : List UInt8} {message : Option String} {frames : List Frame}
      (isMessage : optional text a message) (areFrames : counted frame b frames) :
      ThrowableSite element (a ++ (b ++ [1]))
  | suppressed {a b c d : List UInt8} {message : Option String} {frames : List Frame}
      {cause : Option (Throwable Value)} (isMessage : optional text a message)
      (areFrames : counted frame b frames)
      (isCause : optional (fun bytes t => element bytes (.throwable t)) c cause)
      (inside : Counted (fun bytes t => element bytes (.throwable t)) (· = []) d) :
      ThrowableSite element (a ++ (b ++ (c ++ d)))

/-- In front of an error below an error, it is said whether there is a message, and there is a count
of frames. -/
theorem ThrowableSite.length_le {element : Form Value} {front : List UInt8}
    (h : ThrowableSite element front) : 5 ≤ front.length := by
  have message {a : List UInt8} {m : Option String} (h : Form.optional Form.text a m) :
      1 ≤ a.length := by
    cases h <;> simp
  have frames {a : List UInt8} {f : List Frame} (h : Form.counted Form.frame a f) :
      4 ≤ a.length := by
    obtain ⟨number, -⟩ := h
    rw [List.length_append, Recognises.length_of_isLength number]
    exact Nat.le_add_right ..
  cases h with
  | cause isMessage areFrames | suppressed isMessage areFrames _ _ =>
    have one := message isMessage
    have four := frames areFrames
    simp only [List.length_append]
    omega

open Form in
/-- What stands in front of the values inside, behind the identifier of a tag. -/
inductive Site (element : Form Value) : Tag → List UInt8 → Prop
  | notes : Site element .annotated []
  | inner {a : List UInt8} {notes : OrderedMap Value Value} (isNotes : element a (.map notes)) :
      Site element .annotated a
  | vector {a : List UInt8} (inside : Counted element (· = []) a) : Site element .vector a
  | set {a : List UInt8} (inside : Counted element (· = []) a) : Site element .set a
  | map {a : List UInt8}
      (inside : Counted (pair element element) (fun b => b = [] ∨ ∃ key, element b key) a) :
      Site element .map a
  | seq {a : List UInt8} {chunks : Nat}
      (inside : Chunked (many element) (Among element (· = [])) chunks a) : Site element .seq a
  | throwable {a : List UInt8} (inside : ThrowableSite element a) : Site element .throwable a
  | data : Site element .throwableWithData []
  | behindData {a b : List UInt8} {data : OrderedMap Value Value} (isData : element a (.map data))
      (inside : ThrowableSite element b) : Site element .throwableWithData (a ++ b)
  | future : Site element .future []

/-! ## Readers that have values read -/

/-- A reader that blames what it finds malformed on the identifier, unless it comes from a value
inside, and that passes on whatever a value inside fails with. What a value inside fails with is
known, behind its identifier. -/
structure Consults {α : Type} (scope : Scope)
    (stuck : Tag → Decoder → StreamError → Decoder → Prop) (own : Oid) (site : List UInt8 → Prop)
    (m : DecodeM α) : Prop where
  blames {d after : Decoder} {input : List UInt8} {oid : Oid} {fault : Fault}
    (room : d.scope = scope) (source : d.source = .slice input)
    (run : m d = .error (.malformed oid fault) after) :
    oid = own ∨ ∃ front tag rest, input = front ++ (Tag.spelled tag ++ rest) ∧ site front ∧
      stuck tag (d.past (front ++ tag.spelled) rest) (.malformed oid fault) after
  passes {d after : Decoder} {front rest : List UInt8} {tag : Tag} {error : StreamError}
    (room : d.scope = scope) (source : d.source = .slice (front ++ (tag.spelled ++ rest)))
    (isSite : site front) (failed : stuck tag (d.past (front ++ tag.spelled) rest) error after) :
    m d = .error error after

namespace Consults

open DecodeM

variable {α β : Type} {scope : Scope} {stuck : Tag → Decoder → StreamError → Decoder → Prop}
  {own : Oid} {site other : List UInt8 → Prop} {m : DecodeM α} {k : α → DecodeM β}

theorem congr (h : Consults scope stuck own site m) (same : ∀ front, site front ↔ other front) :
    Consults scope stuck own other m := by
  obtain rfl : site = other := funext fun front => propext (same front)
  exact h

/-- A reader of fields has no values read. -/
theorem of_blames (h : Blames own m) (none : ∀ front, ¬ site front) :
    Consults scope stuck own site m where
  blames _ _ run := .inl (h.blamed run)
  passes _ _ isSite _ := absurd isSite (none _)

/-- A reader of fields behind one that has values read. -/
theorem wrapped (h : Consults scope stuck own site m) (fields : ∀ a, Blames own (k a)) :
    Consults scope stuck own site (m >>= k) where
  blames room source run := by
    rcases bind_eq_error run with failed | ⟨a, between, -, failed⟩
    · exact h.blames room source failed
    · exact .inl ((fields a).blamed failed)
  passes room source isSite failed := bind_of_error (h.passes room source isSite failed)

/-- Behind what one reader took, another one goes on. -/
theorem bind (strict : scope.Strict) {form : Form α} {next : α → List UInt8 → Prop}
    (h : Consults scope stuck own site m) (takes : Recognises scope m form)
    (rest : ∀ a, Consults scope stuck own (next a) (k a)) :
    Consults scope stuck own
      (fun front => site front ∨ ∃ a b x, front = a ++ b ∧ form a x ∧ next x b) (m >>= k) where
  blames {d after input oid fault} room source run := by
    rcases bind_eq_error run with failed | ⟨x, between, went, failed⟩
    · refine (h.blames room source failed).imp_right fun found => ?_
      obtain ⟨front, tag, rest, split, isSite, failed⟩ := found
      exact ⟨front, tag, rest, split, .inl isSite, failed⟩
    · obtain ⟨a, middle, rfl, isForm, rfl⟩ := takes.sound room strict source went
      refine ((rest x).blames (d := d.past a middle) room rfl failed).imp_right fun found => ?_
      obtain ⟨b, tag, behind, rfl, isSite, failed⟩ := found
      refine ⟨a ++ b, tag, behind, (List.append_assoc ..).symm, .inr ⟨a, b, x, rfl, isForm, isSite⟩,
        ?_⟩
      rwa [Decoder.past_past, ← List.append_assoc] at failed
  passes {d after front behind tag error} room source isSite failed := by
    rcases isSite with isSite | ⟨a, b, x, rfl, isForm, isSite⟩
    · exact bind_of_error (h.passes room source isSite failed)
    · rw [List.append_assoc] at source
      rw [bind_of_ok (takes.complete room source isForm)]
      refine (rest x).passes (d := d.past a _) room rfl isSite ?_
      rwa [Decoder.past_past, ← List.append_assoc]

/-- Behind fields, a reader goes on. -/
theorem behind (strict : scope.Strict) {form : Form α} {next : α → List UInt8 → Prop}
    (fields : Blames own m) (takes : Recognises scope m form)
    (rest : ∀ a, Consults scope stuck own (next a) (k a)) :
    Consults scope stuck own (fun front => ∃ a b x, front = a ++ b ∧ form a x ∧ next x b)
      (m >>= k) :=
  (bind strict (of_blames fields fun _ => id) takes rest).congr fun _ => by rw [false_or]

/-- A boolean decides where values begin. -/
theorem whether (strict : scope.Strict) {k : Bool → DecodeM β} {yes no : List UInt8 → Prop}
    (present : Consults scope stuck own yes (k true))
    (absent : Consults scope stuck own no (k false)) :
    Consults scope stuck own
      (fun front => ∃ b, front = [1] ++ b ∧ yes b ∨ front = [0] ++ b ∧ no b)
      (Wire.readBool own >>= k) := by
  have either (b : Bool) : Consults scope stuck own (if b then yes else no) (k b) := by
    cases b
    · exact absent
    · exact present
  refine (behind strict .readBool (.readBool own) either).congr fun front => ?_
  constructor
  · rintro ⟨_, b, decided, rfl, rfl, inside⟩
    cases decided
    · exact ⟨b, .inr ⟨rfl, inside⟩⟩
    · exact ⟨b, .inl ⟨rfl, inside⟩⟩
  · rintro ⟨b, ⟨rfl, inside⟩ | ⟨rfl, inside⟩⟩
    · exact ⟨_, b, true, rfl, rfl, inside⟩
    · exact ⟨_, b, false, rfl, rfl, inside⟩

/-! ## Many things -/

section

variable {item : DecodeM α} {form : Form α} (strict : scope.Strict)
  (h : Consults scope stuck own site item) (takes : Recognises scope item form)

include strict h takes

theorem readMany (before : List α) (count : Nat) :
    Consults scope stuck own (Form.Among form site count) (DecodeM.readMany item before count) := by
  induction count generalizing before with
  | zero =>
    refine of_blames (.result _) fun front inside => ?_
    cases inside with
    | mk before more _ => exact Nat.not_lt_zero _ more
  | succ count ih =>
    refine (h.bind strict takes fun a => ih (a :: before)).congr fun front => ?_
    constructor
    · rintro (isSite | ⟨a, _, x, rfl, isForm, ⟨others, more, inside⟩⟩)
      · exact .mk .nil (Nat.succ_pos _) isSite
      · rw [← List.append_assoc]
        exact .mk (.cons isForm others) (Nat.succ_lt_succ more) inside
    · rintro ⟨before, more, inside⟩
      cases before with
      | nil => exact .inl inside
      | cons head tail =>
        rw [List.append_assoc]
        exact .inr ⟨_, _, _, rfl, head, .mk tail (Nat.lt_of_succ_lt_succ more) inside⟩

theorem readCounted :
    Consults scope stuck own (Form.Counted form site) (DecodeM.readCounted own item) := by
  refine (behind strict .readLength (.readLength own) (h.readMany strict takes [])).congr
    fun front => ?_
  constructor
  · rintro ⟨a, b, count, rfl, number, inside⟩
    exact .mk number inside
  · rintro ⟨number, inside⟩
    exact ⟨_, _, _, rfl, number, inside⟩

end

section

variable {chunk : Nat → DecodeM (List α)} {piece : Form (List α)}
  {place : Nat → List UInt8 → Prop} (strict : scope.Strict)
  (h : ∀ n, Consults scope stuck own (place n) (chunk n))
  (takes : ∀ n, Recognises scope (chunk n) (fun bytes items =>
    items.length = n ∧ piece bytes items))

include strict h takes

theorem readChunks (before : List (List α)) (fuel : Nat) :
    Consults scope stuck own (Form.Chunked piece place fuel)
      (DecodeM.readChunks own chunk before fuel) := by
  induction fuel generalizing before with
  | zero => exact of_blames (.malformed _) fun front inside => nomatch inside
  | succ fuel ih =>
    let next (n : Nat) (b : List UInt8) : Prop := n ≠ 0 ∧ (place n b ∨ ∃ body others items,
      b = body ++ others ∧ (items.length = n ∧ piece body items) ∧
        Form.Chunked piece place fuel others)
    refine (behind strict .readChunkLength (.readChunkLength own)
      (?_ : ∀ n, Consults scope stuck own (next n) _)).congr fun front => ?_
    · intro n
      cases n with
      | zero => exact of_blames (.result _) fun _ inside => inside.1 rfl
      | succ n =>
        refine ((h (n + 1)).bind strict (takes (n + 1)) fun items => ih (items :: before)).congr
          fun front => ?_
        exact (and_iff_right (Nat.succ_ne_zero n)).symm
    · constructor
      · rintro ⟨a, _, n, rfl, number, more, inside | ⟨body, others, items, rfl, ⟨rfl, head⟩, tail⟩⟩
        · exact .here number more inside
        · exact .later number (mt (congrArg List.length) more) head tail
      · intro inside
        cases inside with
        | here number more inside => exact ⟨_, _, _, rfl, number, more, .inl inside⟩
        | later number ne_nil head tail =>
          exact ⟨_, _, _, rfl, number, mt List.eq_nil_of_length_eq_zero ne_nil,
            .inr ⟨_, _, _, rfl, ⟨rfl, head⟩, tail⟩⟩

theorem readUncountable : Consults scope stuck own
    (fun front => ∃ chunks, Form.Chunked piece place chunks front)
    (DecodeM.readUncountable own chunk) where
  blames {d after input oid fault} room source run := by
    refine ((readChunks strict h takes [] (d.source.size + 1)).blames room source
      run).imp_right fun found => ?_
    obtain ⟨front, tag, rest, split, inside, failed⟩ := found
    exact ⟨front, tag, rest, split, ⟨_, inside⟩, failed⟩
  passes {d after front rest tag error} room source isSite failed := by
    obtain ⟨chunks, inside⟩ := isSite
    have enough : front.length ≤ d.source.size + 1 := by
      rw [source, Source.size, List.length_append]
      omega
    exact (readChunks strict h takes [] (d.source.size + 1)).passes room source
      (inside.within enough) failed

end

/-! ## Parts of values -/

section

variable {element : Oid → DecodeM Value} {inner : Form Value} (strict : scope.Strict)
  (inside : ∀ parent, Consults scope stuck parent (· = []) (element parent))
  (takes : ∀ parent, Recognises scope (element parent) inner)

include inside

theorem readMapValue (parent : Oid) :
    Consults scope stuck parent (· = []) (DecodeM.readMapValue element parent) := by
  refine (inside parent).wrapped fun found => ?_
  split
  · exact .result _
  · exact .malformed _

theorem readNestedThrowable :
    Consults scope stuck Tag.throwable.code (· = []) (DecodeM.readNestedThrowable element) := by
  refine (inside _).wrapped fun found => ?_
  split
  · exact .result _
  · exact .malformed _

include strict takes

theorem readMap (parent : Oid) : Consults scope stuck parent
    (Form.Counted (Form.pair inner inner) fun b => b = [] ∨ ∃ key, inner b key)
    (DecodeM.readMap element parent) := by
  have entry : Consults scope stuck parent (fun b => b = [] ∨ ∃ key, inner b key)
      (DecodeM.readEntry element parent) := by
    refine ((inside parent).bind strict (takes parent) fun key =>
      (inside parent).wrapped fun value => .result (key, value)).congr fun front => ?_
    apply or_congr_right
    constructor
    · rintro ⟨a, _, key, rfl, isKey, rfl⟩
      exact ⟨key, by rwa [List.append_nil]⟩
    · rintro ⟨key, isKey⟩
      exact ⟨front, [], key, (List.append_nil _).symm, isKey, rfl⟩
  exact (entry.readCounted strict (.readEntry takes parent)).wrapped fun _ => .result _

theorem readThrowable (data : Option (OrderedMap Value Value)) :
    Consults scope stuck Tag.throwable.code (ThrowableSite inner)
      (DecodeM.readThrowable element data) := by
  have nested := readNestedThrowable inside
  have beside := nested.readCounted strict (.readNestedThrowable takes)
  refine (behind strict .readOptionalText .readOptionalText fun message =>
    behind strict Blames.readFrame.readCounted (Recognises.readFrame.readCounted _) fun frames =>
      whether strict
        ((nested.wrapped fun t => .result (some t)).bind strict
          ((Recognises.readNestedThrowable takes).wrapped some) fun cause =>
            beside.wrapped fun suppressed => .result _)
        (beside.wrapped fun suppressed => .result _)).congr fun front => ?_
  constructor
  · rintro ⟨a, _, message, rfl, isMessage, b, _, frames, rfl, areFrames, rest,
      ⟨rfl, rfl | ⟨c, d, _, rfl, ⟨t, isCause, rfl⟩, inside⟩⟩ | ⟨rfl, inside⟩⟩
    · exact .cause isMessage areFrames
    · rw [← List.append_assoc [_] c]
      exact .suppressed isMessage areFrames (.some isCause) inside
    · exact .suppressed isMessage areFrames .none inside
  · intro isSite
    cases isSite with
    | cause isMessage areFrames =>
      exact ⟨_, _, _, rfl, isMessage, _, _, _, rfl, areFrames, [], .inl ⟨rfl, .inl rfl⟩⟩
    | suppressed isMessage areFrames isCause inside =>
      refine ⟨_, _, _, rfl, isMessage, _, _, _, rfl, areFrames, ?_⟩
      cases isCause with
      | none => exact ⟨_, .inr ⟨rfl, inside⟩⟩
      | some isCause =>
        exact ⟨_, .inl ⟨List.append_assoc .., .inr ⟨_, _, _, rfl, ⟨_, isCause, rfl⟩, inside⟩⟩⟩

/-! ## Payloads -/

/-- What follows the identifier of a tag. The tag that says that an error has data is left out
here: it blames what it finds malformed on two identifiers. -/
theorem readTagged {tag : Tag} (other : tag ≠ .throwableWithData) :
    Consults scope stuck tag.code (Site inner tag) (DecodeM.readTagged element tag) := by
  cases tag with
  | null | boolTrue | boolFalse | stringEmpty | bytesEmpty | vectorEmpty | setEmpty | mapEmpty =>
    exact .of_blames (.result _) nofun
  | constant kind constant => exact .of_blames (.result _) nofun
  | annotated =>
    refine ((readMapValue inside _).bind strict (.readMapValue takes _) fun notes =>
      (inside _).wrapped fun v => .result _).congr fun front => ?_
    constructor
    · rintro (rfl | ⟨a, _, notes, rfl, isNotes, rfl⟩)
      · exact .notes
      · rw [List.append_nil]
        exact .inner isNotes
    · intro isSite
      cases isSite with
      | notes => exact .inl rfl
      | inner isNotes => exact .inr ⟨_, [], _, (List.append_nil _).symm, isNotes, rfl⟩
  | unsupported => exact .of_blames (Blames.readText.bind fun _ => Blames.readText.wrapped _) nofun
  | number kind => exact .of_blames (.readNumber kind) nofun
  | char => exact .of_blames (Blames.readChar.wrapped _) nofun
  | decimal => exact .of_blames (Blames.readInt32.bind fun _ => Blames.readInteger.wrapped _) nofun
  | ratio =>
    refine .of_blames (Blames.readInteger.bind fun n => Blames.readInteger.bind fun d => ?_) nofun
    split
    · exact .result _
    · exact .malformed _
  | string => exact .of_blames (Blames.readText.wrapped _) nofun
  | bytes => exact .of_blames (Blames.readBytes.wrapped _) nofun
  | byteStream => exact .of_blames ((Blames.readUncountable .readRaw).wrapped _) nofun
  | regex =>
    refine .of_blames (Blames.readText.bind fun source => ?_) nofun
    split
    · exact .result _
    · exact .malformed _
  | uuid => exact .of_blames (Blames.readUInt64.bind fun _ => Blames.readUInt64.wrapped _) nofun
  | vector =>
    refine (((inside _).readCounted strict (takes _)).wrapped fun _ => .result _).congr
      fun front => ?_
    exact ⟨.vector, fun | .vector place => place⟩
  | set =>
    refine (((inside _).readCounted strict (takes _)).wrapped fun _ => .result _).congr
      fun front => ?_
    exact ⟨.set, fun | .set place => place⟩
  | map =>
    refine ((readMap strict inside takes _).wrapped fun _ => .result _).congr fun front => ?_
    exact ⟨.map, fun | .map place => place⟩
  | intArray => exact .of_blames (Blames.readInt32.readCounted.wrapped _) nofun
  | longArray => exact .of_blames (Blames.readInt64.readCounted.wrapped _) nofun
  | doubleArray => exact .of_blames (Blames.readUInt64.readCounted.wrapped _) nofun
  | boolArray => exact .of_blames (Blames.readBool.readCounted.wrapped _) nofun
  | shortArray => exact .of_blames (Blames.readInt16.readCounted.wrapped _) nofun
  | floatArray => exact .of_blames (Blames.readUInt32.readCounted.wrapped _) nofun
  | charArray => exact .of_blames (Blames.readChar.readCounted.wrapped _) nofun
  | seq =>
    refine ((readUncountable strict (fun n => (inside _).readMany strict (takes _) [] n)
      fun n => (takes _).readExactly n).wrapped fun _ => .result _).congr fun front => ?_
    exact ⟨fun ⟨_, place⟩ => .seq place, fun | .seq place => ⟨_, place⟩⟩
  | instant => exact .of_blames (Blames.readTimestamp.wrapped _) nofun
  | date => exact .of_blames (Blames.readDate.wrapped _) nofun
  | time => exact .of_blames (Blames.readNanoOfDay.wrapped _) nofun
  | dateTime => exact .of_blames (Blames.readTimestamp.wrapped _) nofun
  | offsetDateTime =>
    refine .of_blames (Blames.readTimestamp.bind fun wall => Blames.readOffset.bind fun o => ?_)
      nofun
    split
    · exact .result _
    · exact .malformed _
  | duration => exact .of_blames (Blames.readDuration.wrapped _) nofun
  | period =>
    exact .of_blames (Blames.readInt32.bind fun _ => Blames.readInt32.bind fun _ =>
      Blames.readInt32.wrapped _) nofun
  | offsetTime =>
    exact .of_blames (Blames.readNanoOfDay.bind fun _ => Blames.readOffset.wrapped _) nofun
  | zonedDateTime =>
    exact .of_blames (Blames.readTimestamp.bind fun _ => Blames.readText.wrapped _) nofun
  | zoneId => exact .of_blames (Blames.readText.wrapped _) nofun
  | throwable =>
    refine ((readThrowable strict inside takes none).wrapped fun _ => .result _).congr
      fun front => ?_
    exact ⟨.throwable, fun | .throwable place => place⟩
  | throwableWithData => exact absurd rfl other
  | future =>
    refine ((inside _).wrapped fun v => .result (Value.future (.ready none v))).congr
      fun front => ?_
    constructor
    · rintro rfl
      exact .future
    · intro isSite
      cases isSite
      rfl

/-- What is wrong in front of the end of the data is blamed on the tag that says that an error has
data, and what is wrong behind it on the tag of an error without. -/
theorem blames_readThrowableWithData {d after : Decoder} {input : List UInt8} {oid : Oid}
    {fault : Fault} (room : d.scope = scope) (source : d.source = .slice input)
    (run : DecodeM.readTagged element .throwableWithData d = .error (.malformed oid fault) after) :
    ((¬ ∃ a rest data, input = a ++ rest ∧ inner a (.map data)) ∧
        oid = Tag.throwableWithData.code) ∨
      ((∃ a rest data, input = a ++ rest ∧ inner a (.map data)) ∧ oid = Tag.throwable.code) ∨
      ∃ front tag rest, input = front ++ (Tag.spelled tag ++ rest) ∧
        Site inner .throwableWithData front ∧
        stuck tag (d.past (front ++ tag.spelled) rest) (.malformed oid fault) after := by
  have data := readMapValue inside Tag.throwableWithData.code
  have reads := Recognises.readMapValue takes Tag.throwableWithData.code
  rcases bind_eq_error run with failed | ⟨m, between, went, failed⟩
  · rcases data.blames room source failed with own | ⟨_, tag, rest, split, rfl, failed⟩
    · refine .inl ⟨?_, own⟩
      rintro ⟨a, rest, m, rfl, isData⟩
      rw [reads.complete room source isData] at failed
      cases failed
    · exact .inr (.inr ⟨[], tag, rest, split, .data, failed⟩)
  · obtain ⟨a, middle, rfl, isData, rfl⟩ := reads.sound room strict source went
    have body := (readThrowable strict inside takes (some m)).wrapped (β := Value)
      fun t => .result (.throwable t)
    rcases body.blames (d := d.past a middle) room rfl failed with own | found
    · exact .inr (.inl ⟨⟨a, middle, m, rfl, isData⟩, own⟩)
    · obtain ⟨b, tag, rest, rfl, place, failed⟩ := found
      rw [Decoder.past_past, ← List.append_assoc] at failed
      exact .inr (.inr ⟨a ++ b, tag, rest, (List.append_assoc ..).symm, .behindData isData place,
        failed⟩)

/-- What a value inside fails with, an error with data fails with. -/
theorem passes_readThrowableWithData {d after : Decoder} {front rest : List UInt8} {tag : Tag}
    {error : StreamError} (room : d.scope = scope)
    (source : d.source = .slice (front ++ (tag.spelled ++ rest)))
    (isSite : Site inner .throwableWithData front)
    (failed : stuck tag (d.past (front ++ tag.spelled) rest) error after) :
    DecodeM.readTagged element .throwableWithData d = .error error after := by
  have data := readMapValue inside Tag.throwableWithData.code
  have reads := Recognises.readMapValue takes Tag.throwableWithData.code
  cases isSite with
  | data => exact bind_of_error (data.passes room source rfl failed)
  | @behindData a b m isData place =>
    have body := (readThrowable strict inside takes (some m)).wrapped (β := Value)
      fun t => .result (.throwable t)
    rw [List.append_assoc] at source
    refine (bind_of_ok (reads.complete room source isData)).trans ?_
    refine body.passes (d := d.past a _) room rfl place ?_
    rwa [Decoder.past_past, ← List.append_assoc]

end

end Consults

end TaggedStream
