import TaggedStream.Proofs.Streams
import TaggedStream.Proofs.Supervision

/-!
How much a value holds, and how many bytes that takes.

`nodes` counts a value and all values inside, each map of notes and each error below an error among
them. `content` adds up the lengths of all texts, byte strings and arrays. A derivation has two
bytes for each node, and apart from these one for each byte or item of content. So however large the
counts in a byte string are, what is read off it with the standard handlers is no larger than the
bytes that it takes, and every loop of the decoder ends by itself.
-/

namespace TaggedStream

/-- How many bytes a text has. -/
def Text.size (s : String) : Nat := (Text.Utf8.encode s).length

theorem Text.size_empty : Text.size "" = 0 := by
  simp [Text.size, Text.Utf8.encode]

/-- How many bytes the texts of a line have. -/
def Frame.content (frame : Frame) : Nat :=
  Text.size frame.className + Text.size frame.method + frame.file.elim 0 Text.size

/-- How many bytes or items a field holds that is no value. -/
def HostPart.content {ν : Type} : HostPart ν → Nat
  | .integer _ => 0
  | .text s => Text.size s
  | .bytes content => content.length
  | .integers is => is.length
  | .value _ => 0

namespace Value

/-- The lengths of the texts, byte strings and arrays that a value holds itself, outside the values
inside. -/
def own : Value → Nat
  | .string s => Text.size s
  | .bytes content => content.length
  | .regex p => Text.size p.source
  | .zoneId zone => Text.size zone
  | .zonedDateTime t => Text.size t.zone
  | .unsupported p => Text.size p.className + Text.size p.content
  | .intArray items => items.length
  | .longArray items => items.length
  | .doubleArray items => items.length
  | .boolArray items => items.length
  | .shortArray items => items.length
  | .floatArray items => items.length
  | .charArray items => items.length
  | .throwable t => t.message.elim 0 Text.size + (t.frames.map Frame.content).sum
  | .object o => (o.parts.map HostPart.content).sum
  | _ => 0

section

variable (f : Value → Nat)

mutual

/-- The sum over a value and all values inside. Notes are a map, and an error below an error is a
value of its own. -/
def total : Value → Nat
  | .vector items => f (.vector items) + totalOfList items
  | .set items => f (.set items) + totalOfList items
  | .seq items => f (.seq items) + totalOfList items
  | .map m => f (.map m) + totalOfMap m
  | .future d => f (.future d) + totalOfDeferred d
  | .throwable t => totalOfThrowable t
  | .object o => f (.object o) + totalOfObject o
  | .annotated inner notes =>
    f (.annotated inner notes) + (inner.total + (f (.map notes) + totalOfMap notes))
  | v => f v

/-- The sum over the items. -/
def totalOfList : List Value → Nat
  | [] => 0
  | v :: rest => v.total + totalOfList rest

/-- The sum over the keys and values. -/
def totalOfMap : OrderedMap Value Value → Nat
  | ⟨entries⟩ => totalOfEntries entries

/-- The sum over the keys and values of some entries. -/
def totalOfEntries : List (Value × Value) → Nat
  | [] => 0
  | (key, value) :: rest => (key.total + value.total) + totalOfEntries rest

/-- The sum over a deferred value that is there. -/
def totalOfDeferred : Deferred Value → Nat
  | .ready _ value => value.total
  | .shared _ => 0

/-- The sum over an error and all values below it. -/
def totalOfThrowable : Throwable Value → Nat
  | ⟨message, frames, cause, suppressed, data⟩ =>
    f (.throwable ⟨message, frames, cause, suppressed, data⟩) +
      (totalOfCause cause + (totalOfSuppressed suppressed + totalOfData data))

/-- The sum over a cause. -/
def totalOfCause : Option (Throwable Value) → Nat
  | none => 0
  | some t => totalOfThrowable t

/-- The sum over the suppressed errors. -/
def totalOfSuppressed : List (Throwable Value) → Nat
  | [] => 0
  | t :: rest => totalOfThrowable t + totalOfSuppressed rest

/-- The sum over optional data. -/
def totalOfData : Option (OrderedMap Value Value) → Nat
  | none => 0
  | some m => f (.map m) + totalOfMap m

/-- The sum over the values among the fields of an object. -/
def totalOfObject : HostObject Value → Nat
  | ⟨_, _, parts⟩ => totalOfParts parts

/-- The sum over the values among some fields. -/
def totalOfParts : List (HostPart Value) → Nat
  | [] => 0
  | .value v :: rest => v.total + totalOfParts rest
  | _ :: rest => totalOfParts rest

end

end

/-- How many values there are, with all that are inside. -/
def nodes : Value → Nat := total fun _ => 1

/-- The lengths of all texts, byte strings and arrays together. -/
def content : Value → Nat := total own

example : (Value.vector [.annotated (.bytes [1, 2]) ⟨[(.null, .intArray [3])]⟩, .null]).nodes = 7 ∧
    (Value.vector [.annotated (.bytes [1, 2]) ⟨[(.null, .intArray [3])]⟩, .null]).content = 3 := by
  decide

theorem nodes_pos (v : Value) : 0 < v.nodes := by
  cases v with
  | throwable t =>
    obtain ⟨message, frames, cause, suppressed, data⟩ := t
    simp only [nodes, total, totalOfThrowable]
    omega
  | _ =>
    simp only [nodes, total]
    omega

end Value

/-! ## Content of forms -/

namespace Form

variable {α : Type} {bytes : List UInt8}

theorem blob.length_eq {content : List UInt8} (h : blob bytes content) :
    bytes.length = content.length + 4 := by
  obtain ⟨counted⟩ := h
  rw [List.length_append, Recognises.length_of_isLength counted, Nat.add_comm]

theorem text.length_eq {s : String} (h : text bytes s) : bytes.length = Text.size s + 4 :=
  blob.length_eq h

theorem text.size_le {s : String} (h : text bytes s) : Text.size s ≤ bytes.length :=
  Nat.le_of_add_right_le (Nat.le_of_eq h.length_eq.symm)

/-- Something that takes bytes for what it holds takes them also where it might be absent. -/
theorem optional.measure_le {item : Form α} (measure : α → Nat) {a? : Option α}
    (h : optional item bytes a?) (each : ∀ bytes a, item bytes a → measure a ≤ bytes.length) :
    a?.elim 0 measure ≤ bytes.length := by
  cases h with
  | none => exact Nat.zero_le _
  | some present =>
    have le := each _ _ present
    rw [Option.elim, List.length_append]
    omega

theorem counted.length_le {item : Form α} {items : List α} (h : counted item bytes items)
    (some : ∀ a, ¬ item [] a) : items.length ≤ bytes.length := by
  obtain ⟨number, all⟩ := h
  have le := all.length_le some
  rw [List.length_append]
  omega

theorem frame.content_le {f : Frame} (h : frame bytes f) : f.content ≤ bytes.length := by
  obtain ⟨className, method, file, line⟩ := h
  have first := text.size_le className
  have second := text.size_le method
  have third := file.measure_le Text.size fun _ _ => text.size_le
  simp only [Frame.content, List.length_append]
  omega

/-- Things that take bytes for what they hold take bytes for all that they hold. -/
theorem many.sum_le {item : Form α} (measure : α → Nat) {items : List α} (h : many item bytes items)
    (each : ∀ bytes a, item bytes a → measure a ≤ bytes.length) :
    (items.map measure).sum ≤ bytes.length := by
  induction h with
  | nil => exact Nat.zero_le _
  | cons head _ ih =>
    have first := each _ _ head
    simp only [List.map_cons, List.sum_cons, List.length_append]
    omega

theorem counted.sum_le {item : Form α} (measure : α → Nat) {items : List α}
    (h : counted item bytes items) (each : ∀ bytes a, item bytes a → measure a ≤ bytes.length) :
    (items.map measure).sum ≤ bytes.length := by
  obtain ⟨number, all⟩ := h
  have le := all.sum_le measure each
  rw [List.length_append]
  omega

theorem chunked.sum_le {piece : Form (List α)} (measure : α → Nat) {items : List α}
    (h : chunked piece bytes items)
    (each : ∀ bytes items, piece bytes items → (items.map measure).sum ≤ bytes.length) :
    (items.map measure).sum ≤ bytes.length := by
  induction h with
  | done zero => exact Nat.zero_le _
  | chunk number ne_nil head _ ih =>
    have first := each _ _ head
    simp only [List.map_append, List.sum_append, List.length_append]
    omega

end Form

/-! ## Derivations -/

namespace Value

/-- The bytes that a value needs: two for each node, and one for each byte or item of content. -/
def needs (v : Value) : Nat := 2 * v.nodes + v.content

/-- What the values of a list need. -/
theorem needs_list (items : List Value) :
    2 * totalOfList (fun _ => 1) items + totalOfList own items = (items.map needs).sum := by
  induction items with
  | nil => simp [totalOfList]
  | cons v rest ih =>
    rw [List.map_cons, List.sum_cons, ← ih]
    simp only [totalOfList, needs, nodes, content]
    omega

theorem needs_entries (entries : List (Value × Value)) :
    2 * totalOfEntries (fun _ => 1) entries + totalOfEntries own entries =
      (entries.map fun entry => entry.1.needs + entry.2.needs).sum := by
  induction entries with
  | nil => simp [totalOfEntries]
  | cons entry rest ih =>
    rw [List.map_cons, List.sum_cons, ← ih]
    simp only [totalOfEntries, needs, nodes, content]
    omega

theorem needs_suppressed (ts : List (Throwable Value)) :
    2 * totalOfSuppressed (fun _ => 1) ts + totalOfSuppressed own ts =
      (ts.map fun t => (Value.throwable t).needs).sum := by
  induction ts with
  | nil => simp [totalOfSuppressed]
  | cons t rest ih =>
    rw [List.map_cons, List.sum_cons, ← ih]
    simp only [totalOfSuppressed, needs, nodes, content, total]
    omega

/-- An error needs what it holds itself, and what the errors below it and its data need. -/
theorem needs_throwable (t : Throwable Value) :
    (throwable t).needs = 2 + own (.throwable t) + (t.cause.elim 0 fun c => (throwable c).needs) +
      (t.suppressed.map fun c => (throwable c).needs).sum +
        t.data.elim 0 fun m => (map m).needs := by
  obtain ⟨message, frames, cause, suppressed, data⟩ := t
  have beside := needs_suppressed suppressed
  cases cause <;> cases data <;>
    simp only [needs, nodes, content, total, totalOfThrowable, totalOfCause, totalOfData,
      Option.elim] at beside ⊢ <;>
    omega

end Value

section

variable {element : Form Value} {bytes : List UInt8}

/-- What an error needs, its data aside, is there behind its identifier. -/
theorem Form.throwable.needs_le (inside : ∀ bytes v, element bytes v → v.needs ≤ bytes.length)
    {data : Option (OrderedMap Value Value)} {t : Throwable Value}
    (h : Form.throwable element data bytes t) :
    (Value.throwable t).needs ≤ bytes.length + 2 + data.elim 0 fun m => (Value.map m).needs := by
  obtain ⟨message, frames, cause, suppressed, rfl⟩ := h
  have texts := message.measure_le Text.size fun _ _ => Form.text.size_le
  have lines := frames.sum_le Frame.content fun _ _ => Form.frame.content_le
  have below := cause.measure_le (fun c => (Value.throwable c).needs) fun _ _ => inside _ _
  have beside := suppressed.sum_le (fun c => (Value.throwable c).needs) fun _ _ => inside _ _
  rw [Value.needs_throwable]
  simp only [Value.own, List.length_append]
  omega

/-- The value of a payload needs two bytes in front of it, and what is there. -/
theorem Payload.needs_le (inside : ∀ bytes v, element bytes v → v.needs ≤ bytes.length) {tag : Tag}
    {v : Value} (h : Payload element tag bytes v) : v.needs ≤ bytes.length + 2 := by
  have lists {items : List Value} (le : (items.map Value.needs).sum ≤ bytes.length) :
      2 * Value.totalOfList (fun _ => 1) items + Value.totalOfList Value.own items ≤
        bytes.length := Value.needs_list items ▸ le
  cases h with
  | annotated notes inner =>
    have first := inside _ _ notes
    have second := inside _ _ inner
    simp only [Value.needs, Value.nodes, Value.content, Value.total, Value.own,
      List.length_append] at first second ⊢
    omega
  | vector items | set items =>
    have le := lists (items.sum_le Value.needs inside)
    simp only [Value.needs, Value.nodes, Value.content, Value.total, Value.own]
    omega
  | seq items =>
    have le := lists (items.sum_le Value.needs fun _ _ piece => piece.sum_le Value.needs inside)
    simp only [Value.needs, Value.nodes, Value.content, Value.total, Value.own]
    omega
  | map entries =>
    have le := entries.sum_le (fun entry => entry.1.needs + entry.2.needs) fun _ _ both => by
      obtain ⟨key, value⟩ := both
      have first := inside _ _ key
      have second := inside _ _ value
      simp only [List.length_append]
      omega
    rw [← Value.needs_entries] at le
    simp only [Value.needs, Value.nodes, Value.content, Value.total, Value.totalOfMap, Value.own]
    omega
  | throwable body =>
    have le := body.needs_le inside
    rwa [Option.elim, Nat.add_zero] at le
  | throwableWithData data body =>
    have first := inside _ _ data
    have second := body.needs_le inside
    rw [Option.elim] at second
    rw [List.length_append]
    omega
  | future inner =>
    have le := inside _ _ inner
    simp only [Value.needs, Value.nodes, Value.content, Value.total, Value.totalOfDeferred,
      Value.own] at le ⊢
    omega
  | string body | regex body | zoneId body =>
    have le := body.size_le
    simp only [Value.needs, Value.nodes, Value.content, Value.total, Value.own]
    omega
  | zonedDateTime wall zone =>
    have le := zone.size_le
    simp only [Value.needs, Value.nodes, Value.content, Value.total, Value.own, List.length_append]
    omega
  | unsupported className content =>
    have first := className.size_le
    have second := content.size_le
    simp only [Value.needs, Value.nodes, Value.content, Value.total, Value.own, List.length_append]
    omega
  | bytes body =>
    have le := body.length_eq
    simp only [Value.needs, Value.nodes, Value.content, Value.total, Value.own]
    omega
  | byteStream body =>
    have le := body.length_le fun _ _ same => Nat.le_of_eq (congrArg List.length same.symm)
    simp only [Value.needs, Value.nodes, Value.content, Value.total, Value.own]
    omega
  | intArray items | longArray items | doubleArray items | boolArray items | shortArray items
  | floatArray items | charArray items =>
    have le := items.length_le (by intro a none; cases none)
    simp only [Value.needs, Value.nodes, Value.content, Value.total, Value.own]
    omega
  | number body =>
    cases body <;> simp [Value.needs, Value.nodes, Value.content, Value.total, Value.own]
  | @constant kind constant =>
    cases kind <;>
      simp [DecodeM.constantValue, Value.needs, Value.nodes, Value.content, Value.total, Value.own]
  | _ =>
    simp [Value.needs, Value.nodes, Value.content, Value.total, Value.own, Value.totalOfList,
      Value.totalOfMap, Value.totalOfEntries, Text.size_empty]

end

/-! ## The standard registry -/

/-- An address needs the two bytes of its identifier, and its octets. -/
theorem Body.needs_le {options : Options} {element : Form Value} {oid : Oid} {bytes : List UInt8}
    {v : Value} (inside : ∀ bytes v, element bytes v → v.needs ≤ bytes.length)
    (h : Body (Registry.standard.handlers options) element oid bytes v) :
    v.needs ≤ bytes.length + 2 := by
  cases h with
  | tagged payload => exact payload.needs_le inside
  | extension foreign handled takes form =>
    rcases Registry.handlers_standard_eq_some handled with rfl | rfl | rfl
    · obtain ⟨address, rfl, -⟩ := ReadPlan.Takes.of_mapped takes
      simp [Value.needs, Value.nodes, Value.content, Value.total, Value.own, Value.totalOfObject,
        Value.totalOfParts, Address.ipv4, HostPart.content]
    · obtain ⟨octets, rfl, taken⟩ := ReadPlan.Takes.of_mapped takes
      cases taken with
      | takeExact length rest =>
        cases rest
        rw [List.append_nil] at form
        obtain rfl := Form.cargo_ofBytes_iff.1 form
        simp [Value.needs, Value.nodes, Value.content, Value.total, Value.own, Value.totalOfObject,
          Value.totalOfParts, Address.ipv6, HostPart.content, Nat.add_comm]
    · obtain ⟨_, _, address, _, _, rest⟩ := ReadPlan.Takes.of_bind takes
      obtain ⟨port, rfl, -⟩ := ReadPlan.Takes.of_mapped rest
      simp [Value.needs, Value.nodes, Value.content, Value.total, Value.own, Value.totalOfObject,
        Value.totalOfParts, Address.socketV4, HostPart.content]

/-- A derivation has as many bytes as its value needs. -/
theorem DerivesUnder.needs_le {options : Options} {levels : Nat} {bytes : List UInt8} {v : Value}
    (h : DerivesUnder (Registry.standard.handlers options) levels bytes v) :
    v.needs ≤ bytes.length := by
  induction levels generalizing bytes v with
  | zero => exact h.elim
  | succ levels ih =>
    obtain ⟨oid, payload, rfl, body⟩ := h
    have le := body.needs_le fun _ _ => ih
    rw [List.length_append, Oid.spelled, BigEndian.length_encode]
    omega

namespace DecodeM

/-- With the standard registry, counts cannot outgrow the input, and decoding ends. What stands in
place of a round, a level, or a value that would be one too many cannot be told from outside. A
value that is read takes at least two bytes, at least two for each of its nodes, and apart from
these one for each byte or item of its content, so a stream holds at most half as many values as
bytes behind its header. And whatever is done about the counts that exceed the bytes that are left,
it makes no difference, or the input is refused anyway. -/
theorem decode_frugal :
    (∀ beyond : (α : Type) → DecodeM α, (Supervision.idle beyond).decode = decode ∧
      (Supervision.idle beyond).decodeAll = decodeAll) ∧
    (∀ (d after : Decoder) (input : List UInt8) (v : Value), d.registry = .standard →
      d.source = .slice input → decode d = .ok (some v) after →
        ∃ bytes rest, input = bytes ++ rest ∧ after = d.past bytes rest ∧
          d.position + 2 ≤ after.position ∧
            d.position + (2 * v.nodes + v.content) ≤ after.position) ∧
    (∀ (options : Options) (bytes : List UInt8) (vs : List Value),
      decodeStream .standard options bytes = .ok vs →
        vs.length ≤ (bytes.length - Header.size) / 2) ∧
    ∀ s : Supervision, s.Lenient → ∀ d : Decoder, d.registry = .standard →
      (s.decode d = decode d ∨ ∃ error after, decode d = .error error after) ∧
        (s.decodeAll d = decodeAll d ∨ ∃ error after, decodeAll d = .error error after) := by
  refine ⟨fun beyond => ⟨Supervision.decode_idle beyond, Supervision.decodeAll_idle beyond⟩,
    fun d after input v standard source run => ?_, fun options bytes vs run => ?_,
    fun s lenient d standard => ⟨?_, ?_⟩⟩
  · have strict := Decoder.strict_of_standard standard
    obtain ⟨bytes, rest, split, derivation, rfl⟩ := derives_of_decode strict source run
    rw [Decoder.scope, standard] at derivation
    have needs : 2 * v.nodes + v.content ≤ bytes.length := derivation.needs_le
    have some := v.nodes_pos
    refine ⟨bytes, rest, split, rfl, ?_, Nat.add_le_add_left needs d.position⟩
    exact Nat.add_le_add_left (by omega) d.position
  · obtain ⟨-, values⟩ := (decodeStream_eq_ok_iff fun _ _ => Registry.strict_standard).1 run
    have two := values.sum_le (fun _ => 2) fun bytes v derivation => by
      have needs : 2 * v.nodes + v.content ≤ bytes.length := derivation.needs_le
      have some := v.nodes_pos
      omega
    simp only [List.map_const', List.sum_replicate_nat, List.length_drop] at two
    omega
  · cases run : decode d with
    | error error after => exact .inr ⟨error, after, rfl⟩
    | ok found after => exact .inl (decode_lenient lenient standard run)
  · cases run : decodeAll d with
    | error error after => exact .inr ⟨error, after, rfl⟩
    | ok vs after => exact .inl (decodeAll_lenient lenient standard run)

/-- A stream of one null holds as many values as it can. A vector that announces as many items as a
count can, with one null behind the count, is refused: the count is the first thing that alarms. -/
theorem decode_frugal_at_largest_count :
    let stream : List UInt8 := Header.spelled ++ [0, 0]
    let vector : Decoder := .fresh .standard {} (.slice [0, 0x60, 0, 0, 0, 1, 0, 0])
    let hostile : Decoder := .fresh .standard {} (.slice [0, 0x60, 0x7F, 0xFF, 0xFF, 0xFF, 0, 0])
    let alarm : Supervision := ⟨fun n d =>
      if n ≤ d.source.size then .ok () d else .error (.unknownOid Tag.null.code) d,
      fun _ => throw default⟩
    (decodeStream .standard {} stream = .ok [.null] ∧ 1 ≤ (stream.length - Header.size) / 2) ∧
      (∃ v after, decode vector = .ok (some v) after ∧
        vector.position + (2 * v.nodes + v.content) ≤ after.position) ∧
      (alarm.Lenient ∧ ∃ after, alarm.decode hostile = .error (.unknownOid Tag.null.code) after) ∧
      ∃ error after, decode hostile = .error error after := by
  intro stream vector hostile alarm
  obtain ⟨-, values, streams, counts⟩ := decode_frugal
  have null : DerivesUnder (Registry.standard.handlers {}) 128 [0, 0] .null :=
    ⟨Tag.null.code, [], rfl, .tagged .null⟩
  have read : decodeStream .standard {} stream = .ok [.null] :=
    decodeStream_of_pieces (.cons null .nil)
  obtain ⟨v, after, run⟩ : ∃ v after, decode vector = .ok (some v) after := ⟨_, _, rfl⟩
  obtain ⟨_, _, _, _, _, within⟩ := values vector after _ v rfl rfl run
  have lenient : alarm.Lenient := fun n d covered => if_pos covered
  obtain ⟨last, alarmed⟩ : ∃ last, alarm.decode hostile =
      .error (.unknownOid Tag.null.code) last := ⟨_, rfl⟩
  refine ⟨⟨read, streams {} stream _ read⟩, ⟨v, after, run, within⟩, ⟨lenient, last, alarmed⟩, ?_⟩
  rcases (counts alarm lenient hostile rfl).1 with same | refused
  · exact ⟨_, last, same.symm.trans alarmed⟩
  · exact refused

end DecodeM

end TaggedStream
