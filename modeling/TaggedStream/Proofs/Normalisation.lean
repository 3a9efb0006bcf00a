import TaggedStream.Proofs.Addresses
import TaggedStream.Proofs.Streams

/-!
Reading normalises.

Whatever is read with the standard handlers can be written again: every count in it came from a
count or from as many bytes, no time of day lies in a leap second, and its objects are addresses.
Nothing in it has a handle, so it arrives as itself, and at the same depth. So what is written of it
is read as the same values and is written the same again.
-/

namespace TaggedStream

/-! ## What fits -/

namespace Form

variable {α : Type} {item : Form α} {bytes : List UInt8}

theorem blob.fits {content : List UInt8} (h : blob bytes content) : content.length ≤ maxLength := by
  obtain ⟨counted⟩ := h
  exact counted.1

theorem text.fits {s : String} (h : text bytes s) : Value.TextFits s := blob.fits h

/-- An integer is written with no more bytes than it was read from. -/
theorem integer.fits {i : Int} (h : integer bytes i) : Value.IntegerFits i := by
  obtain ⟨framed, spells⟩ := h
  exact Nat.le_trans spells.length_encode_le framed.fits

theorem counted.fits {items : List α} (h : counted item bytes items) :
    items.length ≤ maxLength := by
  obtain ⟨number, -⟩ := h
  exact number.1

/-- Each of many things has bytes of its own among all bytes. -/
theorem many.each {items : List α} (h : many item bytes items) :
    ∀ a ∈ items, ∃ part, part.length ≤ bytes.length ∧ item part a := by
  induction h with
  | nil => simp
  | @cons front back a rest head _ ih =>
    intro b mem
    rw [List.length_append]
    rcases List.mem_cons.1 mem with rfl | mem
    · exact ⟨front, Nat.le_add_right .., head⟩
    · obtain ⟨part, short, isItem⟩ := ih b mem
      exact ⟨part, Nat.le_trans short (Nat.le_add_left ..), isItem⟩

theorem counted.each {items : List α} (h : counted item bytes items) :
    ∀ a ∈ items, ∃ part, part.length ≤ bytes.length ∧ item part a := by
  obtain ⟨-, all⟩ := h
  intro a mem
  obtain ⟨part, short, isItem⟩ := all.each a mem
  rw [List.length_append]
  exact ⟨part, Nat.le_trans short (Nat.le_add_left ..), isItem⟩

theorem chunked.each {items : List α} (h : chunked (many item) bytes items) :
    ∀ a ∈ items, ∃ part, part.length ≤ bytes.length ∧ item part a := by
  induction h with
  | done => simp
  | @chunk count body others items rest _ _ head _ ih =>
    intro a mem
    simp only [List.length_append]
    rcases List.mem_append.1 mem with mem | mem
    · obtain ⟨part, short, isItem⟩ := head.each a mem
      exact ⟨part, by omega, isItem⟩
    · obtain ⟨part, short, isItem⟩ := ih a mem
      exact ⟨part, by omega, isItem⟩

end Form

/-- What is read without values inside can be written with chunks of any size. -/
theorem Payload.portable {element : Form Value} {tag : Tag} {bytes : List UInt8} {v : Value}
    (payload : Payload element tag bytes v) (isAtom : v.isAtom = true)
    (short : bytes.length ≤ Form.maxLength) (size : Nat) : Value.Portable size v := by
  cases payload with
  | number number =>
    cases number with
    | bigInt number => exact .bigInt number.fits
    | _ => constructor
  | @constant kind constant =>
    cases kind with
    | bigInt => cases constant <;> exact .bigInt (by unfold Value.IntegerFits; decide)
    | _ => constructor
  | unsupported className content => exact .unsupported className.fits content.fits
  | decimal _ unscaled => exact .decimal unscaled.fits
  | ratio numerator denominator => exact .ratio numerator.fits denominator.fits
  | string text => exact .string text.fits
  | stringEmpty => exact .string (Nat.zero_le _)
  | bytes blob => exact .bytes blob.fits
  | bytesEmpty => exact .bytes (Nat.zero_le _)
  | byteStream content =>
    refine .bytes (Nat.le_trans (content.length_le ?_) short)
    rintro _ _ rfl
    exact Nat.le_refl _
  | regex source => exact .regex source.fits
  | zonedDateTime _ zone => exact .zonedDateTime zone.fits
  | zoneId zone => exact .zoneId zone.fits
  | time nanos => exact .time nanos.1
  | offsetTime nanos _ => exact .offsetTime nanos.1
  | intArray items => exact .intArray items.fits
  | longArray items => exact .longArray items.fits
  | doubleArray items => exact .doubleArray items.fits
  | boolArray items => exact .boolArray items.fits
  | shortArray items => exact .shortArray items.fits
  | floatArray items => exact .floatArray items.fits
  | charArray items => exact .charArray items.fits
  | annotated | vector | vectorEmpty | set | setEmpty | map | mapEmpty | seq | throwable
    | throwableWithData | future => cases isAtom
  | _ => constructor

/-! ## What arrives as itself -/

/-- Lists whose members are related to nothing but themselves are related to nothing else. -/
theorem eq_of_forall₂ {α : Type} {R : α → α → Prop} {items items' : List α}
    (related : List.Forall₂ R items items') (each : ∀ a ∈ items, ∀ b, R a b → b = a) :
    items' = items := by
  simpa using eq_map_of_forall₂ (f := id) related each

namespace Value

/-- A value that can go through a stream, at most `n` levels deep, and arrives as itself. -/
structure Settled (terms : Terms) (n : Nat) (v : Value) : Prop where
  conveyable : v.Conveyable terms n
  arrives : ∀ w, v.Arrives terms.same w → w = v

namespace Settled

variable {terms : Terms} {n : Nat}

theorem atom {v : Value} (portable : Portable terms.setting.options.objectChunkSize v)
    (isAtom : v.isAtom = true) : Settled terms (n + 1) v := by
  refine ⟨.atom portable isAtom, fun w arrives => ?_⟩
  cases arrives with
  | atom => rfl
  | _ => cases isAtom

theorem vector {items : List Value} (fits : items.length ≤ Form.maxLength)
    (inside : ∀ v ∈ items, Settled terms n v) : Settled terms (n + 1) (.vector items) := by
  refine ⟨.vector fits fun v mem => (inside v mem).conveyable, fun w arrives => ?_⟩
  cases arrives with
  | atom => rfl
  | vector each => exact congrArg _ (eq_of_forall₂ each fun v mem => (inside v mem).arrives)

theorem set {items : List Value} (fits : items.length ≤ Form.maxLength)
    (inside : ∀ v ∈ items, Settled terms n v) : Settled terms (n + 1) (.set items) := by
  refine ⟨.set fits fun v mem => (inside v mem).conveyable, fun w arrives => ?_⟩
  cases arrives with
  | atom => rfl
  | set each => exact congrArg _ (eq_of_forall₂ each fun v mem => (inside v mem).arrives)

theorem seq {items : List Value} (unbounded : terms.setting.options.uncountableMaxItems = none)
    (fits : items.length ≤ Form.maxLength) (inside : ∀ v ∈ items, Settled terms n v) :
    Settled terms (n + 1) (.seq items) := by
  have uncut : ∀ most, terms.setting.options.uncountableMaxItems = some most →
      items.length ≤ most := by
    intro most bounded
    rw [unbounded] at bounded
    cases bounded
  refine ⟨.seq uncut (Nat.le_trans (Nat.min_le_right ..) fits)
    fun v mem => (inside v mem).conveyable, fun w arrives => ?_⟩
  cases arrives with
  | atom => rfl
  | seq each => exact congrArg _ (eq_of_forall₂ each fun v mem => (inside v mem).arrives)

theorem map {entries : List (Value × Value)} (fits : entries.length ≤ Form.maxLength)
    (inside : ∀ entry ∈ entries, Settled terms n entry.1 ∧ Settled terms n entry.2) :
    Settled terms (n + 1) (.map ⟨entries⟩) := by
  refine ⟨.map fits (fun entry mem => (inside entry mem).1.conveyable)
    fun entry mem => (inside entry mem).2.conveyable, fun w arrives => ?_⟩
  cases arrives with
  | atom => rfl
  | map each =>
    refine congrArg (Value.map ⟨·⟩) (eq_of_forall₂ each fun entry mem other both => ?_)
    rcases both with ⟨key, value⟩
    exact Prod.ext ((inside _ mem).1.arrives _ key) ((inside _ mem).2.arrives _ value)

theorem future {v : Value} (inside : Settled terms n v) :
    Settled terms (n + 1) (.future (.ready none v)) := by
  refine ⟨.future inside.conveyable, fun w arrives => ?_⟩
  cases arrives with
  | atom => rfl
  | future value => rw [inside.arrives _ value]

theorem annotated {inner : Value} {notes : OrderedMap Value Value}
    (saves : terms.setting.options.saveMeta = true) (inside : Settled terms n inner)
    (beside : Settled terms n (.map notes)) : Settled terms (n + 1) (.annotated inner notes) := by
  refine ⟨.annotated saves inside.conveyable beside.conveyable, fun w arrives => ?_⟩
  cases arrives with
  | atom => rfl
  | annotated value map =>
    cases beside.arrives _ map
    rw [inside.arrives _ value]

theorem throwable {t : Throwable Value} (message : ∀ s, t.message = some s → TextFits s)
    (frameCount : t.frames.length ≤ Form.maxLength) (frames : ∀ f ∈ t.frames, Renders.FrameFits f)
    (cause : ∀ c, t.cause = some c → Settled terms n (.throwable c))
    (suppressedCount : t.suppressed.length ≤ Form.maxLength)
    (suppressed : ∀ c ∈ t.suppressed, Settled terms n (.throwable c))
    (data : ∀ m, t.data = some m → Settled terms n (.map m)) :
    Settled terms (n + 1) (.throwable t) := by
  refine ⟨.throwable message frameCount frames (fun c same => (cause c same).conveyable)
    suppressedCount (fun c mem => (suppressed c mem).conveyable)
    fun m same => (data m same).conveyable, fun w arrives => ?_⟩
  cases arrives with
  | atom => rfl
  | @throwable text trace below below' others others' notes notes' isCause areOthers isData =>
    have causeEq : below' = below := by
      cases isCause with
      | none => rfl
      | some one => cases (cause _ rfl).arrives _ one; rfl
    have suppressedEq : others' = others := by
      refine eq_of_forall₂ areOthers fun c mem c' one => ?_
      cases (suppressed c mem).arrives _ one
      rfl
    have dataEq : notes' = notes := by
      cases isData with
      | none => rfl
      | some one => cases (data _ rfl).arrives _ one; rfl
    rw [causeEq, suppressedEq, dataEq]

/-- Addresses have nothing in them that could arrive as something else. -/
theorem address {options : Options} (known : Address.Known terms options)
    (plain : ∀ o o', ¬ terms.same o o') {type : HostType} {parts : List (HostPart Value)}
    (isAddress : Address.IsAddress ⟨none, type, parts⟩) :
    Settled terms (n + 1) (.object ⟨none, type, parts⟩) := by
  refine ⟨Address.conveyable known isAddress n, fun w arrives => ?_⟩
  cases arrives with
  | atom => rfl
  | same equal => exact absurd equal (plain _ _)
  | object each =>
    refine congrArg (fun parts => Value.object ⟨none, type, parts⟩) (eq_of_forall₂ each ?_)
    intro part mem part' related
    cases isAddress <;> simp only [List.mem_cons, List.not_mem_nil, or_false] at mem
    · subst mem; cases related; rfl
    · subst mem; cases related; rfl
    · rcases mem with rfl | rfl <;> cases related <;> rfl

end Settled

end Value

/-! ## What is read -/

section

variable {terms : Terms} {n : Nat} {element : Form Value}
  (h : ∀ bytes v, element bytes v → bytes.length ≤ Form.maxLength → Value.Settled terms n v)

include h

/-- Each of many values is settled if all their bytes are not too many. -/
theorem Value.Settled.each {bytes : List UInt8} {items : List Value}
    (parts : ∀ v ∈ items, ∃ part, part.length ≤ bytes.length ∧ element part v)
    (short : bytes.length ≤ Form.maxLength) : ∀ v ∈ items, Settled terms n v := by
  intro v mem
  obtain ⟨part, shorter, isValue⟩ := parts v mem
  exact h part v isValue (Nat.le_trans shorter short)

/-- An error and its data are settled if what is below them is. -/
theorem Form.throwable.settled {data : Option (OrderedMap Value Value)} {bytes : List UInt8}
    {t : Throwable Value} (body : Form.throwable element data bytes t)
    (short : bytes.length ≤ Form.maxLength)
    (inside : ∀ m, data = some m → Value.Settled terms n (.map m)) :
    Value.Settled terms (n + 1) (.throwable t) := by
  rcases body with ⟨message, frames, cause, suppressed, rfl⟩
  simp only [List.length_append] at short
  refine .throwable (fun s same => ?_) frames.fits (fun f mem => ?_) (fun c same => ?_)
    suppressed.fits (fun c mem => ?_) inside
  · rw [same] at message
    cases message with
    | some present => exact present.fits
  · obtain ⟨part, -, className, method, file, -⟩ := frames.each f mem
    refine ⟨className.fits, method.fits, fun s same => ?_⟩
    rw [same] at file
    cases file with
    | some present => exact present.fits
  · rw [same] at cause
    cases cause with
    | some present =>
      apply h _ _ present
      simp only [List.length_append] at short
      omega
  · obtain ⟨part, shorter, isThrowable⟩ := suppressed.each c mem
    exact h _ _ isThrowable (by omega)

/-- A payload stands for a settled value if what is inside does. -/
theorem Payload.settled (saves : terms.setting.options.saveMeta = true)
    (unbounded : terms.setting.options.uncountableMaxItems = none)
    (some : ∀ v, ¬ element [] v) {tag : Tag} {bytes : List UInt8} {v : Value}
    (payload : Payload element tag bytes v) (short : bytes.length ≤ Form.maxLength) :
    Value.Settled terms (n + 1) v := by
  by_cases isAtom : v.isAtom = true
  · exact .atom (payload.portable isAtom short _) isAtom
  cases payload with
  | vector items => exact .vector items.fits (.each h items.each short)
  | vectorEmpty => exact .vector (Nat.zero_le _) (by simp)
  | set items => exact .set items.fits (.each h items.each short)
  | setEmpty => exact .set (Nat.zero_le _) (by simp)
  | map entries =>
    refine .map entries.fits fun entry mem => ?_
    obtain ⟨part, shorter, isEntry⟩ := entries.each entry mem
    rcases isEntry with ⟨key, value⟩
    rw [List.length_append] at shorter
    exact ⟨h _ _ key (by omega), h _ _ value (by omega)⟩
  | mapEmpty => exact .map (Nat.zero_le _) (by simp)
  | seq items =>
    -- The count of all items is nowhere in the bytes, but each item has some of them.
    have count := items.length_le fun _ _ => Form.many.length_le some
    exact .seq unbounded (Nat.le_trans count short) (.each h items.each short)
  | throwable body => exact body.settled h short (by simp)
  | throwableWithData data body =>
    rw [List.length_append] at short
    refine body.settled h (by omega) fun m same => ?_
    cases same
    exact h _ _ data (by omega)
  | future value => exact .future (h _ _ value short)
  | annotated notes value =>
    rw [List.length_append] at short
    exact .annotated saves (h _ _ value (by omega)) (h _ _ notes (by omega))
  | number number => cases number <;> exact absurd rfl isAtom
  | @constant kind constant => cases kind <;> exact absurd rfl isAtom
  | _ => exact absurd rfl isAtom

end

/-- What the standard handlers let through is settled. -/
theorem settled_of_derives {terms : Terms} {options : Options}
    (saves : terms.setting.options.saveMeta = true)
    (unbounded : terms.setting.options.uncountableMaxItems = none)
    (known : Address.Known terms options) (plain : ∀ o o', ¬ terms.same o o') {n : Nat}
    {bytes : List UInt8} {v : Value}
    (derivation : DerivesUnder (Registry.standard.handlers options) n bytes v)
    (short : bytes.length ≤ Form.maxLength) : v.Settled terms n := by
  induction n generalizing bytes v with
  | zero => exact derivation.elim
  | succ n ih =>
    obtain ⟨oid, payload, rfl, body⟩ := derivation
    rw [List.length_append] at short
    have some (v : Value) : ¬ DerivesUnder (Registry.standard.handlers options) n [] v :=
      fun none => none.ne_nil rfl
    cases body with
    | tagged isPayload =>
      exact isPayload.settled (fun bytes v => ih) saves unbounded some (by omega)
    | extension _ handled takes _ =>
      obtain ⟨type, parts, rfl, isAddress⟩ := Registry.isAddress_of_takes handled takes
      exact .address known plain isAddress

/-- What is read with the standard handlers, at any depth that the settings allow, can be written
again with chunks of any size, whatever the store holds. What is written is read as the same values,
and these are written the same again. -/
theorem decode_encode_of_decoded (reading writing : Options) {bytes : List UInt8} {vs : List Value}
    (small : bytes.length ≤ Form.maxLength)
    (accepted : decodeStream .standard reading bytes = .ok vs) (saves : writing.saveMeta = true)
    (unbounded : writing.uncountableMaxItems = none) (keeps : writing.append = false) :
    ∃ again, (∀ store, (encodeStream .standard writing vs store).1 = .ok again) ∧
      decodeStream .standard reading again = .ok vs ∧
        ∀ vs', decodeStream .standard reading again = .ok vs' →
          ∀ store, (encodeStream .standard writing vs' store).1 = .ok again := by
  let terms : Terms :=
    ⟨⟨writing, .standard⟩, Registry.standard.handlers reading, fun _ _ => False⟩
  have known : Address.Known terms reading := ⟨fun _ _ => rfl, fun _ _ => rfl⟩
  have strict (oid : Oid) (plan : ReadPlan Value) := @Registry.strict_standard reading oid plan
  obtain ⟨-, derivations⟩ := (decodeStream_eq_ok_iff strict).1 accepted
  have settled : ∀ v ∈ vs, v.Settled terms reading.maxDepth := by
    intro v mem
    obtain ⟨part, shorter, derivation⟩ := derivations.each v mem
    rw [List.length_drop] at shorter
    exact settled_of_derives saves unbounded known (fun _ _ => id) derivation (by omega)
  have each : ∀ v ∈ vs, ∃ piece,
      DerivesUnder (Registry.standard.handlers reading) reading.maxDepth piece v ∧
        ∀ levels, Writes ⟨writing, .standard⟩
          (EncodeM.deepening (fun fuel => EncodeM.encodeWithin fuel v) levels) piece := by
    intro v mem
    obtain ⟨conveyable, arrives⟩ := settled v mem
    obtain ⟨piece, ⟨w, arrived, derivation⟩, writes⟩ := EncodeM.writes_of_conveyable conveyable
    obtain rfl := arrives w arrived
    exact ⟨piece, derivation, writes⟩
  obtain ⟨pieces, found⟩ := exists_forall₂ each
  have again := encodeStream_of_writes keeps unbounded (found.imp fun v piece both => both.2)
  have read := decodeStream_of_pieces (found.imp fun v piece both => both.1)
  refine ⟨_, again, read, fun vs' read' => ?_⟩
  cases read.symm.trans read'
  exact again

/-- A sequence in two chunks of one item: a zero that is not written as a constant, and a five with
a byte too much. -/
theorem decode_encode_of_loose_sequence :
    let bytes : List UInt8 := Header.spelled ++
      [0x00, 0x70, 0, 0, 0, 1, 0x00, 0x10, 0, 0, 0, 0, 1, 0x00, 0x40, 0, 0, 0, 2, 0, 5, 0, 0, 0, 0]
    decodeStream .standard {} bytes = .ok [.seq [.byte 0, .bigInt 5]] ∧
      ∃ again, (∀ store,
          (encodeStream .standard {} [.seq [.byte 0, .bigInt 5]] store).1 = .ok again) ∧
        decodeStream .standard {} again = .ok [.seq [.byte 0, .bigInt 5]] := by
  intro bytes
  let element : Form Value := DerivesUnder (Registry.standard.handlers {}) 127
  have zero (inner : Form Value) : Payload inner (.number .byte) [0] (.byte 0) :=
    .number (.byte rfl)
  have framed : Form.blob ([0, 0, 0, 2] ++ [0, 5]) [0, 5] := .mk ⟨by decide, rfl⟩
  have spells : TwosComplement.Spells [0, 5] 5 := (TwosComplement.decode_eq_iff (by simp)).1 rfl
  have five (inner : Form Value) :
      Payload inner (.number .bigInt) ([0, 0, 0, 2] ++ [0, 5]) (.bigInt 5) :=
    .number (.bigInt (.mk framed spells))
  have first : Form.many element ([0x00, 0x10, 0] ++ []) [.byte 0] :=
    .cons ⟨_, [0], rfl, .tagged (zero _)⟩ .nil
  have second : Form.many element ([0x00, 0x40, 0, 0, 0, 2, 0, 5] ++ []) [.bigInt 5] :=
    .cons ⟨_, [0, 0, 0, 2, 0, 5], rfl, .tagged (five _)⟩ .nil
  have one : Form.length [0, 0, 0, 1] 1 := ⟨by decide, rfl⟩
  have chunks : Form.chunked (Form.many element)
      [0, 0, 0, 1, 0x00, 0x10, 0, 0, 0, 0, 1, 0x00, 0x40, 0, 0, 0, 2, 0, 5, 0, 0, 0, 0]
      ([.byte 0] ++ ([.bigInt 5] ++ [])) :=
    .chunk one (by simp) first (.chunk one (by simp) second (.done ⟨by decide, rfl⟩))
  have derivation : DerivesUnder (Registry.standard.handlers {}) 128 ([0x00, 0x70] ++ _)
      (.seq [.byte 0, .bigInt 5]) :=
    ⟨_, _, rfl, .tagged (.seq chunks)⟩
  have accepted : decodeStream .standard {} bytes = .ok [.seq [.byte 0, .bigInt 5]] := by
    have whole : decodeStream .standard {} (Header.spelled ++ [_].flatten) = _ :=
      decodeStream_of_pieces (.cons derivation .nil)
    rwa [List.flatten_singleton] at whole
  obtain ⟨again, written, read, -⟩ :=
    decode_encode_of_decoded {} {} (by decide) accepted rfl rfl rfl
  exact ⟨accepted, again, written, read⟩

end TaggedStream
