import TaggedStream.Proofs.Buffering
import TaggedStream.Proofs.Conveyance
import TaggedStream.Stream

/-!
Whole streams: a header and derivations one behind another.

The stream of some values is a header and the bytes of each value, whatever is in the store. What is
read off a byte string are the values of which the bytes behind the header are derivations, one
behind another, and nothing else is a stream.
-/

namespace TaggedStream

/-! ## Written -/

/-- The bytes of the header that encoders write. -/
def Header.spelled : List UInt8 := BigEndian.encode 2 1 ++ List.replicate Header.gap 0

theorem Header.length_spelled : Header.spelled.length = Header.size := by
  rw [Header.spelled, List.length_append, BigEndian.length_encode, List.length_replicate]
  rfl

/-- What a stream begins with under the settings. -/
def Header.leading (options : Options) : List UInt8 := if options.append then [] else spelled

/-- What an encoder has written more, to the same channel. The store may have changed. -/
structure Encoder.Adds (before : Encoder) (bytes : List UInt8) (after : Encoder) : Prop where
  setting : after.setting = before.setting
  channel : after.output.channel = before.output.channel
  written : after.output.written = before.output.written ++ bytes

namespace EncodeM

variable {setting : Setting}

theorem writes_start : Writes setting start (Header.leading setting.options) := by
  have header : Writes setting (Header.write {}) Header.spelled :=
    (Writes.put "write u16" (BigEndian.encode 2 1)).bind (Writes.put "write gap" _)
  apply Writes.settings
  unfold Header.leading
  split
  · exact .nothing
  · exact header

/-- Drawing from a list gives its items one after another. -/
theorem draw_of_listed {cell : Nat} {e : Encoder} {sequence : Sequence} {v : Value}
    {rest : List Value} (found : e.store.sequences[cell]? = some sequence)
    (listed : sequence.source = .listed (v :: rest)) :
    ∃ after sequence', draw cell e = .ok (some v) after ∧ after.setting = e.setting ∧
      after.output = e.output ∧ after.store.sequences[cell]? = some sequence' ∧
        sequence'.source = .listed rest := by
  have inBounds : cell < e.store.sequences.size := (Array.getElem?_eq_some_iff.1 found).1
  let left : Sequence := { sequence with source := .listed rest, drawn := sequence.drawn + 1 }
  have step : e.store.draw cell = (some v, { e.store with
      sequences := e.store.sequences.setIfInBounds cell left }) := by
    rw [Store.draw, found]
    simp only [Sequence.draw, listed, ItemSource.draw]
    rfl
  refine ⟨{ e with store := (e.store.draw cell).2 }, left, ?_, rfl, rfl, ?_, rfl⟩
  · rw [draw, onStore, step]
  · rw [step]
    exact Array.getElem?_setIfInBounds_self_of_lt inBounds

/-- All items of a list may be drawn if the settings have no bound. -/
theorem drawLimit_of_listed {cell : Nat} {e : Encoder} {sequence : Sequence} {values : List Value}
    (unbounded : e.options.uncountableMaxItems = none)
    (found : e.store.sequences[cell]? = some sequence) (listed : sequence.source = .listed values) :
    drawLimit cell e = .ok values.length e := by
  have size : onStore (fun store => (store.size? cell, store)) e = .ok (some values.length) e := by
    have known : e.store.size? cell = some values.length := by
      rw [Store.size?, found]
      simp only [listed, ItemSource.size?]
    change EStateM.Result.ok (e.store.size? cell) e = _
    rw [known]
  rw [drawLimit, settings_bind, bind_of_ok size, unbounded]
  rfl

/-- The values of a list are written one behind another. -/
theorem encodeDrawn_of_listed {write : Value → EncodeM Unit} {cell : Nat} {values : List Value}
    {pieces : List (List UInt8)}
    (writes : List.Forall₂ (fun v piece => Writes setting (write v) piece) values pieces)
    (count : Nat) {e : Encoder} (same : e.setting = setting) (willing : e.output.Willing)
    {sequence : Sequence} (found : e.store.sequences[cell]? = some sequence)
    (listed : sequence.source = .listed values) :
    ∃ after, encodeDrawn write cell values.length count e = .ok (count + values.length) after ∧
      e.Adds pieces.flatten after := by
  induction writes generalizing count e sequence with
  | nil => exact ⟨e, rfl, rfl, rfl, (List.append_nil _).symm⟩
  | @cons v piece values pieces first _ ih =>
    obtain ⟨drawn, sequence', run, kept, output, found', listed'⟩ := draw_of_listed found listed
    obtain ⟨between, wrote, grown⟩ := first drawn (kept.trans same) (output ▸ willing)
    rw [← grown.store_eq] at found'
    obtain ⟨after, others, added⟩ := ih (count + 1) (grown.setting_eq.trans (kept.trans same))
      grown.willing found' listed'
    refine ⟨after, ?_, added.setting.trans (grown.setting_eq.trans kept),
      added.channel.trans (output ▸ grown.channel), ?_⟩
    · refine (bind_of_ok run).trans ((bind_of_ok wrote).trans (others.trans ?_))
      rw [List.length_cons, Nat.add_right_comm, Nat.add_assoc]
    · rw [added.written, grown.written, output, List.flatten_cons, List.append_assoc]

/-- Without a buffer, all that was written has reached the sink, and flushing changes nothing. -/
theorem flush_of_direct {e : Encoder} (direct : e.output.channel.capacity? = none)
    (flushes : e.output.channel.flushes = true) :
    flush e = .ok () e ∧ e.output.received = e.output.written := by
  obtain ⟨⟨sink, buffer⟩, registry, options, scratch, position, store⟩ := e
  obtain rfl : buffer = none := Option.map_eq_none_iff.1 direct
  have flushes : sink.flushes = true := flushes
  have flushed : sink.flush = (none, sink) := by rw [Sink.flush, if_pos flushes]
  constructor
  · simp only [flush, Output.flush, flushed]
    rfl
  · simp [Output.written]

end EncodeM

/-- Behind what it begins with, a stream is what is written for the values of a list that is drawn
from. Every value is written by the same session, which looked at the store before the first one. -/
theorem encodeStream_eq (registry : Registry) {options : Options}
    (unbounded : options.uncountableMaxItems = none) (values : List Value) (store : Store) :
    ∃ started : Encoder, (Encoder.fresh registry options { sink := .unlimited }
        (store.addSequence (.listed values)).2).Grows (Header.leading options) started ∧
      encodeStream registry options values store =
        match (do
          let _ ← EncodeM.encodeDrawn (fun v => EncodeM.deepening
            (fun fuel => EncodeM.encodeWithin fuel v) (v.height + started.store.height))
            store.sequences.size values.length 0
          EncodeM.flush : EncodeM Unit) started with
        | .ok () after => (.ok after.output.received, after.store)
        | .error halt after => (.error halt, after.store) := by
  let setting : Setting := ⟨options, registry⟩
  let cell := store.sequences.size
  let e : Encoder := .fresh registry options { sink := .unlimited }
    (store.addSequence (.listed values)).2
  have header : Writes setting EncodeM.start (Header.leading options) := EncodeM.writes_start
  obtain ⟨started, start, grown⟩ := header e rfl Output.willing_of_unlimited
  have found : started.store.sequences[cell]? = some { source := .listed values } := by
    rw [grown.store_eq]
    exact Array.getElem?_push_size
  have unbounded' : started.options.uncountableMaxItems = none :=
    (congrArg (·.options.uncountableMaxItems) grown.setting_eq).trans unbounded
  have limit := EncodeM.drawLimit_of_listed unbounded' found rfl
  have drawn : (do EncodeM.start; let _ ← EncodeM.encodeAll cell; EncodeM.flush : EncodeM Unit) e =
      (do
        let _ ← EncodeM.encodeDrawn (fun v => EncodeM.deepening
          (fun fuel => EncodeM.encodeWithin fuel v) (v.height + started.store.height))
          cell values.length 0
        EncodeM.flush : EncodeM Unit) started := by
    rw [EncodeM.bind_of_ok start, EncodeM.encodeAll, bind_assoc, EncodeM.bind_of_ok limit]
    rfl
  refine ⟨started, grown, ?_⟩
  rw [← drawn]
  rfl

/-- If all values of a list are written to a sink that takes everything, nothing is held back. -/
theorem EncodeM.flush_of_drawn {m : EncodeM Nat} {started after : Encoder} {total : Nat}
    (drawn : m started = .ok total after)
    (channel : after.output.channel = Output.channel { sink := .unlimited }) :
    (do let _ ← m; flush : EncodeM Unit) started = .ok () after ∧
      after.output.received = after.output.written := by
  obtain ⟨flushed, received⟩ := flush_of_direct (e := after)
    (congrArg Output.Channel.capacity? channel) (congrArg Output.Channel.flushes channel)
  exact ⟨(bind_of_ok drawn).trans flushed, received⟩

/-- The stream of some values is what it begins with and what is written for each of them, whatever
the store holds. -/
theorem encodeStream_of_pieces {registry : Registry} {options : Options} {values : List Value}
    {pieces : List (List UInt8)} (unbounded : options.uncountableMaxItems = none)
    (writes : List.Forall₂ (fun v piece => ∀ levels, Writes ⟨options, registry⟩
      (EncodeM.deepening (fun fuel => EncodeM.encodeWithin fuel v) levels) piece) values pieces)
    (store : Store) : (encodeStream registry options values store).1 =
      .ok (Header.leading options ++ pieces.flatten) := by
  obtain ⟨started, grown, unfolded⟩ := encodeStream_eq registry unbounded values store
  have found : started.store.sequences[store.sequences.size]? =
      some { source := .listed values } := by
    rw [grown.store_eq]
    exact Array.getElem?_push_size
  have session := writes.imp fun v piece writes => writes (v.height + started.store.height)
  obtain ⟨after, all, added⟩ :=
    EncodeM.encodeDrawn_of_listed session 0 grown.setting_eq grown.willing found rfl
  obtain ⟨whole, received⟩ := EncodeM.flush_of_drawn all (added.channel.trans grown.channel)
  rw [unfolded, whole]
  change Except.ok after.output.received = _
  rw [received, added.written, grown.written]
  rfl

/-- If a header comes first, the stream is the header and what is written for each value. -/
theorem encodeStream_of_writes {registry : Registry} {options : Options} {values : List Value}
    {pieces : List (List UInt8)} (keeps : options.append = false)
    (unbounded : options.uncountableMaxItems = none)
    (writes : List.Forall₂ (fun v piece => ∀ levels, Writes ⟨options, registry⟩
      (EncodeM.deepening (fun fuel => EncodeM.encodeWithin fuel v) levels) piece) values pieces)
    (store : Store) :
    (encodeStream registry options values store).1 = .ok (Header.spelled ++ pieces.flatten) := by
  rw [encodeStream_of_pieces unbounded writes store, Header.leading, keeps,
    if_neg Bool.false_ne_true]

/-- What can be found for each member can be found for all of them. -/
theorem exists_forall₂ {α β : Type} {R : α → β → Prop} {items : List α}
    (each : ∀ a ∈ items, ∃ b, R a b) : ∃ found, List.Forall₂ R items found := by
  induction items with
  | nil => exact ⟨[], .nil⟩
  | cons a rest ih =>
    obtain ⟨b, related⟩ := each a (List.mem_cons_self ..)
    obtain ⟨found, others⟩ := ih fun a mem => each a (List.mem_cons_of_mem _ mem)
    exact ⟨b :: found, .cons related others⟩

/-! ## Read -/

namespace DecodeM

variable {d d' : Decoder} {bytes rest : List UInt8} {v : Value}

/-- An iteration goes on with the value of a derivation. -/
theorem next_of_derives (running : d.done = false) (source : d.source = .slice (bytes ++ rest))
    (derivation : DerivesUnder d.scope.handlers d.scope.levels bytes v) :
    next d = .ok (some v) (d.past bytes rest) := by
  rw [next, get_bind, running, if_neg Bool.false_ne_true,
    bind_of_ok (attempt_of_ok (decode_of_derives source derivation))]
  rfl

/-- An iteration ends with the bytes. -/
theorem next_of_end (running : d.done = false) (source : d.source = .slice []) :
    next d = .ok none { d with done := true } := by
  have ended : decode d = .ok none d := by
    rw [decode, bind_of_ok (atEnd_slice source)]
    rfl
  rw [next, get_bind, running, if_neg Bool.false_ne_true, bind_of_ok (attempt_of_ok ended)]
  rfl

/-- What an iteration finds, if every handler passes errors on: a derivation, or the end. -/
theorem next_eq_ok {input : List UInt8} {found : Option Value} (strict : d.scope.Strict)
    (running : d.done = false) (source : d.source = .slice input) (run : next d = .ok found d') :
    found = none ∧ input = [] ∨ ∃ bytes rest v, input = bytes ++ rest ∧ found = some v ∧
      DerivesUnder d.scope.handlers d.scope.levels bytes v ∧ d' = d.past bytes rest := by
  rw [next, get_bind, running, if_neg Bool.false_ne_true] at run
  cases ran : decode d with
  | error error between =>
    have first : attempt decode d = .ok (.error error) between := by rw [attempt, ran]
    rw [bind_of_ok first] at run
    cases run
  | ok answer between =>
    rw [bind_of_ok (attempt_of_ok ran)] at run
    cases answer with
    | none =>
      cases run
      have holds : d.source.Holds input := source ▸ .slice input
      have sees : d.source.Sees := source ▸ trivial
      exact .inl ⟨rfl, by_contra fun some => decode_ne_none holds sees some ran⟩
    | some v =>
      cases run
      obtain ⟨bytes, rest, split, derivation, after⟩ := derives_of_decode strict source ran
      exact .inr ⟨bytes, rest, v, split, rfl, derivation, after⟩

/-- Derivations one behind another are read up to the end, behind what was read already. -/
theorem decodeRest_of_many {scope : Scope} {input : List UInt8} {vs : List Value}
    (derivations : Form.many (DerivesUnder scope.handlers scope.levels) input vs)
    (before : List Value) {fuel : Nat} (enough : input.length < fuel) (room : d.scope = scope)
    (running : d.done = false) (source : d.source = .slice input) :
    ∃ d', decodeRest before fuel d = .ok (before.reverse ++ vs) d' := by
  induction derivations generalizing before fuel d with
  | nil =>
    obtain ⟨fuel, rfl⟩ := Nat.exists_eq_add_one_of_ne_zero (Nat.ne_of_gt enough)
    rw [decodeRest, bind_of_ok (next_of_end running source), List.append_nil]
    exact ⟨_, rfl⟩
  | @cons front back v rest head _ ih =>
    obtain ⟨fuel, rfl⟩ := Nat.exists_eq_add_one_of_ne_zero (Nat.ne_of_gt (Nat.zero_lt_of_lt enough))
    have some : 0 < front.length := List.length_pos_iff.2 head.ne_nil
    rw [List.length_append] at enough
    subst room
    rw [decodeRest, bind_of_ok (next_of_derives running source head)]
    have left : back.length < fuel := by omega
    obtain ⟨d', run⟩ := ih (d := d.past front back) (v :: before) left rfl running rfl
    exact ⟨d', run.trans (by simp)⟩

/-- What is read up to the end are derivations one behind another. -/
theorem many_of_decodeRest {scope : Scope} {input : List UInt8} {before all : List Value}
    {fuel : Nat} (strict : scope.Strict) (enough : input.length < fuel) (room : d.scope = scope)
    (running : d.done = false) (source : d.source = .slice input)
    (run : decodeRest before fuel d = .ok all d') :
    ∃ vs, all = before.reverse ++ vs ∧
      Form.many (DerivesUnder scope.handlers scope.levels) input vs := by
  induction fuel generalizing input before d with
  | zero => exact absurd enough (Nat.not_lt_zero _)
  | succ fuel ih =>
    subst room
    obtain ⟨found, between, first, second⟩ := bind_eq_ok_iff.1 run
    rcases next_eq_ok strict running source first with ⟨rfl, rfl⟩ |
      ⟨bytes, rest, v, rfl, rfl, derivation, rfl⟩
    · cases second
      exact ⟨[], (List.append_nil _).symm, .nil⟩
    · have some : 0 < bytes.length := List.length_pos_iff.2 derivation.ne_nil
      rw [List.length_append] at enough
      obtain ⟨vs, rfl, derivations⟩ :=
        ih (d := d.past bytes rest) (by omega) rfl running rfl second
      exact ⟨v :: vs, by simp, .cons derivation derivations⟩

end DecodeM

/-- A byte string behind its header is the rest of it. -/
theorem Source.pastHeader_slice (bytes : List UInt8) :
    (Source.slice bytes).pastHeader = .slice (bytes.drop Header.size) := by
  rw [pastHeader, takeExact_slice, takeExact_slice, List.drop_drop, Header.size]

section

variable (registry : Registry) (options : Options) {bytes : List UInt8} {vs : List Value}

/-- Behind a header, the rest of a byte string is left. -/
theorem Decoder.source_started (bytes : List UInt8) :
    (Decoder.started registry options (.slice bytes) bytes).source =
      .slice (bytes.drop Header.size) :=
  Source.pastHeader_slice bytes

/-- Behind a header, all that is left is read. -/
theorem decodeStream_of_enough (enough : Header.size ≤ bytes.length) :
    decodeStream registry options bytes =
      match DecodeM.decodeRest [] ((bytes.drop Header.size).length + 1)
        (.started registry options (.slice bytes) bytes) with
      | .ok values _ => .ok values
      | .error error _ => .error error := by
  let d := Decoder.started registry options (.slice bytes) bytes
  have started : DecodeM.start (.fresh registry options (.slice bytes)) = .ok () d :=
    DecodeM.start_of_holds (.slice bytes) enough
  have source : d.source = .slice (bytes.drop Header.size) := Source.pastHeader_slice bytes
  have unfolded : (do DecodeM.start; DecodeM.decodeAll) (.fresh registry options (.slice bytes)) =
      DecodeM.decodeRest [] (d.source.size + 1) d := by
    rw [DecodeM.bind_of_ok started]
    rfl
  rw [source] at unfolded
  unfold decodeStream
  simp only [unfolded]
  rfl

variable {registry options}

/-- A header and derivations behind it are read as the values that they stand for. -/
theorem decodeStream_of_many (enough : Header.size ≤ bytes.length)
    (derivations : Form.many (DerivesUnder (registry.handlers options) options.maxDepth)
      (bytes.drop Header.size) vs) :
    decodeStream registry options bytes = .ok vs := by
  let scope : Scope := ⟨options.maxDepth, registry.handlers options⟩
  have derivations : Form.many (DerivesUnder scope.handlers scope.levels) _ vs := derivations
  obtain ⟨d', run⟩ :=
    DecodeM.decodeRest_of_many derivations [] (Nat.lt_succ_self _) rfl rfl
      (Decoder.source_started registry options bytes)
  rw [decodeStream_of_enough registry options enough, run]
  rfl

/-- The byte strings that are read as a list of values: a header, and derivations of these values
one behind another. -/
theorem decodeStream_eq_ok_iff
    (strict : ∀ oid plan, registry.handlers options oid = some plan → plan.Strict) :
    decodeStream registry options bytes = .ok vs ↔ Header.size ≤ bytes.length ∧
      Form.many (DerivesUnder (registry.handlers options) options.maxDepth)
        (bytes.drop Header.size) vs := by
  constructor
  · intro run
    by_cases enough : Header.size ≤ bytes.length
    · rw [decodeStream_of_enough registry options enough] at run
      split at run <;> cases run
      case h_1 d' ran =>
      have strict : Scope.Strict ⟨options.maxDepth, registry.handlers options⟩ := strict
      obtain ⟨_, rfl, derivations⟩ :=
        DecodeM.many_of_decodeRest strict (Nat.lt_succ_self _) rfl rfl
          (Decoder.source_started registry options bytes) ran
      exact ⟨enough, derivations⟩
    · have short : ∃ d, DecodeM.start (.fresh registry options (.slice bytes)) =
          .error (Header.shortage bytes.length) d :=
        DecodeM.start_of_short (.slice bytes) (Nat.lt_of_not_le enough)
      obtain ⟨d, ran⟩ := short
      unfold decodeStream at run
      simp only [DecodeM.bind_of_error ran] at run
      cases run
  · intro found
    exact decodeStream_of_many found.1 found.2

/-- What is written piece by piece is read piece by piece. -/
theorem decodeStream_of_pieces {pieces : List (List UInt8)}
    (derivations : List.Forall₂
      (fun v piece => DerivesUnder (registry.handlers options) options.maxDepth piece v)
      vs pieces) :
    decodeStream registry options (Header.spelled ++ pieces.flatten) = .ok vs := by
  have many : Form.many (DerivesUnder (registry.handlers options) options.maxDepth)
      pieces.flatten vs := by
    induction derivations with
    | nil => exact .nil
    | cons head _ ih => exact .cons head ih
  apply decodeStream_of_many
  · rw [List.length_append, Header.length_spelled]
    exact Nat.le_add_right ..
  · rwa [List.drop_left' Header.length_spelled]

end

end TaggedStream
