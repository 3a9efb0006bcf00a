import TaggedStream.Extension.Sample
import TaggedStream.Proofs.Addresses

/-!
Handlers compose with the built-in format.

If the handlers of each object are inverse to each other, given that the values in between arrive,
then every value with such objects in it is read back from what was written, whatever follows it.
The handlers of addresses and those that put whole values are inverse to each other.
-/

namespace TaggedStream

/-! ## Handlers that put whole values -/

namespace Sample

variable {terms : Terms} {options : Options} {path : String}

/-- Both ends have the handlers of boxes. -/
structure KnowsBoxes (terms : Terms) (options : Options) (path : String) : Prop where
  writer : terms.setting.registry.writer? (boxedType path) =
    some (Registry.guarded (boxedType path) writeBoxed)
  reader : terms.handlers 0x8200 = some (readBoxed path options)

/-- The handlers of boxes are inverse to each other if the value in the box arrives. -/
theorem inverse_boxed (known : KnowsBoxes terms options path) (handle : Option Nat) (v : Value) :
    terms.Inverse ⟨handle, boxedType path, [.value v]⟩ 0x8200 [.inr v] where
  foreign := by decide
  puts := by
    refine ⟨_, known.writer, ?_⟩
    rw [Registry.guarded, if_pos rfl]
    exact (WritePlan.Puts.byteSink "write u16" (Oid.spelled 0x8200)).bind (.writeValue v)
  takes := by
    refine ⟨_, known.reader, fun cargo' arrive => ?_⟩
    cases arrive with
    | cons head tail =>
      cases head with
      | @inr v w arrives =>
        cases tail
        exact ⟨_, (ReadPlan.Takes.readValue w).mapped fun w => object (boxedType path) [.value w],
          .object (.cons (.value arrives) .nil)⟩

/-- Both ends have the handlers of labelled integers. -/
structure KnowsTagged (terms : Terms) (options : Options) (path : String) : Prop where
  writer : terms.setting.registry.writer? (taggedType path) =
    some (Registry.guarded (taggedType path) writeTagged)
  reader : terms.handlers 0x8100 = some (readTagged path options)

/-- The handlers of labelled integers are inverse to each other. -/
theorem inverse_tagged (known : KnowsTagged terms options path) (handle : Option Nat)
    (label : String) (is : List Int64) :
    terms.Inverse ⟨handle, taggedType path, [.text label, .integers (is.map Int64.toInt)]⟩ 0x8100
      [.inr (.string label), .inr (.longArray is)] where
  foreign := by decide
  puts := by
    refine ⟨_, known.writer, ?_⟩
    have values : (do
        WritePlan.writeValue (.string label)
        WritePlan.writeValue (.longArray ((is.map Int64.toInt).map Int64.ofInt))).Puts
        [.inr (.string label), .inr (.longArray is)] () := by
      rw [List.map_map, Function.comp_def, List.map_congr_left fun i _ => Int64.ofInt_toInt i,
        List.map_id']
      exact (WritePlan.Puts.writeValue _).bind (.writeValue _)
    rw [Registry.guarded, if_pos rfl]
    exact (WritePlan.Puts.byteSink "write u16" (Oid.spelled 0x8100)).bind values
  takes := by
    refine ⟨_, known.reader, fun cargo' arrive => ?_⟩
    cases arrive with
    | cons head tail =>
      cases head with
      | inr first =>
        cases tail with
        | cons head tail =>
          cases head with
          | inr second =>
            cases tail
            -- Texts and arrays arrive as they are.
            cases first
            cases second
            exact ⟨_, .value (.value .done), .object (.cons (.text _) (.cons (.integers _) .nil))⟩

end Sample

/-! ## Whole values -/

namespace EncodeM

open Value

/-- A value that can go through a stream is encoded over every willing sink, and what arrives of it is
decoded from the bytes that were written, whatever follows them; what is taken are exactly these
bytes. Handlers need no more for that than to be inverse to each other, and those of addresses, of
boxes and of labelled integers are. -/
theorem decode_encode_of_conveyable (terms : Terms) :
    (∀ (n : Nat) (v : Value), v.Conveyable terms n →
      ∃ bytes w, v.Arrives terms.same w ∧
        (∀ e : Encoder, e.setting = terms.setting → e.output.Willing →
          ∃ after, encode v e = .ok () after ∧ e.Grows bytes after) ∧
        ∀ (d : Decoder) (rest : List UInt8), d.scope.handlers = terms.handlers →
          n ≤ d.options.maxDepth - d.depth → d.source = .slice (bytes ++ rest) →
            DecodeM.decode d = .ok (some w) (d.past bytes rest)) ∧
      ∀ options : Options,
        (Address.Known terms options → ∀ (n : Nat) (o : HostObject Value), Address.IsAddress o →
          Conveyable terms (n + 1) (.object o)) ∧
        ∀ path : String,
          (Sample.KnowsBoxes terms options path → ∀ (n : Nat) (handle : Option Nat) (v : Value),
            Conveyable terms n v →
              Conveyable terms (n + 1) (.object ⟨handle, Sample.boxedType path, [.value v]⟩)) ∧
          (Sample.KnowsTagged terms options path → ∀ (n : Nat) (handle : Option Nat) (label : String)
            (is : List Int64), TextFits label → is.length ≤ Form.maxLength →
              Conveyable terms (n + 2) (.object ⟨handle, Sample.taggedType path,
                [.text label, .integers (is.map Int64.toInt)]⟩)) := by
  refine ⟨fun n v conveyable => ?_, fun options => ⟨fun known n o isAddress => ?_,
    fun path => ⟨fun known n handle v inside => ?_, fun known n handle label is short few => ?_⟩⟩⟩
  · obtain ⟨bytes, ⟨w, arrives, derives⟩, writes⟩ := writes_of_conveyable conveyable
    refine ⟨bytes, w, arrives, fun e => writes (v.height + e.store.height) e, ?_⟩
    intro d rest handlers shallow source
    apply DecodeM.decode_of_derives source
    rw [handlers]
    exact derives.mono shallow
  · exact Address.conveyable known isAddress n
  · refine .object (Sample.inverse_boxed known handle v) fun w mem => ?_
    cases List.mem_singleton.1 mem
    exact inside
  · refine .object (Sample.inverse_tagged known handle label is) fun w mem => ?_
    rcases List.mem_pair.1 mem with same | same <;> cases same
    · exact .atom (.string short) rfl
    · exact .atom (.longArray few) rfl

/-- An address as a key, with a box around another one in a future under notes, and with a third one
in the data of an error among the notes; placeholders are off. -/
theorem decode_encode_boxed_addresses :
    ∃ registry : Registry, Sample.registerBoxed "host" .standard = .ok registry ∧
      ∃ bytes w after,
        encode (.map ⟨[(.object (Address.ipv4 0x7F000001),
            .annotated (.future (.ready (some 0) (.object ⟨some 1, Sample.boxedType "host",
                [.value (.object (Address.socketV4 0x0A000001 80))]⟩)))
              ⟨[(.string "k", .throwable ⟨some "m", [], none, [],
                some ⟨[(.object (Address.ipv6 (List.replicate 16 0)), .null)]⟩⟩)]⟩)]⟩)
          (.fresh registry { encodeUnsupported := false } { sink := .unlimited } {}) =
            .ok () after ∧
        after.output.written = bytes ∧
        ∀ rest, DecodeM.decode (.fresh registry {} (.slice (bytes ++ rest))) = .ok (some w)
          ((Decoder.fresh registry {} (.slice (bytes ++ rest))).past bytes rest) := by
  refine ⟨_, rfl, ?_⟩
  let registry := { Registry.standard with
    readers := Registry.standard.readers.insert 0x8200 (Sample.readBoxed "host") }
      |>.registerWriter (Sample.boxedType "host") Sample.writeBoxed
  let terms : Terms :=
    ⟨⟨{ encodeUnsupported := false }, registry⟩, registry.handlers {}, fun _ _ => False⟩
  obtain ⟨arrives, instances⟩ := decode_encode_of_conveyable terms
  obtain ⟨addresses, others⟩ := instances {}
  have known : Address.Known terms {} := by
    constructor
    · simp only [List.forall_mem_cons, List.not_mem_nil, false_imp_iff, implies_true, and_true]
      exact ⟨rfl, rfl, rfl⟩
    · simp only [List.forall_mem_cons, List.not_mem_nil, false_imp_iff, implies_true, and_true]
      exact ⟨rfl, rfl, rfl⟩
  have boxes : Sample.KnowsBoxes terms {} "host" := ⟨rfl, rfl⟩
  have texts : TextFits "k" ∧ TextFits "m" := by
    unfold TextFits
    decide
  have key : Conveyable terms 5 (.object (Address.ipv4 0x7F000001)) :=
    addresses known 4 _ (.ipv4 ..)
  have box := (others "host").1 boxes 2 (some 1) _
    (addresses known 1 (Address.socketV4 0x0A000001 80) (.socketV4 ..))
  have data : Conveyable terms 2
      (.map ⟨[(.object (Address.ipv6 (List.replicate 16 0)), .null)]⟩) :=
    .map (by decide) (List.forall_mem_singleton.2 (addresses known 0 _ (.ipv6 none rfl)))
      (List.forall_mem_singleton.2 (.atom .null rfl))
  have error : Conveyable terms 3 (.throwable ⟨some "m", [], none, [], some _⟩) :=
    .throwable (by simp [texts.2]) (Nat.zero_le _) (by simp) (by simp) (Nat.zero_le _) (by simp)
      fun _ same => Option.some.inj same ▸ data
  have notes : Conveyable terms 4 (.map ⟨[(.string "k", _)]⟩) :=
    .map (by simp [Form.maxLength]) (List.forall_mem_singleton.2 (.atom (.string texts.1) rfl))
      (List.forall_mem_singleton.2 error)
  have whole : Conveyable terms 6 (.map ⟨[(_, .annotated (.future (.ready (some 0) _)) _)]⟩) :=
    .map (by simp [Form.maxLength]) (List.forall_mem_singleton.2 key)
      (List.forall_mem_singleton.2 (.annotated rfl (.future box) notes))
  obtain ⟨bytes, w, -, writes, reads⟩ := arrives 6 _ whole
  obtain ⟨after, run, grown⟩ := writes (.fresh registry { encodeUnsupported := false }
    { sink := .unlimited } {}) rfl Output.willing_of_unlimited
  refine ⟨bytes, w, after, run, grown.written, fun rest => reads _ rest rfl ?_ rfl⟩
  change _ ≤ 128
  decide

end EncodeM

end TaggedStream
