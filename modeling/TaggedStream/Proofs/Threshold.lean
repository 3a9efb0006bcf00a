import TaggedStream.Proofs.Curtailment
import TaggedStream.Proofs.Levels
import TaggedStream.Proofs.Lockstep

/-!
The nesting bound is a threshold.

With the standard handlers, a byte string that is read under some nesting bound is read alike under
every bound that its value keeps, and is malformed under every smaller one. And whatever the bytes
and the handlers are, no more calls of the reader of values are open inside each other than the
bound allows: what stands in place of the call that would be one too many cannot be told from
outside.
-/

namespace TaggedStream

/-! ## Calls that are open -/

namespace DecodeM

/-- The reader of what follows an identifier. It calls itself for the values inside, but inside
`levels` calls that are open, something else stands in place of the next one. -/
def unrolled (beyond : Oid → DecodeM Value) : (levels : Nat) → (oid : Oid) → DecodeM Value
  | 0, oid => beyond oid
  | levels + 1, oid =>
    readBody (readElement fun parent oid => nested parent (unrolled beyond levels oid)) oid

/-- Reads the next value, with something else in place of the call inside as many open ones as the
settings leave. -/
def decodeUnrolled (beyond : Oid → DecodeM Value) : DecodeM (Option Value) := do
  if ← atEnd then return none
  let oid ← Wire.readOid
  let levels := (← settings).maxDepth - (← get).depth
  return some (← nested oid (unrolled beyond levels oid))

end DecodeM

/-- The same decoder, with this nesting bound and as many values open. -/
structure Decoder.Holding (most depth : Nat) (d d' : Decoder) : Prop where
  same : d' = d
  bound : d.options.maxDepth = most
  held : d.depth = depth

namespace Decoder.Holding

variable {most depth : Nat}

/-- A decoder is like itself, and no step of the wire opens a value. -/
theorem likeness : Likeness (Holding most depth) where
  options_eq h := by rw [h.same]
  registry_eq h := by rw [h.same]
  extension_eq h := by rw [h.same]
  size_eq h := by rw [h.same]
  extended h oid := ⟨by rw [h.same], h.bound, h.held⟩
  taken op size := by
    intro d d' h
    obtain ⟨rfl, bound, held⟩ := h
    unfold DecodeM.takeExact
    split
    · exact .ok _ ⟨rfl, bound, held⟩
    · exact .error _ ⟨rfl, bound, held⟩
  ending := by
    intro d d' h
    obtain ⟨rfl, bound, held⟩ := h
    unfold DecodeM.atEnd
    split
    · exact .ok _ ⟨rfl, bound, held⟩
    · exact .error _ ⟨rfl, bound, held⟩

/-- Only a level that is left is opened, however else the decoders are related below and above. -/
theorem nestedAlong {R S : Decoder → Decoder → Prop} {body body' : DecodeM Value} (parent : Oid)
    (holding : ∀ {d d'}, R d d' → Holding most depth d d')
    (entering : ∀ {d d'}, R d d' →
      S { d with depth := d.depth + 1 } { d' with depth := d'.depth + 1 })
    (leaving : ∀ {d d'}, S d d' →
      R { d with depth := d.depth - 1 } { d' with depth := d'.depth - 1 })
    (h : depth < most → Lockstep S Value body body') :
    Lockstep R Value (DecodeM.nested parent body) (DecodeM.nested parent body') := by
  intro d d' related
  obtain ⟨rfl, bound, held⟩ := holding related
  rw [DecodeM.nested_eq, DecodeM.nested_eq, bound, held]
  split
  case isTrue => exact .error _ related
  case isFalse room =>
    refine Lockstep.bracketed (h (Nat.lt_of_not_le room)) (fun d d' related => ?_)
      (fun d d' related => ?_) _ _ related
    · exact entering related
    · exact leaving related

theorem deeper {d d' : Decoder} (h : Holding most depth d d') :
    Holding most (depth + 1) { d with depth := d.depth + 1 } { d' with depth := d'.depth + 1 } :=
  ⟨by rw [h.same], h.bound, congrArg (· + 1) h.held⟩

theorem back {d d' : Decoder} (h : Holding most (depth + 1) d d') :
    Holding most depth { d with depth := d.depth - 1 } { d' with depth := d'.depth - 1 } :=
  ⟨by rw [h.same], h.bound, congrArg (· - 1) h.held⟩

theorem nested {body body' : DecodeM Value} (parent : Oid)
    (h : depth < most → Lockstep (Holding most (depth + 1)) Value body body') :
    Lockstep (Holding most depth) Value (DecodeM.nested parent body)
      (DecodeM.nested parent body') :=
  nestedAlong parent id deeper back h

/-- What stands in place of the call that would be one too many is never reached. -/
theorem unrolled (beyond : Oid → DecodeM Value) {levels fuel : Nat}
    (enough : most ≤ depth + levels) (enough' : most ≤ depth + fuel) (parent oid : Oid) :
    Lockstep (Holding most depth) Value
      (DecodeM.nested parent (DecodeM.unrolled beyond levels oid))
      (DecodeM.decodeNested fuel parent oid) := by
  -- With each level that is opened, less is left on both sides; at the bound, neither goes on.
  induction fuel generalizing depth levels parent oid with
  | zero =>
    intro d d' related
    obtain ⟨rfl, bound, held⟩ := related
    have full : d'.options.maxDepth ≤ d'.depth := by omega
    rw [DecodeM.nested_eq, if_pos full]
    exact .error _ ⟨rfl, bound, held⟩
  | succ fuel ih =>
    rw [DecodeM.decodeNested_succ]
    refine nested parent fun room => ?_
    obtain ⟨levels, rfl⟩ : ∃ lower, levels = lower + 1 :=
      Nat.exists_eq_add_one_of_ne_zero (by omega)
    exact likeness.readBody (ih (by omega) (by omega)) oid

theorem decode (beyond : Oid → DecodeM Value) :
    Lockstep (Holding most depth) (Option Value) (DecodeM.decodeUnrolled beyond)
      DecodeM.decode := by
  apply Lockstep.sequence likeness.ending
  intro ended
  cases ended with
  | true => exact .result none
  | false =>
    refine .sequence likeness.congruence.readUInt16 fun oid d d' related => ?_
    obtain ⟨rfl, bound, held⟩ := related
    rw [DecodeM.settings_bind, DecodeM.get_bind, DecodeM.settings_bind]
    refine Lockstep.sequence (unrolled beyond ?_ ?_ oid oid) (fun v => .result (some v)) _ _
      ⟨rfl, bound, held⟩ <;> omega

end Decoder.Holding

/-- The levels of a value that is read are left between the values that are open and the bound. -/
theorem DerivesUnder.depth_add_nesting_le {d : Decoder} {bytes : List UInt8} {v : Value}
    (derivation : DerivesUnder d.scope.handlers d.scope.levels bytes v)
    (flat : d.scope.handlers.Flat) : d.depth + v.nesting ≤ d.options.maxDepth := by
  have left : v.nesting ≤ d.options.maxDepth - d.depth := derivation.nesting_le flat
  have some := v.nesting_pos
  omega

namespace DecodeM

/-- Where one decoder reads a value, another one that lacks the levels for it blames an identifier:
both read in step, up to the level that the second one may not open. -/
theorem decode_of_exceeding {d d' : Decoder} {bytes rest : List UInt8} {v : Value}
    (standard : d.registry = .standard) (standard' : d'.registry = .standard)
    (source : d.source = .slice (bytes ++ rest)) (source' : d'.source = .slice (bytes ++ rest))
    (derivation : DerivesUnder d.scope.handlers d.scope.levels bytes v)
    (exceeds : d'.options.maxDepth < d'.depth + v.nesting) :
    ∃ oid fault after', decode d' = .error (.malformed oid fault) after' := by
  let roomy : Decoder := { d with extension := d'.extension }
  have complete : decode roomy = .ok (some v) _ := decode_of_derives (d := roomy) source derivation
  have shortens : roomy.Shortens [] d' :=
    ⟨⟨bytes ++ rest, by rwa [List.append_nil], source'⟩,
      Decoder.handlers_of_standard standard standard', Decoder.strict_of_standard standard, rfl⟩
  have present : d'.source ≠ .slice [] := by
    rw [source']
    simp [derivation.ne_nil]
  have sequel := Follows.decode shortens present complete
  generalize run : decode d' = result at sequel
  cases sequel with
  | error cutoff =>
    obtain ⟨oid, fault, rfl⟩ := cutoff.resolve_right fun missing => missing.1 rfl
    exact ⟨oid, fault, _, rfl⟩
  | ok _ =>
    obtain ⟨_, _, _, derivation', _⟩ :=
      derives_of_decode (Decoder.strict_of_standard standard') source' run
    have keeps := derivation'.depth_add_nesting_le (Decoder.flat_of_standard standard')
    exact absurd keeps (Nat.not_le_of_lt exceeds)

/-- What stands in place of the call that would be one too many cannot be told from outside. -/
theorem decodeUnrolled_eq (beyond : Oid → DecodeM Value) (d : Decoder) :
    decodeUnrolled beyond d = decode d := by
  have both := Decoder.Holding.decode beyond d d ⟨rfl, rfl, rfl⟩
  generalize decodeUnrolled beyond d = result, decode d = result' at both
  cases both with
  | ok v related => rw [related.same]
  | error error related => rw [related.same]

/-- With the standard handlers, a value that is read keeps the nesting bound, together with the
values that are open already, of which there are none outside a value. Under every other bound that
it keeps, the same value is read off the same bytes, and under the bounds that it does not keep, an
identifier is blamed. And in no reading, whatever the source and the handlers are, are there more
calls open than the bound allows: what stands in place of the next one does not matter. -/
theorem decode_threshold :
    (∀ (d after : Decoder) (input : List UInt8) (v : Value), d.registry = .standard →
      d.source = .slice input → decode d = .ok (some v) after →
        d.depth + v.nesting ≤ d.options.maxDepth ∧
          ∃ bytes rest, input = bytes ++ rest ∧ after = d.past bytes rest ∧
            ∀ d' : Decoder, d'.registry = .standard → d'.source = .slice input →
              (d'.depth + v.nesting ≤ d'.options.maxDepth →
                decode d' = .ok (some v) (d'.past bytes rest)) ∧
              (d'.options.maxDepth < d'.depth + v.nesting →
                ∃ oid fault after', decode d' = .error (.malformed oid fault) after')) ∧
    ∀ (beyond : Oid → DecodeM Value) (d : Decoder), decodeUnrolled beyond d = decode d := by
  refine ⟨fun d after input v standard source run => ?_, decodeUnrolled_eq⟩
  have strict := Decoder.strict_of_standard standard
  obtain ⟨bytes, rest, rfl, derivation, rfl⟩ := derives_of_decode strict source run
  have flat : d.scope.handlers.Flat := Decoder.flat_of_standard standard
  refine ⟨derivation.depth_add_nesting_le flat, bytes, rest, rfl, rfl,
    fun d' standard' source' => ⟨fun keeps => ?_, fun exceeds => ?_⟩⟩
  · have handlers := Decoder.handlers_of_standard standard standard'
    apply decode_of_derives source'
    rw [handlers]
    exact derivation.of_nesting_le flat (Nat.le_sub_of_add_le' keeps)
  · exact decode_of_exceeding standard standard' source source' derivation exceeds

/-- A vector of one null has two levels: it is read under a bound of two, and not under a bound of
one. -/
theorem decode_vector_of_null_at_one :
    let bytes : List UInt8 := [0, 0x60, 0, 0, 0, 1, 0, 0]
    (decode (.fresh .standard { maxDepth := 2 } (.slice bytes)) =
      .ok (some (.vector [.null]))
        ((Decoder.fresh .standard { maxDepth := 2 } (.slice bytes)).past bytes [])) ∧
      ∃ oid fault after', decode (.fresh .standard { maxDepth := 1 } (.slice bytes)) =
        .error (.malformed oid fault) after' := by
  intro bytes
  let d : Decoder := .fresh .standard { maxDepth := 2 } (.slice bytes)
  have null : DerivesUnder d.scope.handlers 1 [0, 0] .null :=
    ⟨Tag.null.code, [], rfl, .tagged .null⟩
  have items : Form.counted (DerivesUnder d.scope.handlers 1) ([0, 0, 0, 1] ++ ([0, 0] ++ []))
      [.null] := .mk ⟨by decide, rfl⟩ (.cons null .nil)
  have derivation : DerivesUnder d.scope.handlers 2 bytes (.vector [.null]) :=
    ⟨Tag.vector.code, _, rfl, .tagged (.vector items)⟩
  have source : d.source = .slice (bytes ++ []) := rfl
  have read := decode_of_derives source derivation
  obtain ⟨-, _, _, -, -, others⟩ := decode_threshold.1 d _ _ _ rfl source read
  exact ⟨read, (others (.fresh .standard { maxDepth := 1 } (.slice bytes)) rfl rfl).2 (by decide)⟩

end DecodeM

end TaggedStream
