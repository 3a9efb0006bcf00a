import TaggedStream.Proofs.Conveyance

/-!
What is written is read back, whatever follows it.

A portable value needs no handlers: it can go through a stream as deep as it is nested, and what
arrives of it is the value without its handles. So the decoder finds it again and stops behind it,
whatever is registered.
-/

namespace TaggedStream

namespace Value

/-! ## Portable values on their way -/

/-- Portable values can go through a stream that saves notes and does not cut sequences. -/
theorem Portable.conveyable {terms : Terms} (saves : terms.setting.options.saveMeta = true)
    (unbounded : terms.setting.options.uncountableMaxItems = none) {v : Value}
    (portable : Portable terms.setting.options.objectChunkSize v) :
    Conveyable terms v.nesting v := by
  induction portable with
  | vector fits _ ih =>
    rw [nesting]
    exact .vector fits fun v mem => (ih v mem).mono (nestingOfList_le_iff.1 (Nat.le_refl _) v mem)
  | set fits _ ih =>
    rw [nesting]
    exact .set fits fun v mem => (ih v mem).mono (nestingOfList_le_iff.1 (Nat.le_refl _) v mem)
  | @map entries fits _ _ ihKeys ihValues =>
    rw [nesting, nestingOfMap]
    have within := nestingOfEntries_le_iff.1 (Nat.le_refl (nestingOfEntries entries))
    exact .map fits (fun entry mem => (ihKeys entry mem).mono (within entry mem).1)
      fun entry mem => (ihValues entry mem).mono (within entry mem).2
  | seq fits _ ih =>
    rw [nesting]
    refine .seq (fun most bounded => ?_) fits fun v mem =>
      (ih v mem).mono (nestingOfList_le_iff.1 (Nat.le_refl _) v mem)
    rw [unbounded] at bounded
    cases bounded
  | future _ ih =>
    rw [nesting, nestingOfDeferred]
    exact .future ih
  | @throwable t message frameCount frames _ suppressedCount _ _ ihCause ihSuppressed ihData =>
    obtain ⟨below, beside, inside⟩ :=
      nestingOfThrowable_le_iff.1 (Nat.le_refl (nestingOfThrowable t))
    rw [nesting]
    exact .throwable message frameCount frames (fun c same => (ihCause c same).mono (below c same))
      suppressedCount (fun c mem => (ihSuppressed c mem).mono (beside c mem))
      fun m same => (ihData m same).mono (inside m same)
  | annotated _ _ ihInside ihBeside =>
    rw [nesting]
    rw [nesting] at ihBeside
    exact .annotated saves (ihInside.mono (Nat.le_max_left ..))
      (ihBeside.mono (Nat.le_max_right ..))
  | _ =>
    rw [nesting]
    · exact .atom (by constructor <;> assumption) rfl
    all_goals simp

/-- What arrives of a portable value is the value without its handles. -/
theorem Portable.eq_unshared {size : Nat} {v w : Value} (portable : Portable size v)
    (arrives : Arrives (fun _ _ => False) v w) : w = v.unshared := by
  induction portable generalizing w with
  | vector _ _ ih =>
    cases arrives with
    | atom isAtom => cases isAtom
    | vector each =>
      rw [unshared, unsharedList_eq_map, eq_map_of_forall₂ each fun v mem _ => ih v mem]
  | set _ _ ih =>
    cases arrives with
    | atom isAtom => cases isAtom
    | set each =>
      rw [unshared, unsharedList_eq_map, eq_map_of_forall₂ each fun v mem _ => ih v mem]
  | seq _ _ ih =>
    cases arrives with
    | atom isAtom => cases isAtom
    | seq each =>
      rw [unshared, unsharedList_eq_map, eq_map_of_forall₂ each fun v mem _ => ih v mem]
  | map _ _ _ ihKeys ihValues =>
    cases arrives with
    | atom isAtom => cases isAtom
    | map each =>
      rw [unshared, unsharedMap, unsharedEntries_eq_map]
      refine congrArg (Value.map ⟨·⟩) (eq_map_of_forall₂ each fun entry mem other both => ?_)
      rcases both with ⟨key, value⟩
      exact Prod.ext (ihKeys _ mem key) (ihValues _ mem value)
  | future _ ih =>
    cases arrives with
    | atom isAtom => cases isAtom
    | future inside => rw [unshared, unsharedDeferred, ih inside]
  | throwable _ _ _ _ _ _ _ ihCause ihSuppressed ihData =>
    cases arrives with
    | atom isAtom => cases isAtom
    | @throwable text trace cause cause' suppressed suppressed' data data' below beside inside =>
      have causeEq : cause' = unsharedCause cause := by
        cases below with
        | none => rfl
        | some one => simpa [unshared, unsharedCause] using ihCause _ rfl one
      have suppressedEq : suppressed' = unsharedSuppressed suppressed := by
        rw [unsharedSuppressed_eq_map]
        refine eq_map_of_forall₂ beside fun c mem c' one => ?_
        simpa [unshared] using ihSuppressed c mem one
      have dataEq : data' = unsharedData data := by
        cases inside with
        | none => rfl
        | some one => simpa [unshared, unsharedData] using ihData _ rfl one
      rw [unshared, unsharedThrowable, causeEq, suppressedEq, dataEq]
  | annotated _ _ ihInside ihBeside =>
    cases arrives with
    | atom isAtom => cases isAtom
    | annotated inside beside =>
      have notes := ihBeside beside
      rw [unshared] at notes
      cases notes
      rw [unshared, ihInside inside]
  | _ =>
    cases arrives
    rw [unshared]
    all_goals simp

end Value

namespace EncodeM

open Value Renders

variable {v : Value}

/-- A portable value is written as a derivation of what arrives of it, whatever is registered. -/
theorem writes_of_portable (setting : Setting) (saves : setting.options.saveMeta = true)
    (unbounded : setting.options.uncountableMaxItems = none)
    (portable : Portable setting.options.objectChunkSize v) :
    ∃ bytes, (∀ handlers, DerivesUnder handlers v.nesting bytes v.unshared) ∧
      ∀ levels, Writes setting (deepening (fun fuel => encodeWithin fuel v) levels) bytes := by
  let terms : Terms := ⟨setting, fun _ => none, fun _ _ => False⟩
  have conveyable : Conveyable terms v.nesting v := portable.conveyable saves unbounded
  obtain ⟨bytes, ⟨w, arrives, derivation⟩, writes⟩ := writes_of_conveyable conveyable
  obtain rfl := portable.eq_unshared arrives
  exact ⟨bytes, fun handlers => derivation.more (by simp [terms]), writes⟩

/-- A portable value is encoded over every willing sink, and decoded from the bytes that were
written, whatever follows them, whatever is registered, and wherever they stand; what it takes is
exactly these bytes. What arrives is the value, down to its bits, its scales and the order of its
entries. -/
theorem decode_encode_of_portable {e : Encoder} (willing : e.output.Willing)
    (saves : e.options.saveMeta = true) (unbounded : e.options.uncountableMaxItems = none)
    (portable : Portable e.options.objectChunkSize v) :
    ∃ bytes after, encode v e = .ok () after ∧ e.Extends bytes after ∧
      ∀ (d : Decoder) (rest : List UInt8), d.source = .slice (bytes ++ rest) →
        v.nesting ≤ d.options.maxDepth - d.depth →
          DecodeM.decode d = .ok (some v.unshared) (d.past bytes rest) := by
  obtain ⟨bytes, derivation, writes⟩ := writes_of_portable e.setting saves unbounded portable
  obtain ⟨after, run, grown⟩ := writes (v.height + e.store.height) e rfl willing
  refine ⟨bytes, after, run, grown.toExtends, ?_⟩
  intro d rest source shallow
  exact DecodeM.decode_of_derives source ((derivation _).mono shallow)

/-- A future under notes that hold an error, over a sink in memory. -/
theorem decode_encode_annotated_future :
    ∃ bytes after,
      encode (.annotated (.future (.ready (some 0) (.seq [.byte 5, .null])))
          ⟨[(.string "k", .throwable { message := some "m" })]⟩)
        (.fresh {} {} { sink := .unlimited } {}) = .ok () after ∧
      after.output.written = bytes ∧
      ∀ rest, DecodeM.decode (.fresh {} {} (.slice (bytes ++ rest))) =
        .ok (some (.annotated (.future (.ready none (.seq [.byte 5, .null])))
            ⟨[(.string "k", .throwable { message := some "m" })]⟩))
          ((Decoder.fresh {} {} (.slice (bytes ++ rest))).past bytes rest) := by
  have fits : TextFits "k" ∧ TextFits "m" := by
    unfold TextFits
    decide
  have items : ∀ v ∈ [Value.byte 5, Value.null], Portable 255 v := by
    simp [Portable.byte, Portable.null]
  have future : Portable 255 (.future (.ready (some 0) (.seq [.byte 5, .null]))) :=
    .future (.seq (by decide) items)
  have error : Portable 255 (.throwable { message := some "m" }) :=
    .throwable (by simp [fits.2]) (by decide) (by simp) (by simp) (by decide) (by simp) (by simp)
  have notes : Portable 255 (.map ⟨[(.string "k", .throwable { message := some "m" })]⟩) :=
    .map (by decide) (by simp [Portable.string fits.1]) (by simp [error])
  obtain ⟨bytes, after, run, extended, reads⟩ :=
    decode_encode_of_portable (e := .fresh {} {} { sink := .unlimited } {})
      Output.willing_of_unlimited rfl rfl (.annotated future notes)
  refine ⟨bytes, after, run, extended.written, fun rest => reads _ rest rfl ?_⟩
  change _ ≤ 128
  decide

end EncodeM

end TaggedStream
