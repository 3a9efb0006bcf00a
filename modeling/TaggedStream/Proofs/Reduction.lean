import TaggedStream.Proofs.Following
import TaggedStream.Value.Equality

/-!
What an encoder does on its way may as well be done beforehand.

With placeholders in place of the objects that nothing writes, and without notes that are not saved,
a value comes to the same end and the same bytes. If placeholders are off, objects that nothing
writes are refused where they are met. So a value is written then if it is written with placeholders
in their place and a walk through it meets none of them.
-/

namespace TaggedStream

/-- A run with enough levels, and what it wrote. -/
theorem EncodeM.encode_of_check (fuel : ℕ) {v : Value} {e : Encoder} {bytes : List UInt8}
    (check : (match EncodeM.encodeWithin fuel v e with
      | .ok () after => after.output.written == bytes
      | _ => false) = true) :
    ∃ after, EncodeM.encode v e = .ok () after ∧ after.output.written = bytes := by
  split at check
  next after run => exact ⟨after, EncodeM.encode_of_ok run, eq_of_beq check⟩
  next => cases check

/-- The same went to the output. -/
def Encoder.SameOutput (e e' : Encoder) : Prop :=
  e'.output = e.output ∧ e'.position = e.position

/-! ## Replacing and writing -/

section

variable {e : Encoder} (idle : e.Idle) (willing : e.output.Willing) {v : Value} {live : ℕ → Bool}
  (careful : e.Careful live v ∨ e.options.saveMeta = true ∧ e.options.encodeUnsupported = true)

include idle willing careful

/-- Objects are written as the placeholders that stand for them. -/
theorem Encoder.encode_of_placeholders (kind : e.options.encodeUnsupported = true) (levels : ℕ) :
    Matches Eq Encoder.SameOutput (fun _ _ => True) (EncodeM.encode v e)
      (EncodeM.encode (e.reduce levels v) (e.reduceIn live levels)) := by
  have severe : ¬ e.options.encodeUnsupported = false := by simp [kind]
  have exchanges := Exchanged.exchanges e v e.placeholder e.placeholder
  have alike (pinned : Pinned) : Correspondence
      (.exchanged e v live (e.Exchanged v e.placeholder e.placeholder) pinned)
      (e.sides e.options.append)
      (e.Exchanging v live (e.Exchanged v e.placeholder e.placeholder) pinned)
      (e.Exchanged v e.placeholder e.placeholder) :=
    Exchanged.correspondence (.placeholders kind) careful
  have related : e.Replaced v e.placeholder v (e.reduce levels v) := ⟨.refl, levels, rfl⟩
  have forth := ((alike _).encode (n := 0) (.inl related)).ended
    (Exchanging.start exchanges idle willing levels fun _ _ => .inl) severe
  have back := ((alike _).encode (n := 0) (.inr related)).ended
    (Exchanging.start_back exchanges idle willing levels fun _ _ => .inr) severe
  exact (Matches.of_both forth back).imp (fun _ _ kin => ⟨kin.outputs.1, kin.outputs.2.1⟩)
    fun _ _ _ => trivial

/-- A value that is written although objects are refused is written the same with others in their
place. -/
theorem Encoder.encode_replace_of_refused (strict : e.options.encodeUnsupported = false)
    {after : Encoder} (run : EncodeM.encode v e = .ok () after)
    (stand : HostObject Value → Value) (levels : ℕ) :
    ∃ after', EncodeM.encode (e.replace stand levels v) (e.replaceIn stand live levels) =
      .ok () after' ∧ after.SameOutput after' := by
  have exchanges := Exchanged.exchanges e v stand fun _ => refusedTime
  have alike (pinned : Pinned) : Correspondence
      (.exchanged e v live (e.Exchanged v stand fun _ => refusedTime) pinned)
      (e.sides e.options.append)
      (e.Exchanging v live (e.Exchanged v stand fun _ => refusedTime) pinned)
      (e.Exchanged v stand fun _ => refusedTime) :=
    Exchanged.correspondence (.refused strict stand) careful
  have related : e.Replaced v stand v (e.replace stand levels v) := ⟨.refl, levels, rfl⟩
  obtain ⟨⟨⟩, after', run', -, kin⟩ := ((alike _).encode (n := 0) (.inl related)).went
    (Exchanging.start exchanges idle willing levels fun _ _ => .inl) run
  exact ⟨after', run', kin.outputs.1, kin.outputs.2.1⟩

end

/-- A value is written if it is written with what is refused in place of objects, or with
placeholders in their place and no object is met. Then a walk through it comes to its end. -/
theorem Encoder.encode_of_replaced {e : Encoder} (idle : e.Idle) (willing : e.output.Willing)
    (strict : e.options.encodeUnsupported = false) {v : Value} {live : ℕ → Bool}
    (careful : e.Careful live v) (resolved : e.Resolved live v) {stand : HostObject Value → Value}
    (stops : e.Stops live v stand) {levels : ℕ} {after : Encoder}
    (run : EncodeM.encode (e.replace stand levels v) (e.replaceIn stand live levels) =
      .ok () after) :
    ∃ after' cells, EncodeM.encode v e = .ok () after' ∧ e.Walks live v ⟨[], cells⟩ := by
  have start : e.Exchanging v live (e.Restores v stand) (.of (e.replaceIn stand live levels) e)
      (e.replaceIn stand live levels) e :=
    Exchanging.start_back (Restores.exchanges e v stand) idle willing levels fun _ _ => id
  have related : e.Restores v stand (e.replace stand levels v) v := ⟨.refl, levels, rfl⟩
  have traversal (pinned : Pinned) := Heeding.traversal pinned strict careful resolved stops
  obtain ⟨⟨⟩, after', run', -, -, cells, walks, -⟩ :=
    ((traversal _).encode (n := 0) related (fun _ => none) []).went
      ⟨start, Arrived.start e live v⟩ run
  exact ⟨after', cells, run', walks⟩

/-! ## All of it -/

/-- What an encoder does on its way may as well be done beforehand. With placeholders in place of
the objects that nothing writes, and without notes that are not saved, a value comes to the same end
and the same bytes. If placeholders are off, a value is written if and only if it is written with
placeholders in place of these objects and none of them is in the part that would be written.

This holds for every number of levels, and whichever sequences are replaced in; with as many levels
as it takes, nothing is left to replace (`Encoder.Within.settled_reduce`). Entries of maps are
replaced one by one, so keys that become equal stay apart. What handlers write is not replaced:
where one goes on after an error, the sequences that it may write are left as they are, since how
much was put before the error may depend on what was replaced. If notes are saved and placeholders
are on, it does not, and any sequences may be replaced in. -/
theorem encode_reduce {e : Encoder} (idle : e.Idle) (willing : e.output.Willing) (v : Value)
    (live : ℕ → Bool)
    (careful : e.Careful live v ∨
      e.options.saveMeta = true ∧ e.options.encodeUnsupported = true) (levels : ℕ) :
    (e.options.encodeUnsupported = true →
      Matches Eq Encoder.SameOutput (fun _ _ => True) (EncodeM.encode v e)
        (EncodeM.encode (e.reduce levels v) (e.reduceIn live levels))) ∧
    (e.options.encodeUnsupported = false → e.Resolved live v →
      ((∃ after, EncodeM.encode v e = .ok () after) ↔
        (∃ after, EncodeM.encode (e.reduce levels v) (e.reduceIn live levels) = .ok () after) ∧
          ¬ e.Meets live v)) := by
  refine ⟨fun kind => Encoder.encode_of_placeholders idle willing careful kind levels,
    fun strict resolved => ?_⟩
  have severe : ¬ (e.options.saveMeta = true ∧ e.options.encodeUnsupported = true) := by
    simp [strict]
  have passes : e.Careful live v := careful.resolve_right severe
  constructor
  · rintro ⟨after, run⟩
    have replaced (stand : HostObject Value → Value) :
        ∃ after', EncodeM.encode (e.replace stand levels v) (e.replaceIn stand live levels) =
          .ok () after' := by
      obtain ⟨after', run', -⟩ :=
        Encoder.encode_replace_of_refused idle willing careful strict run stand levels
      exact ⟨after', run'⟩
    -- With what is refused in place of objects it is written too, so none of them is met.
    obtain ⟨_, refused⟩ := replaced fun _ => Encoder.refusedTime
    obtain ⟨_, _, -, walks⟩ :=
      Encoder.encode_of_replaced idle willing strict passes resolved .refused refused
    exact ⟨replaced e.placeholder, walks.not_meets⟩
  · rintro ⟨⟨_, run⟩, unmet⟩
    obtain ⟨after, _, run', -⟩ :=
      Encoder.encode_of_replaced idle willing strict passes resolved (.unmet unmet) run
    exact ⟨after, run'⟩

/-- An object that nothing writes stands by itself beside one that is written, behind notes in a
deferred value, and in a sequence. If placeholders are off, it makes no difference behind the last
item that is written, and is met in its place. -/
theorem encode_reduce_of_object :
    let o : HostObject Value :=
      { type := { path := "zoo", name := "Yak", shape := .unit }, parts := [] }
    let known : HostObject Value :=
      { type := { path := "zoo", name := "Zebu", shape := .unit }, parts := [] }
    let writeTrue : ObjectWriter := fun _ _ => .writeValue (.bool true)
    let registry := Registry.registerWriter known.type writeTrue {}
    let all : ℕ → Bool := fun _ => true
    let noted : Value := .annotated (.object o) ⟨[(.null, .object o)]⟩
    let v : Value := .vector [.object o, .object known, .future (.ready none noted), .lazySeq 0]
    let e := Encoder.fresh registry { saveMeta := false } { sink := .unlimited }
      { sequences := #[{ source := .listed [noted] }] }
    let p : Value := .unsupported (e.store.placeholder o)
    (e.reduce 4 v = .vector [p, .object known, .future (.ready none p), .lazySeq 0] ∧
      (e.reduceIn all 4).store.sequences = #[{ source := .listed [p] }] ∧
      Matches Eq Encoder.SameOutput (fun _ _ => True) (EncodeM.encode v e)
        (EncodeM.encode (e.reduce 4 v) (e.reduceIn all 4))) ∧
    let short := Encoder.fresh registry
      { encodeUnsupported := false, uncountableMaxItems := some 1 } { sink := .unlimited } {}
    let behind : Value := .seq [.object known, .object o]
    let front : Value := .seq [.object o, .object known]
    ((∃ after, EncodeM.encode behind short = .ok () after ∧
        after.output.written = [0, 0x70, 0, 0, 0, 1, 0, 0x30, 0, 0, 0, 0]) ∧
      ¬ short.Meets all behind) ∧
    short.Meets all front ∧
    (∃ after, EncodeM.encode (short.reduce 2 front) (short.reduceIn all 2) = .ok () after) ∧
    ¬ ∃ after, EncodeM.encode front short = .ok () after := by
  intro o known writeTrue registry all noted v e p
  have writers (type : HostType) : registry.writer? type =
      if known.type == type then some (Registry.guarded known.type writeTrue) else none :=
    Registry.writer?_registerWriter ..
  -- The one handler passes errors on.
  have strict : (WritePlan.writeValue (.bool true)).Strict :=
    .value (fun _ => rfl) (.done ())
  have careful (options : Options) (store : Store) (root : Value) :
      (Encoder.fresh registry options { sink := .unlimited } store).Careful all root := by
    intro o writer _ found
    rw [Encoder.fresh, writers] at found
    split at found <;> cases found
    left
    rw [Registry.guarded]
    split
    · exact strict
    · exact .refuse _
  refine ⟨⟨rfl, rfl, ?_⟩, ?_⟩
  · exact (encode_reduce (Encoder.Idle.fresh _ _ _ _) Output.willing_of_unlimited v all
      (.inl (careful _ _ v)) 4).1 rfl
  · intro short behind front
    have resolved (root : Value) : short.Resolved all root := by
      rintro (⟨_, _⟩ | cell) _
      · exact .inl rfl
      · exact .inl rfl
    have both (root : Value) :=
      (encode_reduce (Encoder.Idle.fresh _ _ _ _) Output.willing_of_unlimited root all
        (.inl (careful _ _ root)) 2).2 rfl (resolved root)
    obtain ⟨after, run, written⟩ : ∃ after, EncodeM.encode behind short = .ok () after ∧
        after.output.written = [0, 0x70, 0, 0, 0, 1, 0, 0x30, 0, 0, 0, 0] :=
      EncodeM.encode_of_check 3 (by decide +kernel)
    obtain ⟨reduced, run', -⟩ : ∃ after,
        EncodeM.encode (short.reduce 2 front) (short.reduceIn all 2) = .ok () after ∧
          after.output.written = [0, 0x70, 0, 0, 0, 1] ++ Tag.unsupported.spelled ++
            [0, 0, 0, 8, 122, 111, 111, 58, 58, 89, 97, 107, 0, 0, 0, 3, 89, 97, 107] ++
            [0, 0, 0, 0] :=
      EncodeM.encode_of_check 3 (by decide +kernel)
    have meets : short.Meets all front :=
      ⟨o, [], _, .single (.inside rfl), (writers o.type).trans (if_neg (by decide))⟩
    exact ⟨⟨⟨after, run, written⟩, ((both behind).1 ⟨after, run⟩).2⟩, meets, ⟨reduced, run'⟩,
      fun went => ((both front).1 went).2 meets⟩

/-- A handler that goes on after the error of a sequence puts more if notes that are not saved are
still there. And a map that is built anew without them has one entry for keys that become equal. -/
theorem encode_ne_reduce_of_careless :
    let o : HostObject Value :=
      { type := { path := "zoo", name := "Yak", shape := .unit }, parts := [] }
    let careless : ObjectWriter := fun _ _ => .value (.lazySeq 0) fun _ => .done ()
    let noted : Value := .future (.ready none (.annotated Encoder.refusedTime ⟨[]⟩))
    let e := Encoder.fresh (Registry.registerWriter o.type careless {}) { saveMeta := false }
      { sink := .unlimited } { sequences := #[{ source := .listed [noted] }] }
    let v : Value := .vector [.object o, .lazySeq 0]
    let all : ℕ → Bool := fun _ => true
    ((∃ after, EncodeM.encode v e = .ok () after ∧ after.output.written =
        [0, 0x60, 0, 0, 0, 2, 0, 0x70, 0, 0, 0, 1, 0, 0xA0, 0, 0x70, 0, 0, 0, 0]) ∧
      (∃ after, EncodeM.encode (e.reduce 4 v) (e.reduceIn all 4) = .ok () after ∧
        after.output.written =
          [0, 0x60, 0, 0, 0, 2, 0, 0x70, 0, 0, 0, 1, 0, 0x70, 0, 0, 0, 0]) ∧
      ¬ Matches Eq Encoder.SameOutput (fun _ _ => True) (EncodeM.encode v e)
        (EncodeM.encode (e.reduce 4 v) (e.reduceIn all 4))) ∧
    let m : Value := .map ⟨[(.annotated .null ⟨[]⟩, .bool true), (.null, .bool false)]⟩
    let built : Value :=
      .map (@OrderedMap.ofList _ _ (Value.beqIn e.store)
        [(.null, .bool true), (.null, .bool false)])
    (∃ after, EncodeM.encode m e = .ok () after ∧ after.output.written =
      [0, 0x64, 0, 0, 0, 2, 0, 0, 0, 0x30, 0, 0, 0, 0x31]) ∧
    (∃ after, EncodeM.encode built e = .ok () after ∧ after.output.written =
      [0, 0x64, 0, 0, 0, 1, 0, 0, 0, 0x31]) := by
  intro o careless noted e v all
  have kept : ∃ after, EncodeM.encode v e = .ok () after ∧ after.output.written =
      [0, 0x60, 0, 0, 0, 2, 0, 0x70, 0, 0, 0, 1, 0, 0xA0, 0, 0x70, 0, 0, 0, 0] :=
    EncodeM.encode_of_check 6 (by decide +kernel)
  have left : ∃ after, EncodeM.encode (e.reduce 4 v) (e.reduceIn all 4) = .ok () after ∧
      after.output.written = [0, 0x60, 0, 0, 0, 2, 0, 0x70, 0, 0, 0, 1, 0, 0x70, 0, 0, 0, 0] :=
    EncodeM.encode_of_check 6 (by decide +kernel)
  refine ⟨⟨kept, left, fun same => ?_⟩, EncodeM.encode_of_check 3 (by decide +kernel),
    EncodeM.encode_of_check 3 (by decide +kernel)⟩
  obtain ⟨after, run, written⟩ := kept
  obtain ⟨after', run', written'⟩ := left
  rw [run, run'] at same
  cases same with
  | ok _ same =>
    rw [same.1, written] at written'
    cases written'

end TaggedStream
