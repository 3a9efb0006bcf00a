import TaggedStream.Proofs.Addresses
import TaggedStream.Proofs.Drawing

/-!
Streams one behind another.

What is written behind a stream continues it, and so does what is read: a decoder that is through
with a value remembers nothing of it, and has not looked at what follows. An encoder that may write
so many values leaves all others where they were.
-/

namespace TaggedStream

/-! ## Written -/

/-- While one of the values is written, `v` may be written, at some depth. -/
def LedTo (options : Options) (registry : Registry) (store : Store) (values : List Value)
    (v : Value) : Prop :=
  ∃ w ∈ values, Relation.ReflTransGen (Part options registry store) w v

section

variable {registry : Registry} {options : Options} {a b values : List Value} {store : Store}

theorem LedTo.of_mem {v : Value} (inside : v ∈ values) : LedTo options registry store values v :=
  ⟨v, inside, .refl⟩

theorem encloses_ledTo : Encloses options registry store (LedTo options registry store values) := by
  rintro v w ⟨u, inside, leads⟩ part
  exact ⟨u, inside, leads.tail part⟩

/-- Atoms lead to nothing but themselves. -/
theorem LedTo.isAtom {v : Value} (h : LedTo options registry store values v)
    (atoms : ∀ w ∈ values, w.isAtom = true) : v.isAtom = true := by
  obtain ⟨w, inside, leads⟩ := h
  have isAtom := atoms w inside
  rcases leads.cases_head with rfl | ⟨u, part, -⟩
  · exact isAtom
  · cases part <;> cases isAtom

/-- What may be written does not depend on what handlers do not look at. -/
theorem Encloses.of_blind {A : Value → Prop} {options' : Options}
    (encloses : Encloses options registry store A)
    (blind : ∀ o writer, A (.object o) → registry.writer? o.type = some writer →
      writer options' o = writer options o) : Encloses options' registry store A := by
  intro v w member part
  cases part
  case handled known mentions =>
    rw [blind _ _ member known] at mentions
    exact encloses member (.handled known mentions)
  case suppressed beside => exact encloses member (.suppressed beside)
  all_goals exact encloses member (by constructor <;> assumption)

end

/-- A sequence that is added changes no other. -/
theorem Store.getElem?_addSequence (store : Store) (source : ItemSource) {cell : ℕ}
    (ne : cell ≠ store.sequences.size) :
    (store.addSequence source).2.sequences[cell]? = store.sequences[cell]? :=
  (Array.getElem?_push ..).trans (if_neg ne)

/-- A cell that is added changes nothing for values that do not lead to it. -/
theorem Encloses.kin_added {options : Options} {registry : Registry} {store : Store}
    {A : Value → Prop} (encloses : Encloses options registry store A)
    (aside : ¬ A (.lazySeq store.sequences.size)) {source : ItemSource} {added : Store}
    (same : added = (store.addSequence source).2) (front : List UInt8) :
    Store.Kin (.behind A front) ⟨(store.sequences[·]?), (added.sequences[·]?)⟩ store added := by
  subst same
  refine ⟨fun {cell} draws => ?_, fun _ => ⟨rfl, rfl⟩, rfl, rfl,
    fun cell d there member v brings => encloses member (.brought there brings)⟩
  have ne : cell ≠ store.sequences.size := by
    rintro rfl
    exact aside draws.1.2
  rw [store.getElem?_addSequence source ne]
  cases there : store.sequences[cell]? with
  | none => exact .none
  | some s => exact .some ⟨rfl, fun v supplies => encloses draws.1.2 (.item there supplies)⟩

/-- An encoder that is about to write a stream is akin to another one if it would be without the
list that it is going to draw from. -/
theorem Encoder.Akin.of_started {sides : Sides} {A : Value → Prop}
    {before front leading : List UInt8} {pinned : Pinned} {store : Store} {source : ItemSource}
    {started e' : Encoder}
    (grown : (Encoder.fresh sides.registry sides.options { sink := .unlimited }
      (store.addSequence source).2).Grows leading started)
    (kin : Store.Kin (.behind A before) pinned store e'.store)
    (aside : ¬ A (.lazySeq store.sequences.size))
    (setting' : e'.setting = ⟨sides.options', sides.registry⟩) (idle' : e'.Idle)
    (willing' : e'.output.Willing) (written : e'.output.written = front ++ leading) :
    Encoder.Akin (.behind A front) sides started e' := by
  have idle : started.Idle := by
    rw [grown.frame]
    exact Encoder.Idle.fresh sides.registry sides.options { sink := .unlimited }
      (store.addSequence source).2
  refine ⟨grown.setting_eq, setting', idle, idle', ⟨grown.channel, willing', ?_⟩,
    fun {cell} draws => ?_, fun _ => ⟨rfl, rfl⟩, ?_, ?_⟩
  · rw [written, grown.written]
    rfl
  · have ne : cell ≠ store.sequences.size := by
      rintro rfl
      exact aside draws.1.2
    rw [grown.store_eq]
    change Option.Rel _ (store.addSequence source).2.sequences[cell]? _
    rw [store.getElem?_addSequence source ne]
    exact kin.shared draws
  · rw [grown.store_eq]
    exact kin.readers
  · rw [grown.store_eq]
    exact kin.deferrals

/-- Values may be written one list behind the other. -/
theorem encodeStream_append {registry : Registry} {options : Options} {a b : List Value}
    {store : Store} (unbounded : options.uncountableMaxItems = none)
    (there : ∀ cell, LedTo options registry store (a ++ b) (.lazySeq cell) →
      cell < store.sequences.size)
    (blind : ∀ o writer, LedTo options registry store (a ++ b) (.object o) →
      registry.writer? o.type = some writer →
        writer { options with append := true } o = writer options o) :
    (encodeStream registry options (a ++ b) store).1 = do
      let front ← (encodeStream registry options a store).1
      let back ← (encodeStream registry { options with append := true } b
        (encodeStream registry options a store).2).1
      return front ++ back := by
  let A := LedTo options registry store (a ++ b)
  let plain : Sides := ⟨options, options.append, registry⟩
  let behind : Sides := ⟨{ options with append := true }, options.append, registry⟩
  have encloses : Encloses plain.options plain.registry store A := encloses_ledTo
  have aside : ¬ A (.lazySeq store.sequences.size) := fun leads => Nat.lt_irrefl _ (there _ leads)
  obtain ⟨started, grown, -⟩ := encodeStream_eq registry unbounded a store
  have idle : started.Idle := by
    rw [grown.frame]
    exact Encoder.Idle.fresh registry options { sink := .unlimited }
      (store.addSequence (.listed a)).2
  have kin := encloses.kin_added aside grown.store_eq []
  -- The list that a session draws from is in a cell of its own, so both lists may be written by the
  -- encoder that is going to write the first one.
  have akin (values : List Value) (s : Encoder) (begun : (Encoder.fresh registry options
      { sink := .unlimited } (store.addSequence (.listed values)).2).Grows
        (Header.leading options) s) : Encoder.Akin (.behind A []) plain s started :=
    .of_started begun kin aside grown.setting_eq idle grown.willing grown.written
  have whole := encloses.encodeStream (fun _ _ _ _ => rfl) unbounded (fun v => LedTo.of_mem) aside
    (akin (a ++ b))
  have members : ∀ v ∈ a, A v := fun v inside => LedTo.of_mem (List.mem_append_left b inside)
  have others : ∀ v ∈ b, A v := fun v inside => LedTo.of_mem (List.mem_append_right a inside)
  have first := encloses.encodeStream (fun _ _ _ _ => rfl) unbounded members aside (akin a)
  have inTurn : (a ++ b).forM EncodeM.encode started =
      (do a.forM EncodeM.encode; b.forM EncodeM.encode : EncodeM Unit) started :=
    congrFun List.forM_append started
  rcases first with ⟨after, after', wrote, streamed, more, akinAfter⟩ |
    ⟨halt, after', failed, streamed⟩
  · have aside' : ¬ A (.lazySeq after.store.sequences.size) := fun leads =>
      absurd (there _ leads) (Nat.not_lt_of_lt more)
    have enclosesBehind : Encloses behind.options behind.registry store A :=
      encloses.of_blind blind
    have second := enclosesBehind.encodeStream
      (fun o writer member known => (blind o writer member known).symm) unbounded others aside'
      fun s begun => .of_started begun akinAfter.store aside' akinAfter.setting' akinAfter.idle'
        akinAfter.outputs.2.1 (List.append_nil _).symm
    rw [EncodeM.bind_of_ok wrote] at inTurn
    rw [inTurn] at whole
    rw [streamed]
    change (TaggedStream.encodeStream registry options (a ++ b) store).1 =
      (TaggedStream.encodeStream behind.registry behind.options b after.store).1.map
        (after.output.written ++ ·)
    rcases second with ⟨last, last', wrote', streamed', -, akinLast⟩ |
      ⟨halt, last', failed, streamed'⟩
    · rw [wrote'] at whole
      rcases whole with ⟨all, _, ended, streamedAll, -, akinAll⟩ | ⟨_, _, ended, -⟩ <;> cases ended
      have written : all.output.written = after.output.written ++ last.output.written :=
        akinAll.outputs.2.2.symm.trans
          (akinLast.outputs.2.2.trans (congrArg (· ++ _) akinAfter.outputs.2.2))
      rw [streamedAll, streamed', written]
      rfl
    · rw [failed] at whole
      rcases whole with ⟨_, _, ended, -⟩ | ⟨_, _, ended, all⟩ <;> cases ended
      rw [all, streamed']
      rfl
  · rw [EncodeM.bind_of_error failed] at inTurn
    rw [inTurn] at whole
    rcases whole with ⟨_, _, ended, -⟩ | ⟨_, _, ended, all⟩ <;> cases ended
    rw [all, streamed]
    rfl

/-! ## Read -/

/-- The same decoder, but for how many bytes it has taken. -/
def Decoder.Moved (d d' : Decoder) : Prop := ∃ position, d' = { d with position }

namespace Decoder.Moved

/-- What does not touch the position keeps decoders the same otherwise. -/
theorem update {d d' : Decoder} (h : d.Moved d') {f : Decoder → Decoder}
    (keeps : ∀ (d : Decoder) (position : ℕ), f { d with position } = { f d with position }) :
    (f d).Moved (f d') := by
  obtain ⟨position, rfl⟩ := h
  exact ⟨position, keeps d position⟩

theorem likeness : Likeness Moved where
  options_eq := by rintro d _ ⟨_, rfl⟩; rfl
  registry_eq := by rintro d _ ⟨_, rfl⟩; rfl
  extension_eq := by rintro d _ ⟨_, rfl⟩; rfl
  size_eq := by rintro d _ ⟨_, rfl⟩; rfl
  extended moved oid := moved.update (f := ({ · with extension := oid })) fun _ _ => rfl
  taken op size := by
    rintro d _ ⟨position, rfl⟩
    simp only [DecodeM.takeExact]
    split
    · exact .ok _ ⟨_, rfl⟩
    · exact .error _ ⟨_, rfl⟩
  ending := by
    rintro d _ ⟨position, rfl⟩
    simp only [DecodeM.atEnd]
    split
    · exact .ok _ ⟨_, rfl⟩
    · exact .error _ ⟨_, rfl⟩

/-- An iteration does not depend on how many bytes were taken. -/
theorem next : Lockstep Moved (Option Value) DecodeM.next DecodeM.next := by
  have nested (levels : ℕ) (parent oid : Oid) : Lockstep Moved Value
      (DecodeM.decodeNested levels parent oid) (DecodeM.decodeNested levels parent oid) :=
    likeness.decodeNested (by rintro d _ ⟨_, rfl⟩; rfl)
      (fun depth moved => moved.update (f := ({ · with depth })) fun _ _ => rfl) levels parent oid
  exact likeness.next nested (by rintro d _ ⟨_, rfl⟩; rfl) fun moved =>
    moved.update (f := ({ · with done := true })) fun _ _ => rfl

end Decoder.Moved

namespace DecodeM

variable {d d' : Decoder} {scope : Scope}

/-- Behind derivations, one behind another, the iteration goes on with what follows. -/
theorem decodeRest_behind {input rest : List UInt8} {vs : List Value}
    (derivations : Form.many (DerivesUnder scope.handlers scope.levels) input vs)
    (before : List Value) (fuel : ℕ) (room : d.scope = scope) (running : d.done = false)
    (source : d.source = .slice (input ++ rest)) :
    decodeRest before (vs.length + fuel) d =
      decodeRest (vs.reverse ++ before) fuel (d.past input rest) := by
  induction derivations generalizing before d with
  | nil =>
    have source : d.source = .slice rest := source
    rw [List.length_nil, Nat.zero_add, Decoder.past_nil source]
    rfl
  | @cons front back v vs head _ ih =>
    subst room
    rw [List.append_assoc] at source
    have onward := ih (d := d.past front (back ++ rest)) (v :: before) rfl running rfl
    rw [List.length_cons, Nat.add_right_comm, decodeRest,
      bind_of_ok (next_of_derives running source head)]
    refine onward.trans ?_
    rw [Decoder.past_past, List.reverse_cons, List.append_assoc]
    rfl

/-- What is found up to the end depends neither on what was found before, nor on how many bytes were
taken. -/
theorem decodeRest_of_moved {input : List UInt8} (strict : scope.Strict) {fuel fuel' : ℕ}
    (enough : input.length < fuel) (enough' : input.length < fuel') (before before' : List Value)
    (room : d.scope = scope) (running : d.done = false) (source : d.source = .slice input)
    (moved : d.Moved d') :
    (∃ ws after after', decodeRest before fuel d = .ok (before.reverse ++ ws) after ∧
        decodeRest before' fuel' d' = .ok (before'.reverse ++ ws) after') ∨
      ∃ error after after', decodeRest before fuel d = .error error after ∧
        decodeRest before' fuel' d' = .error error after' := by
  induction fuel generalizing input fuel' before before' d d' with
  | zero => exact absurd enough (Nat.not_lt_zero _)
  | succ fuel ih =>
    obtain ⟨fuel', rfl⟩ :=
      Nat.exists_eq_add_one_of_ne_zero (Nat.ne_of_gt (Nat.zero_lt_of_lt enough'))
    have both := Decoder.Moved.next d d' moved
    generalize run : next d = result, run' : next d' = result' at both
    rw [decodeRest, decodeRest]
    cases both with
    | error error =>
      exact .inr ⟨error, _, _, bind_of_error run, bind_of_error run'⟩
    | ok found moved =>
      rw [bind_of_ok run, bind_of_ok run']
      cases found with
      | none =>
        exact .inl ⟨[], _, _, by rw [List.append_nil]; rfl, by rw [List.append_nil]; rfl⟩
      | some v =>
        have strict' : d.scope.Strict := room ▸ strict
        obtain ⟨⟨⟩, -⟩ | ⟨bytes, rest, w, rfl, same, derivation, rfl⟩ :=
          next_eq_ok strict' running source run
        cases same
        have some : 0 < bytes.length := List.length_pos_iff.2 derivation.ne_nil
        rw [List.length_append] at enough enough'
        have left : rest.length < fuel := by omega
        have left' : rest.length < fuel' := by omega
        rcases ih (d := d.past bytes rest) left left' (v :: before) (v :: before') room running rfl
          moved with ⟨ws, after, after', all, all'⟩ | failed
        · refine .inl ⟨v :: ws, after, after', all.trans ?_, all'.trans ?_⟩ <;> simp
        · exact .inr failed

end DecodeM

section

variable {registry : Registry} {options : Options} {header front : List UInt8}
  (size : header.length = Header.size)

include size

/-- A decoder that has read the header and the front is the same, but for its position, as one that
has only read the header. -/
theorem Decoder.moved_of_started (back : List UInt8) : Moved
    ((started registry options (.slice (header ++ (front ++ back)))
      (header ++ (front ++ back))).past front back)
    (started registry options (.slice (header ++ back)) (header ++ back)) := by
  have version (bytes : List UInt8) : (header ++ bytes).take 2 = header.take 2 :=
    List.take_append_of_le_length (by rw [size, Header.size]; omega)
  have source := Decoder.source_started registry options (header ++ back)
  rw [List.drop_left' size] at source
  refine ⟨Header.size, ?_⟩
  rw [past, ← source]
  simp only [started, version]
  rfl

/-- What is read off two streams under one header is what is read off both of them, if all handlers
pass errors on and the first stream is read to its end. -/
theorem decodeStream_append
    (strict : ∀ oid plan, registry.handlers options oid = some plan → plan.Strict)
    {vs : List Value} (first : decodeStream registry options (header ++ front) = .ok vs)
    (back : List UInt8) :
    decodeStream registry options (header ++ front ++ back) =
      (decodeStream registry options (header ++ back)).map (vs ++ ·) := by
  let scope : Scope := ⟨options.maxDepth, registry.handlers options⟩
  have enough (bytes : List UInt8) : Header.size ≤ (header ++ bytes).length := by
    rw [List.length_append, size]
    exact Nat.le_add_right ..
  have behind (bytes : List UInt8) : (header ++ bytes).drop Header.size = bytes :=
    List.drop_left' size
  obtain ⟨-, derivations⟩ := (decodeStream_eq_ok_iff strict).1 first
  rw [behind] at derivations
  have derivations : Form.many (DerivesUnder scope.handlers scope.levels) front vs := derivations
  have short : vs.length ≤ front.length :=
    derivations.length_le fun _ derivation => derivation.ne_nil rfl
  obtain ⟨left, fuel⟩ : ∃ left, (front ++ back).length + 1 = vs.length + (back.length + 1 + left) :=
    ⟨front.length - vs.length, by rw [List.length_append]; omega⟩
  have more : back.length < back.length + 1 + left := by omega
  have source := Decoder.source_started registry options (header ++ (front ++ back))
  rw [behind] at source
  rw [List.append_assoc, decodeStream_of_enough registry options (enough _),
    decodeStream_of_enough registry options (enough _), behind, behind, fuel,
    DecodeM.decodeRest_behind derivations [] _ rfl rfl source]
  have strict : scope.Strict := strict
  rcases DecodeM.decodeRest_of_moved strict more (Nat.lt_succ_self _) (vs.reverse ++ []) [] rfl rfl
      rfl (Decoder.moved_of_started size back) with
    ⟨ws, after, after', run, run'⟩ | ⟨error, after, after', run, run'⟩
  · rw [run, run']
    simp [Except.map]
  · rw [run, run']
    rfl

end

/-! ## All of it -/

/-- Streams concatenate.

Two lists of values are written, without a bound, as the first one and behind it, without a header,
the second one, over the cells that the first one left; or as the one that fails first fails. No
value leads to a cell that is not there. Handlers are shown the settings, of which only `append`
differs, and those of the objects that are written do not look at it.

With the handlers of network addresses and any header in front, if one byte string is read to its
end, then another one behind it is read as it would be by itself: its values follow, or its error
comes.

With a bound, as many values of a sequence are written as there are, but not more than the bound,
each as by itself; so many are counted, and no others are drawn. No value leads back to the sequence
that it is drawn from. -/
theorem streams_concatenate :
    (∀ (registry : Registry) (options : Options) (a b : List Value) (store : Store),
      options.uncountableMaxItems = none →
      (∀ cell, LedTo options registry store (a ++ b) (.lazySeq cell) →
        cell < store.sequences.size) →
      (∀ o writer, LedTo options registry store (a ++ b) (.object o) →
        registry.writer? o.type = some writer →
          writer { options with append := true } o = writer options o) →
      (encodeStream registry options (a ++ b) store).1 = do
        let front ← (encodeStream registry options a store).1
        let back ← (encodeStream registry { options with append := true } b
          (encodeStream registry options a store).2).1
        return front ++ back) ∧
    (∀ (options : Options) (header front back : List UInt8) (vs : List Value),
      header.length = Header.size → decodeStream .standard options (header ++ front) = .ok vs →
        (∀ ws, decodeStream .standard options (header ++ back) = .ok ws →
          decodeStream .standard options (header ++ front ++ back) = .ok (vs ++ ws)) ∧
        ∀ error, decodeStream .standard options (header ++ back) = .error error →
          decodeStream .standard options (header ++ front ++ back) = .error error) ∧
    ∀ (e : Encoder) (cell most : ℕ) (s : Sequence), e.Idle →
      e.options.uncountableMaxItems = some most → e.store.sequences[cell]? = some s →
      (∀ v, s.source.Supplies v → ¬ Leads e v (.lazySeq cell)) →
      let (items, left) := s.firsts most
      items.length = s.source.size?.elim most (min most) ∧ left.drawn = s.drawn + items.length ∧
        Matches (fun count _ => count = items.length)
          (fun after after' => after.SameApartFrom cell after' ∧
            after.store.sequences[cell]? = some left)
          (Encoder.SameApartFrom cell)
          (EncodeM.encodeAll cell e) (items.forM EncodeM.encode e) := by
  refine ⟨fun registry options a b store unbounded there blind =>
      encodeStream_append unbounded there blind,
    fun options header front back vs size first => ?_,
    fun e cell most s idle bound there apart => ?_⟩
  · have whole := decodeStream_append size
      (fun _ _ handled => Registry.strict_standard handled) first back
    exact ⟨fun ws second => by rw [whole, second]; rfl,
      fun error second => by rw [whole, second]; rfl⟩
  · obtain ⟨count, drawn⟩ := s.firsts_count most
    exact ⟨count, drawn, encodeAll_of_bound idle bound there apart⟩

/-- A boolean and an object whose handler writes a boolean, one behind the other. What is read is
followed by a null and by an identifier that is unknown, and there is a bound of two for three
booleans. -/
theorem streams_concatenate_of_object :
    let o : HostObject Value :=
      { type := { path := "zoo", name := "Yak", shape := .unit }, parts := [] }
    let writeTrue : ObjectWriter := fun _ _ => .writeValue (.bool true)
    (encodeStream (.registerWriter o.type writeTrue {}) {} [.bool false, .object o] {}).1 =
      .ok (Header.spelled ++ [0, 0x31] ++ [0, 0x30]) ∧
    decodeStream .standard {} (List.replicate 32 7 ++ [0, 0x30] ++ [0, 0]) =
      .ok [.bool true, .null] ∧
    decodeStream .standard {} (List.replicate 32 7 ++ [0, 0x30] ++ [0x12, 0x34]) =
      .error (.unknownOid 0x1234) ∧
    let e := Encoder.fresh .standard { uncountableMaxItems := some 2 } { sink := .unlimited }
      { sequences := #[{ source := .listed [.bool true, .bool false, .bool true] }] }
    Matches (fun count _ => count = 2)
      (fun after after' => after.SameApartFrom 0 after' ∧
        after.store.sequences[0]? = some ⟨.listed [.bool true], 2, false⟩)
      (Encoder.SameApartFrom 0)
      (EncodeM.encodeAll 0 e) ([Value.bool true, Value.bool false].forM EncodeM.encode e) := by
  intro o writeTrue
  obtain ⟨written, read, bounded⟩ := streams_concatenate
  refine ⟨?_, ?_, ?_, ?_⟩
  · let registry := Registry.registerWriter o.type writeTrue {}
    have known (type : HostType) : registry.writer? type =
        if o.type == type then some (Registry.guarded o.type writeTrue) else none :=
      Registry.writer?_registerWriter ..
    have here : registry.writer? o.type = some (Registry.guarded o.type writeTrue) := by
      rw [known, if_pos (BEq.refl o.type)]
    have wroteFalse (levels : ℕ) : Writes ⟨{}, registry⟩
        (EncodeM.deepening (fun n => EncodeM.encodeWithin n (.bool false)) levels) [0, 0x31] :=
      EncodeM.Writes.deepening (.bool _ false 0) levels
    have wroteObject (levels : ℕ) : Writes ⟨{ append := true }, registry⟩
        (EncodeM.deepening (fun n => EncodeM.encodeWithin n (.object o)) levels) [0, 0x30] :=
      EncodeM.Writes.deepening (.object here (if_pos rfl) (.bool _ true 0)) levels
    have first := encodeStream_of_pieces rfl (.cons wroteFalse .nil) {}
    have second := encodeStream_of_pieces rfl (.cons wroteObject .nil)
      (encodeStream registry {} [.bool false] {}).2
    have closed : Encloses {} registry {} fun v => v.isAtom = true ∨ v = .object o := by
      rintro v w (isAtom | rfl) part
      · cases part <;> cases isAtom
      · cases part with
        | handled found mentions =>
          cases here.symm.trans found
          rw [Registry.guarded, if_pos rfl] at mentions
          exact .inl (mentions.eq_of_writeValue ▸ rfl)
    have inside (v : Value) (h : LedTo {} registry {} ([.bool false] ++ [.object o]) v) :
        v.isAtom = true ∨ v = .object o := by
      obtain ⟨w, mem, leads⟩ := h
      have start : w.isAtom = true ∨ w = .object o := by
        rcases List.mem_cons.1 mem with rfl | mem
        · exact .inl rfl
        · exact .inr (List.mem_singleton.1 mem)
      induction leads with
      | refl => exact start
      | tail _ part ih => exact closed ih part
    refine (written registry {} [.bool false] [.object o] {} rfl (fun _ h => ?_)
      fun other writer _ found => ?_).trans ?_
    · rcases inside _ h with isAtom | same
      · cases isAtom
      · cases same
    · rw [known] at found
      split at found <;> cases found
      rfl
    · rw [first, second]
      rfl
  · exact (read {} (List.replicate 32 7) [0, 0x30] [0, 0] _ rfl (by rfl)).1 _ (by rfl)
  · exact (read {} (List.replicate 32 7) [0, 0x30] [0x12, 0x34] _ rfl (by rfl)).2 _ (by rfl)
  · intro e
    let items : List Value := [.bool true, .bool false, .bool true]
    have atoms : ∀ v ∈ items, v.isAtom = true := by decide
    exact (bounded e 0 2 { source := .listed items } (Encoder.Idle.fresh _ _ _ _) rfl rfl
      fun v supplies => not_leads_of_isAtom (atoms v supplies)).2.2

/-- A handler that looks at `append` writes another value behind a header than where there is none.
And with a bound, the values that would be written are not counted if one of them is refused. -/
theorem streams_differ_of_append :
    let o : HostObject Value :=
      { type := { path := "zoo", name := "Yak", shape := .unit }, parts := [] }
    let registry := Registry.registerWriter o.type Encoder.writeAppend {}
    let front := encodeStream registry {} [.null] {}
    (front.1 = .ok (Header.spelled ++ [0, 0]) ∧
      (encodeStream registry { append := true } [.object o] front.2).1 = .ok [0, 0x30] ∧
      (encodeStream registry {} ([.null] ++ [.object o]) {}).1 =
        .ok (Header.spelled ++ [0, 0] ++ [0, 0x31]) ∧
      Header.spelled ++ [0, 0] ++ [0, 0x31] ≠ Header.spelled ++ [0, 0] ++ [0, 0x30]) ∧
    let items : List Value := [.bool true, .time ⟨86399, 1500000000, by decide, by decide⟩, .null]
    let e := Encoder.fresh .standard { uncountableMaxItems := some 2 } { sink := .unlimited }
      { sequences := #[{ source := .listed items }] }
    ∃ error after, EncodeM.encodeAll 0 e = .error (.refused error) after := by
  intro o registry front
  have here : registry.writer? o.type = some (Registry.guarded o.type Encoder.writeAppend) := by
    rw [Registry.writer?_registerWriter, if_pos (BEq.refl o.type)]
  have wroteNull (levels : ℕ) : Writes ⟨{}, registry⟩
      (EncodeM.deepening (fun n => EncodeM.encodeWithin n .null) levels) [0, 0] :=
    EncodeM.Writes.deepening (show Writes _ (EncodeM.encodeWithin 1 .null) _ from
      fun e same willing => Writes.tagged .null e same willing) levels
  have wroteObject (options : Options) (levels : ℕ) : Writes ⟨options, registry⟩
      (EncodeM.deepening (fun n => EncodeM.encodeWithin n (.object o)) levels)
      (if options.append then Tag.boolTrue else Tag.boolFalse).spelled :=
    EncodeM.Writes.deepening (.object here (if_pos rfl) (.bool _ _ 0)) levels
  refine ⟨⟨encodeStream_of_pieces rfl (.cons wroteNull .nil) {}, ?_, ?_, by decide⟩, ?_⟩
  · exact encodeStream_of_pieces rfl (.cons (wroteObject { append := true }) .nil) _
  · exact encodeStream_of_pieces rfl (.cons wroteNull (.cons (wroteObject {}) .nil)) {}
  · intro items e
    have atoms : ∀ v ∈ items, v.isAtom = true := by decide
    have there : e.store.sequences[0]? = some { source := .listed items } := rfl
    have matched := encodeAll_of_bound (Encoder.Idle.fresh _ _ _ _) rfl there
      fun v supplies => not_leads_of_isAtom (atoms v supplies)
    rw [Sequence.firsts_of_listed] at matched
    obtain ⟨between, run, -⟩ := (Writes.bool ⟨e.options, e.registry⟩ true 0).encode e rfl
      Output.willing_of_unlimited
    have refused :
        EncodeM.encodeWithin 1 (.time ⟨86399, 1500000000, by decide, by decide⟩) between =
          .error (.refused _) between := rfl
    have stops : (items.take 2).forM EncodeM.encode e = .error (.refused _) between :=
      (EncodeM.bind_of_ok run).trans (EncodeM.bind_of_error (EncodeM.encode_of_refused refused))
    rw [stops] at matched
    generalize EncodeM.encodeAll 0 e = result at matched
    cases matched
    exact ⟨_, _, rfl⟩

end TaggedStream
