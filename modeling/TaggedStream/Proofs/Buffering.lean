import TaggedStream.Proofs.Delivery
import TaggedStream.Proofs.Lockstep

/-!
Decoders over a buffered reader and over the byte string that it delivers.

Two decoders are alike if all but their sources is the same and their sources hold the same bytes.
Alike decoders go in lockstep: whatever a client does with them, it gets the same answers, the same
errors and the same positions. So the pieces in which a reader delivers a stream, and the size of
the buffer in front of it, cannot be told from outside, except that a buffer of size zero makes the
stream end behind its header.
-/

namespace TaggedStream

/-- The same but for their sources, which hold the same bytes and see whether some are left. -/
structure Decoder.Alike (d d' : Decoder) : Prop where
  others : d' = { d with source := d'.source }
  held : ∃ bytes, d.source.Holds bytes ∧ d'.source.Holds bytes ∧
    (d.source.Sees ∧ d'.source.Sees ∨ bytes = [])

section

variable {d d' : Decoder} (h : d.Alike d')

include h

theorem Decoder.Alike.options_eq : d'.options = d.options := by rw [h.others]

theorem Decoder.Alike.registry_eq : d'.registry = d.registry := by rw [h.others]

theorem Decoder.Alike.position_eq : d'.position = d.position := by rw [h.others]

theorem Decoder.Alike.extension_eq : d'.extension = d.extension := by rw [h.others]

theorem Decoder.Alike.depth_eq : d'.depth = d.depth := by rw [h.others]

theorem Decoder.Alike.done_eq : d'.done = d.done := by rw [h.others]

end

/-- What does not touch the source keeps decoders alike. -/
theorem Decoder.Alike.update {d d' : Decoder} (h : d.Alike d') {f : Decoder → Decoder}
    (keeps : ∀ (d : Decoder) (source : Source), f { d with source } = { f d with source }) :
    (f d).Alike (f d') := by
  have same (d : Decoder) : (f d).source = d.source := by
    have kept := keeps d d.source
    change f d = _ at kept
    rw [kept]
  constructor
  · rw [same, ← keeps, ← h.others]
  · rw [same, same]
    exact h.held

namespace Decoder.Alike

theorem taken (op : String) (size : Nat) :
    Lockstep Alike (List UInt8) (DecodeM.takeExact op size) (DecodeM.takeExact op size) := by
  intro d d' found
  rcases found with ⟨others, bytes, holds, holds', sight⟩
  obtain ⟨after, run, left, sees⟩ := holds.takeExact size
  obtain ⟨after', run', left', sees'⟩ := holds'.takeExact size
  have sightLeft : after.Sees ∧ after'.Sees ∨ bytes.drop size = [] :=
    sight.imp (fun both => ⟨sees both.1, sees' both.2⟩) fun none => by rw [none, List.drop_nil]
  unfold DecodeM.takeExact
  rw [run, run']
  by_cases short : bytes.length < size
  · rw [if_pos short]
    exact .error _ ⟨by rw [others], _, left, left', sightLeft⟩
  · rw [if_neg short]
    exact .ok _ ⟨by rw [others], _, left, left', sightLeft⟩

theorem ending : Lockstep Alike Bool DecodeM.atEnd DecodeM.atEnd := by
  intro d d' found
  rcases found with ⟨others, bytes, holds, holds', sight⟩
  obtain ⟨after, run, left, sees⟩ := holds.atEnd (sight.imp_left And.left)
  obtain ⟨after', run', left', sees'⟩ := holds'.atEnd (sight.imp_left And.right)
  unfold DecodeM.atEnd
  rw [run, run']
  have sightLeft : after.Sees ∧ after'.Sees ∨ bytes = [] :=
    sight.imp_left fun both => ⟨sees both.1, sees' both.2⟩
  exact .ok _ ⟨by rw [others], _, left, left', sightLeft⟩

theorem size_eq {d d' : Decoder} (h : d.Alike d') : d'.source.size = d.source.size := by
  obtain ⟨bytes, holds, holds', -⟩ := h.held
  rw [holds.size_eq, holds'.size_eq]

/-- Neither a step nor a handler can tell alike decoders apart. -/
theorem likeness : Likeness Alike where
  options_eq := options_eq
  registry_eq := registry_eq
  extension_eq := extension_eq
  size_eq := size_eq
  extended alike oid := alike.update (f := ({ · with extension := oid })) fun _ _ => rfl
  taken := taken
  ending := ending

/-! ## Values -/

theorem decodeNested (levels : Nat) (parent oid : Oid) :
    Lockstep Alike Value (DecodeM.decodeNested levels parent oid)
      (DecodeM.decodeNested levels parent oid) :=
  likeness.decodeNested depth_eq
    (fun depth alike => alike.update (f := ({ · with depth })) fun _ _ => rfl) levels parent oid

theorem decode : Lockstep Alike (Option Value) DecodeM.decode DecodeM.decode :=
  likeness.decode decodeNested

theorem next : Lockstep Alike (Option Value) DecodeM.next DecodeM.next :=
  likeness.next decodeNested done_eq fun alike =>
    alike.update (f := ({ · with done := true })) fun _ _ => rfl

end Decoder.Alike

/-! ## Clients -/

/-- What a client may ask of a decoder: the next value, the next value of the iteration, or what a
handler makes of the bytes and values that follow. -/
inductive Call where
  | decode
  | next
  | plan (p : ReadPlan Value)

namespace Call

/-- What a decoder does when it is asked. -/
def run : Call → DecodeM (Option Value)
  | .decode => DecodeM.decode
  | .next => DecodeM.next
  | .plan p => do
    let levels := (← DecodeM.settings).maxDepth
    return some (← DecodeM.runPlan (DecodeM.readElement (DecodeM.decodeNested levels)) p)

/-- Calls go side by side if values are read alike and iterations go on alike. -/
theorem lockstepAlong {R : Decoder → Decoder → Prop} (likeness : Decoder.Likeness R)
    (nested : ∀ levels parent oid, Lockstep R Value (DecodeM.decodeNested levels parent oid)
      (DecodeM.decodeNested levels parent oid))
    (next : Lockstep R (Option Value) DecodeM.next DecodeM.next) (call : Call) :
    Lockstep R (Option Value) call.run call.run := by
  cases call with
  | decode => exact likeness.decode nested
  | next => exact next
  | plan p =>
    refine likeness.settings fun options => .sequence ?_ fun v => .result (some v)
    exact likeness.runPlan (likeness.itemCongruence.readElement (nested _)) p

theorem lockstep (call : Call) : Lockstep Decoder.Alike (Option Value) call.run call.run :=
  lockstepAlong Decoder.Alike.likeness Decoder.Alike.decodeNested Decoder.Alike.next call

end Call

namespace Decoder

/-- The answer to each call, or the error that it ended with, and the position after it. -/
def transcript : List Call → Decoder → List (Except StreamError (Option Value) × Nat)
  | [], _ => []
  | call :: calls, d =>
    match call.run d with
    | .ok answer after => (.ok answer, after.position) :: transcript calls after
    | .error error after => (.error error, after.position) :: transcript calls after

/-- All that a client sees of a stream: the version and the position after the header, and what
comes of its calls. Without a header there is no decoder to call. -/
def session (registry : Registry) (options : Options) (source : Source) (calls : List Call) :
    Except StreamError (UInt16 × Nat × List (Except StreamError (Option Value) × Nat)) :=
  match DecodeM.start (.fresh registry options source) with
  | .ok () d => .ok (d.version, d.position, d.transcript calls)
  | .error error _ => .error error

theorem transcript_of_none {d after : Decoder} (run : DecodeM.decode d = .ok none after) :
    transcript [.decode] d = [(.ok none, after.position)] := by
  rw [transcript, Call.run, run]
  rfl

theorem none_of_transcript {d : Decoder} {position : Nat}
    (first : transcript [.decode] d = [(.ok none, position)]) :
    ∃ after, DecodeM.decode d = .ok none after := by
  rw [transcript, Call.run] at first
  cases run : DecodeM.decode d with
  | error error after =>
    rw [run] at first
    cases first
  | ok answer after =>
    rw [run] at first
    cases first
    exact ⟨after, rfl⟩

/-- Alike decoders give the same answers. -/
theorem Alike.transcript_eq {d d' : Decoder} (h : d.Alike d') (calls : List Call) :
    d'.transcript calls = d.transcript calls := by
  induction calls generalizing d d' with
  | nil => rfl
  | cons call calls ih =>
    have both := call.lockstep d d' h
    unfold transcript
    generalize call.run d = result, call.run d' = result' at both
    cases both with
    | ok a alike => simp only [ih alike, alike.position_eq]
    | error error alike => simp only [ih alike, alike.position_eq]

end Decoder

/-! ## Headers -/

/-- The source after a header was taken from it. -/
def Source.pastHeader (source : Source) : Source :=
  ((source.takeExact 2).2.takeExact Header.gap).2

theorem Source.Holds.pastHeader {source : Source} {bytes : List UInt8} (h : source.Holds bytes) :
    source.pastHeader.Holds (bytes.drop Header.size) := by
  rw [Header.size, ← List.drop_drop]
  exact (h.takeExact_snd 2).takeExact_snd Header.gap

theorem Source.Holds.sees_pastHeader {source : Source} {bytes : List UInt8} (h : source.Holds bytes)
    (sees : source.Sees) : source.pastHeader.Sees :=
  (h.takeExact_snd 2).sees_takeExact Header.gap (h.sees_takeExact 2 sees)

theorem Source.Blind.pastHeader {source : Source} (h : source.Blind) : source.pastHeader.Blind :=
  (h.takeExact 2).takeExact Header.gap

/-- The decoder after it read a header at the start of some bytes. -/
def Decoder.started (registry : Registry) (options : Options) (source : Source)
    (bytes : List UInt8) : Decoder :=
  { fresh registry options source.pastHeader with
    version := .ofNat (BigEndian.decode (bytes.take 2))
    position := Header.size }

/-- The error of a header that is too short. -/
def Header.shortage (size : Nat) : StreamError :=
  if size < 2 then .io "read u16" 2 .shortRead else .io "read bytes" Header.gap .shortRead

namespace DecodeM

variable {registry : Registry} {options : Options} {source : Source} {bytes : List UInt8}

/-- A header is taken in two pieces. -/
theorem start_eq : start = (do
    let version ← takeExact "read u16" 2
    let _ ← takeExact "read bytes" Header.gap
    modify fun d => { d with version := .ofNat (BigEndian.decode version) }) := by
  have gap : (Wire.readRaw Header.gap : DecodeM (List UInt8)) = (do
      let piece ← takeExact "read bytes" Header.gap
      return [piece].reverse.flatten) := rfl
  simp only [start, Header.read, Wire.readUInt16, Wire.readNat, Wire.skip, gap, bind_assoc,
    pure_bind]
  rfl

theorem takeExact_of_holds {d : Decoder} (holds : d.source.Holds bytes) (op : String) {size : Nat}
    (enough : size ≤ bytes.length) :
    takeExact op size d = .ok (bytes.take size)
      { d with source := (d.source.takeExact size).2, position := d.position + size } := by
  obtain ⟨after, run, -⟩ := holds.takeExact size
  rw [if_neg (Nat.not_lt.2 enough)] at run
  rw [takeExact, run]

theorem takeExact_of_short {d : Decoder} (holds : d.source.Holds bytes) (op : String) {size : Nat}
    (short : bytes.length < size) :
    takeExact op size d = .error (.io op size .shortRead)
      { d with source := (d.source.takeExact size).2 } := by
  obtain ⟨after, run, -⟩ := holds.takeExact size
  rw [if_pos short] at run
  rw [takeExact, run]

theorem start_of_holds (holds : source.Holds bytes) (enough : Header.size ≤ bytes.length) :
    start (.fresh registry options source) =
      .ok () (.started registry options source bytes) := by
  have version : 2 ≤ bytes.length := Nat.le_trans (Nat.le_add_right ..) enough
  have gap : Header.gap ≤ (bytes.drop 2).length := by
    rw [List.length_drop]
    exact Nat.le_sub_of_add_le' enough
  rw [start_eq, bind_of_ok (takeExact_of_holds holds _ version),
    bind_of_ok (takeExact_of_holds (holds.takeExact_snd 2) _ gap)]
  rfl

theorem start_of_short (holds : source.Holds bytes) (short : bytes.length < Header.size) :
    ∃ d, start (.fresh registry options source) = .error (Header.shortage bytes.length) d := by
  rw [start_eq, Header.shortage]
  by_cases none : bytes.length < 2
  · rw [if_pos none, bind_of_error (takeExact_of_short holds _ none)]
    exact ⟨_, rfl⟩
  · have gap : (bytes.drop 2).length < Header.gap := by
      rw [List.length_drop]
      exact Nat.sub_lt_left_of_lt_add (Nat.le_of_not_lt none) short
    rw [if_neg none, bind_of_ok (takeExact_of_holds holds _ (Nat.le_of_not_lt none)),
      bind_of_error (takeExact_of_short (holds.takeExact_snd 2) _ gap)]
    exact ⟨_, rfl⟩

/-- A decoder that sees bytes left does not find the end. -/
theorem decode_ne_none {d after : Decoder} (holds : d.source.Holds bytes) (sees : d.source.Sees)
    (some : bytes ≠ []) : decode d ≠ .ok none after := by
  intro run
  obtain ⟨source, found, -⟩ := holds.atEnd (.inl sees)
  have first : atEnd d = .ok false { d with source } := by
    rw [atEnd, found, List.isEmpty_eq_false_iff.2 some]
  unfold decode at run
  rw [bind_of_ok first] at run
  obtain ⟨oid, _, -, run⟩ := bind_eq_ok_iff.1 run
  rw [settings_bind] at run
  obtain ⟨v, _, -, run⟩ := bind_eq_ok_iff.1 run
  cases run

/-- Behind a buffer that can hold nothing, a decoder finds the end at once. -/
theorem decode_of_blind {d : Decoder} (holds : d.source.Holds bytes) (blind : d.source.Blind) :
    ∃ after, decode d = .ok none after := by
  obtain ⟨source, found⟩ := blind.atEnd holds
  have first : atEnd d = .ok true { d with source } := by rw [atEnd, found]
  unfold decode
  rw [bind_of_ok first]
  exact ⟨_, rfl⟩

end DecodeM

namespace Decoder

variable {registry : Registry} {options : Options} {bytes : List UInt8}

/-- Without a header there is nothing to ask. -/
theorem session_of_short {source : Source} (holds : source.Holds bytes)
    (short : bytes.length < Header.size) (calls : List Call) :
    session registry options source calls = .error (Header.shortage bytes.length) := by
  have fails : ∃ d, DecodeM.start (.fresh registry options source) =
      .error (Header.shortage bytes.length) d := DecodeM.start_of_short holds short
  obtain ⟨d, run⟩ := fails
  rw [session, run]

theorem session_of_enough {source : Source} (holds : source.Holds bytes)
    (enough : Header.size ≤ bytes.length) (calls : List Call) :
    session registry options source calls = .ok (.ofNat (BigEndian.decode (bytes.take 2)),
      Header.size, (started registry options source bytes).transcript calls) := by
  rw [session, DecodeM.start_of_holds holds enough]
  rfl

/-- Over sources that hold the same bytes, clients see the same if both sources see, or if nothing
follows the header. -/
theorem session_eq {source source' : Source} (holds : source.Holds bytes)
    (holds' : source'.Holds bytes)
    (sight : source.Sees ∧ source'.Sees ∨ bytes.length ≤ Header.size) (calls : List Call) :
    session registry options source' calls = session registry options source calls := by
  by_cases short : bytes.length < Header.size
  · rw [session_of_short holds short, session_of_short holds' short]
  · have enough := Nat.le_of_not_lt short
    have sightLeft : source.pastHeader.Sees ∧ source'.pastHeader.Sees ∨
        bytes.drop Header.size = [] :=
      sight.imp (fun both => ⟨holds.sees_pastHeader both.1, holds'.sees_pastHeader both.2⟩)
        List.drop_eq_nil_of_le
    have alike : (started registry options source bytes).Alike
        (started registry options source' bytes) :=
      ⟨rfl, _, holds.pastHeader, holds'.pastHeader, sightLeft⟩
    rw [session_of_enough holds enough, session_of_enough holds' enough, alike.transcript_eq calls]

/-- What a client sees of a stream that a reader delivers through a buffer is what it sees of the
whole byte string, whatever it asks for, whatever the pieces and interruptions, the settings and the
handlers are, exactly if the buffer can hold something or nothing follows the header. -/
theorem session_buffered_eq_iff {script : Script} (delivers : Script.Delivers bytes script)
    (registry : Registry) (options : Options) :
    (∀ calls, session registry options (.ofScript options.inputBufferSize script) calls =
      session registry options (.slice bytes) calls) ↔
        0 < options.inputBufferSize ∨ bytes.length ≤ Header.size := by
  have holds : (Source.ofScript options.inputBufferSize script).Holds bytes :=
    .buffered options.inputBufferSize [] delivers
  constructor
  · intro same
    by_contra neither
    obtain ⟨zero, longer⟩ := not_or.1 neither
    have capacity : options.inputBufferSize = 0 := Nat.eq_zero_of_not_pos zero
    have enough : Header.size ≤ bytes.length := Nat.le_of_not_le longer
    have some : bytes.drop Header.size ≠ [] := mt List.drop_eq_nil_iff.1 longer
    have blind : (Source.ofScript options.inputBufferSize script).Blind :=
      ⟨script, by rw [Source.ofScript, capacity]⟩
    -- One call tells them apart: over the byte string the value behind the header is found.
    have answers := same [.decode]
    rw [session_of_enough holds enough, session_of_enough (.slice bytes) enough] at answers
    obtain ⟨after, run⟩ := DecodeM.decode_of_blind
      (d := started registry options (.ofScript options.inputBufferSize script) bytes)
      holds.pastHeader blind.pastHeader
    have first : transcript [.decode] (started registry options (.slice bytes) bytes) =
        [(.ok none, after.position)] := by
      rw [← transcript_of_none run]
      exact (congrArg (fun seen => seen.2.2) (Except.ok.inj answers)).symm
    obtain ⟨_, found⟩ := none_of_transcript first
    have sees := Source.Holds.sees_pastHeader (.slice bytes) trivial
    exact DecodeM.decode_ne_none (.pastHeader (.slice bytes)) sees some found
  · intro sight
    exact session_eq (.slice bytes) holds (sight.imp_left fun some => ⟨trivial, some⟩)

/-- Behind a buffer that can hold nothing, the client does not find the value that follows the
header. -/
theorem session_buffered_eq_of_empty_buffer :
    let bytes : List UInt8 := [0x00, 0x01] ++ List.replicate Header.gap 0 ++ [0x00, 0x30]
    let options : Options := { inputBufferSize := 0 }
    Script.Delivers bytes [.bytes bytes] ∧
      session {} options (.ofScript 0 [.bytes bytes]) [.decode] = .ok (1, 32, [(.ok none, 32)]) ∧
      session {} options (.slice bytes) [.decode] =
        .ok (1, 32, [(.ok (some (.bool true)), 34)]) ∧
      ¬ ∀ calls, session {} options (.ofScript 0 [.bytes bytes]) calls =
        session {} options (.slice bytes) calls := by
  intro bytes options
  have delivers : Script.Delivers bytes [.bytes bytes] := by
    have whole : Script.Delivers (bytes ++ []) [.bytes bytes] :=
      .piece (List.cons_ne_nil _ _) .done
    rwa [List.append_nil] at whole
  refine ⟨delivers, rfl, rfl, fun same => ?_⟩
  have sight := (session_buffered_eq_iff delivers {} options).1 same
  revert sight
  decide

end Decoder

end TaggedStream
