import TaggedStream.Proofs.Addresses
import TaggedStream.Proofs.Curtailment
import TaggedStream.Proofs.RoundTrip
import TaggedStream.Proofs.Streams

/-!
Streams that are cut off.

What is read off a byte string does not depend on what follows it. If a stream is cut inside a
value, the values in front of the cut are read, and then reading fails: it finds that the bytes have
ended, or it blames an identifier. Only between two values does a stream that is cut end as if it
were whole.
-/

namespace TaggedStream

/-! ## What an iteration answers -/

namespace Decoder

/-- The answers of an iteration: some values, then an error if there is one, and then the end for as
long as it is asked. -/
def forecast : List Value → Option StreamError → (count : Nat) →
    List (Except StreamError (Option Value))
  | _, _, 0 => []
  | v :: rest, ending, count + 1 => .ok (some v) :: forecast rest ending count
  | [], some error, count + 1 => .error error :: forecast [] none count
  | [], none, count + 1 => .ok none :: forecast [] none count

/-- What a decoder answers when the next value of the iteration is asked for again and again. -/
def answers (count : Nat) (d : Decoder) : List (Except StreamError (Option Value)) :=
  (d.transcript (List.replicate count .next)).map Prod.fst

/-- What a client of an iteration over a byte string sees; without a header it sees an error. -/
def iteration (registry : Registry) (options : Options) (bytes : List UInt8) (count : Nat) :
    Except StreamError (List (Except StreamError (Option Value))) :=
  match session registry options (.slice bytes) (List.replicate count .next) with
  | .ok (_, _, answers) => .ok (answers.map Prod.fst)
  | .error error => .error error

variable {d d' : Decoder}

theorem answers_of_ok {found : Option Value} (run : DecodeM.next d = .ok found d') (count : Nat) :
    d.answers (count + 1) = .ok found :: d'.answers count := by
  rw [answers, List.replicate_succ, transcript, Call.run, run]
  rfl

theorem answers_of_error {error : StreamError} (run : DecodeM.next d = .error error d')
    (count : Nat) : d.answers (count + 1) = .error error :: d'.answers count := by
  rw [answers, List.replicate_succ, transcript, Call.run, run]
  rfl

/-- An iteration that has ended stays so. -/
theorem answers_of_done (ended : d.done = true) (count : Nat) :
    d.answers count = forecast [] none count := by
  induction count with
  | zero => rfl
  | succ count ih =>
    have run : DecodeM.next d = .ok none d := by
      rw [DecodeM.next, DecodeM.get_bind, ended]
      rfl
    rw [answers_of_ok run, ih, forecast]

/-- Behind its values, an iteration over bytes that have ended answers that they have. -/
theorem answers_of_end (running : d.done = false) (source : d.source = .slice []) (count : Nat) :
    d.answers count = forecast [] none count := by
  cases count with
  | zero => rfl
  | succ count =>
    rw [answers_of_ok (DecodeM.next_of_end running source), answers_of_done rfl, forecast]

/-- An error is the last thing that an iteration has to say. -/
theorem answers_of_refused {error : StreamError} (running : d.done = false)
    (run : DecodeM.decode d = .error error d') (count : Nat) :
    d.answers count = forecast [] (some error) count := by
  cases count with
  | zero => rfl
  | succ count =>
    have failed : DecodeM.attempt DecodeM.decode d = .ok (.error error) d' := by
      rw [DecodeM.attempt, run]
    have refused : DecodeM.next d = .error error { d' with done := true } := by
      rw [DecodeM.next, DecodeM.get_bind, running, if_neg Bool.false_ne_true,
        DecodeM.bind_of_ok failed]
      rfl
    rw [answers_of_error refused, answers_of_done rfl, forecast]

end Decoder

/-! ## A cut in a stream -/

/-- Over the bytes of a derivation up to a cut, reading fails for want of bytes. -/
theorem DecodeM.decode_of_cut {d : Decoder} {front back : List UInt8} {v : Value}
    (strict : d.scope.Strict) (source : d.source = .slice front) (some : front ≠ [])
    (lost : back ≠ [])
    (derivation : DerivesUnder d.scope.handlers d.scope.levels (front ++ back) v) :
    ∃ error d', decode d = .error error d' ∧ error.IsCutoff back := by
  let whole : Decoder := { d with source := .slice (front ++ back) }
  have complete : decode whole = .ok (.some v) (whole.past (front ++ back) []) :=
    decode_of_derives (by rw [List.append_nil]) derivation
  have shortens : whole.Shortens back d := ⟨⟨front, rfl, source⟩, rfl, strict, rfl⟩
  have present : d.source ≠ .slice [] := by
    rw [source]
    simpa using some
  have sequel := Follows.decode shortens present complete
  generalize decode d = result at sequel
  cases sequel with
  | error cutoff => exact ⟨_, _, rfl, cutoff⟩
  | ok shortens =>
    -- Nothing is left of the whole byte string, so nothing can be missing.
    obtain ⟨input, left, -⟩ := shortens.source
    have none : [] = input ++ back := Source.slice.inj left
    exact absurd (List.append_eq_nil_iff.1 none.symm).2 lost

/-- Of pieces one behind another, the first `k` lie wholly in front of a cut and the next one does
not. -/
structure CutBehind (pieces : List (List UInt8)) (cut k : Nat) : Prop where
  within : k ≤ pieces.length
  whole : (pieces.take k).flatten.length ≤ cut
  next : ∀ j, k < j → j ≤ pieces.length → cut < (pieces.take j).flatten.length

namespace CutBehind

variable {piece : List UInt8} {pieces : List (List UInt8)} {cut k : Nat}

theorem nil : CutBehind [] cut 0 :=
  ⟨Nat.le_refl _, Nat.zero_le _, fun _ more few => absurd few (Nat.not_le_of_lt more)⟩

theorem first (inside : cut < piece.length) : CutBehind (piece :: pieces) cut 0 := by
  refine ⟨Nat.zero_le _, Nat.zero_le _, fun j more _ => ?_⟩
  obtain ⟨j, rfl⟩ := Nat.exists_eq_add_one_of_ne_zero (Nat.ne_of_gt more)
  rw [List.take_succ_cons, List.flatten_cons, List.length_append]
  omega

theorem cons (behind : piece.length ≤ cut) (h : CutBehind pieces (cut - piece.length) k) :
    CutBehind (piece :: pieces) cut (k + 1) := by
  refine ⟨Nat.succ_le_succ h.within, ?_, fun j more few => ?_⟩
  · have whole := h.whole
    rw [List.take_succ_cons, List.flatten_cons, List.length_append]
    omega
  · have some : j ≠ 0 := Nat.ne_of_gt (Nat.zero_lt_of_lt more)
    obtain ⟨j, rfl⟩ := Nat.exists_eq_add_one_of_ne_zero some
    have next := h.next j (Nat.lt_of_succ_lt_succ more) (Nat.le_of_succ_le_succ few)
    rw [List.take_succ_cons, List.flatten_cons, List.length_append]
    omega

end CutBehind

/-- How an iteration may end at a cut. -/
def StreamError.TellsCut (error : StreamError) : Prop :=
  error.isEndOfInput = true ∨ ∃ oid fault, error = .malformed oid fault

/-- An iteration over pieces up to a cut finds the values of those in front of it, and then ends
without an error exactly if the cut is behind one of them. -/
theorem answers_of_cut {scope : Scope} (strict : scope.Strict) {vs : List Value}
    {pieces : List (List UInt8)}
    (derivations : List.Forall₂ (fun v piece => DerivesUnder scope.handlers scope.levels piece v)
      vs pieces) {d : Decoder} (room : d.scope = scope) (running : d.done = false) (cut : Nat)
    (source : d.source = .slice (pieces.flatten.take cut)) :
    ∃ k ending, CutBehind pieces cut k ∧
      (ending = none ↔ pieces.flatten.take cut = (pieces.take k).flatten) ∧
      (∀ error, ending = some error → error.TellsCut) ∧
      ∀ count, d.answers count = Decoder.forecast (vs.take k) ending count := by
  -- The cut comes nearer with each piece in front of it, until it is inside a piece.
  induction derivations generalizing d cut with
  | nil =>
    exact ⟨0, none, .nil, by simp, by simp,
      Decoder.answers_of_end running (by simpa using source)⟩
  | @cons v piece vs pieces derivation _ ih =>
    subst room
    rw [List.flatten_cons] at source
    by_cases behind : piece.length ≤ cut
    · have split : (piece ++ pieces.flatten).take cut =
          piece ++ pieces.flatten.take (cut - piece.length) := by
        rw [List.take_append, List.take_of_length_le behind]
      rw [split] at source
      obtain ⟨k, ending, position, ends, tells, answers⟩ :=
        ih (d := d.past piece _) rfl running (cut - piece.length) rfl
      refine ⟨k + 1, ending, position.cons behind, ?_, tells, fun count => ?_⟩
      · rw [ends, List.flatten_cons, split, List.take_succ_cons, List.flatten_cons,
          List.append_cancel_left_eq]
      · cases count with
        | zero => rfl
        | succ count =>
          rw [Decoder.answers_of_ok (DecodeM.next_of_derives running source derivation), answers,
            List.take_succ_cons, Decoder.forecast]
    · have inside : cut < piece.length := Nat.lt_of_not_le behind
      have first : (piece ++ pieces.flatten).take cut = piece.take cut :=
        List.take_append_of_le_length (Nat.le_of_lt inside)
      rw [first] at source
      rw [List.flatten_cons, first]
      by_cases zero : cut = 0
      · subst zero
        exact ⟨0, none, .first inside, by simp, by simp, Decoder.answers_of_end running source⟩
      · have some : piece.take cut ≠ [] := by
          rw [← List.length_pos_iff, List.length_take]
          omega
        have lost : piece.drop cut ≠ [] := by
          rw [← List.length_pos_iff, List.length_drop]
          omega
        rw [← List.take_append_drop cut piece] at derivation
        obtain ⟨error, d', failed, cutoff⟩ :=
          DecodeM.decode_of_cut strict source some lost derivation
        refine ⟨0, Option.some error, .first inside, by simpa using some, fun error' same => ?_,
          Decoder.answers_of_refused running failed⟩
        cases same
        exact cutoff.elim .inr fun ended => .inl ended.2

/-- Fewer than all bytes of a header are too few. -/
theorem Header.isEndOfInput_shortage (size : Nat) : (shortage size).isEndOfInput = true := by
  unfold shortage
  split <;> rfl

namespace Decoder

variable {registry : Registry} {options : Options} {cut : Nat}

/-- Without a whole header there is no iteration. -/
theorem iteration_of_cut_header (behind : List UInt8) (short : cut < Header.size) :
    ∃ error : StreamError, error.isEndOfInput = true ∧ ∀ count,
      iteration registry options ((Header.spelled ++ behind).take cut) count = .error error := by
  have few : ((Header.spelled ++ behind).take cut).length < Header.size := by
    rw [List.length_take]
    omega
  refine ⟨Header.shortage ((Header.spelled ++ behind).take cut).length,
    Header.isEndOfInput_shortage _, fun count => ?_⟩
  rw [iteration, session_of_short (.slice _) few]

/-- Behind the header, a client of an iteration sees what there is in front of the cut. -/
theorem iteration_of_cut_behind {vs : List Value} {pieces : List (List UInt8)}
    (strict : Scope.Strict ⟨options.maxDepth, registry.handlers options⟩)
    (derivations : List.Forall₂
      (fun v piece => DerivesUnder (registry.handlers options) options.maxDepth piece v) vs pieces)
    (enough : Header.size ≤ cut) :
    let part := (Header.spelled ++ pieces.flatten).take cut
    ∃ k ending, CutBehind pieces (cut - Header.size) k ∧
      (ending = none ↔ part = Header.spelled ++ (pieces.take k).flatten) ∧
      (∀ error, ending = some error → error.TellsCut) ∧
      ∀ count, iteration registry options part count =
        .ok (forecast (vs.take k) ending count) := by
  intro part
  have split : part = Header.spelled ++ pieces.flatten.take (cut - Header.size) := by
    rw [← Header.length_spelled] at enough ⊢
    simp only [part, List.take_append, List.take_of_length_le enough]
  have long : Header.size ≤ part.length := by
    rw [split, List.length_append, Header.length_spelled]
    exact Nat.le_add_right ..
  let d := started registry options (.slice part) part
  have source : d.source = .slice (pieces.flatten.take (cut - Header.size)) := by
    have left := Source.pastHeader_slice part
    rwa [split, List.drop_left' Header.length_spelled, ← split] at left
  obtain ⟨k, ending, position, ends, tells, answers⟩ :=
    answers_of_cut strict derivations (d := d) rfl rfl _ source
  refine ⟨k, ending, position, ?_, tells, fun count => ?_⟩
  · rw [ends, split, List.append_cancel_left_eq]
  · rw [iteration, session_of_enough (.slice part) long]
    exact congrArg Except.ok (answers count)

end Decoder

/-- With the standard handlers, what is read off a byte string does not depend on what follows it.
And of the stream of some plain values, cut anywhere: without a whole header there is no decoder,
for want of bytes; behind it, an iteration gives exactly the values in front of the cut, and then
the end if the cut is between two values, and else one error that tells of the cut, and the end
behind it. -/
theorem iteration_of_cut (reading : Options) :
    (∀ (d after : Decoder) (p s : List UInt8) (v : Value), d.registry = .standard →
      d.source = .slice p → DecodeM.decode d = .ok (some v) after →
        ∃ rest, after.source = .slice rest ∧
          DecodeM.decode { d with source := .slice (p ++ s) } =
            .ok (some v) { after with source := .slice (rest ++ s) }) ∧
    ∀ (writing : Options) (values : List Value), writing.saveMeta = true →
      writing.uncountableMaxItems = none → writing.append = false →
      (∀ v ∈ values, v.Portable writing.objectChunkSize ∧ v.nesting ≤ reading.maxDepth) →
        ∃ pieces : List (List UInt8), pieces.length = values.length ∧
          (∀ k store, (encodeStream .standard writing (values.take k) store).1 =
            .ok (Header.spelled ++ (pieces.take k).flatten)) ∧
          ∀ cut, let part := (Header.spelled ++ pieces.flatten).take cut
            (cut < Header.size → ∃ error : StreamError, error.isEndOfInput = true ∧
              ∀ count, Decoder.iteration .standard reading part count = .error error) ∧
            (Header.size ≤ cut → ∃ k ending, CutBehind pieces (cut - Header.size) k ∧
              (ending = none ↔ part = Header.spelled ++ (pieces.take k).flatten) ∧
              (∀ error, ending = some error → error.TellsCut) ∧
              ∀ count, Decoder.iteration .standard reading part count =
                .ok (Decoder.forecast ((values.take k).map Value.unshared) ending count)) := by
  refine ⟨fun d after p s v standard source run => ?_,
    fun writing values saves unbounded keeps plain => ?_⟩
  · have strict := Decoder.strict_of_standard standard
    obtain ⟨bytes, rest, rfl, derivation, rfl⟩ := DecodeM.derives_of_decode strict source run
    refine ⟨rest, rfl, ?_⟩
    exact DecodeM.decode_of_derives (d := { d with source := .slice (bytes ++ rest ++ s) })
      (by rw [List.append_assoc]) derivation
  · let handlers := Registry.standard.handlers reading
    have each : ∀ v ∈ values, ∃ piece,
        DerivesUnder handlers reading.maxDepth piece v.unshared ∧
          ∀ levels, Writes ⟨writing, .standard⟩
            (EncodeM.deepening (fun fuel => EncodeM.encodeWithin fuel v) levels) piece := by
      intro v mem
      obtain ⟨portable, shallow⟩ := plain v mem
      obtain ⟨piece, derivation, writes⟩ :=
        EncodeM.writes_of_portable ⟨writing, .standard⟩ saves unbounded portable
      exact ⟨piece, (derivation handlers).mono shallow, writes⟩
    obtain ⟨pieces, found⟩ := exists_forall₂ each
    have strict : Scope.Strict ⟨reading.maxDepth, handlers⟩ :=
      fun _ _ handled => Registry.strict_standard handled
    have derivations : List.Forall₂ (fun v piece => DerivesUnder handlers reading.maxDepth piece v)
        (values.map Value.unshared) pieces :=
      List.forall₂_map_left_iff.2 (found.imp fun v piece both => both.1)
    refine ⟨pieces, found.length_eq.symm, fun k store => ?_, fun cut =>
      ⟨Decoder.iteration_of_cut_header _, fun enough => ?_⟩⟩
    · exact encodeStream_of_writes keeps unbounded
        (List.forall₂_take k (found.imp fun v piece both => both.2)) store
    · obtain ⟨k, ending, position, ends, tells, answers⟩ :=
        Decoder.iteration_of_cut_behind strict derivations enough
      rw [← List.map_take] at answers
      exact ⟨k, ending, position, ends, tells, answers⟩

/-- A null is read whatever follows it, and of a byte and a sequence of one null those in front of a
cut are read. -/
theorem iteration_of_cut_byte_and_seq :
    (∃ (after : Decoder) (rest : List UInt8), after.source = .slice rest ∧
      DecodeM.decode (.fresh .standard {} (.slice ([0, 0] ++ [0xFF]))) =
        .ok (some .null) { after with source := .slice (rest ++ [0xFF]) }) ∧
    ∃ pieces : List (List UInt8), pieces.length = 2 ∧ ∀ cut, Header.size ≤ cut →
      ∃ k ending, CutBehind pieces (cut - Header.size) k ∧ ∀ count,
        Decoder.iteration .standard {} ((Header.spelled ++ pieces.flatten).take cut) count =
          .ok (Decoder.forecast ((List.take k [.byte 5, .seq [.null]]).map Value.unshared) ending
            count) := by
  obtain ⟨reads, streams⟩ := iteration_of_cut {}
  let whole : Decoder := .fresh .standard {} (.slice [0, 0])
  have null : DerivesUnder whole.scope.handlers 128 [0, 0] .null :=
    ⟨Tag.null.code, [], rfl, .tagged .null⟩
  have source : whole.source = .slice ([0, 0] ++ []) := rfl
  obtain ⟨rest, left, longer⟩ :=
    reads whole _ [0, 0] [0xFF] .null rfl source (DecodeM.decode_of_derives source null)
  obtain ⟨pieces, same, -, cuts⟩ := streams {} [.byte 5, .seq [.null]] rfl rfl rfl fun v mem => by
    have items : ∀ v ∈ [Value.null], v.Portable 255 := by simp [Value.Portable.null]
    rcases List.mem_pair.1 mem with rfl | rfl
    · exact ⟨.byte 5, by decide⟩
    · exact ⟨.seq (by decide) items, by decide⟩
  refine ⟨⟨_, rest, left, longer⟩, pieces, same, fun cut enough => ?_⟩
  obtain ⟨k, ending, position, -, -, answers⟩ := (cuts cut).2 enough
  exact ⟨k, ending, position, answers⟩

end TaggedStream
