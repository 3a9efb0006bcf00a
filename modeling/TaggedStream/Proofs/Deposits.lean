import TaggedStream.Proofs.Positions

/-!
What a step that succeeded has put, whatever the sink.

A sink may refuse at any time, and then little can be said. But a step that succeeded has put all
its slices behind what was written before, whether a buffer holds some of it back or not.
`Deposits m bytes` says so of a step that changes nothing else. It is the half of `Writes` that needs
no willing sink.
-/

namespace TaggedStream

/-! ## Sinks and outputs -/

/-- A sink takes the first part of what it is given, and all of it if the write succeeds. -/
theorem Sink.received_put (slice : List UInt8) (sink : Sink) :
    ∃ part rest, slice = part ++ rest ∧
      (sink.put slice).2.received.toList = sink.received.toList ++ part ∧
      ((sink.put slice).1 = none → rest = []) := by
  have takes := sink.takes_put slice
  generalize sink.put slice = outcome at takes
  cases takes with
  | whole received => exact ⟨slice, [], (List.append_nil _).symm, received, fun _ => rfl⟩
  | partly part rest cut more received => exact ⟨part, rest, cut, received, nofun⟩

namespace Output

theorem written_direct (sink : Sink) : written ⟨sink, none⟩ = sink.received.toList :=
  List.append_nil _

theorem written_buffered (sink : Sink) (buffer : OutputBuffer) :
    written ⟨sink, some buffer⟩ = sink.received.toList ++ buffer.held.toList :=
  rfl

/-- Emptying the buffer moves bytes from it to the sink, all of them or some. -/
theorem written_release (buffer : OutputBuffer) (sink : Sink) :
    ∃ cause buffer' sink', buffer.release sink = (cause, buffer', sink') ∧
      written ⟨sink', some buffer'⟩ = written ⟨sink, some buffer⟩ ∧
      (cause = none → buffer'.held = #[]) := by
  have takes := sink.takes_deliver { text := "failed to write the buffered data" } 0
    buffer.held.toList
  unfold OutputBuffer.release
  generalize sink.deliver { text := "failed to write the buffered data" } 0
    buffer.held.toList = outcome at takes
  cases takes with
  | whole received => exact ⟨_, _, _, rfl, by simp [written_buffered, received], fun _ => rfl⟩
  | @partly cause after part rest cut more received =>
    have taken : after.received.size - sink.received.size = part.length := by
      rw [← Array.length_toList, received, List.length_append, Array.length_toList]
      omega
    refine ⟨_, _, _, rfl, ?_, nofun⟩
    simp only [taken]
    simp [written_buffered, received, cut]

/-- In front of a slice that leaves no room, the buffer is emptied unless the slice fits exactly. So
a slice that goes past the buffer overtakes nothing. -/
theorem written_emptied (slice : List UInt8) (buffer : OutputBuffer) (sink : Sink)
    (full : buffer.capacity - buffer.held.size ≤ slice.length) :
    ∃ cause buffer' sink',
      (if buffer.capacity - buffer.held.size < slice.length then buffer.release sink
        else (none, buffer, sink)) = (cause, buffer', sink') ∧
      written ⟨sink', some buffer'⟩ = written ⟨sink, some buffer⟩ ∧
      (cause = none → buffer'.capacity ≤ slice.length → buffer'.held = #[] ∨ slice = []) := by
  by_cases tight : buffer.capacity - buffer.held.size < slice.length
  · obtain ⟨cause, buffer', sink', ran, same, emptied⟩ := written_release buffer sink
    exact ⟨cause, buffer', sink', (if_pos tight).trans ran, same, fun ok _ => .inl (emptied ok)⟩
  · refine ⟨none, buffer, sink, if_neg tight, rfl, fun _ large => ?_⟩
    by_cases empty : slice = []
    · exact .inr empty
    · have some := List.length_pos_iff.2 empty
      exact .inl (Array.eq_empty_of_size_eq_zero (by omega))

/-- What is put goes behind all that was written, as a whole or in part. -/
theorem written_put (slice : List UInt8) (output : Output) :
    ∃ part rest, slice = part ++ rest ∧ (output.put slice).2.written = output.written ++ part ∧
      ((output.put slice).1 = none → rest = []) := by
  obtain ⟨sink, buffer⟩ := output
  cases buffer with
  | none =>
    obtain ⟨part, rest, cut, received, whole⟩ := sink.received_put slice
    refine ⟨part, rest, cut, ?_, whole⟩
    rw [written_direct sink]
    exact (written_direct _).trans received
  | some buffer =>
    by_cases fits : slice.length < buffer.capacity - buffer.held.size
    · refine ⟨slice, [], (List.append_nil _).symm, ?_, fun _ => rfl⟩
      simp [put, fits, written_buffered, OutputBuffer.hold]
    obtain ⟨cause, buffer', sink', ran, same, past⟩ :=
      written_emptied slice buffer sink (Nat.le_of_not_lt fits)
    simp only [put, if_neg fits, ran]
    rw [← same]
    cases cause with
    | some cause => exact ⟨[], slice, rfl, (List.append_nil _).symm, fun none => by cases none⟩
    | none =>
      by_cases large : buffer'.capacity ≤ slice.length
      · obtain ⟨part, rest, cut, received, whole⟩ := sink'.received_put slice
        simp only [if_pos large]
        refine ⟨part, rest, cut, ?_, whole⟩
        simp only [Prod.map_snd, written_buffered, received]
        rcases past rfl large with held | rfl
        · simp [held]
        · simp [List.append_eq_nil_iff.1 cut.symm]
      · simp only [if_neg large]
        refine ⟨slice, [], (List.append_nil _).symm, ?_, fun _ => rfl⟩
        simp [written_buffered, OutputBuffer.hold]

end Output

/-! ## Steps -/

/-- One state of an encoder comes from another by writing some bytes and nothing else, to a sink
that may refuse more. -/
structure Encoder.Deposited (before : Encoder) (bytes : List UInt8) (after : Encoder) : Prop where
  frame : after =
    { before with output := after.output, position := before.position + bytes.length }
  written : after.output.written = before.output.written ++ bytes

namespace Encoder.Deposited

variable {before between after : Encoder} {front back : List UInt8}

theorem refl (e : Encoder) : e.Deposited [] e := ⟨rfl, (List.append_nil _).symm⟩

theorem trans (first : before.Deposited front between) (second : between.Deposited back after) :
    before.Deposited (front ++ back) after := by
  refine ⟨?_, ?_⟩
  · rw [second.frame, first.frame]
    simp [Nat.add_assoc]
  · rw [second.written, first.written, List.append_assoc]

end Encoder.Deposited

namespace EncodeM

variable {oid : Oid} {n : Nat} {e after : Encoder}

/-- A length that fits is put as a number. -/
theorem writeLength_of_fits (oid : Oid) (fits : n ≤ Form.maxLength) :
    Wire.writeLength oid n = put "write u32" (BigEndian.encode 4 n) := by
  have small : n < 2 ^ 32 := Nat.lt_of_le_of_lt fits (by decide)
  have prefixed : wireLength? n = some (.ofNat n) := if_pos fits
  rw [Wire.writeLength, prefixed]
  change put "write u32" (BigEndian.encode 4 (UInt32.ofNat n).toNat) = _
  rw [UInt32.toNat_ofNat_of_lt' small]

/-- A length that was written is one that fits. -/
theorem fits_of_writeLength (run : (Wire.writeLength oid n : EncodeM Unit) e = .ok () after) :
    n ≤ Form.maxLength := by
  by_contra long
  have unprefixed : wireLength? n = none := if_neg long
  rw [Wire.writeLength, unprefixed] at run
  cases run

end EncodeM

/-- Where the step succeeds, it has put exactly these bytes. -/
def Deposits (m : EncodeM Unit) (bytes : List UInt8) : Prop :=
  ∀ e after : Encoder, m e = .ok () after → e.Deposited bytes after

namespace Deposits

variable {m m' : EncodeM Unit} {front back : List UInt8}

theorem bind (h : Deposits m front) (h' : Deposits m' back) :
    Deposits (do m; m') (front ++ back) := by
  intro e after run
  obtain ⟨_, between, first, second⟩ := EncodeM.bind_eq_ok run
  exact (h e between first).trans (h' between after second)

theorem put (op : String) (slice : List UInt8) : Deposits (EncodeM.put op slice) slice := by
  intro e after run
  obtain ⟨output, registry, options, scratch, position, store⟩ := e
  obtain ⟨part, rest, cut, written, whole⟩ := output.written_put slice
  rw [EncodeM.put] at run
  generalize output.put slice = outcome at run written whole
  obtain ⟨cause, output'⟩ := outcome
  cases cause with
  | some cause => cases run
  | none =>
    cases run
    rw [whole rfl, List.append_nil] at cut
    exact ⟨rfl, cut ▸ written⟩

theorem writeOid (oid : Oid) : Deposits (Wire.writeOid oid) (BigEndian.encode 2 oid.toNat) :=
  put _ _

theorem writeTerminator : Deposits EncodeM.writeTerminator (BigEndian.encode 4 0) := put _ _

/-- A length that was written is the count itself. -/
theorem writeLength (oid : Oid) (n : Nat) :
    Deposits (Wire.writeLength oid n) (BigEndian.encode 4 n) := by
  intro e after run
  rw [EncodeM.writeLength_of_fits oid (EncodeM.fits_of_writeLength run)] at run
  exact put _ _ e after run

end Deposits

/-! ## Pieces of a list -/

section

variable {α : Type} {size : Nat} {items : List α}

/-- Items that do not fill the piece that is being collected stay together with it. -/
theorem chunksBehind_of_few {current : List α} {room : Nat} (few : items.length < room) :
    chunksBehind size current room items =
      if current.isEmpty && items.isEmpty then [] else [current.reverse ++ items] := by
  induction items generalizing current room with
  | nil => simp [chunksBehind]
  | cons item rest ih =>
    rw [List.length_cons] at few
    rw [chunksBehind, if_neg (by omega), ih (by omega)]
    simp

/-- Items that fill the piece that is being collected complete it. -/
theorem chunksBehind_of_enough {current : List α} {room : Nat} (some : 0 < room)
    (enough : room ≤ items.length) :
    chunksBehind size current room items =
      (current.reverse ++ items.take room) :: chunks size (items.drop room) := by
  induction items generalizing current room with
  | nil => simp at enough; omega
  | cons item rest ih =>
    rw [List.length_cons] at enough
    rw [chunksBehind]
    split
    case isTrue last =>
      obtain rfl : room = 1 := by omega
      simp [chunks]
    case isFalse more =>
      obtain ⟨room, rfl⟩ : ∃ left, room = left + 1 := ⟨room - 1, by omega⟩
      rw [Nat.add_sub_cancel, ih (by omega) (by omega)]
      simp

theorem chunks_nil (size : Nat) : chunks size ([] : List α) = [] := rfl

/-- Fewer items than a piece holds are a piece of their own. -/
theorem chunks_of_few (few : items.length < size) (some : items ≠ []) :
    chunks size items = [items] := by
  rw [chunks, chunksBehind_of_few few]
  simp [some]

/-- Of enough items the first ones fill a piece. -/
theorem chunks_of_enough (pos : 0 < size) (enough : size ≤ items.length) :
    chunks size items = items.take size :: chunks size (items.drop size) := by
  rw [chunks, chunksBehind_of_enough pos enough]
  rfl

/-- All pieces are full but the last one, which has what is left and is not empty. -/
theorem lengths_chunks (pos : 0 < size) (items : List α) :
    (chunks size items).map List.length =
      List.replicate (items.length / size) size ++
        if items.length % size = 0 then [] else [items.length % size] := by
  induction h : items.length / size generalizing items with
  | zero =>
    have few : items.length < size := (Nat.div_eq_zero_iff_lt pos).1 h
    rw [Nat.mod_eq_of_lt few]
    by_cases empty : items = []
    · simp [empty, chunks_nil]
    · rw [chunks_of_few few empty, if_neg (by simpa using empty)]
      rfl
  | succ full ih =>
    have enough : size ≤ items.length := by
      by_contra few
      rw [Nat.div_eq_of_lt (Nat.lt_of_not_le few)] at h
      cases h
    have left : (items.drop size).length = items.length - size := List.length_drop
    have fewer : (items.drop size).length / size = full := by
      rw [Nat.div_eq_sub_div pos enough] at h
      rw [left]
      omega
    rw [chunks_of_enough pos enough, List.map_cons, ih _ fewer, left,
      ← Nat.mod_eq_sub_mod enough, List.length_take, Nat.min_eq_left enough, List.replicate_succ,
      List.cons_append]

end

end TaggedStream
