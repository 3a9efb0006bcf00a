import TaggedStream.Proofs.Instalments
import TaggedStream.Proofs.Threshold

/-!
Uncountable aggregates.

An uncountable aggregate takes as many items as its source has, but no more than the settings allow,
and leaves the others where they are. It is the identifier, full chunks, a chunk with the rest if
there is one, and a zero; and a sequence is read back from it as its items are. So what a shared
sequence gives to the encodings that it goes through is cut out of its items without a gap.
-/

namespace TaggedStream

/-- The bytes of an uncountable aggregate. -/
def uncountableOf (oid : Oid) (chunks : List (List (List UInt8))) : List UInt8 :=
  oid.spelled ++ (tallied chunks ++ BigEndian.encode 4 0)

theorem length_le_tallied (chunks : List (List (List UInt8))) :
    chunks.length ≤ (tallied chunks).length := by
  induction chunks with
  | nil => exact Nat.le_refl _
  | cons chunk others ih =>
    rw [tallied_cons, List.length_cons, List.length_append, List.length_append,
      BigEndian.length_encode]
    omega

namespace Encoder

variable {oid : Oid} {cell : ℕ} {e after : Encoder} {items : List Value}
  {pieces : List (List (List UInt8))}

/-- The bytes of an aggregate of `count` items were added to what was written. Its chunks are full,
but for a last one with the rest if there is one, and no chunk holds more than can be counted. -/
structure LaysOut (e : Encoder) (oid : Oid) (count : ℕ) (pieces : List (List (List UInt8)))
    (after : Encoder) : Prop where
  written : after.output.written = e.output.written ++ uncountableOf oid pieces
  counts : pieces.map List.length =
    List.replicate (count / e.options.objectChunkSize) e.options.objectChunkSize ++
      if count % e.options.objectChunkSize = 0 then [] else [count % e.options.objectChunkSize]
  fits : ∀ chunk ∈ pieces, chunk.length ≤ Form.maxLength

/-- What became of an encoder by a shared sequence, which was marked meanwhile. -/
def Shares (cell : ℕ) (e : Encoder) (items : List Value) (pieces : List (List (List UInt8)))
    (after : Encoder) : Prop :=
  ∃ last, Aggregates Tag.seq.code cell { e with store := e.store.markSequence cell true } items
      pieces last ∧
    after = { last with store := last.store.markSequence cell false }

theorem Aggregates.laysOut (h : e.Aggregates oid cell items pieces after) :
    e.LaysOut oid items.length pieces after := by
  obtain ⟨opened, finished, identifier, chunks, zero⟩ := h
  have middle : finished.output.written = opened.output.written ++ tallied pieces := chunks.written
  refine ⟨?_, ?_, chunks.fits⟩
  · rw [zero.written, middle, identifier.written, uncountableOf]
    simp only [List.append_assoc]
  · rw [chunks.lengths_eq, lengths_chunks e.options.objectChunkSize_pos]

theorem Shares.laysOut (h : e.Shares cell items pieces after) :
    e.LaysOut Tag.seq.code items.length pieces after := by
  obtain ⟨last, aggregates, rfl⟩ := h
  have out := aggregates.laysOut
  exact ⟨out.written, out.counts, out.fits⟩

namespace LaysOut

variable {count : ℕ} (h : e.LaysOut oid count pieces after)

include h

theorem ne_nil : ∀ chunk ∈ pieces, chunk ≠ [] := by
  rintro _ mem rfl
  have empty : 0 ∈ pieces.map List.length := List.mem_map_of_mem mem
  have pos := e.options.objectChunkSize_pos
  rw [h.counts, List.mem_append] at empty
  rcases empty with full | rest
  · exact absurd (List.eq_of_mem_replicate full) (Nat.ne_of_lt pos)
  · split at rest
    next => cases rest
    next some => exact some (List.mem_singleton.1 rest).symm

theorem length_flatten : pieces.flatten.length = count := by
  rw [List.length_flatten, h.counts, List.sum_append, List.sum_replicate, Nat.nsmul_eq_mul]
  have whole := Nat.div_add_mod' count e.options.objectChunkSize
  split
  next none =>
    rw [none] at whole
    exact whole
  next => simpa using whole

end LaysOut

end Encoder

/-! ## Taken from a source -/

/-- A cap draws as many items as it says, or all that there are. -/
theorem Sequence.firsts_of_merge (s : Sequence) {most count : ℕ}
    (share : (some most).merge min s.source.size? = some count) :
    s.firsts count = s.firsts most := by
  have capped : (some most <|> s.source.size?) = some most := rfl
  obtain rfl := Option.some.inj ((s.merge_length_firsts capped).symm.trans share)
  exact s.firsts_length most

namespace EncodeM

variable {cell : ℕ} {e after : Encoder} {s : Sequence}

/-- What is drawn from a sequence that no item leads back to. -/
theorem encodeUncountable_ok (idle : e.Idle) (there : e.store.sequences[cell]? = some s)
    (apart : ∀ v, s.source.Supplies v → ¬ Leads e v (.lazySeq cell)) {oid : Oid} {count : ℕ}
    (run : encodeUncountable oid cell e = .ok count after) :
    e.options.uncountableMaxItems.merge min s.source.size? = some count ∧
      (s.firsts count).1.length = count ∧
      after.store.sequences[cell]? = some (s.firsts count).2 ∧
      ∃ pieces, e.Aggregates oid cell (s.firsts count).1 pieces after := by
  have encloses : Encloses e.options e.registry e.store fun v => ¬ Leads e v (.lazySeq cell) :=
    fun aside part leads => aside (.head part leads)
  have encodes {v : Value} {e' after : Encoder}
      (run : deepening (fun fuel => encodeWithin fuel v) (v.height + e.store.height) e' =
        .ok () after) : encode v e' = .ok () after := by
    obtain ⟨levels, same⟩ := exists_eq_deepening (fun fuel => encodeWithin fuel v) _ e'
    exact encode_of_ok (same.trans run)
  obtain ⟨share, total, tending, aggregates⟩ :=
    (Encoder.Tending.start encloses idle there).writeUncountable encloses encodes oid apart
      (fun aside => absurd .refl aside) run
  exact ⟨share, total, tending.there, aggregates⟩

/-- What is drawn from a shared sequence. -/
theorem encode_lazySeq_ok (idle : e.Idle) (there : e.store.sequences[cell]? = some s)
    (run : encode (.lazySeq cell) e = .ok () after) :
    ∃ count, e.options.uncountableMaxItems.merge min s.source.size? = some count ∧
      (s.firsts count).1.length = count ∧
      after.store.sequences[cell]? = some (s.firsts count).2 ∧
      ∃ pieces, e.Shares cell (s.firsts count).1 pieces after := by
  obtain ⟨levels, same⟩ := exists_eq_deepening (fun levels => encodeWithin levels (.lazySeq cell))
    ((Value.lazySeq cell).height + e.store.height) e
  have run := same.trans run
  cases levels with
  | zero => cases run
  | succ levels =>
    obtain ⟨free, count, last, ran, rfl⟩ :=
      writeLazySeq_eq_ok (show writeLazySeq (encodeWithin levels) cell e = _ from run)
    rw [Store.sequenceIsBusy, there] at free
    let marked : Encoder := { e with store := e.store.markSequence cell true }
    have encloses : Encloses marked.options marked.registry marked.store fun _ => True :=
      fun _ _ => trivial
    have here : marked.store.sequences[cell]? = some { s with busy := true } := by
      rw [Store.getElem?_markSequence, if_pos rfl, there]
      rfl
    obtain ⟨share, total, tending, pieces, aggregates⟩ :=
      (Encoder.Tending.start encloses idle here).writeUncountable encloses
        encode_of_ok Tag.seq.code (fun _ _ => trivial) (fun _ => rfl) ran
    have still := tending.there
    rw [s.firsts_mark] at total still aggregates
    refine ⟨count, share, total, ?_, pieces, last, aggregates, rfl⟩
    have unmarked : (s.firsts count).2.busy = false := (s.firsts_busy count).trans free
    rw [Store.getElem?_markSequence, if_pos rfl, still, Option.map_some, ← unmarked]

/-- With any number of levels that is enough, a session does the same. -/
theorem encodeUncountable_of_enough {fuel count : ℕ} {oid : Oid}
    (run : writeUncountable (encodeWithin fuel) oid cell e = .ok count after) :
    encodeUncountable oid cell e = .ok count after := by
  let session (v : Value) : EncodeM Unit :=
    deepening (fun fuel => encodeWithin fuel v) (v.height + e.store.height)
  have deepens (v : Value) : Deepens (encodeWithin fuel v) (session v) := by
    intro e'
    unfold session
    by_cases enough : ∀ after, encodeWithin fuel v e' ≠ .error .endless after
    · rw [deepening_of_enough (fun fuel => .encodeWithin fuel v) enough]
      exact .refl _
    · push Not at enough
      obtain ⟨after, run⟩ := enough
      rw [run]
      exact .endless
  have composed : Composed (encodeWithin fuel) (fun _ => session)
      (writeUncountable (encodeWithin fuel) oid cell) fun _ => writeUncountable session oid cell :=
    .writeUncountable oid cell
  have settled := composed.deepens 0 deepens e
  rw [run] at settled
  generalize ended : writeUncountable session oid cell e = outcome at settled
  cases settled with
  | ok same => exact ended.trans (same ▸ rfl)

end EncodeM

/-! ## Shared -/

/-- Encodings of a shared sequence, between what its cell held at first and what it holds at last.
Each one finds what the one before it has left, whatever else happened between them. -/
inductive Sharings (cell : ℕ) : Sequence → List (Encoder × Encoder) → Sequence → Prop
  | nil (s : Sequence) : Sharings cell s [] s
  | cons {e after : Encoder} {s between last : Sequence} {others : List (Encoder × Encoder)}
      (idle : e.Idle) (found : e.store.sequences[cell]? = some s)
      (run : EncodeM.encode (.lazySeq cell) e = .ok () after)
      (left : after.store.sequences[cell]? = some between)
      (rest : Sharings cell between others last) : Sharings cell s ((e, after) :: others) last

/-- With a cap of `most`, each encoding writes the next `most` items, or all that are left. -/
theorem Sharings.slices {cell most : ℕ} {s last : Sequence} {runs : List (Encoder × Encoder)}
    (h : Sharings cell s runs last)
    (capped : ∀ run ∈ runs, run.1.options.uncountableMaxItems = some most) :
    last = (s.firsts (runs.length * most)).2 ∧
      List.Forall₂ (fun run slice => ∃ pieces, run.1.Shares cell slice pieces run.2) runs
        ((List.range runs.length).map fun i => ((s.firsts (i * most)).2.firsts most).1) := by
  induction h with
  | nil s => exact ⟨by rw [List.length_nil, Nat.zero_mul]; rfl, .nil⟩
  | @cons e after s between last others idle found run left _ ih =>
    obtain ⟨cap, capped⟩ := List.forall_mem_cons.1 capped
    obtain ⟨count, share, -, kept, pieces, shares⟩ := EncodeM.encode_lazySeq_ok idle found run
    have same : s.firsts count = s.firsts most := s.firsts_of_merge (cap ▸ share)
    rw [same] at kept shares
    obtain rfl : between = (s.firsts most).2 := Option.some.inj (left.symm.trans kept)
    obtain ⟨ended, slices⟩ := ih capped
    have later (i : ℕ) :
        (s.firsts ((i + 1) * most)).2 = ((s.firsts most).2.firsts (i * most)).2 := by
      rw [Nat.succ_mul, Nat.add_comm, s.firsts_add]
    refine ⟨ended.trans (later _).symm, ?_⟩
    rw [List.length_cons, List.range_succ_eq_map, List.map_cons, List.map_map]
    refine .cons ⟨pieces, by rwa [Nat.zero_mul]⟩ ?_
    simp only [Function.comp_def, Nat.succ_eq_add_one, later]
    exact slices

/-- The slices that follow each other are the items together. -/
theorem Sequence.flatten_slices (s : Sequence) (most turns : ℕ) :
    ((List.range turns).map fun i => ((s.firsts (i * most)).2.firsts most).1).flatten =
      (s.firsts (turns * most)).1 := by
  induction turns with
  | zero => rw [Nat.zero_mul]; rfl
  | succ turns ih =>
    rw [List.range_succ, List.map_append, List.flatten_append, ih, Nat.succ_mul, firsts_append]
    simp

/-! ## Read back -/

namespace Decoder

/-- The decoder with one more value open, somewhere in front of some bytes. -/
def inside (d : Decoder) (position : ℕ) (input : List UInt8) : Decoder :=
  { d with source := .slice input, position, depth := d.depth + 1 }

/-- One level deeper, the decoder reads the bytes as the value, whatever follows them. -/
def ReadsInside (d : Decoder) (piece : List UInt8) (v : Value) : Prop :=
  ∀ position rest, DecodeM.decode (d.inside position (piece ++ rest)) =
    .ok (some v) (d.inside (position + piece.length) rest)

end Decoder

namespace DecodeM

/-- With enough fuel, the reader of what follows an identifier does not depend on how much. -/
theorem decodeNested_eq_unrolled {d : Decoder} {fuel : ℕ}
    (enough : d.options.maxDepth ≤ d.depth + fuel) (beyond : Oid → DecodeM Value)
    (parent oid : Oid) :
    decodeNested fuel parent oid d = nested parent (unrolled beyond d.options.maxDepth oid) d := by
  have both := Decoder.Holding.unrolled beyond (Nat.le_add_left _ d.depth) enough parent oid d d
    ⟨rfl, rfl, rfl⟩
  generalize nested parent (unrolled beyond d.options.maxDepth oid) d = result,
    decodeNested fuel parent oid d = result' at both
  cases both with
  | ok v related => rw [related.same]
  | error error related => rw [related.same]

/-- A value that is read by itself is read alike as a part of another one. -/
theorem readElement_of_decode {d after : Decoder} {input : List UInt8} {v : Value} {fuel : ℕ}
    (source : d.source = .slice input) (enough : d.options.maxDepth ≤ d.depth + fuel) (parent : Oid)
    (run : decode d = .ok (some v) after) :
    readElement (decodeNested fuel) parent d = .ok v after := by
  rw [decode, bind_of_ok (atEnd_slice source)] at run
  rw [readElement, bind_of_ok (atEnd_slice source)]
  cases input with
  | nil => cases run
  | cons byte input =>
    obtain ⟨oid, identified, first, run⟩ := bind_eq_ok_iff.1 run
    have holding : Matching (Decoder.Holding d.options.maxDepth d.depth)
        ((Wire.readOid : DecodeM Oid) d) ((Wire.readOid : DecodeM Oid) d) :=
      Decoder.Holding.likeness.congruence.readUInt16 d d ⟨rfl, rfl, rfl⟩
    rw [first] at holding
    obtain ⟨-, bound, held⟩ : Decoder.Holding d.options.maxDepth d.depth identified identified := by
      cases holding
      assumption
    rw [settings_bind] at run
    obtain ⟨w, last, body, ended⟩ := bind_eq_ok_iff.1 run
    cases ended
    -- The parent is blamed only where no level is left.
    let beyond : Oid → DecodeM Value := fun _ => pure .null
    refine (bind_of_ok first).trans ?_
    rw [decodeNested_eq_unrolled (Nat.le_add_left ..) beyond, nested_eq] at body
    rw [decodeNested_eq_unrolled (by rwa [bound, held]) beyond, nested_eq]
    split at body
    case isTrue => cases body
    case isFalse room => rwa [if_neg room]

variable {d : Decoder} {fuel : ℕ} (enough : d.options.maxDepth ≤ d.depth + 1 + fuel)

include enough

/-- Items one behind another are read one after another. -/
theorem readMany_inside (oid : Oid) {pieces : List (List UInt8)} {items : List Value}
    (reads : List.Forall₂ d.ReadsInside pieces items) (before : List Value) (position : ℕ)
    (rest : List UInt8) :
    readMany (readElement (decodeNested fuel) oid) before pieces.length
        (d.inside position (pieces.flatten ++ rest)) =
      .ok (before.reverse ++ items) (d.inside (position + pieces.flatten.length) rest) := by
  induction reads generalizing before position with
  | nil => simp [readMany]; rfl
  | @cons piece v pieces items reads _ ih =>
    have first := readElement_of_decode rfl enough oid
      (reads position (pieces.flatten ++ rest))
    rw [List.flatten_cons, List.append_assoc, List.length_cons, readMany, bind_of_ok first,
      ih]
    simp [Nat.add_assoc]

/-- Chunks are read as their items are, one after another. -/
theorem readChunks_inside (oid : Oid) {chunks : List (List (List UInt8))}
    (bounds : ∀ chunk ∈ chunks, chunk ≠ [] ∧ chunk.length ≤ Form.maxLength) {items : List Value}
    (reads : List.Forall₂ d.ReadsInside chunks.flatten items) (before : List (List Value))
    (position : ℕ) (rest : List UInt8) {turns : ℕ} (many : chunks.length < turns) :
    readChunks oid (readMany (readElement (decodeNested fuel) oid) []) before turns
        (d.inside position (tallied chunks ++ (BigEndian.encode 4 0 ++ rest))) =
      .ok (before.reverse.flatten ++ items)
        (d.inside (position + (tallied chunks).length + 4) rest) := by
  induction chunks generalizing items before position turns with
  | nil =>
    cases reads
    obtain ⟨turns, rfl⟩ := Nat.exists_eq_add_one_of_ne_zero (Nat.ne_of_gt many)
    have zero : Form.length (BigEndian.encode 4 0) 0 := ⟨Nat.zero_le _, rfl⟩
    have source : (d.inside position (BigEndian.encode 4 0 ++ rest)).source =
        .slice (BigEndian.encode 4 0 ++ rest) := rfl
    have first := (Recognises.readChunkLength oid).complete rfl source zero
    refine (Recognises.readChunks_succ first).trans ?_
    rw [if_pos rfl, List.append_nil]
    rfl
  | cons chunk others ih =>
    obtain ⟨⟨ne_nil, fits⟩, bounds⟩ := List.forall_mem_cons.1 bounds
    obtain ⟨turns, rfl⟩ := Nat.exists_eq_add_one_of_ne_zero (Nat.ne_of_gt (Nat.zero_lt_of_lt many))
    rw [List.flatten_cons] at reads
    have head := (List.forall₂_take_append _ _ _ reads.flip).flip
    have tail := (List.forall₂_drop_append _ _ _ reads.flip).flip
    have count : Form.length (BigEndian.encode 4 chunk.length) chunk.length := ⟨fits, rfl⟩
    have first := (Recognises.readChunkLength oid).complete rfl rfl count
      (d := d.inside position (BigEndian.encode 4 chunk.length ++
        (chunk.flatten ++ (tallied others ++ (BigEndian.encode 4 0 ++ rest)))))
    have second := readMany_inside enough oid head [] (position + 4)
      (tallied others ++ (BigEndian.encode 4 0 ++ rest))
    have third := ih bounds tail (items.take chunk.length :: before)
      (position + 4 + chunk.flatten.length) (Nat.lt_of_succ_lt_succ many)
    rw [tallied_cons, List.append_assoc, List.append_assoc]
    refine (Recognises.readChunks_succ first).trans ?_
    rw [if_neg (mt List.eq_nil_of_length_eq_zero ne_nil)]
    refine (bind_of_ok second).trans (third.trans ?_)
    simp [List.append_assoc, Nat.add_assoc, BigEndian.length_encode]

/-- What stands behind the identifier of a sequence is read as its items are. -/
theorem readBody_inside {chunks : List (List (List UInt8))}
    (bounds : ∀ chunk ∈ chunks, chunk ≠ [] ∧ chunk.length ≤ Form.maxLength) {items : List Value}
    (reads : List.Forall₂ d.ReadsInside chunks.flatten items) (position : ℕ) (rest : List UInt8) :
    readBody (readElement (decodeNested fuel)) Tag.seq.code
        (d.inside position (tallied chunks ++ (BigEndian.encode 4 0 ++ rest))) =
      .ok (.seq items) (d.inside (position + (tallied chunks).length + 4) rest) := by
  have many : chunks.length <
      (d.inside position (tallied chunks ++ (BigEndian.encode 4 0 ++ rest))).source.size + 1 := by
    have few := length_le_tallied chunks
    rw [Decoder.inside, Source.size, List.length_append]
    omega
  rw [readBody, Tag.ofCode?_code]
  exact bind_of_ok (readChunks_inside enough Tag.seq.code bounds reads [] position rest many)

omit enough in
/-- A sequence is read back from chunks as its items are, whatever follows it. -/
theorem decode_uncountableOf {chunks : List (List (List UInt8))}
    (bounds : ∀ chunk ∈ chunks, chunk ≠ [] ∧ chunk.length ≤ Form.maxLength) {items : List Value}
    (reads : List.Forall₂ d.ReadsInside chunks.flatten items) {rest : List UInt8}
    (source : d.source = .slice (uncountableOf Tag.seq.code chunks ++ rest))
    (room : d.depth < d.options.maxDepth) :
    decode d = .ok (some (.seq items)) (d.past (uncountableOf Tag.seq.code chunks) rest) := by
  obtain ⟨fuel, most⟩ := Nat.exists_eq_add_one_of_ne_zero (Nat.ne_of_gt (Nat.zero_lt_of_lt room))
  let behind := tallied chunks ++ (BigEndian.encode 4 0 ++ rest)
  have source : d.source = .slice (Tag.seq.code.spelled ++ behind) := by
    rw [source, uncountableOf]
    simp only [List.append_assoc, behind]
  have present : (Tag.seq.code.spelled ++ behind).isEmpty = false := by
    rw [Oid.spelled, BigEndian.encode_succ]
    simp
  have identified := Recognises.readOid.complete rfl source rfl
  rw [decode, bind_of_ok (atEnd_slice source), present]
  refine (bind_of_ok identified).trans ?_
  rw [settings_bind]
  have nested : decodeNested d.options.maxDepth Tag.seq.code Tag.seq.code
      (d.past Tag.seq.code.spelled behind) = .ok (.seq items)
        (d.past (uncountableOf Tag.seq.code chunks) rest) := by
    let before := d.past Tag.seq.code.spelled behind
    have left : ¬ before.options.maxDepth ≤ before.depth := Nat.not_le_of_lt room
    have enough : d.options.maxDepth ≤ d.depth + 1 + fuel := by omega
    have entered : readBody (readElement (decodeNested fuel)) Tag.seq.code
        { before with depth := before.depth + 1 } = _ :=
      readBody_inside enough bounds reads (d.position + 2) rest
    rw [most, decodeNested_succ, nested_eq, if_neg left, bracketed, entered]
    simp [Decoder.inside, Decoder.past, uncountableOf, Oid.spelled, BigEndian.length_encode,
      Nat.add_assoc, Nat.add_comm 2]
  exact bind_of_ok nested

end DecodeM

/-! ## Uncountable aggregates -/

/-- Uncountable aggregates, whatever the identifier, the source and the chunk size.

One that succeeds counts what it took: as many items as there are, but no more than the cap. It took
the first ones, in order, and left the source in front of the next one, also where the cap comes with
a full chunk or with the last item. What it put is the identifier, full chunks, a chunk with the rest
if there is one, and a zero, and in the chunks the items stand as they were encoded. No item leads
back to the source.

Encodings of one shared sequence under a cap write slices of its items that follow each other without
a gap, and leave the items behind them. Here items may lead back, for the sequence is marked. And if
what was put for the items is read as some values one level deeper, whatever follows it, then an
aggregate under the identifier of sequences is read as the sequence of these values. -/
theorem uncountable_aggregates :
    (∀ {oid : Oid} {cell count : ℕ} {e after : Encoder} {s : Sequence}, e.Idle →
      e.store.sequences[cell]? = some s →
      (∀ v, s.source.Supplies v → ¬ Leads e v (.lazySeq cell)) →
      EncodeM.encodeUncountable oid cell e = .ok count after →
        e.options.uncountableMaxItems.merge min s.source.size? = some count ∧
        ((s.firsts count).1.length = count ∧ (s.firsts count).2.drawn = s.drawn + count) ∧
        after.store.sequences[cell]? = some (s.firsts count).2 ∧
        ∃ pieces, e.Aggregates oid cell (s.firsts count).1 pieces after ∧
          e.LaysOut oid count pieces after) ∧
    (∀ {cell most : ℕ} {s last : Sequence} {runs : List (Encoder × Encoder)},
      Sharings cell s runs last →
      (∀ run ∈ runs, run.1.options.uncountableMaxItems = some most) →
        let slices := (List.range runs.length).map fun i =>
          ((s.firsts (i * most)).2.firsts most).1
        slices.flatten = (s.firsts (runs.length * most)).1 ∧
        last = (s.firsts (runs.length * most)).2 ∧
        List.Forall₂ (fun run slice => ∃ pieces, run.1.Shares cell slice pieces run.2 ∧
          run.1.LaysOut Tag.seq.code slice.length pieces run.2) runs slices) ∧
    ∀ {e after : Encoder} {count : ℕ} {pieces : List (List (List UInt8))} {d : Decoder}
      {rest : List UInt8} {values : List Value}, e.LaysOut Tag.seq.code count pieces after →
      d.source = .slice (uncountableOf Tag.seq.code pieces ++ rest) →
      d.depth < d.options.maxDepth → List.Forall₂ d.ReadsInside pieces.flatten values →
        values.length = count ∧ DecodeM.decode d =
          .ok (some (.seq values)) (d.past (uncountableOf Tag.seq.code pieces) rest) := by
  refine ⟨?_, ?_, ?_⟩
  · intro oid cell count e after s idle there apart run
    obtain ⟨share, total, left, pieces, aggregates⟩ :=
      EncodeM.encodeUncountable_ok idle there apart run
    have drawn := (s.firsts_count count).2
    rw [total] at drawn
    have out := aggregates.laysOut
    rw [total] at out
    exact ⟨share, ⟨total, drawn⟩, left, pieces, aggregates, out⟩
  · intro cell most s last runs shared capped slices
    obtain ⟨ended, each⟩ := shared.slices capped
    refine ⟨s.flatten_slices most runs.length, ended, each.imp fun run slice written => ?_⟩
    obtain ⟨pieces, shares⟩ := written
    exact ⟨pieces, shares, shares.laysOut⟩
  · intro e after count pieces d rest values out source room reads
    refine ⟨reads.length_eq.symm.trans out.length_flatten, ?_⟩
    exact DecodeM.decode_uncountableOf (fun chunk mem => ⟨out.ne_nil chunk mem, out.fits chunk mem⟩)
      reads source room

/-- Integers that count up without end, three at most in chunks of two; and nulls read back. -/
theorem uncountable_aggregates_of_integers :
    let s : Sequence :=
      { source := .endless (fun k => .int (.ofNat k)) 1 (fun _ => Nat.le_refl 1) 0 }
    let options : Options := { objectChunkSize := 2, uncountableMaxItems := some 3 }
    let e := Encoder.fresh {} options { sink := .unlimited } { sequences := #[s] }
    (∃ after, EncodeM.encodeUncountable 0x1234 0 e = .ok 3 after ∧
      after.store.sequences[0]? = some (s.firsts 3).2 ∧
      ∃ pieces, e.Aggregates 0x1234 0 [.int 0, .int 1, .int 2] pieces after ∧
        pieces.map List.length = [2, 1]) ∧
    (∃ first second, EncodeM.encode (.lazySeq 0) e = .ok () first ∧
      EncodeM.encode (.lazySeq 0) first = .ok () second ∧
      second.store.sequences[0]? = some (s.firsts 6).2 ∧
      ∃ pieces, first.Shares 0 [.int 3, .int 4, .int 5] pieces second) ∧
    ∀ rest, DecodeM.decode (.fresh {} {} (.slice
        (uncountableOf Tag.seq.code [[[0, 0], [0, 0]], [[0, 0]]] ++ rest))) =
      .ok (some (.seq [.null, .null, .null])) ((Decoder.fresh {} {} (.slice
        (uncountableOf Tag.seq.code [[[0, 0], [0, 0]], [[0, 0]]] ++ rest))).past
          (uncountableOf Tag.seq.code [[[0, 0], [0, 0]], [[0, 0]]]) rest) := by
  intro s options e
  refine ⟨?_, ?_, ?_⟩
  · obtain ⟨after, run⟩ : ∃ after,
        EncodeM.writeUncountable (EncodeM.encodeWithin 1) 0x1234 0 e = .ok 3 after := ⟨_, by cbv⟩
    have run := EncodeM.encodeUncountable_of_enough run
    have apart : ∀ v, s.source.Supplies v → ¬ Leads e v (.lazySeq 0) := by
      rintro _ ⟨k, rfl⟩
      exact not_leads_of_isAtom rfl
    obtain ⟨-, -, left, pieces, aggregates, out⟩ :=
      uncountable_aggregates.1 (Encoder.Idle.fresh _ _ _ _) rfl apart run
    exact ⟨after, run, left, pieces, aggregates, out.counts.trans (by decide)⟩
  · obtain ⟨first, second, ran, ran', cap, lent, left, left'⟩ : ∃ first second,
        EncodeM.encodeWithin 2 (.lazySeq 0) e = .ok () first ∧
        EncodeM.encodeWithin 2 (.lazySeq 0) first = .ok () second ∧
        first.options.uncountableMaxItems = some 3 ∧ first.scratch = some { room := 2 } ∧
        first.store.sequences[0]? = some (s.firsts 3).2 ∧
        second.store.sequences[0]? = some (s.firsts 6).2 :=
      ⟨_, _, by cbv, by cbv, by cbv, by cbv, by cbv, by cbv⟩
    have run := EncodeM.encode_of_ok ran
    have run' := EncodeM.encode_of_ok ran'
    have idle : first.Idle := by
      intro chunk there
      rw [lent] at there
      exact Option.some.inj there ▸ rfl
    have shared : Sharings 0 s [(e, first), (first, second)] (s.firsts 6).2 :=
      .cons (Encoder.Idle.fresh _ _ _ _) rfl run left (.cons idle left run' left' (.nil _))
    obtain ⟨-, -, each⟩ := uncountable_aggregates.2.1 shared
      (List.forall_mem_cons.2 ⟨rfl, List.forall_mem_singleton.2 cap⟩)
    obtain _ | ⟨-, _ | ⟨⟨pieces, shares, -⟩, -⟩⟩ := each
    exact ⟨first, second, run, run', left', pieces, shares⟩
  · intro rest
    let nulls : List (List (List UInt8)) := [[[0, 0], [0, 0]], [[0, 0]]]
    let d : Decoder := .fresh {} {} (.slice (uncountableOf Tag.seq.code nulls ++ rest))
    let sink : Sink := { received := (uncountableOf Tag.seq.code nulls).toArray }
    have out : e.LaysOut Tag.seq.code 3 nulls { e with output := { sink } } :=
      ⟨rfl, by decide, by decide⟩
    have null : d.ReadsInside [0, 0] .null := by
      intro position rest
      let inside : Decoder := d.inside position ([0, 0] ++ rest)
      have derivation : DerivesUnder inside.scope.handlers 127 [0, 0] .null :=
        ⟨Tag.null.code, [], rfl, .tagged .null⟩
      exact DecodeM.decode_of_derives (d := inside) rfl derivation
    have room : d.depth < d.options.maxDepth := Nat.succ_pos 127
    exact (uncountable_aggregates.2.2 out rfl room
      (.cons null (.cons null (.cons null .nil)))).2

end TaggedStream
