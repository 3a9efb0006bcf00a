import TaggedStream.Proofs.Copying
import TaggedStream.Proofs.Deposits

/-!
Sequences that are written in instalments.

A sequence that is drawn from is written chunk by chunk: the items of a chunk are drawn, then they
are counted and encoded, and only then is the next chunk begun. `Encoder.Instalments` says so of the
states that an encoder went through. The sequence itself is in one state between two draws, because
no item touches it: either no item leads back to it or, while it is marked, an item that does would
wait for ever.
-/

namespace TaggedStream

/-! ## What was written stays -/

/-- A dialogue only adds to what was written. -/
theorem Dialogue.written_play {α : Type} {dialogue : Dialogue α} {output : Output} {position : ℕ}
    {a : α} {after : Encoder} (run : dialogue.play output position = .ok a after) :
    ∃ added, after.output.written = output.written ++ added := by
  induction dialogue generalizing output position with
  | ended result =>
    cases result with
    | ok b e =>
      cases run
      exact ⟨[], (List.append_nil _).symm⟩
    | error halt e => cases run
  | put slice next ih =>
    obtain ⟨part, rest, -, written, -⟩ := output.written_put slice
    obtain ⟨added, more⟩ := ih _ run
    exact ⟨part ++ added, by rw [more, written, List.append_assoc]⟩

/-- A value adds some bytes to what was written. -/
theorem EncodeM.written_encode {v : Value} {e after : Encoder} (run : encode v e = .ok () after) :
    ∃ piece, after.output.written = e.output.written ++ piece := by
  obtain ⟨levels, same⟩ := exists_eq_deepening (fun levels => encodeWithin levels v)
    (v.height + e.store.height) e
  obtain ⟨dialogue, plays⟩ := Converses.encodeWithin levels v e
  exact Dialogue.written_play ((plays e.output e.position).symm.trans (same.trans run))

/-! ## Draws -/

namespace Sequence

/-- Where either a cap or the size limits what is drawn, both do. -/
theorem merge_length_firsts (s : Sequence) {cap : Option ℕ} {limit : ℕ}
    (most : (cap <|> s.source.size?) = some limit) :
    cap.merge min s.source.size? = some (s.firsts limit).1.length := by
  rw [(s.firsts_count limit).1]
  cases cap with
  | some cap =>
    cases most
    cases s.source.size? <;> rfl
  | none =>
    have most : s.source.size? = some limit := most
    rw [most, Option.elim_some, Nat.min_self]
    rfl

end Sequence

/-- A sequence that has nothing left changes nothing when it is asked. -/
theorem Store.draw_of_none {store : Store} {cell : ℕ} {s : Sequence}
    (there : store.sequences[cell]? = some s) (none : s.draw.1 = none) :
    (store.draw cell).2 = store := by
  obtain ⟨readers, deferrals⟩ := store.draw_others cell
  have sequences : (store.draw cell).2.sequences = store.sequences := by
    apply Array.ext_getElem?
    intro other
    by_cases same : cell = other
    · subst same
      rw [getElem?_draw_self, there, Option.map_some, Sequence.draw_of_none none]
    · exact getElem?_draw_ne _ same
  generalize store.draw cell = outcome at readers deferrals sequences
  obtain ⟨_, ⟨_, _, _⟩⟩ := outcome
  cases readers
  cases deferrals
  cases sequences
  rfl

/-! ## Chunk after chunk -/

/-- Chunks of encoded items, each behind the count of its items. -/
def tallied (chunks : List (List (List UInt8))) : List UInt8 :=
  chunks.flatMap fun pieces => BigEndian.encode 4 pieces.length ++ pieces.flatten

theorem tallied_cons (pieces : List (List UInt8)) (others : List (List (List UInt8))) :
    tallied (pieces :: others) =
      BigEndian.encode 4 pieces.length ++ pieces.flatten ++ tallied others :=
  List.flatMap_cons ..

namespace Encoder

/-- Items were drawn from a sequence one after another. -/
inductive Draws (cell : ℕ) : Encoder → List Value → Encoder → Prop
  | nil (e : Encoder) : Draws cell e [] e
  | cons {e between after : Encoder} {v : Value} {items : List Value}
      (first : EncodeM.draw cell e = .ok (some v) between) (rest : Draws cell between items after) :
      Draws cell e (v :: items) after

/-- Values were encoded one after another, and each one added these bytes to what was written. -/
inductive Encodes : Encoder → List Value → List (List UInt8) → Encoder → Prop
  | nil (e : Encoder) : Encodes e [] [] e
  | cons {e between after : Encoder} {v : Value} {items : List Value} {piece : List UInt8}
      {pieces : List (List UInt8)} (first : EncodeM.encode v e = .ok () between)
      (added : between.output.written = e.output.written ++ piece)
      (rest : Encodes between items pieces after) : Encodes e (v :: items) (piece :: pieces) after

/-- Chunk after chunk was written: its items were drawn, counted and encoded before the next chunk
was begun. -/
inductive Instalments (cell : ℕ) :
    Encoder → List (List Value) → List (List (List UInt8)) → Encoder → Prop
  | done (e : Encoder) : Instalments cell e [] [] e
  | chunk {e collected counted between after : Encoder} {items : List Value}
      {pieces : List (List UInt8)} {chunks : List (List Value)} {others : List (List (List UInt8))}
      (drawn : Draws cell e items collected) (fits : items.length ≤ Form.maxLength)
      (count : collected.Deposited (BigEndian.encode 4 items.length) counted)
      (inside : Encodes counted items pieces between)
      (rest : Instalments cell between chunks others after) :
      Instalments cell e (items :: chunks) (pieces :: others) after

variable {cell : ℕ} {e between after : Encoder} {items : List Value}

namespace Draws

theorem output_eq (h : Draws cell e items after) : after.output = e.output := by
  induction h with
  | nil => rfl
  | @cons e between after v items first _ ih =>
    have step : EncodeM.draw cell e =
        .ok (e.store.draw cell).1 { e with store := (e.store.draw cell).2 } := rfl
    obtain ⟨-, rfl⟩ := EStateM.Result.ok.inj (step.symm.trans first)
    exact ih

theorem concat (h : Draws cell e items between) {v : Value}
    (last : EncodeM.draw cell between = .ok (some v) after) :
    Draws cell e (items ++ [v]) after := by
  induction h with
  | nil e => exact .cons last (.nil _)
  | cons first _ ih => exact .cons first (ih last)

end Draws

namespace Encodes

variable {pieces : List (List UInt8)}

theorem length_eq (h : Encodes e items pieces after) : pieces.length = items.length := by
  induction h with
  | nil => rfl
  | cons _ _ _ ih => exact congrArg (· + 1) ih

theorem written (h : Encodes e items pieces after) :
    after.output.written = e.output.written ++ pieces.flatten := by
  induction h with
  | nil => exact (List.append_nil _).symm
  | cons _ added _ ih => rw [ih, added, List.flatten_cons, List.append_assoc]

end Encodes

namespace Instalments

variable {chunks : List (List Value)} {pieces : List (List (List UInt8))}

theorem lengths_eq (h : Instalments cell e chunks pieces after) :
    pieces.map List.length = chunks.map List.length := by
  induction h with
  | done => rfl
  | chunk _ _ _ inside _ ih => rw [List.map_cons, List.map_cons, ih, inside.length_eq]

theorem fits (h : Instalments cell e chunks pieces after) :
    ∀ chunk ∈ pieces, chunk.length ≤ Form.maxLength := by
  induction h with
  | done => exact List.forall_mem_nil _
  | chunk _ fits _ inside _ ih => exact List.forall_mem_cons.2 ⟨inside.length_eq ▸ fits, ih⟩

theorem written (h : Instalments cell e chunks pieces after) :
    after.output.written = e.output.written ++ tallied pieces := by
  induction h with
  | done => exact (List.append_nil _).symm
  | chunk drawn _ count inside _ ih =>
    rw [ih, inside.written, count.written, drawn.output_eq, tallied_cons, inside.length_eq]
    simp only [List.append_assoc]

end Instalments

/-- What became of an encoder by an uncountable aggregate: it wrote the identifier, the chunks of
these items and a zero. Its buffer was lent out meanwhile. -/
def Aggregates (oid : Oid) (cell : ℕ) (e : Encoder) (items : List Value)
    (pieces : List (List (List UInt8))) (after : Encoder) : Prop :=
  ∃ opened finished, e.Deposited oid.spelled opened ∧
    Instalments cell { opened with scratch := none } (chunks e.options.objectChunkSize items) pieces
      finished ∧
    Deposited { finished with scratch := after.scratch } (BigEndian.encode 4 0) after

/-! ## A sequence that nothing else touches -/

/-- An encoder has come to `s` in a cell, while it wrote values of a set. -/
def Tending (origin : Encoder) (A : Value → Prop) (cell : ℕ) (s : Sequence) (e : Encoder) : Prop :=
  ∃ e', Drawing A (origin.sides origin.options.append) origin.store cell s e e'

namespace Tending

variable {origin : Encoder} {A : Value → Prop} {s : Sequence}

theorem start (encloses : Encloses origin.options origin.registry origin.store A)
    (idle : origin.Idle) (there : origin.store.sequences[cell]? = some s) :
    Tending origin A cell s origin :=
  ⟨origin, encloses.drawing idle there⟩

theorem there (h : Tending origin A cell s e) : e.store.sequences[cell]? = some s := by
  obtain ⟨e', drawing⟩ := h
  exact drawing.there

theorem idle (h : Tending origin A cell s e) : e.Idle := by
  obtain ⟨e', drawing⟩ := h
  exact drawing.idle

theorem draw (h : Tending origin A cell s e) :
    EncodeM.draw cell e = .ok s.draw.1 { e with store := (e.store.draw cell).2 } ∧
      Tending origin A cell s.draw.2 { e with store := (e.store.draw cell).2 } := by
  obtain ⟨e', drawing⟩ := h
  exact ⟨drawing.draw.1, e', drawing.draw.2⟩

theorem lent (h : Tending origin A cell s e) {scratch : Option Scratch}
    (clean : Scratch.Clean scratch) : Tending origin A cell s { e with scratch } := by
  obtain ⟨e', drawing⟩ := h
  exact ⟨e', Kin.lending.lent drawing clean drawing.idle'⟩

/-- The output is another matter. -/
theorem deposited (h : Tending origin A cell s e) {bytes : List UInt8}
    (put : e.Deposited bytes after) : Tending origin A cell s after := by
  obtain ⟨e', drawing⟩ := h
  rw [put.frame]
  exact ⟨{ e' with output := after.output, position := e.position + bytes.length },
    drawing.setting, drawing.setting', drawing.idle, drawing.idle', ⟨rfl, rfl, trivial⟩,
    drawing.store⟩

/-- An item leaves the sequence alone, or waits for it for ever. -/
theorem encoded (h : Tending origin A cell s e)
    (encloses : Encloses origin.options origin.registry origin.store A)
    (safe : A (.lazySeq cell) → s.busy = true) {v : Value} (member : A v)
    (run : EncodeM.encode v e = .ok () after) : Tending origin A cell s after := by
  obtain ⟨e', drawing⟩ := h
  have outlets : Outlets (Output.Shared fun _ => True) := .shared fun _ _ _ => trivial
  have deferred : DeferredAlike A (Deferral.Same A) :=
    Deferral.Same.alike fun member => encloses member .ready
  let sides := origin.sides origin.options.append
  have correspondence : Correspondence
      (.strict (.drawing A cell) sides (.besides origin.store cell s) false) sides
      (Drawing A sides origin.store cell s) (Kind.drawing A cell).values := by
    refine encloses.correspondence deferred outlets (fun _ _ _ _ => rfl)
      fun {other} member same => ?_
    have same : other = cell := same
    subst same
    exact ⟨rfl, s, if_pos rfl, safe member⟩
  have tracks := correspondence.encode (n := 0) ⟨rfl, member⟩ e e' drawing
  rw [run] at tracks
  rcases tracks with excused | ⟨result, matched, -⟩
  · cases excused
  · cases matched with
    | ok _ drawing => exact ⟨_, drawing⟩

end Tending

end Encoder

/-! ## Steps that succeed -/

namespace Encoder.Tending

variable {origin e after start : Encoder} {A : Value → Prop} {cell : ℕ} {s : Sequence}
  {write : Value → EncodeM Unit}
  (encloses : Encloses origin.options origin.registry origin.store A)
  (encodes : ∀ {v e after}, write v e = .ok () after → EncodeM.encode v e = .ok () after)

include encloses encodes

theorem writeAll {items : List Value} (members : ∀ v ∈ items, A v)
    (safe : A (.lazySeq cell) → s.busy = true) (h : Tending origin A cell s e)
    (run : EncodeM.writeAll write items e = .ok () after) :
    Tending origin A cell s after ∧ ∃ pieces, Encodes e items pieces after := by
  induction items generalizing e with
  | nil =>
    cases run
    exact ⟨h, [], .nil _⟩
  | cons v items ih =>
    obtain ⟨member, others⟩ := List.forall_mem_cons.1 members
    obtain ⟨⟨⟩, between, first, rest⟩ := EncodeM.bind_eq_ok run
    obtain ⟨piece, added⟩ := EncodeM.written_encode (encodes first)
    have tending := h.encoded encloses safe member (encodes first)
    obtain ⟨tending, pieces, more⟩ := ih others tending rest
    exact ⟨tending, piece :: pieces, .cons (encodes first) added more⟩

/-- Items that were drawn are written as a chunk. -/
theorem writeChunk (oid : Oid) {items : List Value} (members : ∀ v ∈ items, A v)
    (safe : A (.lazySeq cell) → s.busy = true) (h : Tending origin A cell s e)
    (drawn : Draws cell start items e)
    (run : EncodeM.writeChunk write oid items e = .ok () after) :
    Tending origin A cell s after ∧ ∃ pieces, ∀ {chunks others last},
      Instalments cell after chunks others last →
        Instalments cell start (items :: chunks) (pieces :: others) last := by
  obtain ⟨⟨⟩, counted, count, rest⟩ := EncodeM.bind_eq_ok run
  have put := Deposits.writeLength oid items.length e counted count
  obtain ⟨tending, pieces, inside⟩ :=
    writeAll encloses encodes members safe (h.deposited put) rest
  exact ⟨tending, pieces, .chunk drawn (EncodeM.fits_of_writeLength count) put inside⟩

/-- The items that are left in the buffer are the last chunk. -/
theorem writeRest (oid : Oid) (size room : ℕ) {written count : ℕ} {chunk chunk' : Scratch}
    (collected : ∀ v ∈ chunk.items.toList, A v) (safe : A (.lazySeq cell) → s.busy = true)
    (h : Tending origin A cell s e) (drawn : Draws cell start chunk.items.toList e)
    (run : EncodeM.writeRest write oid written chunk e = .ok (.ok count, chunk') after) :
    count = written ∧ chunk'.items = #[] ∧ Tending origin A cell s after ∧
      ∃ pieces, Instalments cell start
        (chunksBehind size chunk.items.toList.reverse room []) pieces after := by
  unfold EncodeM.writeRest at run
  by_cases empty : chunk.items = #[]
  · rw [empty] at drawn run ⊢
    cases run
    cases drawn
    exact ⟨rfl, empty, h, [], .done _⟩
  · have pieces : chunksBehind size chunk.items.toList.reverse room [] = [chunk.items.toList] := by
      simp [chunksBehind, empty]
    rw [if_neg (by simpa using empty)] at run
    obtain ⟨outcome, between, step, run⟩ := EncodeM.bind_eq_ok run
    cases outcome with
    | error error => cases run
    | ok =>
      cases run
      obtain ⟨tending, piece, chunk⟩ := writeChunk encloses encodes oid collected safe h drawn
        (EncodeM.attempt_eq_ok step)
      exact ⟨rfl, rfl, tending, [piece], pieces ▸ chunk (.done _)⟩

/-- The items are drawn one after another, no more than may be, and each chunk is written when it is
full. -/
theorem drawChunks (oid : Oid) {size : ℕ} (limit : ℕ) {written count : ℕ} {chunk chunk' : Scratch}
    (room : chunk.items.size < size) (collected : ∀ v ∈ chunk.items.toList, A v)
    (members : ∀ v, s.source.Supplies v → A v) (safe : A (.lazySeq cell) → s.busy = true)
    (h : Tending origin A cell s e) (drawn : Draws cell start chunk.items.toList e)
    (run : EncodeM.drawChunks write oid size cell limit written chunk e =
      .ok (.ok count, chunk') after) :
    count = written + (s.firsts limit).1.length ∧ chunk'.items = #[] ∧
      Tending origin A cell (s.firsts limit).2 after ∧
      ∃ pieces, Instalments cell start (chunksBehind size chunk.items.toList.reverse
        (size - chunk.items.size) (s.firsts limit).1) pieces after := by
  induction limit generalizing s start e written chunk with
  | zero => exact writeRest encloses encodes oid size _ collected safe h drawn run
  | succ limit ih =>
    obtain ⟨step, left⟩ := h.draw
    rw [EncodeM.drawChunks, EncodeM.bind_of_ok step] at run
    obtain ⟨supplied, still⟩ := s.supplies_of_draw
    have marked : A (.lazySeq cell) → s.draw.2.busy = true := s.draw_busy ▸ safe
    rcases drew : s.draw with ⟨_ | v, s'⟩
    · have none : s.draw.1 = none := congrArg Prod.fst drew
      rw [drew, Store.draw_of_none h.there none] at run
      rw [Sequence.firsts_of_none none]
      exact writeRest encloses encodes oid size _ collected safe h drawn run
    · rw [drew] at run step left supplied still marked
      have member : A v := members v (supplied v rfl)
      have members' : ∀ w, s'.source.Supplies w → A w := fun w later => members w (still w later)
      have items : (chunk.push v).items.toList = chunk.items.toList ++ [v] := Array.toList_push
      have size' : (chunk.push v).items.size = chunk.items.size + 1 := Array.size_push ..
      have drawn' : Draws cell start (chunk.push v).items.toList _ := items ▸ drawn.concat step
      have collected' : ∀ w ∈ (chunk.push v).items.toList, A w := by
        rw [items]
        exact List.forall_mem_append.2 ⟨collected, List.forall_mem_singleton.2 member⟩
      simp only [Sequence.firsts, drew, List.length_cons]
      dsimp only at run
      split at run
      next full =>
        obtain ⟨outcome, between, wrote, run⟩ := EncodeM.bind_eq_ok run
        cases outcome with
        | error error => cases run
        | ok =>
          obtain ⟨tending, piece, first⟩ := writeChunk encloses encodes oid collected' marked left
            drawn' (EncodeM.attempt_eq_ok wrote)
          have room' : (chunk.push v).clear.items.size < size :=
            Nat.lt_of_le_of_lt (Nat.zero_le _) room
          obtain ⟨count, clear, tending, pieces, others⟩ :=
            ih room' (List.forall_mem_nil _) members' marked tending (.nil _) run
          refine ⟨by omega, clear, tending, piece :: pieces, ?_⟩
          have last : size - chunk.items.size ≤ 1 := by omega
          rw [chunksBehind, if_pos last, List.reverse_cons, List.reverse_reverse, ← items]
          exact first others
      next more =>
        obtain ⟨count, clear, tending, pieces, chunks⟩ :=
          ih (by omega) collected' members' marked left drawn' run
        refine ⟨by omega, clear, tending, pieces, ?_⟩
        have less : ¬ size - chunk.items.size ≤ 1 := by omega
        rw [chunksBehind, if_neg less]
        rwa [items, List.reverse_append, size', Nat.sub_add_eq] at chunks

/-- As many items are drawn and written as there are, but no more than the settings allow. -/
theorem writeUncountable (oid : Oid) {count : ℕ} (members : ∀ v, s.source.Supplies v → A v)
    (safe : A (.lazySeq cell) → s.busy = true) (h : Tending origin A cell s e)
    (run : EncodeM.writeUncountable write oid cell e = .ok count after) :
    e.options.uncountableMaxItems.merge min s.source.size? = some count ∧
      (s.firsts count).1.length = count ∧ Tending origin A cell (s.firsts count).2 after ∧
      ∃ pieces, e.Aggregates oid cell (s.firsts count).1 pieces after := by
  obtain ⟨opened, limit, chunk, _, chunk', finished, back, opening, most, rented, loop, returned,
    ending⟩ := EncodeM.writeUncountable_eq_ok run
  have put := Deposits.writeOid oid e opened opening
  have options : opened.options = e.options := by rw [put.frame]
  have h := h.deposited put
  rw [Store.size?, h.there, options] at most
  obtain ⟨_, rented', empty⟩ := EncodeM.rent_of_idle h.idle
  cases rented'.symm.trans rented
  have clean : Scratch.Clean none := fun _ there => by cases there
  obtain ⟨_, capacity⟩ := chunk
  cases empty
  obtain ⟨total, clear, h, pieces, chunks⟩ := drawChunks encloses encodes oid limit
    opened.options.objectChunkSize_pos (List.forall_mem_nil _) members safe (h.lent clean) (.nil _)
    loop
  rw [Nat.zero_add] at total
  subst total
  obtain ⟨scratch, gave, clean⟩ := EncodeM.giveBack_of_idle h.idle clear
  cases gave.symm.trans returned
  have zero := Deposits.writeTerminator _ after ending
  have scratch_eq : after.scratch = scratch := by rw [zero.frame]
  rw [s.firsts_length limit]
  refine ⟨s.merge_length_firsts most, rfl, (h.lent clean).deposited zero, pieces, opened, finished,
    put, ?_, ?_⟩
  · rwa [← options]
  · rwa [scratch_eq]

end Encoder.Tending

end TaggedStream
