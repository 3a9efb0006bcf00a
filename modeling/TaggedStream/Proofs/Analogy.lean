import Mathlib.Data.List.Forall2
import Mathlib.Data.Option.Basic
import TaggedStream.Proofs.Tracking

/-!
Aggregates written side by side.

An analogy says what two encoders over related cells have in common: they put slices alike, lend
buffers that are empty, and draw related items and read the same bytes. Then a writer of aggregates
tracks another one on related items if the writers of the items do.
-/

namespace TaggedStream

/-- Neither error has a message or a stack trace that the other has not, and the errors and the data
below them are related. -/
inductive Throwable.Beside (V : Value → Value → Prop) : Throwable Value → Throwable Value → Prop
  | mk {message : Option String} {frames : List Frame} {cause cause' : Option (Throwable Value)}
      {suppressed suppressed' : List (Throwable Value)}
      {data data' : Option (OrderedMap Value Value)}
      (below : Option.Rel (fun t t' => V (.throwable t) (.throwable t')) cause cause')
      (beside : List.Forall₂ (fun t t' => V (.throwable t) (.throwable t')) suppressed suppressed')
      (inside : Option.Rel (fun m m' => List.Forall₂ (Prod.RProd V V) m.entries m'.entries)
        data data') :
      Throwable.Beside V ⟨message, frames, cause, suppressed, data⟩
        ⟨message, frames, cause', suppressed', data'⟩

/-- Related values came, or none for the same reason. -/
inductive Outcome.Alike (V : Value → Value → Prop) : Outcome → Outcome → Prop
  | ok {v w : Value} (related : V v w) : Outcome.Alike V (.ok v) (.ok w)
  | error (failure : DeferredFailure) : Outcome.Alike V (.error failure) (.error failure)

section

variable {V : Value → Value → Prop}

theorem flip_entries {entries entries' : List (Value × Value)}
    (each : List.Forall₂ (Prod.RProd V V) entries entries') :
    List.Forall₂ (Prod.RProd (fun v w => V w v) fun v w => V w v) entries' entries :=
  each.flip.imp fun _ _ ⟨key, value⟩ => ⟨key, value⟩

theorem Throwable.Beside.flip {t t' : Throwable Value} (h : t.Beside V t') :
    t'.Beside (fun v w => V w v) t := by
  obtain ⟨below, beside, inside⟩ := h
  refine .mk ?_ beside.flip ?_
  · cases below with
    | none => exact .none
    | some related => exact .some related
  · cases inside with
    | none => exact .none
    | some each => exact .some (flip_entries each)

theorem Outcome.Alike.imp {W : Value → Value → Prop} {outcome outcome' : Outcome}
    (h : Outcome.Alike V outcome outcome') (toward : ∀ v w, V v w → W v w) :
    Outcome.Alike W outcome outcome' := by
  cases h with
  | ok related => exact .ok (toward _ _ related)
  | error failure => exact .error failure

theorem Outcome.Alike.flip {outcome outcome' : Outcome} (h : Outcome.Alike V outcome outcome') :
    Outcome.Alike (fun v w => V w v) outcome' outcome := by
  cases h with
  | ok related => exact .ok related
  | error failure => exact .error failure

end

/-- No items are left in a buffer that could be lent. -/
def Scratch.Clean (scratch : Option Scratch) : Prop := ∀ chunk ∈ scratch, chunk.items = #[]

/-- Both buffers are empty. -/
def Scratch.BothEmpty (chunk chunk' : Scratch) : Prop := chunk.items = #[] ∧ chunk'.items = #[]

/-- No items are left in the buffer that the encoder lends. -/
def Encoder.Idle (e : Encoder) : Prop := Scratch.Clean e.scratch

/-- A relation of encoders that does not depend on their buffers, which are empty. -/
structure Lending (E : Encoder → Encoder → Prop) : Prop where
  idle {e e' : Encoder} (related : E e e') : e.Idle ∧ e'.Idle
  lent {e e' : Encoder} {scratch scratch' : Option Scratch} (related : E e e')
    (clean : Scratch.Clean scratch) (clean' : Scratch.Clean scratch') :
    E { e with scratch } { e' with scratch := scratch' }

/-- Encoders over cells that hold related things. The values that are related say which cells are to
be compared. -/
structure Analogy (c : Comparison) (V : Value → Value → Prop) (E : Encoder → Encoder → Prop) : Prop
    extends Footing c E, Lending E where
  lending : Lending c.failed
  waits {cell : ℕ} (shared : V (.lazySeq cell) (.lazySeq cell)) (stuck : c.stuck cell)
    {e e' : Encoder} (related : E e e') :
    c.exact = false ∧ e.store.sequenceIsBusy cell = true
  busy {cell : ℕ} (shared : V (.lazySeq cell) (.lazySeq cell)) (free : ¬ c.stuck cell)
    {e e' : Encoder} (related : E e e') :
    e'.store.sequenceIsBusy cell = e.store.sequenceIsBusy cell
  size {cell : ℕ} {e e' : Encoder} (shared : V (.lazySeq cell) (.lazySeq cell))
    (free : ¬ c.stuck cell) (related : E e e') : e'.store.size? cell = e.store.size? cell
  mark {cell : ℕ} {e e' : Encoder} (shared : V (.lazySeq cell) (.lazySeq cell))
    (free : ¬ c.stuck cell) (busy : Bool) (related : E e e') :
    E { e with store := e.store.markSequence cell busy }
      { e' with store := e'.store.markSequence cell busy }
  mark_failed {cell : ℕ} {e e' : Encoder} (shared : V (.lazySeq cell) (.lazySeq cell))
    (free : ¬ c.stuck cell) (busy : Bool) (related : c.failed e e') :
    c.failed { e with store := e.store.markSequence cell busy }
      { e' with store := e'.store.markSequence cell busy }
  draw {cell : ℕ} {e e' : Encoder} (shared : V (.lazySeq cell) (.lazySeq cell))
    (free : ¬ c.stuck cell) (related : E e e') :
    Option.Rel V (e.store.draw cell).1 (e'.store.draw cell).1 ∧
      E { e with store := (e.store.draw cell).2 } { e' with store := (e'.store.draw cell).2 }
  fill {cell : ℕ} {e e' : Encoder} (shared : V (.byteStream cell) (.byteStream cell))
    (want : ℕ) (related : E e e') : (e'.store.fill cell want).1 = (e.store.fill cell want).1 ∧
      E { e with store := (e.store.fill cell want).2 }
        { e' with store := (e'.store.fill cell want).2 }
  left {cell : ℕ} {e e' : Encoder} (shared : V (.byteStream cell) (.byteStream cell))
    (related : E e e') : e'.store.bytesLeft cell = e.store.bytesLeft cell
  ask {d d' : Deferred Value} (deferred : V (.future d) (.future d')) (timeout : ℕ)
    {e e' : Encoder} (related : E e e') :
    Outcome.Alike V (e.store.resolve timeout d).1 (e'.store.resolve timeout d').1 ∧
      E { e with store := (e.store.resolve timeout d).2 }
        { e' with store := (e'.store.resolve timeout d').2 }
  throwable {t t' : Throwable Value} (related : V (.throwable t) (.throwable t')) : t.Beside V t'

/-- How many of these items the settings allow. -/
def Options.limitOf (options : Options) (items : List Value) : ℕ :=
  options.uncountableMaxItems.getD items.length

/-- As many items are written as may be. -/
theorem EncodeM.writeSeq_taken (write : Value → EncodeM Unit) (items : List Value) (e : Encoder) :
    writeSeq write items e =
      (do
        tagged .seq
        writeChunks write Tag.seq.code
          (chunks e.options.objectChunkSize (items.take (e.options.limitOf items)))
        writeTerminator) e := by
  rw [writeSeq, settings_bind, Options.limitOf]
  cases e.options.uncountableMaxItems with
  | none => simp only [Option.getD_none, List.take_length]
  | some most => rfl

namespace EncodeM

variable {e : Encoder} (idle : e.Idle)

include idle

/-- An idle encoder lends an empty buffer. -/
theorem rent_of_idle : ∃ chunk : Scratch, rent e = .ok chunk { e with scratch := none } ∧
    chunk.items = #[] := by
  refine ⟨e.scratch.getD {}, rfl, ?_⟩
  cases lent : e.scratch with
  | none => rfl
  | some chunk => exact idle chunk lent

/-- A buffer that comes back empty leaves the encoder idle. -/
theorem giveBack_of_idle {chunk : Scratch} (empty : chunk.items = #[]) :
    ∃ scratch, giveBack chunk e = .ok () { e with scratch } ∧ Scratch.Clean scratch := by
  have clean : Scratch.Clean (some chunk) := fun _ same => Option.some.inj same ▸ empty
  cases lent : e.scratch with
  | none =>
    refine ⟨some chunk, ?_, clean⟩
    change EStateM.Result.ok () _ = _
    simp only [lent]
  | some kept =>
    by_cases larger : kept.room < chunk.room
    · refine ⟨some chunk, ?_, clean⟩
      change EStateM.Result.ok () _ = _
      simp only [lent, if_pos larger]
    · refine ⟨e.scratch, ?_, idle⟩
      change EStateM.Result.ok () _ = _
      simp only [lent, if_neg larger]
      rw [← lent]

end EncodeM

namespace Lending

variable {c : Comparison} {n : ℕ} {E : Encoder → Encoder → Prop} (lending : Lending E)

include lending

theorem rent : Tracks c n E Scratch.BothEmpty E EncodeM.rent fun _ => EncodeM.rent := by
  refine .steady fun e e' related => ?_
  obtain ⟨idle, idle'⟩ := lending.idle related
  obtain ⟨chunk, run, empty⟩ := EncodeM.rent_of_idle idle
  obtain ⟨chunk', run', empty'⟩ := EncodeM.rent_of_idle idle'
  rw [run, run']
  exact .ok ⟨empty, empty'⟩ (lending.lent related nofun nofun)

theorem giveBack {chunk chunk' : Scratch} (empty : chunk.BothEmpty chunk') :
    Tracks c n E Eq E (EncodeM.giveBack chunk) fun _ => EncodeM.giveBack chunk' := by
  refine .steady fun e e' related => ?_
  obtain ⟨idle, idle'⟩ := lending.idle related
  obtain ⟨scratch, run, clean⟩ := EncodeM.giveBack_of_idle idle empty.1
  obtain ⟨scratch', run', clean'⟩ := EncodeM.giveBack_of_idle idle' empty.2
  rw [run, run']
  exact .ok rfl (lending.lent related clean clean')

end Lending

/-- Lists of related items are cut into related pieces. -/
theorem forall₂_chunksBehind {α β : Type} {R : α → β → Prop} (size : ℕ) {current items : List α}
    {current' items' : List β} (before : List.Forall₂ R current current') (room : ℕ)
    (related : List.Forall₂ R items items') :
    List.Forall₂ (List.Forall₂ R) (chunksBehind size current room items)
      (chunksBehind size current' room items') := by
  induction related generalizing current current' room with
  | nil =>
    cases before with
    | nil => exact .nil
    | cons head tail => exact .cons (List.rel_reverse (.cons head tail)) .nil
  | cons head _ ih =>
    unfold chunksBehind
    split
    · exact .cons (List.rel_reverse (.cons head before)) (ih .nil size)
    · exact ih (.cons head before) (room - 1)

/-! ## Values that are ahead -/

/-- Keys and values in turn. -/
def inTurns (entries : List (Value × Value)) : List Value :=
  entries.flatMap fun entry => [entry.1, entry.2]

namespace Throwable

mutual

/-- The keys and values of the data of an error and of all errors below it, in the order in which
they are written. -/
def contents : Throwable Value → List Value
  | ⟨_, _, cause, suppressed, data⟩ =>
    (data.elim [] fun m => inTurns m.entries) ++ (contentsOfCause cause ++
      contentsOfSuppressed suppressed)

/-- The keys and values in a cause. -/
def contentsOfCause : Option (Throwable Value) → List Value
  | none => []
  | some cause => contents cause

/-- The keys and values in suppressed errors. -/
def contentsOfSuppressed : List (Throwable Value) → List Value
  | [] => []
  | t :: rest => contents t ++ contentsOfSuppressed rest

end

end Throwable

/-- Encoders in front of values that are still to be written, for every list of such values: they
put slices alike, and related values are written one after another. -/
structure Procession (c : Comparison) (n : ℕ) (V : Value → Value → Prop)
    (F : List Value → Encoder → Encoder → Prop) (write : Value → EncodeM Unit)
    (writes : ℕ → Value → EncodeM Unit) : Prop where
  footing (ahead : List Value) : Footing c (F ahead)
  item (v w : Value) (ahead : List Value) (related : V v w) :
    Tracks c n (F (w :: ahead)) Eq (F ahead) (write v) fun levels => writes levels w

namespace Procession

variable {c : Comparison} {n : ℕ} {V : Value → Value → Prop}
  {F : List Value → Encoder → Encoder → Prop} {write : Value → EncodeM Unit}
  {writes : ℕ → Value → EncodeM Unit} (h : Procession c n V F write writes) (ahead : List Value)

include h

theorem writeAll {items items' : List Value} (related : List.Forall₂ V items items') :
    Tracks c n (F (items' ++ ahead)) Eq (F ahead) (EncodeM.writeAll write items)
      fun levels => EncodeM.writeAll (writes levels) items' := by
  induction related with
  | nil => exact .result rfl
  | cons head _ ih => exact .bind (h.item _ _ _ head) fun _ _ _ => ih

theorem writeEntries {entries entries' : List (Value × Value)}
    (related : List.Forall₂ (Prod.RProd V V) entries entries') :
    Tracks c n (F (inTurns entries' ++ ahead)) Eq (F ahead) (EncodeM.writeEntries write entries)
      fun levels => EncodeM.writeEntries (writes levels) entries' := by
  induction related with
  | nil => exact .result rfl
  | cons head _ ih =>
    obtain ⟨key, value⟩ := head
    exact .bind (h.item _ _ _ key) fun _ _ _ => .bind (h.item _ _ _ value) fun _ _ _ => ih

theorem writeCountable (oid : Oid) {items items' : List Value}
    (related : List.Forall₂ V items items') :
    Tracks c n (F (items' ++ ahead)) Eq (F ahead) (EncodeM.writeCountable write oid items)
      fun levels => EncodeM.writeCountable (writes levels) oid items' := by
  unfold EncodeM.writeCountable
  rw [related.length_eq]
  exact .bind ((h.footing _).putting (.put _ _)) fun _ _ _ =>
    .bind ((h.footing _).writeLength _ _) fun _ _ _ => h.writeAll ahead related

/-- An identifier of its own stands for no items. -/
theorem writeCollection (empty : Tag) (oid : Oid) {items items' : List Value}
    (related : List.Forall₂ V items items') :
    Tracks c n (F (items' ++ ahead)) Eq (F ahead)
      (if items.isEmpty then EncodeM.tagged empty else EncodeM.writeCountable write oid items)
      fun levels => if items'.isEmpty then EncodeM.tagged empty
        else EncodeM.writeCountable (writes levels) oid items' := by
  cases related with
  | nil => exact (h.footing _).tagged empty
  | cons head tail => exact h.writeCountable ahead oid (.cons head tail)

theorem writeMap {m m' : OrderedMap Value Value}
    (related : List.Forall₂ (Prod.RProd V V) m.entries m'.entries) :
    Tracks c n (F (inTurns m'.entries ++ ahead)) Eq (F ahead) (EncodeM.writeMap write m)
      fun levels => EncodeM.writeMap (writes levels) m' := by
  have empty : m'.isEmpty = m.isEmpty := by
    rw [OrderedMap.isEmpty, OrderedMap.isEmpty, Bool.eq_iff_iff, List.isEmpty_iff_length_eq_zero,
      List.isEmpty_iff_length_eq_zero, related.length_eq]
  have size : m'.size = m.size := related.length_eq.symm
  unfold EncodeM.writeMap
  rw [empty, size]
  split
  next none =>
    have none' : m'.entries = [] := List.isEmpty_iff.1 (empty.trans none)
    rw [none']
    exact (h.footing _).tagged _
  next =>
    exact .bind ((h.footing _).tagged _) fun _ _ _ =>
      .bind ((h.footing _).writeLength _ _) fun _ _ _ => h.writeEntries ahead related

theorem writeChunk (oid : Oid) {items items' : List Value}
    (related : List.Forall₂ V items items') :
    Tracks c n (F (items' ++ ahead)) Eq (F ahead) (EncodeM.writeChunk write oid items)
      fun levels => EncodeM.writeChunk (writes levels) oid items' := by
  unfold EncodeM.writeChunk
  rw [related.length_eq]
  exact .bind ((h.footing _).writeLength _ _) fun _ _ _ => h.writeAll ahead related

theorem writeChunks (oid : Oid) {pieces pieces' : List (List Value)}
    (related : List.Forall₂ (List.Forall₂ V) pieces pieces') :
    Tracks c n (F (pieces'.flatten ++ ahead)) Eq (F ahead) (EncodeM.writeChunks write oid pieces)
      fun levels => EncodeM.writeChunks (writes levels) oid pieces' := by
  induction related with
  | nil => exact .result rfl
  | cons head _ ih =>
    rw [List.flatten_cons, List.append_assoc]
    exact .bind (h.writeChunk _ oid head) fun _ _ _ => ih

/-- Items beyond the cap are left out, so they are not ahead. -/
theorem writeSeq {E : Encoder → Encoder → Prop} {items items' : List Value}
    (related : List.Forall₂ V items items')
    (opened : ∀ e e', E e e' → F (items'.take (e.options.limitOf items') ++ ahead) e e') :
    Tracks c n E Eq (F ahead) (EncodeM.writeSeq write items)
      fun levels => EncodeM.writeSeq (writes levels) items' := by
  intro e e' before
  have before := opened e e' before
  have limits : e.options.limitOf items = e.options.limitOf items' := by
    rw [Options.limitOf, Options.limitOf, related.length_eq]
  have pieces := forall₂_chunksBehind e.options.objectChunkSize .nil e.options.objectChunkSize
    (List.forall₂_take (e.options.limitOf items') related)
  have whole : Tracks c n (F (items'.take (e.options.limitOf items') ++ ahead)) Eq (F ahead)
      (do
        EncodeM.tagged .seq
        EncodeM.writeChunks write Tag.seq.code
          (chunks e.options.objectChunkSize (items.take (e.options.limitOf items)))
        EncodeM.writeTerminator)
      (fun levels => do
        EncodeM.tagged .seq
        EncodeM.writeChunks (writes levels) Tag.seq.code
          (chunks e.options.objectChunkSize (items'.take (e.options.limitOf items')))
        EncodeM.writeTerminator) := by
    have wrote := h.writeChunks ahead Tag.seq.code pieces
    rw [show (chunksBehind e.options.objectChunkSize [] e.options.objectChunkSize
      (items'.take (e.options.limitOf items'))).flatten = _ from flatten_chunks _ _] at wrote
    rw [limits]
    exact .bind ((h.footing _).tagged _) fun _ _ _ => .bind wrote fun _ _ _ =>
      (h.footing _).putting (.put _ _)
  have options := (h.footing _).options before
  have size : e'.options.objectChunkSize = e.options.objectChunkSize := by rw [options]
  have limit : e'.options.limitOf items' = e.options.limitOf items' := by
    rw [options, Options.limitOf, Options.limitOf]
  have second (levels : ℕ) : EncodeM.writeSeq (writes levels) items' e' = _ :=
    EncodeM.writeSeq_taken (writes levels) items' e'
  simp only [size, limit] at second
  have kept := whole e e' before
  rwa [← EncodeM.writeSeq_taken, ← funext second] at kept

section

variable {α β : Type} {R : α → β → Prop} {E' : Encoder → Encoder → Prop}
  {k : Except StreamError ℕ × Scratch → EncodeM α}
  {jobs : ℕ → Except StreamError ℕ × Scratch → EncodeM β}
  (went : ∀ written chunk chunk', Scratch.BothEmpty chunk chunk' →
    Tracks c n (F ahead) R E' (k (.ok written, chunk))
      fun levels => jobs levels (.ok written, chunk'))
  (failed : ∀ error chunk chunk', Scratch.BothEmpty chunk chunk' →
    Tracks c n c.failed R E' (k (.error error, chunk))
      fun levels => jobs levels (.error error, chunk'))
  (doomed : c.lenient → ∀ error chunk e, c.Excuses (k (.error error, chunk) e))

include went failed doomed

/-- What is left in the buffers is written, and then they are empty. What follows is compared with
them, since it decides what becomes of an error. -/
theorem writeRest (oid : Oid) (written : ℕ) {chunk chunk' : Scratch}
    (related : List.Forall₂ V chunk.items.toList chunk'.items.toList) :
    Tracks c n (F (chunk'.items.toList ++ ahead)) R E'
      (EncodeM.writeRest write oid written chunk >>= k)
      fun levels => EncodeM.writeRest (writes levels) oid written chunk' >>= jobs levels := by
  have same : chunk'.items.isEmpty = chunk.items.isEmpty := by
    rw [Bool.eq_iff_iff, Array.isEmpty_iff_size_eq_zero, Array.isEmpty_iff_size_eq_zero,
      ← Array.length_toList, ← Array.length_toList, related.length_eq]
  unfold EncodeM.writeRest
  rw [same]
  split
  next empty =>
    have empty' : chunk'.items = #[] := Array.isEmpty_iff.1 (same.trans empty)
    rw [pure_bind, empty']
    exact went _ _ _ ⟨Array.isEmpty_iff.1 empty, empty'⟩
  next =>
    simp only [bind_assoc]
    refine .attempt (h.writeChunk ahead oid related) ?_ ?_ ?_
    · intro _ _ _
      exact went written chunk.clear chunk'.clear ⟨rfl, rfl⟩
    · intro error
      exact failed error chunk.clear chunk'.clear ⟨rfl, rfl⟩
    · intro lenient error
      exact doomed lenient error chunk.clear

end

end Procession

namespace Procession

variable {c : Comparison} {n : ℕ} {V : Value → Value → Prop}
  {F : List Value → Encoder → Encoder → Prop} {write : Value → EncodeM Unit}
  {writes : ℕ → Value → EncodeM Unit}

mutual

theorem writeThrowable (h : Procession c n V F write writes)
    (throwable : ∀ {t t'}, V (.throwable t) (.throwable t') → t.Beside V t')
    (ahead : List Value) (t t' : Throwable Value) (related : V (.throwable t) (.throwable t')) :
    Tracks c n (F (t'.contents ++ ahead)) Eq (F ahead) (EncodeM.writeThrowable write t)
      fun levels => EncodeM.writeThrowable (writes levels) t' := by
  have beside := throwable related
  obtain ⟨message, frames, cause, suppressed, data⟩ := t
  obtain ⟨message', frames', cause', suppressed', data'⟩ := t'
  have parts : message' = message ∧ frames' = frames ∧
      Option.Rel (fun t t' => V (.throwable t) (.throwable t')) cause cause' ∧
      List.Forall₂ (fun t t' => V (.throwable t) (.throwable t')) suppressed suppressed' ∧
      Option.Rel (fun m m' => List.Forall₂ (Prod.RProd V V) m.entries m'.entries) data data' := by
    cases beside with
    | mk below beside inside => exact ⟨rfl, rfl, below, beside, inside⟩
  obtain ⟨rfl, rfl, below, beside, inside⟩ := parts
  have rest : Tracks c n (F (Throwable.contentsOfCause cause' ++
        (Throwable.contentsOfSuppressed suppressed' ++ ahead))) Eq (F ahead)
      (do
        EncodeM.writeOptionalText message'
        Wire.writeLength Tag.throwable.code frames'.length
        frames'.forM EncodeM.writeFrame
        EncodeM.writeCause write cause
        Wire.writeLength Tag.throwable.code suppressed.length
        EncodeM.writeSuppressed write suppressed)
      (fun levels => do
        EncodeM.writeOptionalText message'
        Wire.writeLength Tag.throwable.code frames'.length
        frames'.forM EncodeM.writeFrame
        EncodeM.writeCause (writes levels) cause'
        Wire.writeLength Tag.throwable.code suppressed'.length
        EncodeM.writeSuppressed (writes levels) suppressed') := by
    rw [← beside.length_eq]
    exact .bind ((h.footing _).putting (.writeOptionalText _)) fun _ _ _ =>
      .bind ((h.footing _).writeLength _ _) fun _ _ _ =>
      .bind ((h.footing _).putting (.forM .writeFrame _)) fun _ _ _ =>
      .bind (writeCause h throwable _ cause cause' below) fun _ _ _ =>
      .bind ((h.footing _).writeLength _ _) fun _ _ _ =>
      writeSuppressed h throwable ahead suppressed suppressed' beside
  rw [Throwable.contents, List.append_assoc, List.append_assoc]
  cases inside with
  | none => exact .bind ((h.footing _).tagged _) fun _ _ _ => rest
  | some inside =>
    exact .bind ((h.footing _).tagged _) fun _ _ _ => .bind (h.writeMap _ inside) fun _ _ _ => rest

theorem writeCause (h : Procession c n V F write writes)
    (throwable : ∀ {t t'}, V (.throwable t) (.throwable t') → t.Beside V t')
    (ahead : List Value) (cause cause' : Option (Throwable Value))
    (related : Option.Rel (fun t t' => V (.throwable t) (.throwable t')) cause cause') :
    Tracks c n (F (Throwable.contentsOfCause cause' ++ ahead)) Eq (F ahead)
      (EncodeM.writeCause write cause) fun levels => EncodeM.writeCause (writes levels) cause' := by
  cases cause with
  | none =>
    cases related
    exact (h.footing _).putting (.put _ _)
  | some t =>
    cases related with
    | some related =>
      exact .bind ((h.footing _).putting (.put _ _)) fun _ _ _ =>
        writeThrowable h throwable ahead t _ related

theorem writeSuppressed (h : Procession c n V F write writes)
    (throwable : ∀ {t t'}, V (.throwable t) (.throwable t') → t.Beside V t')
    (ahead : List Value) (ts ts' : List (Throwable Value))
    (related : List.Forall₂ (fun t t' => V (.throwable t) (.throwable t')) ts ts') :
    Tracks c n (F (Throwable.contentsOfSuppressed ts' ++ ahead)) Eq (F ahead)
      (EncodeM.writeSuppressed write ts)
      fun levels => EncodeM.writeSuppressed (writes levels) ts' := by
  cases ts with
  | nil =>
    cases related
    exact .result rfl
  | cons t rest =>
    cases related with
    | cons head tail =>
      rw [Throwable.contentsOfSuppressed, List.append_assoc]
      exact .bind (writeThrowable h throwable _ t _ head) fun _ _ _ =>
        writeSuppressed h throwable ahead rest _ tail

end

end Procession

/-- Encoders that draw from a sequence, for every number of items that may still be drawn and every
list of values that are ahead: what is drawn is put behind these. -/
structure Drafting (c : Comparison) (n : ℕ) (V : Value → Value → Prop) (cell : ℕ)
    (G : ℕ → List Value → Encoder → Encoder → Prop) (write : Value → EncodeM Unit)
    (writes : ℕ → Value → EncodeM Unit) : Prop where
  procession (limit : ℕ) : Procession c n V (G limit) write writes
  draw {limit : ℕ} {ahead : List Value} {e e' : Encoder} (related : G (limit + 1) ahead e e') :
    Option.Rel V (e.store.draw cell).1 (e'.store.draw cell).1 ∧
      G (if (e'.store.draw cell).1.isSome then limit else 0)
        (ahead ++ (e'.store.draw cell).1.toList)
        { e with store := (e.store.draw cell).2 } { e' with store := (e'.store.draw cell).2 }

namespace Drafting

variable {c : Comparison} {n : ℕ} {V : Value → Value → Prop} {cell : ℕ}
  {G : ℕ → List Value → Encoder → Encoder → Prop} {write : Value → EncodeM Unit}
  {writes : ℕ → Value → EncodeM Unit} (h : Drafting c n V cell G write writes)
  {α β : Type} {R : α → β → Prop} {E' : Encoder → Encoder → Prop}
  {k : Except StreamError ℕ × Scratch → EncodeM α}
  {jobs : ℕ → Except StreamError ℕ × Scratch → EncodeM β}
  (went : ∀ written chunk chunk', Scratch.BothEmpty chunk chunk' →
    Tracks c n (G 0 []) R E' (k (.ok written, chunk))
      fun levels => jobs levels (.ok written, chunk'))
  (failed : ∀ error chunk chunk', Scratch.BothEmpty chunk chunk' →
    Tracks c n c.failed R E' (k (.error error, chunk))
      fun levels => jobs levels (.error error, chunk'))
  (doomed : c.lenient → ∀ error chunk e, c.Excuses (k (.error error, chunk) e))

include h went failed doomed

/-- Related items are drawn and written in the same chunks. -/
theorem drawChunks (oid : Oid) (size limit written : ℕ) {chunk chunk' : Scratch}
    (related : List.Forall₂ V chunk.items.toList chunk'.items.toList) :
    Tracks c n (G limit chunk'.items.toList) R E'
      (EncodeM.drawChunks write oid size cell limit written chunk >>= k)
      fun levels =>
        EncodeM.drawChunks (writes levels) oid size cell limit written chunk' >>= jobs levels := by
  have rest (written : ℕ) {chunk chunk' : Scratch}
      (related : List.Forall₂ V chunk.items.toList chunk'.items.toList) :
      Tracks c n (G 0 chunk'.items.toList) R E'
        (EncodeM.writeRest write oid written chunk >>= k)
        fun levels => EncodeM.writeRest (writes levels) oid written chunk' >>= jobs levels := by
    have left := (h.procession 0).writeRest [] went failed doomed oid written related
    rwa [List.append_nil] at left
  induction limit generalizing written chunk chunk' with
  | zero => exact rest written related
  | succ limit ih =>
    simp only [EncodeM.drawChunks, bind_assoc]
    intro e e' before
    obtain ⟨items, after⟩ := h.draw before
    have run (e : Encoder) : EncodeM.draw cell e = .ok (e.store.draw cell).1
        { e with store := (e.store.draw cell).2 } := rfl
    refine Tracks.behind (run e) (.of_forall fun _ => run e') ?_
    generalize (e.store.draw cell).1 = item, (e'.store.draw cell).1 = item' at items after
    cases items with
    | none =>
      rw [Option.toList_none, List.append_nil] at after
      exact rest written related _ _ after
    | @some v w item =>
      have pushed : List.Forall₂ V (chunk.push v).items.toList (chunk'.push w).items.toList := by
        simp only [Scratch.push, Array.toList_push]
        exact List.rel_append related (.cons item .nil)
      have count : (chunk'.push w).items.size = (chunk.push v).items.size := by
        rw [← Array.length_toList, ← Array.length_toList, pushed.length_eq]
      rw [if_pos (Option.isSome_some), Option.toList_some,
        show chunk'.items.toList ++ [w] = (chunk'.push w).items.toList by
          rw [Scratch.push, Array.toList_push]] at after
      refine (?_ : Tracks c n (G limit (chunk'.push w).items.toList) R E' _ _) _ _ after
      dsimp only
      rw [count]
      split
      · simp only [bind_assoc]
        have wrote := (h.procession limit).writeChunk [] oid pushed
        rw [List.append_nil] at wrote
        refine .attempt wrote ?_ ?_ ?_
        · intro _ _ _
          have empty : List.Forall₂ V (chunk.push v).clear.items.toList
              (chunk'.push w).clear.items.toList := .nil
          exact ih (written + 1) empty
        · intro error
          exact failed error _ _ ⟨rfl, rfl⟩
        · intro lenient error
          exact doomed lenient error _
      · exact ih (written + 1) pushed

end Drafting

/-- Whatever is drawn is written, in chunks. -/
theorem Drafting.writeUncountable {c : Comparison} {n : ℕ} {V : Value → Value → Prop} {cell : ℕ}
    {G : ℕ → List Value → Encoder → Encoder → Prop} {E : Encoder → Encoder → Prop}
    {write : Value → EncodeM Unit} {writes : ℕ → Value → EncodeM Unit}
    (h : Drafting c n V cell G write writes) (footing : Footing c E) (lending : Lending E)
    (ended : Lending (G 0 [])) (refused : Lending c.failed)
    (limited : Tracks c n E
      (fun limit limit' => limit' = limit ∧ ∀ e e', E e e' → G limit [] e e') E
      (EncodeM.drawLimit cell) fun _ => EncodeM.drawLimit cell) (oid : Oid) :
    Tracks c n E Eq (G 0 []) (EncodeM.writeUncountable write oid cell)
      fun levels => EncodeM.writeUncountable (writes levels) oid cell := by
  refine .bind (footing.putting (.put _ _)) fun _ _ _ => .bind limited ?_
  rintro _ limit ⟨rfl, opened⟩
  refine footing.settings fun options append => .bind lending.rent ?_
  intro chunk chunk' empty
  have none : chunk'.items.toList = [] := by rw [empty.2]
  refine Tracks.imp ?_ (E := G limit chunk'.items.toList) (none ▸ opened) fun _ _ => id
  refine h.drawChunks ?_ ?_ ?_ oid _ limit 0 ?_
  · intro written chunk chunk' empty
    refine .bind (ended.giveBack empty) fun _ _ _ => .bind (.result rfl) ?_
    rintro written _ rfl
    exact .bind (((h.procession 0).footing []).putting (.put _ _)) fun _ _ _ => .result rfl
  · intro error chunk chunk' empty
    refine .bind (refused.giveBack empty) fun _ _ _ => ?_
    exact .refusal_bind error fun _ _ => id
  · intro lenient error chunk e
    exact lenient
  · rw [empty.1, empty.2]
    exact .nil

namespace Analogy

variable {c : Comparison} {n : ℕ} {V : Value → Value → Prop} {E : Encoder → Encoder → Prop}
  (analogy : Analogy c V E)

include analogy

/-! ## Steps on cells -/

section

variable {cell : ℕ}

theorem drawn (shared : V (.lazySeq cell) (.lazySeq cell)) (free : ¬ c.stuck cell) :
    Tracks c n E (Option.Rel V) E (EncodeM.draw cell) fun _ => EncodeM.draw cell :=
  .steady fun _ _ related =>
    have both := analogy.draw shared free related
    .ok both.1 both.2

theorem filled (shared : V (.byteStream cell) (.byteStream cell)) (want : ℕ) :
    Tracks c n E Eq E (EncodeM.fill cell want) fun _ => EncodeM.fill cell want := by
  have step : Tracks c n E Eq E (EncodeM.onStore (Store.fill cell want))
      fun _ => EncodeM.onStore (Store.fill cell want) :=
    .steady fun _ _ related =>
      have both := analogy.fill shared want related
      .ok both.1.symm both.2
  refine .bind step ?_
  rintro filled _ rfl
  cases filled with
  | bytes content => exact .result rfl
  | failure text missing => exact .refusal _ fun _ _ => analogy.failed

theorem asked {d d' : Deferred Value} (deferred : V (.future d) (.future d')) :
    Tracks c n E V E (EncodeM.resolve d) fun _ => EncodeM.resolve d' := by
  have step (timeout : ℕ) : Tracks c n E (Outcome.Alike V) E
      (EncodeM.onStore (Store.resolve timeout d))
      fun _ => EncodeM.onStore (Store.resolve timeout d') :=
    .steady fun _ _ related =>
      have both := analogy.ask deferred timeout related
      .ok both.1 both.2
  refine analogy.settings fun options append => .bind (step _) ?_
  intro outcome outcome' alike
  cases alike with
  | ok related => exact .result related
  | error failure => exact .refusal _ fun _ _ => analogy.failed

theorem marked (shared : V (.lazySeq cell) (.lazySeq cell)) (free : ¬ c.stuck cell)
    (busy : Bool) :
    Tracks c n E Eq E (EncodeM.onStore fun store => ((), store.markSequence cell busy))
      fun _ => EncodeM.onStore fun store => ((), store.markSequence cell busy) :=
  .steady fun _ _ related => .ok rfl (analogy.mark shared free busy related)

theorem marked_failed (shared : V (.lazySeq cell) (.lazySeq cell)) (free : ¬ c.stuck cell)
    (busy : Bool) :
    Tracks c n c.failed Eq c.failed
      (EncodeM.onStore fun store => ((), store.markSequence cell busy))
      fun _ => EncodeM.onStore fun store => ((), store.markSequence cell busy) :=
  .steady fun _ _ related => .ok rfl (analogy.mark_failed shared free busy related)

theorem drawLimit (shared : V (.lazySeq cell) (.lazySeq cell)) (free : ¬ c.stuck cell) :
    Tracks c n E Eq E (EncodeM.drawLimit cell) fun _ => EncodeM.drawLimit cell := by
  have step : Tracks c n E Eq E (EncodeM.onStore fun store => (store.size? cell, store))
      fun _ => EncodeM.onStore fun store => (store.size? cell, store) :=
    .steady fun _ _ related => .ok (analogy.size shared free related).symm related
  refine analogy.settings fun options append => .bind step ?_
  rintro size _ rfl
  dsimp only
  split
  · exact .result rfl
  · exact .result rfl
  · exact .endless

/-- Full chunks are read and written until one is not full. -/
theorem copyBytes (size : ℕ) (shared : V (.byteStream cell) (.byteStream cell))
    (fuel copied : ℕ) : Tracks c n E Eq E (EncodeM.copyBytes size cell fuel copied)
      fun _ => EncodeM.copyBytes size cell fuel copied := by
  induction fuel generalizing copied with
  | zero => exact .result rfl
  | succ fuel ih =>
    refine .bind (analogy.filled shared size) ?_
    rintro content _ rfl
    cases content with
    | nil => exact .result rfl
    | cons byte content =>
      refine .bind (analogy.putting (.writeBytes _ _)) fun _ _ _ => ?_
      split
      · exact .result rfl
      · exact ih _

theorem writeByteStream (shared : V (.byteStream cell) (.byteStream cell)) :
    Tracks c n E Eq E (EncodeM.writeByteStream cell) fun _ => EncodeM.writeByteStream cell := by
  refine .bind (analogy.tagged _) fun _ _ _ => analogy.settings fun options append => .got ?_
  intro e e' related
  -- The bytes that are left bound the number of chunks.
  dsimp only
  rw [analogy.left shared related]
  refine Tracks.bind (analogy.copyBytes _ shared _ 0) ?_ e e' related
  rintro copied _ rfl
  exact .bind (analogy.putting (.put _ _)) fun _ _ _ => .result rfl

end

/-! ## Aggregates -/

section

variable {write : Value → EncodeM Unit} {writes : ℕ → Value → EncodeM Unit}
  (h : ∀ v w, V v w → Tracks c n E Eq E (write v) fun levels => writes levels w)

include h

/-- What is ahead makes no difference. -/
theorem procession : Procession c n V (fun _ => E) write writes :=
  ⟨fun _ => analogy.toFooting, fun v w _ => h v w⟩

theorem writeCountable (oid : Oid) {items items' : List Value}
    (related : List.Forall₂ V items items') :
    Tracks c n E Eq E (EncodeM.writeCountable write oid items)
      fun levels => EncodeM.writeCountable (writes levels) oid items' :=
  (analogy.procession h).writeCountable [] oid related

/-- An identifier of its own stands for no items. -/
theorem writeCollection (empty : Tag) (oid : Oid) {items items' : List Value}
    (related : List.Forall₂ V items items') :
    Tracks c n E Eq E
      (if items.isEmpty then EncodeM.tagged empty else EncodeM.writeCountable write oid items)
      fun levels => if items'.isEmpty then EncodeM.tagged empty
        else EncodeM.writeCountable (writes levels) oid items' :=
  (analogy.procession h).writeCollection [] empty oid related

theorem writeMap {m m' : OrderedMap Value Value}
    (related : List.Forall₂ (Prod.RProd V V) m.entries m'.entries) :
    Tracks c n E Eq E (EncodeM.writeMap write m)
      fun levels => EncodeM.writeMap (writes levels) m' :=
  (analogy.procession h).writeMap [] related

theorem writeChunk (oid : Oid) {items items' : List Value}
    (related : List.Forall₂ V items items') :
    Tracks c n E Eq E (EncodeM.writeChunk write oid items)
      fun levels => EncodeM.writeChunk (writes levels) oid items' :=
  (analogy.procession h).writeChunk [] oid related

theorem writeSeq {items items' : List Value} (related : List.Forall₂ V items items') :
    Tracks c n E Eq E (EncodeM.writeSeq write items)
      fun levels => EncodeM.writeSeq (writes levels) items' :=
  (analogy.procession h).writeSeq [] related fun _ _ => id

theorem writeThrowable (t t' : Throwable Value) (related : V (.throwable t) (.throwable t')) :
    Tracks c n E Eq E (EncodeM.writeThrowable write t)
      fun levels => EncodeM.writeThrowable (writes levels) t' :=
  (analogy.procession h).writeThrowable analogy.throwable [] t t' related

/-- Related items are drawn alike, whatever is ahead. -/
theorem drafting {cell : ℕ} (shared : V (.lazySeq cell) (.lazySeq cell)) (free : ¬ c.stuck cell) :
    Drafting c n V cell (fun _ _ => E) write writes :=
  ⟨fun _ => analogy.procession h, analogy.draw shared free⟩

theorem writeUncountable (oid : Oid) {cell : ℕ} (shared : V (.lazySeq cell) (.lazySeq cell))
    (free : ¬ c.stuck cell) :
    Tracks c n E Eq E (EncodeM.writeUncountable write oid cell)
      fun levels => EncodeM.writeUncountable (writes levels) oid cell :=
  (analogy.drafting h shared free).writeUncountable analogy.toFooting analogy.toLending
    analogy.toLending analogy.lending ((analogy.drawLimit shared free).results fun _ _ same =>
      ⟨same.symm, fun _ _ => id⟩) oid

theorem writeLazySeq {cell : ℕ} (shared : V (.lazySeq cell) (.lazySeq cell)) :
    Tracks c n E Eq E (EncodeM.writeLazySeq write cell)
      fun levels => EncodeM.writeLazySeq (writes levels) cell := by
  refine .got fun e e' related => ?_
  by_cases stuck : c.stuck cell
  · obtain ⟨inexact, busy⟩ := analogy.waits shared stuck related
    dsimp only
    rw [busy]
    exact .inl inexact
  dsimp only
  rw [analogy.busy shared stuck related]
  split
  · exact Tracks.endless_bind e e' related
  · refine Tracks.bind (analogy.marked shared stuck true) (fun _ _ _ => ?_) e e' related
    refine .attempt (analogy.writeUncountable h _ shared stuck) ?_ ?_ ?_
    · rintro written _ rfl
      exact .bind (analogy.marked shared stuck false) fun _ _ _ => .bind (.result rfl) fun _ _ _ =>
        .result rfl
    · intro error
      refine .bind (analogy.marked_failed shared stuck false) fun _ _ _ => ?_
      exact .refusal_bind error fun _ _ => id
    · intro lenient error e
      exact lenient

end

end Analogy

end TaggedStream
