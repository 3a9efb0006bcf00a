import TaggedStream.Proofs.Correspondence

/-!
Encoders that differ in their cells and outputs alone.

Kindred encoders have the same handlers and settings, up to `append`, and lend buffers that are
empty. The sequences that related values refer to are related, the others stay as they were on
either side, and all readers are the same. A kind says how values, sequences, deferred values and
outputs are compared. What encoders do to cells and outputs keeps them kindred, so there is an
analogy between them.
-/

namespace TaggedStream

/-- How kindred encoders are compared: the values that they write, the sequences that both draw
from, the origins of deferred values, and what went to the sinks, with the positions there. -/
structure Kind where
  values : Value → Value → Prop
  sequences : ℕ → Sequence → Sequence → Prop
  deferrals : Array Deferral → Array Deferral → Prop
  outputs : Output → ℕ → Output → ℕ → Prop
  /-- Sequences that the first encoder is in the middle of. -/
  stuck : ℕ → Prop

namespace Kind

/-- Both encoders may draw from the cell. -/
def Draws (kind : Kind) (cell : ℕ) : Prop :=
  kind.values (.lazySeq cell) (.lazySeq cell) ∧ ¬ kind.stuck cell

/-- What encoders do keeps things related. -/
structure Lawful (kind : Kind) : Prop where
  busy {cell : ℕ} {s s' : Sequence} (related : kind.sequences cell s s') : s'.busy = s.busy
  size {cell : ℕ} {s s' : Sequence} (related : kind.sequences cell s s') :
    s'.source.size? = s.source.size?
  marked {cell : ℕ} {s s' : Sequence} (related : kind.sequences cell s s') (busy : Bool) :
    kind.sequences cell { s with busy } { s' with busy }
  drawn {cell : ℕ} {s s' : Sequence} (related : kind.sequences cell s s') :
    Option.Rel kind.values s.draw.1 s'.draw.1 ∧ kind.sequences cell s.draw.2 s'.draw.2
  asked {d d' : Deferred Value} (related : kind.values (.future d) (.future d')) (timeout : ℕ)
    {store store' : Store} (deferrals : kind.deferrals store.deferrals store'.deferrals) :
    Outcome.Alike kind.values (store.resolve timeout d).1 (store'.resolve timeout d').1 ∧
      kind.deferrals (store.resolve timeout d).2.deferrals (store'.resolve timeout d').2.deferrals
  put (slice : List UInt8) {output output' : Output} {position position' : ℕ}
    (related : kind.outputs output position output' position') :
    (∃ after after', output.put slice = (none, after) ∧ output'.put slice = (none, after') ∧
      kind.outputs after (position + slice.length) after' (position' + slice.length)) ∨
    ∃ cause after after', output.put slice = (some cause, after) ∧
      output'.put slice = (some cause, after') ∧ kind.outputs after position after' position'

end Kind

/-- The sequences of two stores that are not drawn from. -/
structure Pinned where
  first : ℕ → Option Sequence
  second : ℕ → Option Sequence

/-- The sequences that two encoders have. -/
def Pinned.of (e e' : Encoder) : Pinned where
  first cell := e.store.sequences[cell]?
  second cell := e'.store.sequences[cell]?

/-- Cells that are compared are related, and the others are as they were. -/
structure Store.Kin (kind : Kind) (pinned : Pinned) (store store' : Store) : Prop where
  shared {cell : ℕ} (draws : kind.Draws cell) :
    Option.Rel (kind.sequences cell) store.sequences[cell]? store'.sequences[cell]?
  kept {cell : ℕ} (aside : ¬ kind.Draws cell) :
    store.sequences[cell]? = pinned.first cell ∧ store'.sequences[cell]? = pinned.second cell
  readers : store'.readers = store.readers
  deferrals : kind.deferrals store.deferrals store'.deferrals

namespace Store

variable {kind : Kind} {pinned : Pinned} {store store' : Store} {cell : ℕ}

/-- Drawing changes the sequence in the cell. -/
theorem getElem?_draw_self (store : Store) (cell : ℕ) : (store.draw cell).2.sequences[cell]? =
    (store.sequences[cell]?).map fun s => s.draw.2 := by
  unfold draw
  cases there : store.sequences[cell]? with
  | none => exact there
  | some s =>
    have inside : cell < store.sequences.size := (Array.getElem?_eq_some_iff.1 there).1
    exact Array.getElem?_setIfInBounds_self_of_lt inside

/-- Drawing changes no other sequence. -/
theorem getElem?_draw_ne (store : Store) {cell other : ℕ} (ne : cell ≠ other) :
    (store.draw cell).2.sequences[other]? = store.sequences[other]? := by
  unfold draw
  cases store.sequences[cell]? with
  | none => rfl
  | some s => exact Array.getElem?_setIfInBounds_ne ne

theorem draw_fst (store : Store) (cell : ℕ) :
    (store.draw cell).1 = (store.sequences[cell]?).bind fun s => s.draw.1 := by
  unfold draw
  cases store.sequences[cell]? <;> rfl

/-- Drawing from a sequence gives its next item and leaves the rest in the cell. -/
theorem draw_of_some {s : Sequence} (there : store.sequences[cell]? = some s) :
    (store.draw cell).1 = s.draw.1 ∧ (store.draw cell).2.sequences[cell]? = some s.draw.2 := by
  rw [draw_fst, getElem?_draw_self, there]
  exact ⟨rfl, rfl⟩

theorem draw_others (store : Store) (cell : ℕ) : (store.draw cell).2.readers = store.readers ∧
    (store.draw cell).2.deferrals = store.deferrals := by
  unfold draw
  cases store.sequences[cell]? <;> exact ⟨rfl, rfl⟩

theorem getElem?_markSequence (store : Store) (cell other : ℕ) (busy : Bool) :
    (store.markSequence cell busy).sequences[other]? =
      if cell = other then (store.sequences[cell]?).map fun s => { s with busy }
      else store.sequences[other]? := by
  unfold markSequence
  rw [Array.getElem?_modify]
  split
  next same => rw [same]
  next => rfl

namespace Kin

theorem busy_eq (lawful : kind.Lawful) (kin : Store.Kin kind pinned store store')
    (draws : kind.Draws cell) : store'.sequenceIsBusy cell = store.sequenceIsBusy cell := by
  have both := kin.shared draws
  unfold sequenceIsBusy
  generalize store.sequences[cell]? = s, store'.sequences[cell]? = s' at both
  cases both with
  | none => rfl
  | some related => exact lawful.busy related

theorem size_eq (lawful : kind.Lawful) (kin : Store.Kin kind pinned store store')
    (draws : kind.Draws cell) : store'.size? cell = store.size? cell := by
  have both := kin.shared draws
  unfold size?
  generalize store.sequences[cell]? = s, store'.sequences[cell]? = s' at both
  cases both with
  | none => rfl
  | some related => exact lawful.size related

theorem mark (lawful : kind.Lawful) (kin : Store.Kin kind pinned store store')
    (draws : kind.Draws cell) (busy : Bool) :
    Store.Kin kind pinned (store.markSequence cell busy) (store'.markSequence cell busy) := by
  refine ⟨fun {other} draws' => ?_, fun {other} aside => ?_, kin.readers, kin.deferrals⟩
  · rw [getElem?_markSequence, getElem?_markSequence]
    split
    next same =>
      subst same
      have both := kin.shared draws
      generalize store.sequences[cell]? = s, store'.sequences[cell]? = s' at both
      cases both with
      | none => exact .none
      | some related => exact .some (lawful.marked related busy)
    next => exact kin.shared draws'
  · have other : cell ≠ other := by
      rintro rfl
      exact aside draws
    rw [getElem?_markSequence, getElem?_markSequence, if_neg other, if_neg other]
    exact kin.kept aside

theorem draw (lawful : kind.Lawful) (kin : Store.Kin kind pinned store store')
    (draws : kind.Draws cell) :
    Option.Rel kind.values (store.draw cell).1 (store'.draw cell).1 ∧
      Store.Kin kind pinned (store.draw cell).2 (store'.draw cell).2 := by
  have both := kin.shared draws
  constructor
  · rw [draw_fst, draw_fst]
    generalize store.sequences[cell]? = s, store'.sequences[cell]? = s' at both
    cases both with
    | none => exact .none
    | some related => exact (lawful.drawn related).1
  · obtain ⟨readers, deferrals⟩ := store.draw_others cell
    obtain ⟨readers', deferrals'⟩ := store'.draw_others cell
    refine ⟨fun {other} draws' => ?_, fun {other} aside => ?_, ?_, ?_⟩
    · by_cases same : cell = other
      · subst same
        rw [getElem?_draw_self, getElem?_draw_self]
        generalize store.sequences[cell]? = s, store'.sequences[cell]? = s' at both
        cases both with
        | none => exact .none
        | some related => exact .some (lawful.drawn related).2
      · rw [getElem?_draw_ne _ same, getElem?_draw_ne _ same]
        exact kin.shared draws'
    · have other : cell ≠ other := fun same => aside (same ▸ draws)
      rw [getElem?_draw_ne _ other, getElem?_draw_ne _ other]
      exact kin.kept aside
    · rw [readers, readers']
      exact kin.readers
    · rw [deferrals, deferrals']
      exact kin.deferrals

/-- Readers are the same, and stay so. -/
theorem fill (kin : Store.Kin kind pinned store store') (cell want : ℕ) :
    (store'.fill cell want).1 = (store.fill cell want).1 ∧
      Store.Kin kind pinned (store.fill cell want).2 (store'.fill cell want).2 := by
  unfold Store.fill
  rw [kin.readers]
  cases store.readers[cell]? with
  | none => exact ⟨rfl, kin⟩
  | some script => exact ⟨rfl, kin.shared, kin.kept, rfl, kin.deferrals⟩

theorem bytesLeft_eq (kin : Store.Kin kind pinned store store') (cell : ℕ) :
    store'.bytesLeft cell = store.bytesLeft cell := by
  unfold bytesLeft
  rw [kin.readers]

theorem resolve_others (store : Store) (timeout : ℕ) (d : Deferred Value) :
    (store.resolve timeout d).2.sequences = store.sequences ∧
      (store.resolve timeout d).2.readers = store.readers := by
  cases d with
  | ready => exact ⟨rfl, rfl⟩
  | shared cell =>
    simp only [resolve]
    cases store.deferrals[cell]? <;> exact ⟨rfl, rfl⟩

/-- Asking changes the origins of deferred values only. -/
theorem resolved (kin : Store.Kin kind pinned store store') {d d' : Deferred Value} {timeout : ℕ}
    (deferrals : kind.deferrals (store.resolve timeout d).2.deferrals
      (store'.resolve timeout d').2.deferrals) :
    Store.Kin kind pinned (store.resolve timeout d).2 (store'.resolve timeout d').2 := by
  obtain ⟨sequences, readers⟩ := resolve_others store timeout d
  obtain ⟨sequences', readers'⟩ := resolve_others store' timeout d'
  refine ⟨?_, ?_, ?_, deferrals⟩
  · rw [sequences, sequences']
    exact kin.shared
  · rw [sequences, sequences']
    exact kin.kept
  · rw [readers, readers']
    exact kin.readers

theorem ask (lawful : kind.Lawful) (kin : Store.Kin kind pinned store store')
    {d d' : Deferred Value} (related : kind.values (.future d) (.future d')) (timeout : ℕ) :
    Outcome.Alike kind.values (store.resolve timeout d).1 (store'.resolve timeout d').1 ∧
      Store.Kin kind pinned (store.resolve timeout d).2 (store'.resolve timeout d').2 :=
  have both := lawful.asked related timeout kin.deferrals
  ⟨both.1, kin.resolved both.2⟩

end Kin

end Store

/-! ## Encoders -/

/-- Encoders that differ in their cells and outputs, and in what `append` says. -/
structure Encoder.Kin (kind : Kind) (sides : Sides) (pinned : Pinned) (e e' : Encoder) : Prop where
  setting : e.setting = ⟨sides.options, sides.registry⟩
  setting' : e'.setting = ⟨sides.options', sides.registry⟩
  idle : e.Idle
  idle' : e'.Idle
  outputs : kind.outputs e.output e.position e'.output e'.position
  store : Store.Kin kind pinned e.store e'.store

/-- A comparison of kindred encoders. If it is tight, they are still kindred when both were refused.
-/
def Comparison.ofKind (kind : Kind) (sides : Sides) (pinned : Pinned) (tight : Prop) (exact : Bool)
    (lenient uneven : Prop) : Comparison where
  exact
  lenient
  uneven
  stuck := kind.stuck
  failed e e' := e.Idle ∧ e'.Idle ∧ (tight → Encoder.Kin kind sides pinned e e')

namespace Encoder.Kin

variable {kind : Kind} {sides : Sides} {pinned : Pinned} {tight : Prop} {exact : Bool}
  {lenient uneven : Prop}

theorem failed {e e' : Encoder} (kin : Kin kind sides pinned e e') :
    (Comparison.ofKind kind sides pinned tight exact lenient uneven).failed e e' :=
  ⟨kin.idle, kin.idle', fun _ => kin⟩

theorem footing (lawful : kind.Lawful) :
    Footing (.ofKind kind sides pinned tight exact lenient uneven) (Kin kind sides pinned) where
  failed := failed
  put op slice e e' kin := by
    unfold EncodeM.put
    rcases lawful.put slice kin.outputs with ⟨after, after', run, run', outputs⟩ |
      ⟨cause, after, after', run, run', outputs⟩
    · simp only [run, run']
      exact .ok rfl ⟨kin.setting, kin.setting', kin.idle, kin.idle', outputs, kin.store⟩
    · simp only [run, run']
      exact .refused (failed ⟨kin.setting, kin.setting', kin.idle, kin.idle', outputs, kin.store⟩)
  options kin := by
    have same := congrArg Setting.options kin.setting
    have same' := congrArg Setting.options kin.setting'
    simp only [Encoder.setting] at same same'
    rw [same, same']
    rfl

theorem lending : Lending (Kin kind sides pinned) where
  idle kin := ⟨kin.idle, kin.idle'⟩
  lent kin clean clean' := ⟨kin.setting, kin.setting', clean, clean', kin.outputs, kin.store⟩

/-- The same with another store on either side. -/
theorem restored {e e' : Encoder} (kin : Kin kind sides pinned e e') {store store' : Store}
    (stores : Store.Kin kind pinned store store') :
    Kin kind sides pinned { e with store } { e' with store := store' } :=
  ⟨kin.setting, kin.setting', kin.idle, kin.idle', kin.outputs, stores⟩

theorem analogy (lawful : kind.Lawful)
    (throwable : ∀ {t t'}, kind.values (.throwable t) (.throwable t') → t.Beside kind.values t')
    (waits : ∀ {cell}, kind.values (.lazySeq cell) (.lazySeq cell) → kind.stuck cell →
      exact = false ∧ ∃ s, pinned.first cell = some s ∧ s.busy = true) :
    Analogy (.ofKind kind sides pinned tight exact lenient uneven) kind.values
      (Kin kind sides pinned) where
  toFooting := footing lawful
  toLending := lending
  lending :=
    { idle failed := ⟨failed.1, failed.2.1⟩
      lent failed clean clean' :=
        ⟨clean, clean', fun h => lending.lent (failed.2.2 h) clean clean'⟩ }
  waits {cell} shared stuck e e' kin := by
    obtain ⟨inexact, s, there, busy⟩ := waits shared stuck
    refine ⟨inexact, ?_⟩
    rw [Store.sequenceIsBusy, (kin.store.kept fun draws => draws.2 stuck).1, there]
    exact busy
  busy shared free _ _ kin := kin.store.busy_eq lawful ⟨shared, free⟩
  size shared free kin := kin.store.size_eq lawful ⟨shared, free⟩
  mark shared free busy kin := kin.restored (kin.store.mark lawful ⟨shared, free⟩ busy)
  mark_failed shared free busy failed :=
    ⟨failed.1, failed.2.1, fun h =>
      (failed.2.2 h).restored ((failed.2.2 h).store.mark lawful ⟨shared, free⟩ busy)⟩
  draw shared free kin :=
    have both := kin.store.draw lawful ⟨shared, free⟩
    ⟨both.1, kin.restored both.2⟩
  fill _ want kin :=
    have both := kin.store.fill _ want
    ⟨both.1, kin.restored both.2⟩
  left _ kin := kin.store.bytesLeft_eq _
  ask deferred timeout _ _ kin :=
    have both := kin.store.ask lawful deferred timeout
    ⟨both.1, kin.restored both.2⟩
  throwable := throwable

end Encoder.Kin

/-- The strictest comparison of kindred encoders. -/
abbrev Comparison.strict (kind : Kind) (sides : Sides) (pinned : Pinned) (exact : Bool) :
    Comparison :=
  .ofKind kind sides pinned True exact False False

/-- Under the strictest comparison, runs match whatever comes of them. -/
theorem Tracks.matched {kind : Kind} {sides : Sides} {pinned : Pinned} {n : ℕ} {α β : Type}
    {E E' : Encoder → Encoder → Prop} {R : α → β → Prop} {m : EncodeM α} {m' : EncodeM β}
    (h : Tracks (Comparison.strict kind sides pinned true) n E R E' m fun _ => m')
    {e e' : Encoder} (related : E e e') :
    Matches R E' (Encoder.Kin kind sides pinned) (m e) (m' e') :=
  (h.ended_of_exact related rfl id).imp (fun _ _ => id) fun _ _ failed => failed.2.2 trivial

end TaggedStream
