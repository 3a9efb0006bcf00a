import TaggedStream.Proofs.Sessions

/-!
Sequences in memory and sequences that are drawn from.

A sequence that is drawn from is written as the same items in memory are: in the same chunks, with
the same end. The buffer that collects a chunk holds what the list would have been cut into. While
the sequence is being drawn from, its cell is the only difference between the two sides, and an item
that leads back to it would wait for ever.
-/

namespace TaggedStream

/-! ## Steps on one side, and steps taken apart -/

namespace EncodeM

variable {α β : Type}

/-- Going on after an error with that very error changes nothing. -/
theorem attempt_conclude (m : EncodeM α) : (attempt m >>= conclude) = m := by
  funext e
  cases run : m e with
  | ok a after => exact bind_of_ok (attempt_of_ok run)
  | error halt after =>
    cases halt with
    | refused error => exact bind_of_ok (attempt_of_refused run)
    | endless => exact bind_of_error (attempt_of_endless run)

/-- Two steps are attempted one after the other. -/
theorem attempt_bind (m : EncodeM α) (k : α → EncodeM β) :
    attempt (m >>= k) = attempt m >>= fun
      | .ok a => attempt (k a)
      | .error error => pure (.error error) := by
  funext e
  cases run : m e with
  | ok a after =>
    rw [bind_of_ok (attempt_of_ok run), attempt, bind_of_ok run]
    rfl
  | error halt after =>
    rw [attempt, bind_of_error run]
    cases halt with
    | refused error => rw [bind_of_ok (attempt_of_refused run)]; rfl
    | endless => rw [bind_of_error (attempt_of_endless run)]

/-- A list is written in pieces, and an error is passed on. -/
theorem writeSeq_eq (write : Value → EncodeM Unit) (items : List Value) (e : Encoder) :
    writeSeq write items e =
      (do
        tagged .seq
        let outcome ← attempt (writeChunks write Tag.seq.code
          (chunks e.options.objectChunkSize (items.take (e.options.limitOf items))))
        conclude outcome
        writeTerminator) e := by
  have passed (m : EncodeM Unit) (k : Unit → EncodeM Unit) :
      (attempt m >>= fun outcome => conclude outcome >>= k) = m >>= k := by
    rw [← bind_assoc, attempt_conclude]
  rw [writeSeq, settings_bind, Options.limitOf]
  simp only [passed]
  cases e.options.uncountableMaxItems with
  | none => simp only [Option.getD_none, List.take_length]
  | some most => rfl

end EncodeM

/-- Both went well with related results, or were refused with the same error. -/
inductive Concludes {α β : Type} (R : α → β → Prop) :
    Except StreamError α → Except StreamError β → Prop
  | ok {a : α} {b : β} (results : R a b) : Concludes R (.ok a) (.ok b)
  | error (error : StreamError) : Concludes R (.error error) (.error error)

namespace Tracks

variable {c : Comparison} {n : ℕ} {α β γ δ : Type} {E E' E'' : Encoder → Encoder → Prop}
  {R : α → β → Prop} {S : γ → δ → Prop} {m : EncodeM α} {job : ℕ → EncodeM β}

/-- A step on the first side alone. -/
theorem ahead {k : α → EncodeM γ} {jobs : ℕ → EncodeM δ} (P : α → Prop)
    (step : ∀ e e', E e e' → ∃ a after, m e = .ok a after ∧ P a ∧ E' after e')
    (rest : ∀ a, P a → Tracks c n E' S E'' (k a) jobs) : Tracks c n E S E'' (m >>= k) jobs := by
  intro e e' related
  obtain ⟨a, after, run, holds, related⟩ := step e e' related
  rw [EncodeM.bind_of_ok run]
  exact rest a holds after e' related

/-- Both sides go on after an error. -/
theorem attempted (h : Tracks c n E R E' m job) (severe : ¬ c.lenient)
    (failed : ∀ e e', c.failed e e' → E' e e') :
    Tracks c n E (Concludes R) E' (EncodeM.attempt m)
      fun levels => EncodeM.attempt (job levels) := by
  have both : Tracks c n E (Concludes R) E' (EncodeM.attempt m >>= pure)
      fun levels => EncodeM.attempt (job levels) >>= pure :=
    .attempt h (fun a b results => .result (.ok results))
      (fun error => (result (.error error)).imp failed fun _ _ => id)
      fun lenient => absurd lenient severe
  simpa only [bind_pure] using both

theorem conclude {outcome : Except StreamError α} {outcome' : Except StreamError β}
    (h : Concludes R outcome outcome') (failed : ∀ e e', E e e' → c.failed e e') :
    Tracks c n E R E (EncodeM.conclude outcome) fun _ => EncodeM.conclude outcome' := by
  cases h with
  | ok results => exact .result results
  | error error => exact .refusal error failed

/-- The first side gives back something else. -/
theorem returning {Q : γ → β → Prop} (h : Tracks c n E R E' m job) {other : γ}
    (results : ∀ b, Q other b) : Tracks c n E Q E' (m >>= fun _ => pure other) job := by
  have both : Tracks c n E Q E' (m >>= fun _ => pure other) fun levels => job levels >>= pure :=
    .bind h fun _ b _ => .result (results b)
  simpa only [bind_pure] using both

end Tracks

/-! ## In the middle of a sequence -/

/-- The cells as they were, apart from one that holds a sequence on the first side. -/
def Pinned.besides (store : Store) (cell : ℕ) (s : Sequence) : Pinned where
  first other := if other = cell then some s else store.sequences[other]?
  second other := store.sequences[other]?

/-- Values of a set are written over the same cells, to the same output, while the first side is in
the middle of a sequence. -/
abbrev Kind.drawing (A : Value → Prop) (cell : ℕ) : Kind :=
  .same A (· = cell) (Deferral.Same A) (Output.Shared fun _ => True)

/-- The first encoder has come to `s` in a cell. -/
abbrev Encoder.Drawing (A : Value → Prop) (sides : Sides) (store : Store) (cell : ℕ)
    (s : Sequence) : Encoder → Encoder → Prop :=
  Encoder.Kin (.drawing A cell) sides (.besides store cell s)

/-- The first encoder has come to something or other in a cell. -/
def Encoder.Drawn (A : Value → Prop) (sides : Sides) (store : Store) (cell : ℕ)
    (e e' : Encoder) : Prop :=
  ∃ s, Encoder.Drawing A sides store cell s e e'

/-- What a cell holds does not count when both runs were refused. -/
def Comparison.drawing (A : Value → Prop) (sides : Sides) (store : Store) (cell : ℕ)
    (exact : Bool) : Comparison where
  exact
  lenient := False
  uneven := False
  stuck _ := False
  failed := Encoder.Drawn A sides store cell

namespace Encoder.Drawing

variable {A : Value → Prop} {sides : Sides} {store : Store} {cell : ℕ} {s : Sequence}
  {e e' : Encoder} (drawing : Drawing A sides store cell s e e')

include drawing

theorem there : e.store.sequences[cell]? = some s := by
  rw [(drawing.store.kept fun draws => draws.2 rfl).1]
  exact if_pos rfl

/-- Something else comes into the cell. -/
theorem moved {after : Store} {s' : Sequence} (here : after.sequences[cell]? = some s')
    (others : ∀ other, other ≠ cell → after.sequences[other]? = e.store.sequences[other]?)
    (readers : after.readers = e.store.readers) (deferrals : after.deferrals = e.store.deferrals) :
    Drawing A sides store cell s' { e with store := after } e' := by
  refine ⟨drawing.setting, drawing.setting', drawing.idle, drawing.idle', drawing.outputs,
    fun {other} draws => ?_, fun {other} aside => ?_, ?_, ?_⟩
  · rw [others other draws.2]
    exact drawing.store.shared draws
  · obtain ⟨first, second⟩ := drawing.store.kept aside
    refine ⟨?_, second⟩
    by_cases same : other = cell
    · rw [same, here]
      exact (if_pos rfl).symm
    · rw [others other same, first]
      exact (if_neg same).trans (if_neg same).symm
  · exact drawing.store.readers.trans readers.symm
  · change (Kind.drawing A cell).deferrals after.deferrals e'.store.deferrals
    rw [deferrals]
    exact drawing.store.deferrals

/-- The next item is drawn. -/
theorem draw : EncodeM.draw cell e = .ok s.draw.1 { e with store := (e.store.draw cell).2 } ∧
    Drawing A sides store cell s.draw.2 { e with store := (e.store.draw cell).2 } e' := by
  obtain ⟨item, rest⟩ := Store.draw_of_some drawing.there
  obtain ⟨readers, deferrals⟩ := e.store.draw_others cell
  constructor
  · rw [← item]
    rfl
  · exact drawing.moved rest (fun other ne => Store.getElem?_draw_ne _ (Ne.symm ne)) readers
      deferrals

/-- The sequence is marked. -/
theorem mark (busy : Bool) : Drawing A sides store cell { s with busy }
    { e with store := e.store.markSequence cell busy } e' := by
  refine drawing.moved ?_ (fun other ne => ?_) rfl rfl
  · rw [Store.getElem?_markSequence, if_pos rfl, drawing.there]
    rfl
  · rw [Store.getElem?_markSequence, if_neg (Ne.symm ne)]

theorem busy_eq : e.store.sequenceIsBusy cell = s.busy := by
  rw [Store.sequenceIsBusy, drawing.there]

/-- The first side lends its buffer. -/
theorem rent : ∃ chunk after, EncodeM.rent e = .ok chunk after ∧ chunk.items = #[] ∧
    Drawing A sides store cell s after e' := by
  obtain ⟨chunk, run, empty⟩ := EncodeM.rent_of_idle drawing.idle
  exact ⟨chunk, _, run, empty, Kin.lending.lent drawing nofun drawing.idle'⟩

theorem options_eq : e.options = sides.options ∧ e'.options = sides.options' :=
  ⟨congrArg Setting.options drawing.setting, congrArg Setting.options drawing.setting'⟩

omit drawing in
/-- As much may be drawn as would be taken from the list. -/
theorem drawLimit {items : List Value} {drawn : ℕ} {busy : Bool}
    (drawing : Drawing A sides store cell ⟨.listed items, drawn, busy⟩ e e') :
    EncodeM.drawLimit cell e = .ok (sides.options.limitOf items) e := by
  have size : e.store.size? cell = some items.length := by
    rw [Store.size?, drawing.there]
    rfl
  have step : EncodeM.onStore (fun store => (store.size? cell, store)) e =
      .ok (some items.length) e := by
    rw [← size]
    rfl
  rw [EncodeM.drawLimit, EncodeM.settings_bind, EncodeM.bind_of_ok step, drawing.options_eq.1,
    Options.limitOf]
  cases sides.options.uncountableMaxItems with
  | none => rfl
  | some most => rfl

end Encoder.Drawing

/-- The first side takes its buffer back. -/
theorem Encoder.Drawn.giveBack {A : Value → Prop} {sides : Sides} {store : Store} {cell : ℕ}
    {e e' : Encoder} (drawn : Encoder.Drawn A sides store cell e e') {chunk : Scratch}
    (empty : chunk.items = #[]) :
    ∃ result after, EncodeM.giveBack chunk e = .ok result after ∧ True ∧
      Encoder.Drawn A sides store cell after e' := by
  obtain ⟨s, drawing⟩ := drawn
  obtain ⟨scratch, run, clean⟩ := EncodeM.giveBack_of_idle drawing.idle empty
  exact ⟨(), _, run, trivial, s, Kin.lending.lent drawing clean drawing.idle'⟩

theorem Encoder.Drawn.mark {A : Value → Prop} {sides : Sides} {store : Store} {cell : ℕ}
    {e e' : Encoder} (drawn : Encoder.Drawn A sides store cell e e') (busy : Bool) :
    Encoder.Drawn A sides store cell { e with store := e.store.markSequence cell busy } e' := by
  obtain ⟨s, drawing⟩ := drawn
  exact ⟨_, drawing.mark busy⟩

/-! ## Chunk by chunk -/

section

variable {A : Value → Prop} {sides : Sides} {store : Store} {cell : ℕ} {exact : Bool} {n : ℕ}
  {write : Value → EncodeM Unit} {writes : ℕ → Value → EncodeM Unit}

/-- Items are written alike, whatever the first side has come to. -/
structure ItemsAlike (A : Value → Prop) (sides : Sides) (store : Store) (cell : ℕ) (exact : Bool)
    (n : ℕ) (write : Value → EncodeM Unit) (writes : ℕ → Value → EncodeM Unit) : Prop where
  lawful : (Kind.drawing A cell).Lawful
  analogy {s : Sequence} (busy : s.busy = true) :
    Analogy (.strict (.drawing A cell) sides (.besides store cell s) exact)
      (Kind.drawing A cell).values (Encoder.Drawing A sides store cell s)
  item {s : Sequence} (busy : s.busy = true) {v : Value} (member : A v) :
    Tracks (.strict (.drawing A cell) sides (.besides store cell s) exact) n
      (Encoder.Drawing A sides store cell s) Eq (Encoder.Drawing A sides store cell s) (write v)
      fun levels => writes levels v

/-- A step that both sides take in the middle of a sequence. -/
theorem Tracks.drawing {α β : Type} {R : α → β → Prop} {s : Sequence} {m : EncodeM α}
    {job : ℕ → EncodeM β}
    (h : Tracks (.strict (.drawing A cell) sides (.besides store cell s) exact) n
      (Encoder.Drawing A sides store cell s) R (Encoder.Drawing A sides store cell s) m job) :
    Tracks (.drawing A sides store cell exact) n (Encoder.Drawing A sides store cell s) R
      (Encoder.Drawing A sides store cell s) m job :=
  h.weaken rfl id fun _ _ failed => ⟨s, failed.2.2 trivial⟩

/-- The pieces of the items that were written came to the same end, and nothing is in the buffer. -/
def PiecesWritten (result : Except StreamError ℕ × Scratch) (outcome : Except StreamError Unit) :
    Prop :=
  Concludes (fun _ _ => True) result.1 outcome ∧ result.2.items = #[]

variable (alike : ItemsAlike A sides store cell exact n write writes)

include alike

/-- The items in the buffer are a piece of the list. -/
theorem ItemsAlike.writeChunk (oid : Oid) {s : Sequence} (busy : s.busy = true) {items : List Value}
    (members : ∀ v ∈ items, A v) :
    Tracks (.drawing A sides store cell exact) n (Encoder.Drawing A sides store cell s) Eq
      (Encoder.Drawing A sides store cell s) (EncodeM.writeChunk write oid items)
      fun levels => EncodeM.writeChunk (writes levels) oid items := by
  have item (v w : Value) (same : (Kind.drawing A cell).values v w) :
      Tracks (.strict (.drawing A cell) sides (.besides store cell s) exact) n
        (Encoder.Drawing A sides store cell s) Eq (Encoder.Drawing A sides store cell s) (write v)
        fun levels => writes levels w := by
    obtain ⟨rfl, member⟩ := same
    exact alike.item busy member
  exact ((alike.analogy busy).writeChunk item oid
    (List.forall₂_same.2 fun v inside => ⟨rfl, members v inside⟩)).drawing

/-- The items that are left in the buffer are the last piece. -/
theorem ItemsAlike.writeRest (oid : Oid) (size room written : ℕ) {s : Sequence}
    (busy : s.busy = true) {chunk : Scratch} (members : ∀ v ∈ chunk.items.toList, A v) :
    Tracks (.drawing A sides store cell exact) n (Encoder.Drawing A sides store cell s)
      PiecesWritten (Encoder.Drawn A sides store cell)
      (EncodeM.writeRest write oid written chunk)
      fun levels => EncodeM.attempt (EncodeM.writeChunks (writes levels) oid
        (chunksBehind size chunk.items.toList.reverse room [])) := by
  unfold EncodeM.writeRest
  by_cases empty : chunk.items = #[]
  · have done : Tracks (.drawing A sides store cell exact) n (Encoder.Drawing A sides store cell s)
        PiecesWritten (Encoder.Drawing A sides store cell s) (pure (.ok written, chunk))
        fun _ => EncodeM.attempt (pure ()) :=
      .result ⟨.ok trivial, empty⟩
    rw [empty]
    exact done.imp (fun _ _ => id) fun _ _ drawing => ⟨s, drawing⟩
  · have some : chunk.items.isEmpty = false := by
      rw [← Bool.not_eq_true, Array.isEmpty_iff]
      exact empty
    have pieces : chunksBehind size chunk.items.toList.reverse room [] = [chunk.items.toList] := by
      simp [chunksBehind, empty]
    have last (levels : ℕ) : EncodeM.attempt (EncodeM.writeChunks (writes levels) oid
        [chunk.items.toList]) =
        EncodeM.attempt (EncodeM.writeChunk (writes levels) oid chunk.items.toList) >>= pure := by
      rw [bind_pure]
      exact congrArg EncodeM.attempt (bind_pure_unit (m := EncodeM))
    simp only [some, Bool.false_eq_true, if_false, pieces, last]
    refine .attempt (alike.writeChunk oid busy members) (fun _ _ _ => ?_) (fun error => ?_)
      False.elim
    · have done : Tracks (.drawing A sides store cell exact) n
          (Encoder.Drawing A sides store cell s) PiecesWritten
          (Encoder.Drawing A sides store cell s) (pure (.ok written, chunk.clear))
          fun _ => pure (.ok ()) :=
        .result ⟨.ok trivial, rfl⟩
      exact done.imp (fun _ _ => id) fun _ _ drawing => ⟨s, drawing⟩
    · exact .result ⟨.error error, rfl⟩

/-- What is drawn is collected and written in the pieces that a list of the same items is cut into.
The buffer holds the piece that the cut has come to, with room for the rest of it. -/
theorem ItemsAlike.drawChunks (oid : Oid) {size : ℕ} (limit : ℕ) {rest : List Value}
    (drawn written : ℕ) {room : ℕ} {chunk : Scratch} (count : chunk.items.size + room = size)
    (some : 0 < room) (members : ∀ v ∈ rest, A v) (collected : ∀ v ∈ chunk.items.toList, A v) :
    Tracks (.drawing A sides store cell exact) n
      (Encoder.Drawing A sides store cell ⟨.listed rest, drawn, true⟩) PiecesWritten
      (Encoder.Drawn A sides store cell)
      (EncodeM.drawChunks write oid size cell limit written chunk)
      fun levels => EncodeM.attempt (EncodeM.writeChunks (writes levels) oid
        (chunksBehind size chunk.items.toList.reverse room (rest.take limit))) := by
  induction limit generalizing rest drawn written room chunk with
  | zero => exact alike.writeRest oid size room written rfl collected
  | succ limit ih =>
    unfold EncodeM.drawChunks
    cases rest with
    | nil =>
      refine .ahead (fun item => item = none)
        (fun e e' drawing => ⟨_, _, drawing.draw.1, rfl, drawing.draw.2⟩) ?_
      rintro _ rfl
      exact alike.writeRest oid size room written rfl collected
    | cons item rest =>
      refine .ahead (fun drawn => drawn = Option.some item)
        (fun e e' drawing => ⟨_, _, drawing.draw.1, rfl, drawing.draw.2⟩) ?_
      rintro _ rfl
      have inside : A item := members item (List.mem_cons_self ..)
      have members : ∀ v ∈ rest, A v := fun v h => members v (List.mem_cons_of_mem _ h)
      have pushed : (chunk.push item).items.toList = chunk.items.toList ++ [item] := by
        simp [Scratch.push]
      have collected : ∀ v ∈ (chunk.push item).items.toList, A v := by
        rw [pushed]
        intro v there
        rcases List.mem_append.1 there with before | last
        · exact collected v before
        · rw [List.mem_singleton.1 last]
          exact inside
      have count' : (chunk.push item).items.size = chunk.items.size + 1 := by simp [Scratch.push]
      have current : item :: chunk.items.toList.reverse =
          (chunk.push item).items.toList.reverse := by simp [pushed]
      simp only [List.take_succ_cons, chunksBehind, current]
      by_cases full : room ≤ 1
      · have full' : (chunk.push item).items.size = size := by omega
        rw [if_pos full', if_pos full, List.reverse_reverse]
        simp only [EncodeM.writeChunks, EncodeM.attempt_bind]
        refine .attempt (alike.writeChunk oid rfl collected) (fun _ _ _ => ?_) (fun error => ?_)
          False.elim
        · exact ih _ _ (Nat.zero_add size) (by omega) members (by simp [Scratch.clear])
        · exact .result ⟨.error error, rfl⟩
      · have more : (chunk.push item).items.size ≠ size := by omega
        rw [if_neg more, if_neg full]
        exact ih _ _ (by omega) (by omega) members collected

/-- Slices are put alike, whatever the first side has come to. -/
theorem ItemsAlike.putting {α : Type} {m : EncodeM α} (putting : Putting m) :
    Tracks (.drawing A sides store cell exact) n (Encoder.Drawn A sides store cell) Eq
      (Encoder.Drawn A sides store cell) m fun _ => m := by
  rintro e e' ⟨s, drawing⟩
  have footing : Footing (.strict (.drawing A cell) sides (.besides store cell s) exact)
      (Encoder.Drawing A sides store cell s) := Encoder.Kin.footing alike.lawful
  exact (footing.putting putting).drawing.imp (fun _ _ => id) (fun _ _ drawing => ⟨s, drawing⟩) e e'
    drawing

/-- A sequence of listed items is drawn from and written as the list is. -/
theorem ItemsAlike.writeUncountable {items : List Value} (members : ∀ v ∈ items, A v) (drawn : ℕ) :
    Tracks (.drawing A sides store cell exact) n
      (Encoder.Drawing A sides store cell ⟨.listed items, drawn, true⟩) (fun _ _ => True)
      (Encoder.Drawn A sides store cell)
      (EncodeM.writeUncountable write Tag.seq.code cell)
      fun levels => EncodeM.writeSeq (writes levels) items := by
  have pieces : Tracks (.drawing A sides store cell exact) n
      (Encoder.Drawing A sides store cell ⟨.listed items, drawn, true⟩) (fun _ _ => True)
      (Encoder.Drawn A sides store cell)
      (EncodeM.writeUncountable write Tag.seq.code cell)
      (fun levels => do
        EncodeM.tagged .seq
        let outcome ← EncodeM.attempt (EncodeM.writeChunks (writes levels) Tag.seq.code
          (chunks sides.options.objectChunkSize (items.take (sides.options.limitOf items))))
        EncodeM.conclude outcome
        EncodeM.writeTerminator) := by
    have tagged : Tracks (.drawing A sides store cell exact) n
        (Encoder.Drawing A sides store cell ⟨.listed items, drawn, true⟩) Eq
        (Encoder.Drawing A sides store cell ⟨.listed items, drawn, true⟩)
        (EncodeM.tagged .seq) fun _ => EncodeM.tagged .seq :=
      ((alike.analogy rfl).tagged .seq).drawing
    refine .bind tagged fun _ _ _ => ?_
    -- The first side looks how much it may draw, and borrows a buffer.
    refine .ahead (· = sides.options.limitOf items)
      (fun e e' drawing => ⟨_, _, drawing.drawLimit, rfl, drawing⟩) ?_
    rintro _ rfl
    refine .ahead (· = sides.options)
      (fun e e' drawing => ⟨_, _, rfl, drawing.options_eq.1, drawing⟩) ?_
    rintro _ rfl
    refine .ahead (·.items = #[]) (fun e e' drawing => drawing.rent) fun chunk empty => ?_
    have current : chunk.items.toList.reverse = [] := by simp [empty]
    have room : chunk.items.size + sides.options.objectChunkSize =
        sides.options.objectChunkSize := by simp [empty]
    have whole := alike.drawChunks Tag.seq.code (sides.options.limitOf items) drawn 0 room
      sides.options.objectChunkSize_pos members (by simp [empty])
    rw [current] at whole
    refine .bind whole ?_
    rintro ⟨outcome, chunk⟩ outcome' ⟨concluded, empty⟩
    refine .ahead (fun _ => True) (fun e e' drawn => drawn.giveBack empty) fun _ _ => ?_
    exact .bind (.conclude concluded fun _ _ => id) fun written _ _ =>
      (alike.putting (.put _ _)).returning fun _ => trivial
  refine pieces.congr (fun _ _ _ => rfl) fun e e' drawing levels => ?_
  rw [EncodeM.writeSeq_eq, drawing.options_eq.2]
  rfl

/-- A shared sequence is written as the list of its items is. -/
theorem ItemsAlike.writeLazySeq {items : List Value} (members : ∀ v ∈ items, A v) (drawn : ℕ) :
    Tracks (.drawing A sides store cell exact) n
      (Encoder.Drawing A sides store cell ⟨.listed items, drawn, false⟩) Eq
      (Encoder.Drawn A sides store cell) (EncodeM.writeLazySeq write cell)
      fun levels => EncodeM.writeSeq (writes levels) items := by
  have parts : Tracks (.drawing A sides store cell exact) n
      (Encoder.Drawing A sides store cell ⟨.listed items, drawn, false⟩) Eq
      (Encoder.Drawn A sides store cell) (EncodeM.writeLazySeq write cell)
      fun levels => EncodeM.attempt (EncodeM.writeSeq (writes levels) items) >>=
        EncodeM.conclude := by
    refine .ahead (·.store.sequenceIsBusy cell = false)
      (fun e e' drawing => ⟨e, e, rfl, drawing.busy_eq, drawing⟩) fun e free => ?_
    rw [if_neg (by simp [free])]
    refine .ahead (fun _ => True) (fun e e' drawing => ⟨(), _, rfl, trivial, drawing.mark true⟩)
      fun _ _ => ?_
    refine .bind ((alike.writeUncountable members drawn).attempted id fun _ _ => id) ?_
    intro outcome outcome' concluded
    refine .ahead (fun _ => True) (fun e e' drawn => ⟨(), _, rfl, trivial, drawn.mark false⟩)
      fun _ _ => ?_
    exact (Tracks.conclude concluded fun _ _ => id).returning fun _ => rfl
  simpa only [EncodeM.attempt_conclude] using parts

end

/-! ## From the same encoder -/

/-- The same went to the output, and the cells are the same, apart from one sequence. -/
structure Encoder.SameApartFrom (cell : ℕ) (e e' : Encoder) : Prop where
  output : e'.output = e.output
  position : e'.position = e.position
  sequences {other : ℕ} (ne : other ≠ cell) :
    e'.store.sequences[other]? = e.store.sequences[other]?
  readers : e'.store.readers = e.store.readers
  deferrals : e'.store.deferrals = e.store.deferrals

section

variable {A : Value → Prop} {exact : Bool} {cell : ℕ} {e : Encoder}

theorem Encoder.Drawn.same {sides : Sides} {store : Store} {e' : Encoder}
    (drawn : Encoder.Drawn A sides store cell e e') : e.SameApartFrom cell e' := by
  obtain ⟨s, drawing⟩ := drawn
  obtain ⟨output, position, -⟩ := drawing.outputs
  refine ⟨output, position, fun {other} ne => ?_, drawing.store.readers, drawing.store.deferrals.1⟩
  by_cases draws : (Kind.drawing A cell).Draws other
  · have both := drawing.store.shared draws
    generalize e.store.sequences[other]? = s, e'.store.sequences[other]? = s' at both
    cases both with
    | none => rfl
    | some related => rw [related.1]
  · obtain ⟨first, second⟩ := drawing.store.kept draws
    rw [first, second]
    exact (if_neg ne).symm

variable (encloses : Encloses e.options e.registry e.store A)

include encloses

/-- At the start there is no difference. -/
theorem Encloses.drawing (idle : e.Idle) {s : Sequence}
    (there : e.store.sequences[cell]? = some s) :
    Encoder.Drawing A (e.sides e.options.append) e.store cell s e e := by
  refine ⟨rfl, rfl, idle, idle, ⟨rfl, rfl, trivial⟩, fun {other} draws => ?_, fun {other} _ => ?_,
    rfl, rfl, fun other d there member v brings => encloses member (.brought there brings)⟩
  · cases found : e.store.sequences[other]? with
    | none => exact .none
    | some s => exact .some ⟨rfl, fun v supplies => encloses draws.1.2 (.item found supplies)⟩
  · refine ⟨?_, rfl⟩
    by_cases same : other = cell
    · rw [same, there]
      exact (if_pos rfl).symm
    · exact (if_neg same).symm

/-- The items are written alike. If one of them may lead back to the sequence, nothing is said about
a first side that waits for it. -/
theorem Encloses.itemsAlike (apart : A (.lazySeq cell) → exact = false) (n : ℕ) :
    ItemsAlike A (e.sides e.options.append) e.store cell exact n (EncodeM.encodeWithin n)
      fun levels => EncodeM.encodeWithin levels := by
  have outlets : Outlets (Output.Shared fun _ => True) := .shared fun _ _ _ => trivial
  have waits {s : Sequence} (busy : s.busy = true) {other : ℕ} (member : A (.lazySeq other))
      (same : other = cell) : exact = false ∧
        ∃ s', (Pinned.besides e.store cell s).first other = some s' ∧ s'.busy = true := by
    subst same
    exact ⟨apart member, s, if_pos rfl, busy⟩
  have deferred : DeferredAlike A (Deferral.Same A) :=
    Deferral.Same.alike fun member => encloses member .ready
  refine ⟨Kind.lawful_same deferred outlets,
    fun busy => encloses.analogy deferred outlets (waits busy), fun busy v member => ?_⟩
  exact (encloses.correspondence deferred outlets (fun _ _ _ _ => rfl) (waits busy)).tracked
    ⟨rfl, member⟩

/-- With every number of levels, the sequence is written as the list is. -/
theorem Encloses.lazySeq_tracks (apart : A (.lazySeq cell) → exact = false) {items : List Value}
    (members : ∀ v ∈ items, A v) (drawn : ℕ) :
    Tracks (.drawing A (e.sides e.options.append) e.store cell exact) 0
      (Encoder.Drawing A (e.sides e.options.append) e.store cell ⟨.listed items, drawn, false⟩) Eq
      (Encoder.Drawn A (e.sides e.options.append) e.store cell) (EncodeM.encode (.lazySeq cell))
      fun _ => EncodeM.encode (.seq items) := by
  have each (levels : ℕ) : Tracks (.drawing A (e.sides e.options.append) e.store cell exact) levels
      (Encoder.Drawing A (e.sides e.options.append) e.store cell ⟨.listed items, drawn, false⟩) Eq
      (Encoder.Drawn A (e.sides e.options.append) e.store cell)
      (EncodeM.encodeWithin levels (.lazySeq cell))
      fun levels => EncodeM.encodeWithin levels (.seq items) := by
    cases levels with
    | zero => exact .zero (fun _ => rfl) fun _ => rfl
    | succ levels =>
      apply Tracks.succ
      exact (encloses.itemsAlike apart levels).writeLazySeq members drawn
  exact .got fun e e' drawing => Tracks.deepening (fun levels => .encodeWithin levels _)
    (fun levels => .encodeWithin levels _) each _ _ e e' drawing

end

/-- A shared sequence of listed items is written as the list is: with the same result and the same
bytes, whatever becomes of an item, a handler or the sink. Either no item leads back to the sequence
or, if one does, it is not so far down that the sequence would have to wait for itself. -/
theorem encode_lazySeq {e : Encoder} (idle : e.Idle) {cell : ℕ} {items : List Value} {drawn : ℕ}
    (there : e.store.sequences[cell]? = some { source := .listed items, drawn })
    (ends : (∀ v ∈ items, ¬ Leads e v (.lazySeq cell)) ∨
      ∀ after, EncodeM.encode (.lazySeq cell) e ≠ .error .endless after) :
    Matches Eq (Encoder.SameApartFrom cell) (Encoder.SameApartFrom cell)
      (EncodeM.encode (.lazySeq cell) e) (EncodeM.encode (.seq items) e) := by
  have all (A : Value → Prop) (exact : Bool)
      (encloses : Encloses e.options e.registry e.store A) (members : ∀ v ∈ items, A v)
      (apart : A (.lazySeq cell) → exact = false) :
      (Comparison.drawing A (e.sides e.options.append) e.store cell exact).Excuses
          (EncodeM.encode (.lazySeq cell) e) ∨
        Matches Eq (Encoder.SameApartFrom cell) (Encoder.SameApartFrom cell)
          (EncodeM.encode (.lazySeq cell) e) (EncodeM.encode (.seq items) e) := by
    rcases encloses.lazySeq_tracks apart members drawn e e (encloses.drawing idle there) with
      excused | ⟨result, matched, tends⟩
    · exact .inl excused
    · right
      obtain ⟨_, run : EncodeM.encode (.seq items) e = result⟩ := tends.exists
      rw [run]
      exact matched.imp (fun _ _ drawn => drawn.same) fun _ _ drawn => drawn.same
  rcases ends with never | ends
  · have encloses : Encloses e.options e.registry e.store fun v => ¬ Leads e v (.lazySeq cell) :=
      fun aside part leads => aside (.head part leads)
    rcases all _ true encloses never fun aside => absurd .refl aside with excused | same
    · exact absurd (excused.inexact id).1 Bool.noConfusion
    · exact same
  · have encloses : Encloses e.options e.registry e.store fun _ => True := fun _ _ => trivial
    rcases all _ false encloses (fun _ _ => trivial) fun _ => rfl with excused | same
    · obtain ⟨-, after, run⟩ := excused.inexact id
      exact absurd run (ends after)
    · exact same

theorem not_leads_of_isAtom {e : Encoder} {v : Value} {cell : ℕ} (isAtom : v.isAtom = true) :
    ¬ Leads e v (.lazySeq cell) := by
  intro leads
  rcases leads.cases_head with same | ⟨w, part, -⟩
  · rw [same] at isAtom
    cases isAtom
  · cases part <;> cases isAtom

/-- An item that cannot be written comes behind a full chunk. -/
theorem encode_lazySeq_of_leap_second :
    let items : List Value :=
      [.bool true, .seq [.null], .time ⟨86399, 1500000000, by decide, by decide⟩]
    let e := Encoder.fresh {} { objectChunkSize := 2 } { sink := .unlimited }
      { sequences := #[{ source := .listed items }] }
    Matches Eq (Encoder.SameApartFrom 0) (Encoder.SameApartFrom 0)
      (EncodeM.encode (.lazySeq 0) e) (EncodeM.encode (.seq items) e) := by
  intro items e
  refine encode_lazySeq (Encoder.Idle.fresh _ _ _ _) rfl (.inl fun v inside => ?_)
  rcases List.mem_cons.1 inside with rfl | inside
  · exact not_leads_of_isAtom rfl
  rcases List.mem_cons.1 inside with rfl | inside
  · intro leads
    rcases leads.cases_head with same | ⟨w, part, leads⟩
    · cases same
    · cases part with
      | seq there =>
        rw [List.mem_singleton.1 there] at leads
        exact not_leads_of_isAtom rfl leads
  · rw [List.mem_singleton.1 inside]
    exact not_leads_of_isAtom rfl

end TaggedStream
