import TaggedStream.Proofs.Writing

/-!
How the steps of an encoder are put together.

A step is quiet if it neither looks at the output nor changes it. All that an encoder does is made of
quiet steps, slices, the values inside, and attempts: `Composed` says so, once for each writer of
aggregates. A property that is kept by these ways to put steps together is a property of all writers
then. It relates a writer to the same one with other ways to write a value, so it serves for what
does not depend on these ways, too.
-/

namespace TaggedStream

/-! ## Slices and refusals -/

/-- Steps that are made of slices to put and of refusals. -/
inductive Putting : {α : Type} → EncodeM α → Prop
  | result {α : Type} (a : α) : Putting (pure a)
  | refusal {α : Type} (error : StreamError) : Putting (EncodeM.refuse error : EncodeM α)
  | put (op : String) (slice : List UInt8) : Putting (EncodeM.put op slice)
  | bind {α β : Type} {m : EncodeM α} {k : α → EncodeM β} (first : Putting m)
      (second : ∀ a, Putting (k a)) : Putting (m >>= k)

namespace Putting

theorem writeLength (oid : Oid) (length : Nat) :
    Putting (Wire.writeLength oid length : EncodeM Unit) := by
  unfold Wire.writeLength
  split
  · exact put _ _
  · exact refusal _

theorem writeBytes (oid : Oid) (content : List UInt8) :
    Putting (Wire.writeBytes oid content : EncodeM Unit) :=
  bind (writeLength _ _) fun _ => put _ _

theorem forM {α : Type} {item : α → EncodeM Unit} (h : ∀ a, Putting (item a)) (items : List α) :
    Putting (items.forM item) := by
  induction items with
  | nil => exact result ()
  | cons a rest ih => exact bind (h a) fun _ => ih

theorem writeArray {α : Type} (tag : Tag) {item : α → EncodeM Unit} (h : ∀ a, Putting (item a))
    (items : List α) : Putting (EncodeM.writeArray tag item items) :=
  bind (put _ _) fun _ => bind (writeLength _ _) fun _ => forM h items

theorem writeNumber (kind : NumericKind) (constant : Option Folded) {payload : EncodeM Unit}
    (h : Putting payload) : Putting (EncodeM.writeNumber kind constant payload) := by
  cases constant with
  | some constant => exact put _ _
  | none => exact bind (put _ _) fun _ => h

theorem writeOptionalText (text : Option String) : Putting (EncodeM.writeOptionalText text) := by
  refine bind (put _ _) fun _ => ?_
  cases text with
  | none => exact result ()
  | some text => exact writeBytes _ _

theorem writeFrame (frame : Frame) : Putting (EncodeM.writeFrame frame) :=
  bind (writeBytes _ _) fun _ => bind (writeBytes _ _) fun _ =>
    bind (writeOptionalText _) fun _ => put _ _

theorem writeTimestamp (t : Timestamp) : Putting (Wire.writeTimestamp t : EncodeM Unit) :=
  bind (put _ _) fun _ => put _ _

theorem writePlaceholder (p : Placeholder) : Putting (EncodeM.writePlaceholder p) :=
  bind (put _ _) fun _ => bind (writeBytes _ _) fun _ => writeBytes _ _

end Putting

/-! ## Quiet steps -/

/-- The encoder with another output. -/
def Encoder.redirected (e : Encoder) (output : Output) (position : ℕ) : Encoder :=
  { e with output, position }

/-- The same end with another output. -/
def EncodeM.redirect {α : Type} (output : Output) (position : ℕ) :
    EStateM.Result Halt Encoder α → EStateM.Result Halt Encoder α
  | .ok a e => .ok a (e.redirected output position)
  | .error halt e => .error halt (e.redirected output position)

/-- A step that neither looks at the output nor changes it. -/
structure Quiet {α : Type} (m : EncodeM α) : Prop where
  redirected (e : Encoder) (output : Output) (position : ℕ) :
    m (e.redirected output position) = EncodeM.redirect output position (m e)

namespace Quiet

variable {α β : Type} {m : EncodeM α} {k : α → EncodeM β}

theorem result (a : α) : Quiet (pure a : EncodeM α) := ⟨fun _ _ _ => rfl⟩

theorem halt (why : Halt) : Quiet (throw why : EncodeM α) := ⟨fun _ _ _ => rfl⟩

theorem bind (first : Quiet m) (second : ∀ a, Quiet (k a)) : Quiet (m >>= k) := by
  constructor
  intro e output position
  have step := first.redirected e output position
  cases run : m e with
  | ok a after =>
    rw [run] at step
    rw [EncodeM.bind_of_ok run, EncodeM.bind_of_ok step]
    exact (second a).redirected after output position
  | error halt after =>
    rw [run] at step
    rw [EncodeM.bind_of_error run, EncodeM.bind_of_error step]
    rfl

theorem onStore (action : Store → α × Store) : Quiet (EncodeM.onStore action) :=
  ⟨fun _ _ _ => rfl⟩

theorem settings : Quiet EncodeM.settings := ⟨fun _ _ _ => rfl⟩

/-- A quiet step leaves the output as it was. -/
theorem output_eq (h : Quiet m) {e after : Encoder} {a : α} (run : m e = .ok a after) :
    after.output = e.output ∧ after.position = e.position := by
  have same := h.redirected e e.output e.position
  have here : e.redirected e.output e.position = e := rfl
  rw [here, run] at same
  have kept := (EStateM.Result.ok.inj same).2
  rw [kept]
  exact ⟨rfl, rfl⟩

end Quiet

/-! ## How steps are put together -/

/-- A step that is made of quiet steps, slices, values and attempts, and beside it the same step
with ways to write values that depend on a number of levels. -/
inductive Composed (write : Value → EncodeM Unit) (writes : ℕ → Value → EncodeM Unit) :
    {α : Type} → EncodeM α → (ℕ → EncodeM α) → Prop
  | quiet {α : Type} {m : EncodeM α} (h : Quiet m) : Composed write writes m fun _ => m
  | put (op : String) (slice : List UInt8) :
      Composed write writes (EncodeM.put op slice) fun _ => EncodeM.put op slice
  | value (v : Value) : Composed write writes (write v) fun levels => writes levels v
  | bind {α β : Type} {m : EncodeM α} {job : ℕ → EncodeM α} {k : α → EncodeM β}
      {jobs : ℕ → α → EncodeM β} (first : Composed write writes m job)
      (second : ∀ a, Composed write writes (k a) fun levels => jobs levels a) :
      Composed write writes (m >>= k) fun levels => job levels >>= jobs levels
  | attempt {α : Type} {m : EncodeM α} {job : ℕ → EncodeM α} (h : Composed write writes m job) :
      Composed write writes (EncodeM.attempt m) fun levels => EncodeM.attempt (job levels)
  | got {α : Type} {k : Encoder → EncodeM α} {jobs : ℕ → Encoder → EncodeM α}
      (blind : ∀ e output position, k (e.redirected output position) = k e)
      (h : ∀ e, Composed write writes (k e) fun levels => jobs levels e) :
      Composed write writes (get >>= k) fun levels => get >>= jobs levels

namespace Composed

variable {write : Value → EncodeM Unit} {writes : ℕ → Value → EncodeM Unit} {α : Type}

theorem result (a : α) : Composed write writes (pure a) fun _ => pure a := quiet (.result a)

theorem refusal (error : StreamError) : Composed write writes (EncodeM.refuse error : EncodeM α)
    fun _ => EncodeM.refuse error :=
  quiet (.halt _)

theorem onStore (action : Store → α × Store) :
    Composed write writes (EncodeM.onStore action) fun _ => EncodeM.onStore action :=
  quiet (.onStore action)

theorem settings : Composed write writes EncodeM.settings fun _ => EncodeM.settings :=
  quiet .settings

theorem putting {m : EncodeM α} (h : Putting m) : Composed write writes m fun _ => m := by
  induction h with
  | result a => exact result a
  | refusal error => exact refusal error
  | put op slice => exact put op slice
  | bind _ _ first second => exact bind first second

/-! ### Cells and buffers -/

theorem drawLimit (cell : ℕ) :
    Composed write writes (EncodeM.drawLimit cell) fun _ => EncodeM.drawLimit cell := by
  refine bind settings fun options => bind (onStore _) fun size => ?_
  cases options.uncountableMaxItems with
  | some most => exact result most
  | none =>
    cases size with
    | some size => exact result size
    | none => exact quiet (.halt _)

theorem rent : Composed write writes EncodeM.rent fun _ => EncodeM.rent :=
  quiet ⟨fun _ _ _ => rfl⟩

theorem giveBack (chunk : Scratch) :
    Composed write writes (EncodeM.giveBack chunk) fun _ => EncodeM.giveBack chunk := by
  refine quiet ⟨fun ⟨before, registry, options, scratch, place, store⟩ output position => ?_⟩
  cases scratch with
  | none => rfl
  | some kept =>
    change EStateM.Result.ok () (if kept.room < chunk.room then _ else _) =
      EncodeM.redirect output position (.ok () (if kept.room < chunk.room then _ else _))
    split <;> rfl

theorem fill (cell want : ℕ) :
    Composed write writes (EncodeM.fill cell want) fun _ => EncodeM.fill cell want := by
  refine bind (onStore _) fun filled => ?_
  cases filled with
  | bytes content => exact result content
  | failure text missing => exact refusal _

theorem conclude (outcome : Except StreamError α) :
    Composed write writes (EncodeM.conclude outcome) fun _ => EncodeM.conclude outcome := by
  cases outcome with
  | ok a => exact result a
  | error error => exact refusal error

theorem copyBytes (size cell fuel copied : ℕ) :
    Composed write writes (EncodeM.copyBytes size cell fuel copied)
      fun _ => EncodeM.copyBytes size cell fuel copied := by
  induction fuel generalizing copied with
  | zero => exact result copied
  | succ fuel ih =>
    refine bind (fill cell size) fun content => ?_
    cases content with
    | nil => exact result copied
    | cons byte content =>
      refine bind (putting (.writeBytes _ _)) fun _ => ?_
      split
      · exact result _
      · exact ih _

theorem writeByteStream (cell : ℕ) :
    Composed write writes (EncodeM.writeByteStream cell) fun _ => EncodeM.writeByteStream cell :=
  bind (put _ _) fun _ => bind settings fun _ => got (fun _ _ _ => rfl) fun _ =>
    bind (copyBytes _ _ _ _) fun copied => bind (put _ _) fun _ => result copied

/-! ### Aggregates -/

theorem writeAll (items : List Value) : Composed write writes (EncodeM.writeAll write items)
    fun levels => EncodeM.writeAll (writes levels) items := by
  induction items with
  | nil => exact result ()
  | cons v rest ih => exact bind (value v) fun _ => ih

theorem writeEntries (entries : List (Value × Value)) :
    Composed write writes (EncodeM.writeEntries write entries)
      fun levels => EncodeM.writeEntries (writes levels) entries := by
  induction entries with
  | nil => exact result ()
  | cons entry rest ih => exact bind (value entry.1) fun _ => bind (value entry.2) fun _ => ih

theorem writeCountable (oid : Oid) (items : List Value) :
    Composed write writes (EncodeM.writeCountable write oid items)
      fun levels => EncodeM.writeCountable (writes levels) oid items :=
  bind (put _ _) fun _ => bind (putting (.writeLength _ _)) fun _ => writeAll items

theorem collection (tag emptyTag : Tag) (items : List Value) :
    Composed write writes
      (if items.isEmpty then EncodeM.tagged emptyTag
        else EncodeM.writeCountable write tag.code items)
      fun levels => if items.isEmpty then EncodeM.tagged emptyTag
        else EncodeM.writeCountable (writes levels) tag.code items := by
  split
  · exact put _ _
  · exact writeCountable tag.code items

theorem writeMap (m : OrderedMap Value Value) :
    Composed write writes (EncodeM.writeMap write m)
      fun levels => EncodeM.writeMap (writes levels) m := by
  unfold EncodeM.writeMap
  split
  · exact put _ _
  · exact bind (put _ _) fun _ => bind (putting (.writeLength _ _)) fun _ => writeEntries _

theorem writeChunk (oid : Oid) (items : List Value) :
    Composed write writes (EncodeM.writeChunk write oid items)
      fun levels => EncodeM.writeChunk (writes levels) oid items :=
  bind (putting (.writeLength _ _)) fun _ => writeAll items

theorem writeChunks (oid : Oid) (pieces : List (List Value)) :
    Composed write writes (EncodeM.writeChunks write oid pieces)
      fun levels => EncodeM.writeChunks (writes levels) oid pieces := by
  induction pieces with
  | nil => exact result ()
  | cons piece rest ih => exact bind (writeChunk oid piece) fun _ => ih

theorem writeSeq (items : List Value) : Composed write writes (EncodeM.writeSeq write items)
    fun levels => EncodeM.writeSeq (writes levels) items :=
  bind settings fun _ => bind (put _ _) fun _ => bind (writeChunks _ _) fun _ => put _ _

theorem writeRest (oid : Oid) (written : ℕ) (chunk : Scratch) :
    Composed write writes (EncodeM.writeRest write oid written chunk)
      fun levels => EncodeM.writeRest (writes levels) oid written chunk := by
  unfold EncodeM.writeRest
  split
  · exact result _
  · refine bind (attempt (writeChunk oid _)) fun outcome => ?_
    cases outcome with
    | ok _ => exact result _
    | error _ => exact result _

theorem drawChunks (oid : Oid) (size cell limit written : ℕ) (chunk : Scratch) :
    Composed write writes (EncodeM.drawChunks write oid size cell limit written chunk)
      fun levels => EncodeM.drawChunks (writes levels) oid size cell limit written chunk := by
  induction limit generalizing written chunk with
  | zero => exact writeRest oid written chunk
  | succ limit ih =>
    refine bind (onStore _) fun drawn => ?_
    cases drawn with
    | none => exact writeRest oid written chunk
    | some item =>
      dsimp only
      split
      · refine bind (attempt (writeChunk oid _)) fun outcome => ?_
        cases outcome with
        | ok _ => exact ih _ _
        | error _ => exact result _
      · exact ih _ _

theorem writeUncountable (oid : Oid) (cell : ℕ) :
    Composed write writes (EncodeM.writeUncountable write oid cell)
      fun levels => EncodeM.writeUncountable (writes levels) oid cell :=
  bind (put _ _) fun _ => bind (drawLimit cell) fun _ => bind settings fun _ =>
    bind rent fun _ => bind (drawChunks _ _ _ _ _ _) fun _ => bind (giveBack _) fun _ =>
      bind (conclude _) fun written => bind (put _ _) fun _ => result written

theorem writeLazySeq (cell : ℕ) : Composed write writes (EncodeM.writeLazySeq write cell)
    fun levels => EncodeM.writeLazySeq (writes levels) cell := by
  refine got (fun _ _ _ => rfl) fun e => ?_
  split
  · exact bind (quiet (.halt _)) fun _ => bind (onStore _) fun _ =>
      bind (attempt (writeUncountable _ _)) fun _ => bind (onStore _) fun _ =>
        bind (conclude _) fun _ => result ()
  · exact bind (onStore _) fun _ => bind (attempt (writeUncountable _ _)) fun _ =>
      bind (onStore _) fun _ => bind (conclude _) fun _ => result ()

theorem encodeDrawn (cell limit written : ℕ) :
    Composed write writes (EncodeM.encodeDrawn write cell limit written)
      fun levels => EncodeM.encodeDrawn (writes levels) cell limit written := by
  induction limit generalizing written with
  | zero => exact result written
  | succ limit ih =>
    refine bind (onStore _) fun drawn => ?_
    cases drawn with
    | none => exact result written
    | some v => exact bind (value v) fun _ => ih _

mutual

theorem writeThrowable (t : Throwable Value) :
    Composed write writes (EncodeM.writeThrowable write t)
      fun levels => EncodeM.writeThrowable (writes levels) t := by
  obtain ⟨message, frames, cause, suppressed, data⟩ := t
  have below : Composed write writes
      (do
        EncodeM.writeOptionalText message
        Wire.writeLength Tag.throwable.code frames.length
        frames.forM EncodeM.writeFrame
        EncodeM.writeCause write cause
        Wire.writeLength Tag.throwable.code suppressed.length
        EncodeM.writeSuppressed write suppressed)
      (fun levels => do
        EncodeM.writeOptionalText message
        Wire.writeLength Tag.throwable.code frames.length
        frames.forM EncodeM.writeFrame
        EncodeM.writeCause (writes levels) cause
        Wire.writeLength Tag.throwable.code suppressed.length
        EncodeM.writeSuppressed (writes levels) suppressed) :=
    bind (putting (.writeOptionalText _)) fun _ => bind (putting (.writeLength _ _)) fun _ =>
      bind (putting (.forM .writeFrame _)) fun _ => bind (writeCause cause) fun _ =>
        bind (putting (.writeLength _ _)) fun _ => writeSuppressed suppressed
  cases data with
  | none => exact bind (put _ _) fun _ => below
  | some m => exact bind (put _ _) fun _ => bind (writeMap m) fun _ => below

theorem writeCause (cause : Option (Throwable Value)) :
    Composed write writes (EncodeM.writeCause write cause)
      fun levels => EncodeM.writeCause (writes levels) cause := by
  cases cause with
  | none => exact put _ _
  | some t => exact bind (put _ _) fun _ => writeThrowable t

theorem writeSuppressed (ts : List (Throwable Value)) :
    Composed write writes (EncodeM.writeSuppressed write ts)
      fun levels => EncodeM.writeSuppressed (writes levels) ts := by
  cases ts with
  | nil => exact result ()
  | cons t rest => exact bind (writeThrowable t) fun _ => writeSuppressed rest

end

/-- A handler may go on after the error of a step. -/
theorem runPlan (plan : WritePlan α) : Composed write writes (EncodeM.runPlan write plan)
    fun levels => EncodeM.runPlan (writes levels) plan := by
  induction plan with
  | done a => exact result a
  | refuse error => exact refusal error
  | put op slice next ih => exact bind (attempt (put op slice)) ih
  | value v next ih => exact bind (attempt (value v)) ih

end Composed

end TaggedStream
