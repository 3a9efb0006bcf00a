import Mathlib
import TaggedStream.Proofs.Dialogue
import TaggedStream.Proofs.Sessions

/-!
Where an encoder says it is, and what its sink holds.

Whatever an encoder without a buffer is asked for, its position and its sink stay in step until a
write fails: the position counts the bytes that the sink took, and these are the first of those that
a sink without limits takes. A write that fails leaves behind the sink a part of its slice, and the
position where the slice began. Errors that do not come from the sink change nothing about this.
-/

namespace TaggedStream

/-! ## As many levels as it takes -/

/-- A job comes to what a step comes to with all large numbers of levels, unless the step never
ends. -/
def Attains {α : Type} (m : EncodeM α) (job : ℕ → EncodeM α) : Prop :=
  ∀ e, (∃ after, m e = .error .endless after) ∨ ∀ᶠ levels in Filter.atTop, job levels e = m e

namespace Attains

variable {α β : Type} {m : EncodeM α} {job : ℕ → EncodeM α} {k : α → EncodeM β}
  {jobs : ℕ → α → EncodeM β}

theorem steady (m : EncodeM α) : Attains m fun _ => m := fun _ => .inr (.of_forall fun _ => rfl)

theorem bind (first : Attains m job) (second : ∀ a, Attains (k a) fun levels => jobs levels a) :
    Attains (m >>= k) fun levels => job levels >>= jobs levels := by
  intro e
  rcases first e with ⟨after, never⟩ | tends
  · exact .inl ⟨after, EncodeM.bind_of_error never⟩
  cases run : m e with
  | ok a between =>
    rw [EncodeM.bind_of_ok run]
    rcases second a between with never | tends'
    · exact .inl never
    · right
      filter_upwards [tends, tends'] with levels same same'
      rw [EncodeM.bind_of_ok (same.trans run), same']
  | error halt between =>
    right
    filter_upwards [tends] with levels same
    rw [EncodeM.bind_of_error run, EncodeM.bind_of_error (same.trans run)]

theorem attempt (h : Attains m job) :
    Attains (EncodeM.attempt m) fun levels => EncodeM.attempt (job levels) := by
  intro e
  rcases h e with ⟨after, never⟩ | tends
  · exact .inl ⟨after, EncodeM.attempt_of_endless never⟩
  · right
    filter_upwards [tends] with levels same
    rw [EncodeM.attempt, EncodeM.attempt, same]

/-- A session gives a job as many levels as it takes. -/
theorem deepening (deepens : ∀ levels, Deepens (job levels) (job (levels + 1))) (start : ℕ) :
    Attains (EncodeM.deepening job start) job := by
  intro e
  by_cases enough : ∃ levels, ∀ after, job levels e ≠ .error .endless after
  · right
    obtain ⟨levels, enough⟩ := enough
    filter_upwards [Filter.eventually_ge_atTop levels] with more le
    rw [EncodeM.eq_of_enough deepens enough le, EncodeM.deepening_of_enough deepens enough]
  · left
    obtain ⟨levels, same⟩ := EncodeM.exists_eq_deepening job start e
    by_contra ends
    exact enough ⟨levels, fun after run => ends ⟨after, same.symm.trans run⟩⟩

theorem withLevels {session : (Value → EncodeM Unit) → EncodeM α}
    (h : ∀ write, (∀ v, Attains (write v) fun levels => EncodeM.encodeWithin levels v) →
      Attains (session write) job) : Attains (EncodeM.withLevels session) job :=
  fun e => h _ (fun v => deepening (fun levels => .encodeWithin levels v) _) e

end Attains

theorem Composed.attains {write : Value → EncodeM Unit} {writes : ℕ → Value → EncodeM Unit}
    {α : Type} {m : EncodeM α} {job : ℕ → EncodeM α} (h : Composed write writes m job)
    (each : ∀ v, Attains (write v) fun levels => writes levels v) : Attains m job := by
  induction h with
  | quiet => exact .steady _
  | put => exact .steady _
  | value v => exact each v
  | bind _ _ first second => exact .bind first second
  | attempt _ ih => exact ih.attempt
  | got _ _ ih => exact .bind (.steady get) ih

/-! ## Sessions -/

/-- What an encoder can be asked for, given a way to write values. -/
def Request.performBy (write : Value → EncodeM Unit) : Request → EncodeM Unit
  | .value v => write v
  | .all cell => do
    let limit ← EncodeM.drawLimit cell
    let _ ← EncodeM.encodeDrawn write cell limit 0
  | .uncountable oid cell => do
    let _ ← EncodeM.writeUncountable write oid cell
  | .countable oid items => EncodeM.writeCountable write oid items
  | .map m => EncodeM.writeMap write m
  | .byteStream cell => do
    let _ ← EncodeM.writeByteStream cell

namespace Encoder

/-- A call of an encoder: a request, or any slices and refusals of the writer that it is. What
values refer to may change in between. -/
inductive Call where
  | request (what : Request)
  | writer (write : EncodeM Unit) (putting : Putting write)
  | elsewhere (change : Store → Store)

/-- Does what a call says, given a way to do requests. -/
def Call.run (perform : Request → EncodeM Unit) : Call → EncodeM Unit
  | .request what => perform what
  | .writer write _ => write
  | .elsewhere change => EncodeM.onStore fun store => ((), change store)

/-- One call after another, whatever comes of them. -/
def runAll (perform : Request → EncodeM Unit) : List Call → EncodeM Unit
  | [] => return
  | call :: rest => do
    let _ ← EncodeM.attempt (call.run perform)
    runAll perform rest

/-- A new encoder writes the header, unless it appends, and is then called. -/
def session (perform : Request → EncodeM Unit) (calls : List Call) : EncodeM Unit := do
  EncodeM.start
  runAll perform calls

end Encoder

theorem Request.attains (request : Request) :
    Attains request.perform fun levels => request.performBy (EncodeM.encodeWithin levels) := by
  cases request with
  | value v => exact .withLevels fun write each => each v
  | all cell =>
    have drawn (limit : ℕ) : Attains
        (EncodeM.withLevels fun write => EncodeM.encodeDrawn write cell limit 0)
        fun levels => EncodeM.encodeDrawn (EncodeM.encodeWithin levels) cell limit 0 :=
      .withLevels fun write each => (Composed.encodeDrawn cell limit 0).attains each
    unfold Request.perform EncodeM.encodeAll
    simp only [bind_assoc]
    exact .bind (.steady _) fun limit => .bind (drawn limit) fun _ => .steady _
  | uncountable oid cell =>
    have written : Attains
        (EncodeM.withLevels fun write => EncodeM.writeUncountable write oid cell)
        fun levels => EncodeM.writeUncountable (EncodeM.encodeWithin levels) oid cell :=
      .withLevels fun write each => (Composed.writeUncountable oid cell).attains each
    exact .bind written fun _ => .steady _
  | countable oid items =>
    exact .withLevels fun write each => (Composed.writeCountable oid items).attains each
  | map m => exact .withLevels fun write each => (Composed.writeMap m).attains each
  | byteStream cell => exact .steady _

namespace Composed

variable {write : Value → EncodeM Unit} {writes : ℕ → Value → EncodeM Unit}

theorem performBy (request : Request) : Composed write writes (request.performBy write)
    fun levels => request.performBy (writes levels) := by
  cases request with
  | value v => exact value v
  | all cell =>
    exact bind (drawLimit cell) fun limit => bind (encodeDrawn _ _ _) fun _ => result ()
  | uncountable oid cell => exact bind (writeUncountable oid cell) fun _ => result ()
  | countable oid items => exact writeCountable oid items
  | map m => exact writeMap m
  | byteStream cell => exact bind (writeByteStream cell) fun _ => result ()

end Composed

namespace Encoder

variable {perform : Request → EncodeM Unit}

theorem session_attains {performs : ℕ → Request → EncodeM Unit}
    (each : ∀ request, Attains (perform request) fun levels => performs levels request)
    (calls : List Call) :
    Attains (session perform calls) fun levels => session (performs levels) calls := by
  refine .bind (.steady _) fun _ => ?_
  induction calls with
  | nil => exact .steady _
  | cons call rest ih =>
    refine .bind (.attempt ?_) fun _ => ih
    cases call with
    | request what => exact each what
    | writer write putting => exact .steady _
    | elsewhere change => exact .steady _

theorem session_converses (each : ∀ request, Converses (perform request)) (calls : List Call) :
    Converses (session perform calls) := by
  have start : Converses EncodeM.start := by
    refine .bind (.quiet .settings) fun options => ?_
    split
    · exact .quiet (.result ())
    · exact .putting (.bind (.put _ _) fun _ => .put _ _)
  refine .bind start fun _ => ?_
  induction calls with
  | nil => exact .quiet (.result ())
  | cons call rest ih =>
    refine .bind (.attempt ?_) fun _ => ih
    cases call with
    | request what => exact each what
    | writer write putting => exact .putting putting
    | elsewhere change => exact .quiet ⟨fun _ _ _ => rfl⟩

end Encoder

/-! ## Writes that fail -/

namespace Sink

/-- A sink takes all of a slice, or the write fails and the sink took a part of it. -/
inductive Takes (slice : List UInt8) (sink : Sink) : Option IoCause × Sink → Prop
  | whole {after : Sink} (received : after.received.toList = sink.received.toList ++ slice) :
      Takes slice sink (none, after)
  | partly {cause : IoCause} {after : Sink} (part rest : List UInt8) (cut : slice = part ++ rest)
      (more : rest ≠ []) (received : after.received.toList = sink.received.toList ++ part) :
      Takes slice sink (some cause, after)

/-- Behind a byte that was taken, the rest of the slice decides. -/
theorem Takes.behind {byte : UInt8} {rest : List UInt8} {sink : Sink}
    {result : Option IoCause × Sink}
    (h : Takes rest { sink with received := sink.received.push byte } result) :
    Takes (byte :: rest) sink result := by
  have taken (bytes : List UInt8) :
      (sink.received.push byte).toList ++ bytes = sink.received.toList ++ byte :: bytes := by
    rw [Array.toList_push, List.append_assoc]
    rfl
  cases h with
  | whole received => exact .whole (received.trans (taken rest))
  | partly part left cut more received =>
    exact .partly (byte :: part) left (congrArg (byte :: ·) cut) more (received.trans (taken part))

theorem takes_deliver (stalled : IoCause) (granted : ℕ) (slice : List UInt8) (sink : Sink) :
    Takes slice sink (sink.deliver stalled granted slice) := by
  induction slice generalizing granted sink with
  | nil =>
    rw [deliver]
    exact .whole (List.append_nil _).symm
  | cons byte rest ih =>
    have refused (cause : IoCause) :
        Takes (byte :: rest) sink (some cause, { sink with refused := sink.refused + 1 }) :=
      .partly [] (byte :: rest) rfl (List.cons_ne_nil _ _) (List.append_nil _).symm
    cases granted with
    | succ granted => exact (ih granted _).behind
    | zero =>
      rw [deliver]
      cases sink.accept sink.refused sink.received.size (rest.length + 1) with
      | error cause => exact refused cause
      | ok granted =>
        cases granted with
        | zero => exact refused stalled
        | succ granted => exact (ih granted _).behind

theorem takes_put (slice : List UInt8) (sink : Sink) : Takes slice sink (sink.put slice) :=
  takes_deliver _ 0 slice sink

end Sink

/-! ## Moments of a run -/

/-- What was put last and whether all of it was taken, what the sink holds then, and the position.
-/
structure Moment where
  slice : List UInt8
  cause : Option IoCause
  received : List UInt8
  position : ℕ

/-- The position counts what the sink holds behind the bytes that it held before. A part of a slice
may have been taken on top of it if the write failed, but not all. -/
structure Moment.InStep (before : ℕ) (m : Moment) : Prop where
  whole : m.cause = none → m.received.length = before + m.position
  partly : m.cause ≠ none → ∃ part rest, m.slice = part ++ rest ∧ rest ≠ [] ∧
    m.received.length = before + m.position + part.length

/-- The encoder that a run leaves behind. -/
def EncodeM.leaves {α : Type} : EStateM.Result Halt Encoder α → Encoder
  | .ok _ e => e
  | .error _ e => e

namespace Dialogue

variable {α : Type}

/-- The moments behind the writes of a dialogue with a sink, up to the first write that fails. -/
def moments : Dialogue α → (sink : Sink) → (position : ℕ) → List Moment
  | .ended _, _, _ => []
  | .put slice next, sink, position =>
    let cause := (sink.put slice).1
    let after := (sink.put slice).2
    ⟨slice, cause, after.received.toList, advance slice position cause⟩ ::
      if cause = none then (next none).moments after (position + slice.length) else []

/-- Without a buffer, the sink decides what becomes of a slice. -/
theorem play_put (slice : List UInt8) (next : Option IoCause → Dialogue α) (sink : Sink)
    (position : ℕ) : (put slice next).play { sink } position =
      (next (sink.put slice).1).play { sink := (sink.put slice).2 }
        (advance slice position (sink.put slice).1) :=
  rfl

/-- What a sink took it keeps. -/
theorem received_play (d : Dialogue α) (sink : Sink) (position : ℕ) :
    sink.received.toList <+: (EncodeM.leaves (d.play { sink } position)).output.received := by
  induction d generalizing sink position with
  | ended result => cases result <;> exact List.prefix_refl _
  | put slice next ih =>
    have takes := sink.takes_put slice
    rw [play_put]
    generalize sink.put slice = result at takes ⊢
    have grown : sink.received.toList <+: result.2.received.toList := by
      cases takes with
      | whole received => exact received ▸ List.prefix_append ..
      | partly part rest cut more received => exact received ▸ List.prefix_append ..
    exact grown.trans (ih _ _ _)

theorem inStep_moments (d : Dialogue α) {sink : Sink} {before position : ℕ}
    (same : sink.received.toList.length = before + position) :
    ∀ m ∈ d.moments sink position, m.InStep before := by
  induction d generalizing sink position with
  | ended result => exact List.forall_mem_nil _
  | put slice next ih =>
    have takes := sink.takes_put slice
    rw [moments]
    generalize sink.put slice = result at takes ⊢
    cases takes with
    | @whole after received =>
      have counted : after.received.toList.length = before + (position + slice.length) := by
        rw [received, List.length_append, same, Nat.add_assoc]
      rw [if_pos rfl]
      refine List.forall_mem_cons.2 ⟨⟨fun _ => counted, fun failed => absurd rfl failed⟩, ?_⟩
      exact ih none counted
    | @partly cause after part rest cut more received =>
      have counted : after.received.toList.length = before + position + part.length := by
        rw [received, List.length_append, same]
      rw [if_neg (Option.some_ne_none cause)]
      refine List.forall_mem_cons.2 ⟨⟨fun taken => ?_, fun _ => ?_⟩, List.forall_mem_nil _⟩
      · cases taken
      · exact ⟨part, rest, cut, more, counted⟩

/-- A willing sink takes the whole of the next slice. -/
theorem play_of_willing {slice : List UInt8} {next : Option IoCause → Dialogue α} {sink : Sink}
    (willing : sink.Willing) (position : ℕ) : (put slice next).play { sink } position =
      (next none).play { sink := sink.filled slice } (position + slice.length) := by
  rw [play_put, Sink.put, Sink.deliver_of_willing _ _ _ _ willing]
  rfl

section

variable {sink full : Sink} (willing : full.Willing)
  (same : full.received.toList = sink.received.toList)

include willing same

/-- Up to the first write that fails, a sink that takes everything takes the same bytes. -/
theorem prefix_of_moments (d : Dialogue α) (position position' : ℕ) :
    ∀ m ∈ d.moments sink position,
      m.received <+: (EncodeM.leaves (d.play { sink := full } position')).output.received := by
  induction d generalizing sink full position position' with
  | ended result => exact List.forall_mem_nil _
  | put slice next ih =>
    have willing' : (full.filled slice).Willing := willing
    have filled : (full.filled slice).received.toList = sink.received.toList ++ slice := by
      simp [Sink.filled, same]
    have later := received_play (next none) (full.filled slice) (position' + slice.length)
    rw [filled] at later
    have takes := sink.takes_put slice
    rw [play_of_willing willing, moments]
    generalize sink.put slice = result at takes ⊢
    cases takes with
    | whole received =>
      rw [if_pos rfl]
      refine List.forall_mem_cons.2 ⟨received ▸ later, ?_⟩
      exact ih none willing' (filled.trans received.symm) _ _
    | @partly cause after part rest cut more received =>
      rw [if_neg (Option.some_ne_none cause)]
      refine List.forall_mem_cons.2 ⟨?_, List.forall_mem_nil _⟩
      have begun : after.received.toList <+: sink.received.toList ++ slice := by
        rw [received, cut, ← List.append_assoc]
        exact List.prefix_append ..
      exact begun.trans later

/-- If no write fails, the position counts all that the sink took, and a sink that takes everything
takes nothing else. -/
theorem leaves_of_taken (d : Dialogue α) {before position : ℕ} (position' : ℕ)
    (counted : sink.received.toList.length = before + position)
    (taken : ∀ m ∈ d.moments sink position, m.cause = none) :
    let after := EncodeM.leaves (d.play { sink } position)
    after.output.received.length = before + after.position ∧ after.output.received =
      (EncodeM.leaves (d.play { sink := full } position')).output.received := by
  induction d generalizing sink full position position' with
  | ended result =>
    have left (output : Output) (position : ℕ) :
        (EncodeM.leaves (EncodeM.redirect output position result)).output = output ∧
          (EncodeM.leaves (EncodeM.redirect output position result)).position = position := by
      cases result <;> exact ⟨rfl, rfl⟩
    dsimp only [play]
    rw [(left _ _).1, (left _ _).1, (left _ _).2]
    exact ⟨counted, same.symm⟩
  | put slice next ih =>
    have takes := sink.takes_put slice
    rw [moments] at taken
    rw [play_of_willing willing, play_put]
    generalize sink.put slice = result at takes taken ⊢
    obtain ⟨here, later⟩ := List.forall_mem_cons.1 taken
    cases takes with
    | @whole after received =>
      have willing' : (full.filled slice).Willing := willing
      have filled : (full.filled slice).received.toList = after.received.toList := by
        simp [Sink.filled, same, received]
      have counted : after.received.toList.length = before + (position + slice.length) := by
        rw [received, List.length_append, counted, Nat.add_assoc]
      exact ih none willing' filled _ counted later
    | partly => cases here

end

end Dialogue

/-! ## Encoders over sinks -/

namespace Encoder

/-- A new encoder over a sink, without a buffer, and what it is then called for.

It puts the same slices over all sinks as long as these take them: the calls are dialogues, one for
each number of levels, and a session that ends is what they come to with all large numbers of
levels. Up to the first write that fails, the position counts what the sink took, with at most a
part of the slice of that write on top, whatever the calls failed with. If no write fails, this is
so in the end. And the sink holds the first of the bytes that a sink without limits takes. -/
theorem session_in_step (registry : Registry) (options : Options) (store : Store)
    (calls : List Call) :
    ∃ dialogue : ℕ → Dialogue Unit, ∀ sink : Sink,
      let run (sink : Sink) :=
        session Request.perform calls (.fresh registry options { sink } store)
      let unlimited : Sink := { received := sink.received }
      (∀ after, run sink ≠ .error .endless after) → ∀ᶠ levels in Filter.atTop,
        let moments := (dialogue levels).moments sink 0
        let after := EncodeM.leaves (run sink)
        let whole := (EncodeM.leaves (run unlimited)).output.received
        run sink = (dialogue levels).play { sink } 0 ∧
        (∀ m ∈ moments, m.InStep sink.received.size) ∧
        ((∀ m ∈ moments, m.cause = none) →
          after.output.received.length = sink.received.size + after.position) ∧
        ((∀ after, run unlimited ≠ .error .endless after) →
          (∀ m ∈ moments, m.received <+: whole) ∧
          ((∀ m ∈ moments, m.cause = none) → after.output.received = whole)) := by
  let within (levels : ℕ) (request : Request) : EncodeM Unit :=
    request.performBy (EncodeM.encodeWithin levels)
  have converses (levels : ℕ) : Converses (session (within levels) calls) := by
    refine session_converses (fun request => ?_) calls
    have composed : Composed (EncodeM.encodeWithin levels) (fun _ => EncodeM.encodeWithin levels)
      (within levels request) _ := .performBy request
    exact composed.converses (.encodeWithin levels)
  choose dialogue plays using fun levels =>
    converses levels (.fresh registry options { sink := .unlimited } store)
  refine ⟨dialogue, ?_⟩
  intro sink run unlimited ends
  have attained {sink : Sink} (ends : ∀ after, run sink ≠ .error .endless after) :
      ∀ᶠ levels in Filter.atTop, run sink = (dialogue levels).play { sink } 0 := by
    rcases session_attains Request.attains calls (.fresh registry options { sink } store) with
      ⟨after, never⟩ | tends
    · exact absurd never (ends after)
    · filter_upwards [tends] with levels same
      exact same.symm.trans (plays levels { sink } 0)
  have counted : sink.received.toList.length = sink.received.size + 0 := Array.length_toList
  have held : unlimited.received.toList = sink.received.toList := rfl
  have inStep (levels : ℕ) := (dialogue levels).inStep_moments counted
  have willing : unlimited.Willing := Output.willing_of_unlimited
  have begun (levels : ℕ) := (dialogue levels).prefix_of_moments willing held 0 0
  have last (levels : ℕ) := (dialogue levels).leaves_of_taken willing held 0 counted
  by_cases ends' : ∀ after, run unlimited ≠ .error .endless after
  · filter_upwards [attained ends, attained ends'] with levels same same'
    rw [same, same']
    exact ⟨rfl, inStep levels, fun taken => (last levels taken).1,
      fun _ => ⟨begun levels, fun taken => (last levels taken).2⟩⟩
  · filter_upwards [attained ends] with levels same
    rw [same]
    exact ⟨rfl, inStep levels, fun taken => (last levels taken).1, fun ends => absurd ends ends'⟩

/-- A sink takes three bytes at a time and is full after forty: behind the header, the identifier of
a byte stream and the count of its first chunk, there is room for two bytes of six. -/
theorem session_in_step_of_full_sink :
    let sink : Sink := .bounded (some 40) (some 3) false true
    let run (sink : Sink) := session Request.perform
      [.request (.byteStream 0), .writer (Wire.writeText Tag.string.code "abc") (.writeBytes _ _)]
      (.fresh {} {} { sink } { readers := #[[.bytes [1, 2, 3, 4, 5, 6]]] })
    let whole := EncodeM.leaves (run { received := sink.received })
    ∃ dialogue : Dialogue Unit, run sink = dialogue.play { sink } 0 ∧
      ∃ m ∈ dialogue.moments sink 0, m.cause ≠ none ∧ m.InStep 0 ∧
        m.received <+: whole.output.received := by
  obtain ⟨after, ran, position, received⟩ : ∃ after : Encoder, session Request.perform
      [.request (.byteStream 0), .writer (Wire.writeText Tag.string.code "abc") (.writeBytes _ _)]
      (.fresh {} {} { sink := .bounded (some 40) (some 3) false true }
        { readers := #[[.bytes [1, 2, 3, 4, 5, 6]]] }) = .ok () after ∧
      after.position = 38 ∧ after.output.received.length = 40 := ⟨_, by cbv, by cbv, by cbv⟩
  obtain ⟨after', ran'⟩ : ∃ after : Encoder, session Request.perform
      [.request (.byteStream 0), .writer (Wire.writeText Tag.string.code "abc") (.writeBytes _ _)]
      (.fresh {} {} { sink :=
          { received := (Sink.bounded (some 40) (some 3) false true).received } }
        { readers := #[[.bytes [1, 2, 3, 4, 5, 6]]] }) = .ok () after := ⟨_, by cbv⟩
  obtain ⟨dialogue, inStep⟩ := session_in_step {} {} { readers := #[[.bytes [1, 2, 3, 4, 5, 6]]] }
    [.request (.byteStream 0), .writer (Wire.writeText Tag.string.code "abc") (.writeBytes _ _)]
  have found := inStep (.bounded (some 40) (some 3) false true)
  dsimp only at found ⊢
  rw [ran, ran'] at found ⊢
  obtain ⟨levels, same, moments, last, begun⟩ :=
    (found fun _ never => by cases never).exists
  refine ⟨dialogue levels, same, ?_⟩
  by_contra unfailing
  have counted := last fun m here => by
    by_contra failed
    exact unfailing ⟨m, here, failed, moments m here,
      (begun fun _ never => by cases never).1 m here⟩
  change after.output.received.length = 0 + after.position at counted
  rw [position, received] at counted
  cases counted

end Encoder

end TaggedStream
