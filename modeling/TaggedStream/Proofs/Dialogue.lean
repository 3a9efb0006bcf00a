import TaggedStream.Proofs.Correspondence

/-!
What an encoder says to its output.

An encoder looks at its output in one way only: it puts a slice and learns whether all of it was
taken. So what it does is a dialogue that is the same for all outputs. It puts a slice, what became
of the slice decides how it goes on, and so forth until it ends. `Converses` says this of a step,
`Composed` how the steps of an encoder are put together, and so every writer converses.
-/

namespace TaggedStream

/-! ## Dialogues -/

/-- Slices that are put one after another, each depending on what became of those before it, and how
it ends. The output of the encoder at the end does not count. -/
inductive Dialogue (α : Type) where
  | ended (result : EStateM.Result Halt Encoder α)
  | put (slice : List UInt8) (next : Option IoCause → Dialogue α)

namespace Dialogue

variable {α β : Type}

/-- The position behind a slice. It moves if all of the slice was taken. -/
def advance (slice : List UInt8) (position : ℕ) : Option IoCause → ℕ
  | none => position + slice.length
  | some _ => position

/-- How a dialogue goes with an output. -/
def play : Dialogue α → (output : Output) → (position : ℕ) → EStateM.Result Halt Encoder α
  | .ended result, output, position => EncodeM.redirect output position result
  | .put slice next, output, position =>
    (next (output.put slice).1).play (output.put slice).2
      (advance slice position (output.put slice).1)

/-- One dialogue behind another, which depends on how the first one ends. -/
def behind (next : EStateM.Result Halt Encoder α → Dialogue β) : Dialogue α → Dialogue β
  | .ended result => next result
  | .put slice rest => .put slice fun cause => (rest cause).behind next

end Dialogue

/-- A step is a dialogue, whatever the output is. -/
def Converses {α : Type} (m : EncodeM α) : Prop :=
  ∀ e : Encoder, ∃ dialogue : Dialogue α, ∀ output position,
    m (e.redirected output position) = dialogue.play output position

namespace Converses

variable {α β : Type} {m : EncodeM α} {m' : EncodeM β} {k : α → EncodeM β}

theorem quiet (h : Quiet m) : Converses m :=
  fun e => ⟨.ended (m e), fun output position => h.redirected e output position⟩

theorem put (op : String) (slice : List UInt8) : Converses (EncodeM.put op slice) := by
  intro e
  refine ⟨.put slice fun cause => .ended (cause.elim (.ok () e) fun cause =>
    .error (.refused (.io op slice.length cause)) e), fun output position => ?_⟩
  rw [Encoder.redirected, EncodeM.put, Dialogue.play]
  rcases output.put slice with ⟨_ | cause, after⟩ <;> rfl

/-- What is done with the end of a dialogue is another dialogue behind it. -/
theorem behind {finish : EStateM.Result Halt Encoder α → EStateM.Result Halt Encoder β}
    (first : Converses m) (whole : ∀ e, m' e = finish (m e))
    (each : ∀ result, ∃ dialogue : Dialogue β, ∀ output position,
      finish (EncodeM.redirect output position result) = dialogue.play output position) :
    Converses m' := by
  choose next ends using each
  intro e
  obtain ⟨dialogue, plays⟩ := first e
  refine ⟨dialogue.behind next, fun output position => ?_⟩
  rw [whole, plays]
  clear plays
  induction dialogue generalizing output position with
  | ended result => exact ends result output position
  | put slice rest ih => exact ih _ _ _

theorem bind (first : Converses m) (second : ∀ a, Converses (k a)) : Converses (m >>= k) := by
  let finish (result : EStateM.Result Halt Encoder α) : EStateM.Result Halt Encoder β :=
    ((fun _ => result : EncodeM α) >>= k) default
  refine @behind _ _ _ _ finish first (fun e => ?_) fun result => ?_
  · cases run : m e with
    | ok a after => exact EncodeM.bind_of_ok run
    | error halt after => exact EncodeM.bind_of_error run
  · cases result with
    | ok a e => exact second a e
    | error halt e => exact ⟨.ended (.error halt e), fun _ _ => rfl⟩

theorem attempt (h : Converses m) : Converses (EncodeM.attempt m) := by
  let finish (result : EStateM.Result Halt Encoder α) :
      EStateM.Result Halt Encoder (Except StreamError α) :=
    EncodeM.attempt (fun _ => result) default
  refine @behind _ _ _ _ finish h (fun e => rfl) fun result => ⟨.ended (finish result), ?_⟩
  rcases result with _ | ⟨_ | _, _⟩ <;> exact fun _ _ => rfl

theorem putting (h : Putting m) : Converses m := by
  induction h with
  | result a => exact quiet (.result a)
  | refusal error => exact quiet (.halt _)
  | put op slice => exact put op slice
  | bind _ _ first second => exact bind first second

/-- A step that looks at something else than the output first. -/
theorem got {k : Encoder → EncodeM β}
    (blind : ∀ e output position, k (e.redirected output position) = k e)
    (h : ∀ e, Converses (k e)) : Converses (get >>= k) := by
  intro e
  obtain ⟨dialogue, plays⟩ := h e e
  refine ⟨dialogue, fun output position => ?_⟩
  rw [EncodeM.get_bind, blind]
  exact plays output position

/-- The first phase says nothing. -/
theorem inTurn {prepare : Value → EncodeM (EncodeM Unit)} {v : Value} (quiet : Quiet (prepare v))
    (second : ∀ e write after, prepare v e = .ok write after → Converses write) :
    Converses (EncodeM.inTurn prepare v) := by
  intro e
  cases run : prepare v e with
  | ok write after =>
    obtain ⟨dialogue, plays⟩ := second e write after run after
    refine ⟨dialogue, fun output position => ?_⟩
    have moved := quiet.redirected e output position
    rw [run] at moved
    exact (EncodeM.bind_of_ok moved).trans (plays output position)
  | error halt after =>
    refine ⟨.ended (.error halt after), fun output position => ?_⟩
    have moved := quiet.redirected e output position
    rw [run] at moved
    exact EncodeM.bind_of_error moved

end Converses

/-- What is made of dialogues is one. -/
theorem Composed.converses {write : Value → EncodeM Unit} {writes : ℕ → Value → EncodeM Unit}
    {α : Type} {m : EncodeM α} {job : ℕ → EncodeM α} (h : Composed write writes m job)
    (each : ∀ v, Converses (write v)) : Converses m := by
  induction h with
  | quiet h => exact .quiet h
  | put op slice => exact .put op slice
  | value v => exact each v
  | bind _ _ first second => exact .bind first second
  | attempt _ ih => exact ih.attempt
  | got blind _ ih => exact .got blind ih

/-! ## Values -/

namespace Converses

/-- The second phase of a value converses. -/
theorem second (fuel : ℕ) {v : Value} {e after : Encoder} {write : EncodeM Unit}
    (prepared : EncodeM.prepare fuel v e = .ok write after) : Converses write := by
  induction fuel generalizing v e after write with
  | zero => cases prepared
  | succ fuel ih =>
    have item (v : Value) : Converses (EncodeM.encodeWithin fuel v) :=
      inTurn (.prepare fuel v) fun e write after => ih
    have aggregate {m : EncodeM Unit} {job : ℕ → EncodeM Unit}
        (composed : Composed (EncodeM.encodeWithin fuel) (fun _ => EncodeM.encodeWithin fuel)
          m job) : Converses m := composed.converses item
    -- Most values are written in the second phase alone.
    have immediate {m : EncodeM Unit} {job : ℕ → EncodeM Unit}
        (first : EncodeM.prepare (fuel + 1) v e = .ok m e)
        (composed : Composed (EncodeM.encodeWithin fuel) (fun _ => EncodeM.encodeWithin fuel)
          m job) : Converses write := by
      cases first.symm.trans prepared
      exact aggregate composed
    by_cases isAtom : v.isAtom = true
    · rcases EncodeM.prepareAbove_atom isAtom with ⟨write', putting, first⟩ | ⟨error, refused⟩
      · exact immediate (first _ _) (.putting putting)
      · cases (refused _ _).symm.trans prepared
    cases v with
    | future d =>
      obtain ⟨u, asked, -, rest⟩ := EncodeM.bind_eq_ok prepared
      obtain ⟨write', _, below, last⟩ := EncodeM.bind_eq_ok rest
      cases last
      exact bind (put _ _) fun _ => ih below
    | annotated inner notes =>
      rw [EncodeM.prepare, EncodeM.prepareAbove, EncodeM.settings_bind] at prepared
      split at prepared
      next =>
        obtain ⟨write', _, below, last⟩ := EncodeM.bind_eq_ok prepared
        cases last
        exact bind (put _ _) fun _ => bind (aggregate (.writeMap notes)) fun _ => ih below
      next =>
        cases prepared
        exact item inner
    | object o =>
      rw [EncodeM.prepare, EncodeM.prepareAbove, EncodeM.get_bind] at prepared
      cases known : e.registry.writer? o.type with
      | some writer =>
        rw [known] at prepared
        cases prepared
        exact bind (quiet .settings) fun _ => aggregate (.runPlan _)
      | none =>
        rw [known] at prepared
        obtain ⟨p, _, -, last⟩ := EncodeM.bind_eq_ok prepared
        cases last
        exact aggregate (.putting (.writePlaceholder p))
    | vector items => exact immediate rfl (.collection _ _ items)
    | set items => exact immediate rfl (.collection _ _ items)
    | map m => exact immediate rfl (.writeMap m)
    | seq items => exact immediate rfl (.writeSeq items)
    | lazySeq cell => exact immediate rfl (.writeLazySeq cell)
    | byteStream cell => exact immediate rfl (.bind (.writeByteStream cell) fun _ => .result ())
    | throwable t => exact immediate rfl (.writeThrowable t)
    | _ => exact absurd rfl isAtom

theorem encodeWithin (fuel : ℕ) (v : Value) : Converses (EncodeM.encodeWithin fuel v) :=
  inTurn (.prepare fuel v) fun _ _ _ => second fuel

end Converses

end TaggedStream
