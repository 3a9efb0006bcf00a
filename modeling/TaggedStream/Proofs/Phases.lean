import TaggedStream.Proofs.Analogy
import TaggedStream.Proofs.Portable

/-!
Values written side by side, in both phases.

A relation of values is a correspondence if related values are built alike and what is inside is
related again, all the way through the cells of the stores. Then what an encoder comes to with one
value tracks what it comes to with the other. The first phase of a value puts nothing, so notes that
are not saved may stand on one side only: the identifiers of the deferred values above them change
places with the first phase of what is below.
-/

namespace TaggedStream

/-! ## Plans -/

namespace WritePlan

variable {α : Type}

/-- All values that a plan may write, whatever comes of its steps, have a property. -/
inductive All (P : Value → Prop) : WritePlan α → Prop
  | done (result : α) : All P (.done result)
  | refuse (error : StreamError) : All P (.refuse error)
  | put (op : String) (slice : List UInt8) {next : Except StreamError Unit → WritePlan α}
      (rest : ∀ outcome, All P (next outcome)) : All P (.put op slice next)
  | value {v : Value} {next : Except StreamError Unit → WritePlan α} (here : P v)
      (rest : ∀ outcome, All P (next outcome)) : All P (.value v next)

/-- A plan that passes on the error of every step. -/
inductive Strict : WritePlan α → Prop
  | done (result : α) : Strict (.done result)
  | refuse (error : StreamError) : Strict (.refuse error)
  | put (op : String) (slice : List UInt8) {next : Except StreamError Unit → WritePlan α}
      (passes : ∀ error, next (.error error) = .refuse error) (rest : Strict (next (.ok ()))) :
      Strict (.put op slice next)
  | value {v : Value} {next : Except StreamError Unit → WritePlan α}
      (passes : ∀ error, next (.error error) = .refuse error) (rest : Strict (next (.ok ()))) :
      Strict (.value v next)

/-- What a plan writes while nothing goes wrong. -/
def written : WritePlan α → List Value
  | .done _ => []
  | .refuse _ => []
  | .put _ _ next => (next (.ok ())).written
  | .value v next => v :: (next (.ok ())).written

end WritePlan

/-- A handler that passes errors on writes one value after another. -/
theorem Procession.runPlan {c : Comparison} {n : ℕ} {V : Value → Value → Prop}
    {F : List Value → Encoder → Encoder → Prop} {α : Type} {write : Value → EncodeM Unit}
    {writes : ℕ → Value → EncodeM Unit} (h : Procession c n V F write writes) {plan : WritePlan α}
    (strict : plan.Strict) (inside : plan.All fun v => V v v) (ahead : List Value) :
    Tracks c n (F (plan.written ++ ahead)) Eq (F ahead) (EncodeM.runPlan write plan)
      fun levels => EncodeM.runPlan (writes levels) plan := by
  induction plan with
  | done result => exact .result rfl
  | refuse error => exact .refusal error fun _ _ => (h.footing _).failed
  | put op slice next ih =>
    cases strict with
    | put _ _ passes strict =>
      cases inside with
      | put _ _ inside =>
        refine .attempt ((h.footing _).putting (.put op slice))
          (fun _ _ _ => ih _ strict (inside _)) (fun error => ?_) (fun lenient error e => ?_)
        · rw [passes]
          exact .refusal error fun _ _ => id
        · rw [passes]
          exact lenient
  | value v next ih =>
    cases strict with
    | value passes strict =>
      cases inside with
      | value here inside =>
        refine .attempt (h.item v v _ here) (fun _ _ _ => ih _ strict (inside _))
          (fun error => ?_) (fun lenient error e => ?_)
        · rw [passes]
          exact .refusal error fun _ _ => id
        · rw [passes]
          exact lenient

namespace Analogy

variable {c : Comparison} {n : ℕ} {V : Value → Value → Prop} {E : Encoder → Encoder → Prop}
  {α : Type} {write : Value → EncodeM Unit} {writes : ℕ → Value → EncodeM Unit}
  (analogy : Analogy c V E)
  (h : ∀ v w, V v w → Tracks c n E Eq E (write v) fun levels => writes levels w)

include analogy h

/-- A handler that passes errors on does the same on both sides. -/
theorem runPlan_of_strict {plan : WritePlan α} (strict : plan.Strict)
    (inside : plan.All fun v => V v v) :
    Tracks c n E Eq E (EncodeM.runPlan write plan)
      fun levels => EncodeM.runPlan (writes levels) plan :=
  (analogy.procession h).runPlan strict inside []

/-- A handler that goes on after an error does the same on both sides too, if encoders are related
after a refusal as they were before. -/
theorem runPlan_of_tight (tight : ∀ e e', c.failed e e' → E e e') (severe : ¬ c.lenient)
    {plan : WritePlan α} (inside : plan.All fun v => V v v) :
    Tracks c n E Eq E (EncodeM.runPlan write plan)
      fun levels => EncodeM.runPlan (writes levels) plan := by
  induction plan with
  | done result => exact .result rfl
  | refuse error => exact .refusal error fun _ _ => analogy.failed
  | put op slice next ih =>
    cases inside with
    | put _ _ inside =>
      exact .attempt (analogy.putting (.put op slice)) (fun _ _ _ => ih _ (inside _))
        (fun error => (ih _ (inside _)).imp tight fun _ _ => id)
        fun lenient => absurd lenient severe
  | value v next ih =>
    cases inside with
    | value here inside =>
      exact .attempt (h v v here) (fun _ _ _ => ih _ (inside _))
        (fun error => (ih _ (inside _)).imp tight fun _ _ => id)
        fun lenient => absurd lenient severe

end Analogy

/-! ## The first phase puts nothing -/

namespace Quiet

theorem resolve (d : Deferred Value) : Quiet (EncodeM.resolve d) := by
  refine bind settings fun options => bind (onStore _) fun outcome => ?_
  cases outcome with
  | ok v => exact result v
  | error failure => exact halt _

theorem placeholderOf (o : HostObject Value) : Quiet (EncodeM.placeholderOf o) := by
  refine bind settings fun options => ?_
  split
  · exact ⟨fun _ _ _ => rfl⟩
  · exact halt _

theorem refuseLeapSecond (tag : Tag) (t : TimeOfDay) : Quiet (EncodeM.refuseLeapSecond tag t) := by
  unfold EncodeM.refuseLeapSecond
  split
  · exact halt _
  · exact result ()

theorem prepare (fuel : ℕ) (v : Value) : Quiet (EncodeM.prepare fuel v) := by
  induction fuel generalizing v with
  | zero => exact halt _
  | succ fuel ih =>
    cases v with
    | future d =>
      exact bind (resolve d) fun v => bind (ih v) fun _ => result _
    | annotated inner notes =>
      refine bind settings fun options => ?_
      split
      · exact bind (ih inner) fun _ => result _
      · exact result _
    | object o =>
      constructor
      intro e output position
      have same : (e.redirected output position).registry = e.registry := rfl
      rw [EncodeM.prepare, EncodeM.prepareAbove, EncodeM.get_bind, EncodeM.get_bind, same]
      cases e.registry.writer? o.type with
      | some writer => exact (result _).redirected e output position
      | none => exact (bind (placeholderOf o) fun _ => result _).redirected e output position
    | time t => exact bind (refuseLeapSecond _ t) fun _ => result _
    | offsetTime t => exact bind (refuseLeapSecond _ t.time) fun _ => result _
    | _ => exact result _

end Quiet

/-! ## Identifiers in front of the first phase -/

namespace EncodeM

/-- Writes the identifiers of `count` deferred values. -/
def writeFutures : (count : ℕ) → EncodeM Unit
  | 0 => return
  | count + 1 => do
    writeFutures count
    tagged .future

/-- A first phase, and then something in front of the second one. -/
def pend (prepare : EncodeM (EncodeM Unit)) (pre : EncodeM Unit) : EncodeM Unit := do
  let write ← prepare
  pre
  write

/-- A first phase, and then identifiers in front of the second one. -/
abbrev early (prepare : EncodeM (EncodeM Unit)) (count : ℕ) : EncodeM Unit :=
  pend prepare (writeFutures count)

/-- Identifiers in front of both phases. -/
def late (prepare : EncodeM (EncodeM Unit)) (count : ℕ) : EncodeM Unit := do
  writeFutures count
  let write ← prepare
  write

/-- What identifiers do to a willing output does not depend on the rest of the encoder. -/
theorem writeFutures_of_willing (count : ℕ) {e : Encoder} (willing : e.output.Willing) :
    ∃ output position, output.Willing ∧ ∀ s : Encoder, s.output = e.output →
      s.position = e.position → writeFutures count s = .ok () (s.redirected output position) := by
  induction count with
  | zero =>
    refine ⟨e.output, e.position, willing, fun s output position => ?_⟩
    rw [← output, ← position]
    rfl
  | succ count ih =>
    obtain ⟨output, position, willing, run⟩ := ih
    obtain ⟨after, put, kept, -⟩ := Output.put_of_willing Tag.future.spelled willing
    refine ⟨after, position + Tag.future.spelled.length, willing.of_channel_eq kept, ?_⟩
    intro s outputEq positionEq
    have step : tagged .future (s.redirected output position) =
        .ok () (s.redirected after (position + Tag.future.spelled.length)) := by
      change EncodeM.put "write u16" Tag.future.spelled (s.redirected output position) = _
      rw [EncodeM.put, Encoder.redirected, put]
      rfl
    rw [writeFutures, bind_of_ok (run s outputEq positionEq), step]

/-- If the first phase goes well, identifiers in front of it may as well stand behind it. If not,
they make the difference. -/
theorem late_eq (count : ℕ) {e : Encoder} (willing : e.output.Willing) :
    ∃ output position, ∀ prepare : EncodeM (EncodeM Unit), Quiet prepare →
      (∀ write s, prepare e = .ok write s → late prepare count e = early prepare count e) ∧
      ∀ halt s, prepare e = .error halt s → early prepare count e = .error halt s ∧
        late prepare count e = .error halt (s.redirected output position) := by
  obtain ⟨output, position, -, run⟩ := writeFutures_of_willing count willing
  refine ⟨output, position, fun prepare quiet => ?_⟩
  have moved := quiet.redirected e output position
  constructor
  · intro write s prepared
    obtain ⟨outputEq, positionEq⟩ := quiet.output_eq prepared
    rw [prepared] at moved
    rw [late, bind_of_ok (run e rfl rfl), bind_of_ok moved, early, pend, bind_of_ok prepared,
      bind_of_ok (run s outputEq positionEq)]
  · intro halt s prepared
    rw [prepared] at moved
    rw [late, bind_of_ok (run e rfl rfl), bind_of_error moved, early, pend, bind_of_error prepared]
    exact ⟨rfl, rfl⟩

/-- With enough levels the first phase goes well, or it never does. -/
theorem prepare_settles (v : Value) (e : Encoder) :
    (∃ most, ∀ levels ≥ most, ∃ write s, prepare levels v e = .ok write s) ∨
      ∀ levels, ∃ halt s, prepare levels v e = .error halt s := by
  by_cases well : ∃ most write s, prepare most v e = .ok write s
  · left
    obtain ⟨most, well⟩ := well
    refine ⟨most, fun levels le => ?_⟩
    induction levels, le using Nat.le_induction with
    | base => exact well
    | succ levels _ ih =>
      obtain ⟨write, s, run⟩ := ih
      have deeper := Deepens.prepare levels v e
      rw [run] at deeper
      cases found : prepare (levels + 1) v e with
      | ok write s => exact ⟨write, s, rfl⟩
      | error halt s =>
        rw [found] at deeper
        cases deeper
  · right
    intro levels
    cases run : prepare levels v e with
    | ok write s => exact absurd ⟨levels, write, s, run⟩ well
    | error halt s => exact ⟨halt, s, rfl⟩

end EncodeM

/-- What is needed where notes stand on one side only: both sides have as many levels as it takes,
the sinks take everything, and encoders that were refused are compared without their output. -/
structure Comparison.Bare (c : Comparison) (E : Encoder → Encoder → Prop) : Prop where
  exact : c.exact = false
  willing {e e' : Encoder} (related : E e e') : e.output.Willing ∧ e'.output.Willing
  left {e e' : Encoder} (related : c.failed e e') (output : Output) (position : ℕ) :
    c.failed (e.redirected output position) e'
  right {e e' : Encoder} (related : c.failed e e') (output : Output) (position : ℕ) :
    c.failed e (e'.redirected output position)

namespace Comparison.Bare

variable {c : Comparison} {n : ℕ} {E : Encoder → Encoder → Prop} (bare : c.Bare E)

include bare

theorem levels_eq (m : ℕ) : c.levels m = Filter.atTop := by
  rw [Comparison.levels, bare.exact]
  rfl

/-- The number of levels does not matter. -/
theorem relevel {α β : Type} {E₁ E₂ : Encoder → Encoder → Prop} {R : α → β → Prop}
    {m : EncodeM α} {job : ℕ → EncodeM β} (h : Tracks c n E₁ R E₂ m job) (other : ℕ) :
    Tracks c other E₁ R E₂ m job := by
  intro e e' related
  have kept := h e e' related
  rwa [Keeps, bare.levels_eq, ← bare.levels_eq other] at kept

theorem late_left {E' : Encoder → Encoder → Prop} {prepare : EncodeM (EncodeM Unit)}
    (quiet : Quiet prepare) {count : ℕ} {job : ℕ → EncodeM Unit}
    (h : Tracks c n E Eq E' (EncodeM.early prepare count) job) :
    Tracks c n E Eq E' (EncodeM.late prepare count) job := by
  intro e e' related
  obtain ⟨output, position, ends⟩ := EncodeM.late_eq count (bare.willing related).1
  obtain ⟨well, ill⟩ := ends prepare quiet
  have kept := h e e' related
  cases prepared : prepare e with
  | ok write s =>
    rw [well write s prepared]
    exact kept
  | error halt s =>
    obtain ⟨early, late⟩ := ill halt s prepared
    rw [early] at kept
    rw [late]
    rcases kept with excused | ⟨result, matched, tends⟩
    · left
      cases halt <;> exact excused
    · refine .inr ⟨result, ?_, tends⟩
      cases matched with
      | refused related => exact .refused (bare.left related output position)
      | endless => exact .endless

theorem late_right {E' : Encoder → Encoder → Prop} {v : Value} {count : ℕ} {m : EncodeM Unit}
    (h : Tracks c n E Eq E' m fun levels => EncodeM.early (EncodeM.prepare levels v) count) :
    Tracks c n E Eq E' m fun levels => EncodeM.late (EncodeM.prepare levels v) count := by
  intro e e' related
  obtain ⟨output, position, ends⟩ := EncodeM.late_eq count (bare.willing related).2
  rcases h e e' related with excused | ⟨result, matched, tends⟩
  · exact .inl excused
  rw [bare.levels_eq] at tends
  rcases EncodeM.prepare_settles v e' with ⟨most, well⟩ | ill
  · refine .inr ⟨result, matched, ?_⟩
    rw [bare.levels_eq]
    filter_upwards [tends, Filter.eventually_ge_atTop most] with levels run le
    obtain ⟨write, s, prepared⟩ := well levels le
    rw [← run]
    exact (ends _ (.prepare levels v)).1 write s prepared
  · -- The first phase never goes well, so the end is that of the first phase.
    obtain ⟨levels, run⟩ := tends.exists
    obtain ⟨halt, s, prepared⟩ := ill levels
    obtain rfl : result = .error halt s :=
      run.symm.trans ((ends _ (.prepare levels v)).2 halt s prepared).1
    refine .inr ⟨.error halt (s.redirected output position), ?_, ?_⟩
    · generalize m e = first at matched
      cases matched with
      | refused related => exact .refused (bare.right related output position)
      | endless => exact .endless
    · rw [bare.levels_eq]
      filter_upwards [tends] with levels run
      obtain ⟨halt', s', prepared⟩ := ill levels
      obtain ⟨early, late⟩ := (ends _ (.prepare levels v)).2 halt' s' prepared
      rw [early] at run
      cases run
      exact late

end Comparison.Bare

end TaggedStream
