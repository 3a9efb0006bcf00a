import TaggedStream.Proofs.Composition

/-!
More levels change nothing.

An encoder that runs out of levels stops as one that would never end. `Deepens m m'` says that `m'`
does what `m` does unless `m` stops so. Giving an encoder one level more makes it deepen, whatever
its handlers do; so a session, which adds levels until there are enough, does what the encoder does
with any number of levels that is enough.
-/

namespace TaggedStream

/-- The second result is that of the first, with a related value, unless the first one is a want of
levels. -/
inductive Settles {α β : Type} (R : α → β → Prop) :
    EStateM.Result Halt Encoder α → EStateM.Result Halt Encoder β → Prop
  | endless {e : Encoder} {result : EStateM.Result Halt Encoder β} :
      Settles R (.error .endless e) result
  | refused {error : StreamError} {e : Encoder} :
      Settles R (.error (.refused error) e) (.error (.refused error) e)
  | ok {a : α} {b : β} {e : Encoder} (related : R a b) : Settles R (.ok a e) (.ok b e)

theorem Settles.refl {α : Type} (result : EStateM.Result Halt Encoder α) :
    Settles Eq result result := by
  rcases result with _ | ⟨_ | _, _⟩
  · exact .ok rfl
  · exact .refused
  · exact .endless

/-- The second step ends as the first one does, with a related value, unless the first one runs out
of levels. -/
def Refines {α β : Type} (R : α → β → Prop) (m : EncodeM α) (m' : EncodeM β) : Prop :=
  ∀ e, Settles R (m e) (m' e)

/-- The second step ends as the first one does unless the first one runs out of levels. -/
abbrev Deepens {α : Type} (m m' : EncodeM α) : Prop := Refines Eq m m'

namespace Refines

variable {α α' β β' : Type} {R : α → α' → Prop} {S : β → β' → Prop}

theorem result {a : α} {a' : α'} (related : R a a') :
    Refines R (pure a) (pure a') :=
  fun _ => .ok related

theorem sequence {m : EncodeM α} {m' : EncodeM α'} {k : α → EncodeM β} {k' : α' → EncodeM β'}
    (first : Refines R m m') (second : ∀ a a', R a a' → Refines S (k a) (k' a')) :
    Refines S (m >>= k) (m' >>= k') := by
  intro e
  have settled := first e
  generalize run : m e = r, run' : m' e = r' at settled
  cases settled with
  | endless =>
    rw [EncodeM.bind_of_error run]
    exact .endless
  | refused =>
    rw [EncodeM.bind_of_error run, EncodeM.bind_of_error run']
    exact .refused
  | ok related =>
    rw [EncodeM.bind_of_ok run, EncodeM.bind_of_ok run']
    exact second _ _ related _

end Refines

namespace Deepens

variable {α β : Type}

theorem refl (m : EncodeM α) : Deepens m m := fun e => .refl (m e)

theorem trans {m m' m'' : EncodeM α} (first : Deepens m m') (second : Deepens m' m'') :
    Deepens m m'' := by
  intro e
  have early := first e
  have late := second e
  generalize m e = r, m' e = r' at early late
  cases early with
  | endless => exact .endless
  | refused => exact late
  | ok same => exact same ▸ late

theorem bind {m m' : EncodeM α} {k k' : α → EncodeM β} (first : Deepens m m')
    (second : ∀ a, Deepens (k a) (k' a)) : Deepens (m >>= k) (m' >>= k') :=
  Refines.sequence first fun a _ same => same ▸ second a

/-- The same step first. -/
theorem behind (m : EncodeM α) {k k' : α → EncodeM β} (second : ∀ a, Deepens (k a) (k' a)) :
    Deepens (m >>= k) (m >>= k') :=
  bind (refl m) second

/-- Carrying on after an error does not hide that there were too few levels. -/
theorem attempt {m m' : EncodeM α} (h : Deepens m m') :
    Deepens (EncodeM.attempt m) (EncodeM.attempt m') := by
  intro e
  have settled := h e
  unfold EncodeM.attempt
  generalize m e = r, m' e = r' at settled
  cases settled with
  | endless => exact .endless
  | refused => exact .ok rfl
  | ok same => exact .ok (congrArg Except.ok same)

end Deepens

/-! ## Aggregates -/

/-- With deeper ways to write the values inside, a writer goes deeper. -/
theorem Composed.deepens {write : Value → EncodeM Unit} {writes : ℕ → Value → EncodeM Unit}
    {α : Type} {m : EncodeM α} {job : ℕ → EncodeM α} (h : Composed write writes m job)
    (levels : ℕ) (each : ∀ v, Deepens (write v) (writes levels v)) : Deepens m (job levels) := by
  induction h with
  | quiet => exact .refl _
  | put => exact .refl _
  | value v => exact each v
  | bind _ _ first second => exact .bind first second
  | attempt _ ih => exact ih.attempt
  | got _ _ ih => exact .behind get ih

namespace Deepens

/-! ## Values -/

/-- With one level more, the first phase ends the same way, and so does the second. -/
theorem prepare (fuel : Nat) (v : Value) :
    Refines Deepens (EncodeM.prepare fuel v) (EncodeM.prepare (fuel + 1) v) := by
  induction fuel generalizing v with
  | zero => exact fun _ => .endless
  | succ fuel ih =>
    have item (v : Value) : Deepens (EncodeM.encodeWithin fuel v)
        (EncodeM.encodeWithin (fuel + 1) v) :=
      Refines.sequence (ih v) fun _ _ deeper => deeper
    have aggregate {m : EncodeM Unit} {job : ℕ → EncodeM Unit}
        (composed : Composed (EncodeM.encodeWithin fuel) EncodeM.encodeWithin m job) :
        Deepens m (job (fuel + 1)) := composed.deepens (fuel + 1) item
    cases v with
    | future d =>
      refine Refines.sequence (refl (EncodeM.resolve d)) ?_
      rintro v _ rfl
      exact Refines.sequence (ih v) fun _ _ deeper => .result (behind _ fun _ => deeper)
    | annotated inner notes =>
      refine Refines.sequence (refl EncodeM.settings) ?_
      rintro options _ rfl
      split
      · exact Refines.sequence (ih inner) fun _ _ deeper =>
          .result (behind _ fun _ => bind (aggregate (.writeMap notes)) fun _ => deeper)
      · exact .result (item inner)
    | object o =>
      refine Refines.sequence (refl get) ?_
      rintro e _ rfl
      cases e.registry.writer? o.type with
      | some writer =>
        exact .result (behind _ fun options => aggregate (.runPlan (writer options o)))
      | none =>
        refine Refines.sequence (refl (EncodeM.placeholderOf o)) ?_
        rintro p _ rfl
        exact .result (refl _)
    | time t =>
      refine Refines.sequence (refl (EncodeM.refuseLeapSecond .time t)) ?_
      exact fun _ _ _ => .result (refl _)
    | offsetTime t =>
      refine Refines.sequence (refl (EncodeM.refuseLeapSecond .offsetTime t.time)) ?_
      exact fun _ _ _ => .result (refl _)
    | vector items => exact .result (aggregate (.collection _ _ items))
    | set items => exact .result (aggregate (.collection _ _ items))
    | map m => exact .result (aggregate (.writeMap m))
    | seq items => exact .result (aggregate (.writeSeq items))
    | lazySeq cell => exact .result (aggregate (.writeLazySeq cell))
    | throwable t => exact .result (aggregate (.writeThrowable t))
    | _ => exact .result (refl _)

theorem encodeWithin (fuel : Nat) (v : Value) :
    Deepens (EncodeM.encodeWithin fuel v) (EncodeM.encodeWithin (fuel + 1) v) :=
  Refines.sequence (prepare fuel v) fun _ _ deeper => deeper

end Deepens

namespace EncodeM

section

variable {α : Type} {job : Nat → EncodeM α} (deepens : ∀ fuel, Deepens (job fuel) (job (fuel + 1)))

include deepens

/-- Once there are enough levels, more make no difference. -/
theorem eq_of_enough {fuel more : Nat} {e : Encoder}
    (enough : ∀ e', job fuel e ≠ .error .endless e') (le : fuel ≤ more) :
    job more e = job fuel e := by
  have deeper : Deepens (job fuel) (job more) := by
    induction more, le using Nat.le_induction with
    | base => exact .refl _
    | succ more _ ih => exact ih.trans (deepens more)
  have settled := deeper e
  generalize job fuel e = r, job more e = r' at settled enough
  cases settled with
  | endless => exact absurd rfl (enough _)
  | refused => rfl
  | ok same => rw [same]

omit deepens in
/-- One round of the search for enough levels. -/
theorem deepening_eq (levels : Nat) (e : Encoder) :
    deepening job levels e =
      match job levels e with
      | .error .endless _ => deepening job (levels + 1) e
      | outcome => outcome := by
  rw [deepening, repeatM_eq_of_monadTail, repeatM.body, tryLevels]
  split
  next e' run =>
    rw [run]
    rfl
  next settled =>
    change job levels e = _
    split
    next e' run => exact (settled e' run).elim
    next => rfl

/-- A job that is given as many levels as it takes does what it does with enough of them, wherever
the search for enough starts. -/
theorem deepening_of_enough {fuel : Nat} {e : Encoder}
    (enough : ∀ e', job fuel e ≠ .error .endless e') (start : Nat) :
    deepening job start e = job fuel e := by
  generalize distanceEq : fuel - start = distance
  induction distance generalizing start with
  | zero =>
    have same := eq_of_enough deepens enough (Nat.le_of_sub_eq_zero distanceEq)
    rw [deepening_eq, same]
    split
    next e' run => exact absurd run (enough e')
    next => rfl
  | succ distance ih =>
    rw [deepening_eq]
    split
    next => exact ih (start + 1) (by omega)
    next few => exact (eq_of_enough deepens few (by omega)).symm

end

/-- What an encoder does with a value and enough levels is what a session does. -/
theorem encode_of_enough {fuel : Nat} {v : Value} {e : Encoder}
    (enough : ∀ e', encodeWithin fuel v e ≠ .error .endless e') :
    encode v e = encodeWithin fuel v e :=
  deepening_of_enough (fun fuel => Deepens.encodeWithin fuel v) enough _

theorem encode_of_ok {fuel : Nat} {v : Value} {e after : Encoder}
    (run : encodeWithin fuel v e = .ok () after) : encode v e = .ok () after :=
  (encode_of_enough (by simp [run])).trans run

theorem encode_of_refused {fuel : Nat} {v : Value} {e after : Encoder} {error : StreamError}
    (run : encodeWithin fuel v e = .error (.refused error) after) :
    encode v e = .error (.refused error) after :=
  (encode_of_enough (by simp [run])).trans run

end EncodeM

end TaggedStream
