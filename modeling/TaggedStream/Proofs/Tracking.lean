import Mathlib.Order.Filter.AtTopBot.Basic
import TaggedStream.Proofs.Deepening

/-!
Writers that keep track of others.

Two encoders run side by side, one with a number of levels and one with as many as it takes. The
second tracks the first if, from related encoders, it comes to a matching end: both go well with
related results, or both are refused with the same error, and the encoders that they leave are
related. How strict the comparison is can be chosen. A writer of aggregates tracks another one as
soon as the writers of the items do.
-/

namespace TaggedStream

namespace EncodeM

variable {α : Type} {m : EncodeM α} {e after : Encoder}

theorem attempt_of_ok {a : α} (run : m e = .ok a after) : attempt m e = .ok (.ok a) after := by
  rw [attempt, run]

theorem attempt_of_refused {error : StreamError} (run : m e = .error (.refused error) after) :
    attempt m e = .ok (.error error) after := by
  rw [attempt, run]

theorem attempt_of_endless (run : m e = .error .endless after) :
    attempt m e = .error .endless after := by
  rw [attempt, run]

end EncodeM

/-- How two runs are compared. -/
structure Comparison where
  /-- Both runs have the same number of levels, so that what one lacks the other lacks too. Else the
  second one has as many as it takes, and nothing is said where the first one lacks some. -/
  exact : Bool
  /-- Nothing is said where the first run is refused. -/
  lenient : Prop
  /-- Notes that are not saved may stand on one side only. -/
  uneven : Prop
  /-- Sequences that the first side is in the middle of, so that it would wait for them for ever. -/
  stuck : ℕ → Prop
  /-- How encoders are related when both runs were refused. -/
  failed : Encoder → Encoder → Prop

namespace Comparison

variable {α β : Type} (c : Comparison)

/-- Nothing is said about the other run where one ends like this. -/
def Excuses : EStateM.Result Halt Encoder α → Prop
  | .ok _ _ => False
  | .error .endless _ => c.exact = false
  | .error (.refused _) _ => c.lenient

/-- The levels that the second run may need when the first one has `n`. -/
def levels (n : ℕ) : Filter ℕ := if c.exact then pure n else Filter.atTop

instance (n : ℕ) : (c.levels n).NeBot := by
  unfold levels
  split <;> infer_instance

theorem levels_succ (n : ℕ) : c.levels (n + 1) = (c.levels n).map (· + 1) := by
  unfold levels
  split
  · rw [Filter.map_pure]
  · exact (Filter.map_add_atTop_eq_nat 1).symm

variable {c}

/-- Unless refusals excuse, only a want of levels does. -/
theorem Excuses.inexact {result : EStateM.Result Halt Encoder α} (h : c.Excuses result)
    (severe : ¬ c.lenient) : c.exact = false ∧ ∃ after, result = .error .endless after := by
  cases result with
  | ok a after => exact h.elim
  | error halt after =>
    cases halt with
    | refused error => exact absurd h severe
    | endless => exact ⟨h, after, rfl⟩

/-- What an end excuses is excused behind it. -/
theorem Excuses.bind {m : EncodeM α} {k : α → EncodeM β} {e : Encoder} (h : c.Excuses (m e)) :
    c.Excuses ((m >>= k) e) := by
  cases run : m e with
  | ok a after =>
    rw [run] at h
    exact h.elim
  | error halt after =>
    rw [run] at h
    rw [EncodeM.bind_of_error run]
    cases halt <;> exact h

end Comparison

/-- Both went well with related results, or were refused with the same error, or lacked levels. -/
inductive Matches {α β : Type} (R : α → β → Prop) (E F : Encoder → Encoder → Prop) :
    EStateM.Result Halt Encoder α → EStateM.Result Halt Encoder β → Prop
  | ok {a : α} {b : β} {e e' : Encoder} (results : R a b) (related : E e e') :
      Matches R E F (.ok a e) (.ok b e')
  | refused {error : StreamError} {e e' : Encoder} (related : F e e') :
      Matches R E F (.error (.refused error) e) (.error (.refused error) e')
  | endless {e e' : Encoder} : Matches R E F (.error .endless e) (.error .endless e')

namespace Matches

variable {α β : Type} {R : α → β → Prop} {E E' F F' : Encoder → Encoder → Prop}

theorem imp {first : EStateM.Result Halt Encoder α} {second : EStateM.Result Halt Encoder β}
    (h : Matches R E F first second) (went : ∀ e e', E e e' → E' e e')
    (failed : ∀ e e', F e e' → F' e e') : Matches R E' F' first second := by
  cases h with
  | ok results related => exact .ok results (went _ _ related)
  | refused related => exact .refused (failed _ _ related)
  | endless => exact .endless

theorem results {S : α → β → Prop} {first : EStateM.Result Halt Encoder α}
    {second : EStateM.Result Halt Encoder β} (h : Matches R E F first second)
    (toward : ∀ a b, R a b → S a b) : Matches S E F first second := by
  cases h with
  | ok results related => exact .ok (toward _ _ results) related
  | refused related => exact .refused related
  | endless => exact .endless

/-- Runs that match whenever one of them ends match. -/
theorem of_both {D G : Encoder → Encoder → Prop} {S : β → α → Prop}
    {first : EStateM.Result Halt Encoder α} {second : EStateM.Result Halt Encoder β}
    (forth : (∃ e, first = .error .endless e) ∨ Matches R E F first second)
    (back : (∃ e, second = .error .endless e) ∨ Matches S D G second first) :
    Matches R E F first second := by
  rcases forth with ⟨e, rfl⟩ | forth
  · rcases back with ⟨e', rfl⟩ | back
    · exact .endless
    · cases back
      exact .endless
  · exact forth

end Matches

/-- An end of the second run, for all levels that it may need, is excused by that of the first run
or matches it. -/
def Keeps (c : Comparison) (n : ℕ) {α β : Type} (R : α → β → Prop) (E : Encoder → Encoder → Prop)
    (first : EStateM.Result Halt Encoder α) (second : ℕ → EStateM.Result Halt Encoder β) : Prop :=
  c.Excuses first ∨
    ∃ result, Matches R E c.failed first result ∧ ∀ᶠ levels in c.levels n, second levels = result

/-- From encoders that are related by `E`, the second step keeps track of the first one. Then the
results are related by `R` and the encoders by `E'`. -/
def Tracks (c : Comparison) (n : ℕ) {α β : Type} (E : Encoder → Encoder → Prop) (R : α → β → Prop)
    (E' : Encoder → Encoder → Prop) (m : EncodeM α) (job : ℕ → EncodeM β) : Prop :=
  ∀ e e', E e e' → Keeps c n R E' (m e) fun levels => job levels e'

namespace Tracks

variable {c : Comparison} {n : ℕ} {α β γ δ : Type} {E E' E'' : Encoder → Encoder → Prop}
  {R : α → β → Prop} {S : γ → δ → Prop} {m : EncodeM α} {job : ℕ → EncodeM β}
  {k : α → EncodeM γ} {jobs : ℕ → β → EncodeM δ}

/-- A step that needs no levels. -/
theorem steady {m' : EncodeM β} (h : ∀ e e', E e e' → Matches R E' c.failed (m e) (m' e')) :
    Tracks c n E R E' m fun _ => m' :=
  fun e e' related => .inr ⟨_, h e e' related, .of_forall fun _ => rfl⟩

theorem result {a : α} {b : β} (results : R a b) :
    Tracks c n E R E (pure a) fun _ => pure b :=
  steady fun _ _ related => .ok results related

theorem refusal (error : StreamError) (failed : ∀ e e', E e e' → c.failed e e') :
    Tracks c n E R E' (EncodeM.refuse error) fun _ => EncodeM.refuse error :=
  steady fun e e' related => .refused (failed e e' related)

theorem endless : Tracks c n E R E' EncodeM.endless fun _ => EncodeM.endless :=
  steady fun _ _ _ => .endless

/-- Fewer encoders are related before, and more after. -/
theorem imp {D D' : Encoder → Encoder → Prop} (h : Tracks c n E R E' m job)
    (before : ∀ e e', D e e' → E e e') (after : ∀ e e', E' e e' → D' e e') :
    Tracks c n D R D' m job := by
  intro e e' related
  rcases h e e' (before e e' related) with excused | ⟨result, matched, tends⟩
  · exact .inl excused
  · exact .inr ⟨result, matched.imp after fun _ _ => id, tends⟩

/-- Results that are related in one way are related in another. -/
theorem results {S : α → β → Prop} (h : Tracks c n E R E' m job) (toward : ∀ a b, R a b → S a b) :
    Tracks c n E S E' m job := by
  intro e e' related
  rcases h e e' related with excused | ⟨result, matched, tends⟩
  · exact .inl excused
  · exact .inr ⟨result, matched.results toward, tends⟩

/-- More encoders may be related when both were refused. -/
theorem weaken {d : Comparison} (h : Tracks c n E R E' m job) (exact : d.exact = c.exact)
    (severe : ¬ c.lenient) (failed : ∀ e e', c.failed e e' → d.failed e e') :
    Tracks d n E R E' m job := by
  have levels : d.levels n = c.levels n := by rw [Comparison.levels, Comparison.levels, exact]
  intro e e' related
  rcases h e e' related with excused | ⟨result, matched, tends⟩
  · obtain ⟨inexact, after, run⟩ := excused.inexact severe
    left
    rw [run]
    exact exact.trans inexact
  · exact .inr ⟨result, matched.imp (fun _ _ => id) failed, levels ▸ tends⟩

/-- What follows a step that went well on both sides decides. -/
theorem behind {a : α} {b : β} {e e' after after' : Encoder} (run : m e = .ok a after)
    (tends : ∀ᶠ levels in c.levels n, job levels e' = .ok b after')
    (rest : Keeps c n S E'' (k a after) fun levels => jobs levels b after') :
    Keeps c n S E'' ((m >>= k) e) fun levels => (job levels >>= jobs levels) e' := by
  rw [EncodeM.bind_of_ok run]
  rcases rest with excused | ⟨result, matched, tends'⟩
  · exact .inl excused
  · refine .inr ⟨result, matched, ?_⟩
    filter_upwards [tends, tends'] with levels run' last
    rw [EncodeM.bind_of_ok run', last]

/-- One step after another. -/
theorem bind (first : Tracks c n E R E' m job)
    (second : ∀ a b, R a b → Tracks c n E' S E'' (k a) fun levels => jobs levels b) :
    Tracks c n E S E'' (m >>= k) fun levels => job levels >>= jobs levels := by
  intro e e' related
  rcases first e e' related with excused | ⟨result, matched, tends⟩
  · exact .inl excused.bind
  · generalize run : m e = r at matched
    cases matched with
    | ok results related => exact behind run tends (second _ _ results _ _ related)
    | refused related =>
      rw [EncodeM.bind_of_error run]
      exact .inr ⟨_, .refused related, tends.mono fun _ run' => EncodeM.bind_of_error run'⟩
    | endless =>
      rw [EncodeM.bind_of_error run]
      exact .inr ⟨_, .endless, tends.mono fun _ run' => EncodeM.bind_of_error run'⟩

/-- Nothing follows a refusal. -/
theorem refusal_bind (error : StreamError) (failed : ∀ e e', E e e' → c.failed e e') :
    Tracks c n E S E'' (EncodeM.refuse error >>= k)
      fun levels => EncodeM.refuse error >>= jobs levels :=
  have never : Tracks c n E (fun _ _ => False) E (EncodeM.refuse error : EncodeM α)
      fun _ => (EncodeM.refuse error : EncodeM β) := refusal error failed
  never.bind fun _ _ => False.elim

theorem endless_bind : Tracks c n E S E'' (EncodeM.endless >>= k)
    fun levels => EncodeM.endless >>= jobs levels :=
  have never : Tracks c n E (fun _ _ => False) E (EncodeM.endless : EncodeM α)
      fun _ => (EncodeM.endless : EncodeM β) := endless
  never.bind fun _ _ => False.elim

/-- A step that looks at the encoder first. -/
theorem got {k : Encoder → EncodeM γ} {jobs : ℕ → Encoder → EncodeM δ}
    (h : ∀ e e', E e e' → Keeps c n S E' (k e e) fun levels => jobs levels e' e') :
    Tracks c n E S E' (get >>= k) fun levels => get >>= jobs levels :=
  h

/-- A step that goes on after an error. If nothing is to be said where the first side is refused, it
must be refused in the end. -/
theorem attempt {k : Except StreamError α → EncodeM γ}
    {jobs : ℕ → Except StreamError β → EncodeM δ} (first : Tracks c n E R E' m job)
    (went : ∀ a b, R a b → Tracks c n E' S E'' (k (.ok a)) fun levels => jobs levels (.ok b))
    (failed : ∀ error, Tracks c n c.failed S E'' (k (.error error))
      fun levels => jobs levels (.error error))
    (doomed : c.lenient → ∀ error e, c.Excuses (k (.error error) e)) :
    Tracks c n E S E'' (EncodeM.attempt m >>= k)
      fun levels => EncodeM.attempt (job levels) >>= jobs levels := by
  intro e e' related
  rcases first e e' related with excused | ⟨result, matched, tends⟩
  · left
    cases run : m e with
    | ok a after =>
      rw [run] at excused
      exact excused.elim
    | error halt after =>
      rw [run] at excused
      cases halt with
      | refused error =>
        rw [EncodeM.bind_of_ok (EncodeM.attempt_of_refused run)]
        exact doomed excused error after
      | endless =>
        rw [EncodeM.bind_of_error (EncodeM.attempt_of_endless run)]
        exact excused
  · generalize run : m e = r at matched
    cases matched with
    | ok results related =>
      exact behind (EncodeM.attempt_of_ok run) (tends.mono fun _ => EncodeM.attempt_of_ok)
        (went _ _ results _ _ related)
    | refused related =>
      exact behind (EncodeM.attempt_of_refused run)
        (tends.mono fun _ => EncodeM.attempt_of_refused) (failed _ _ _ related)
    | endless =>
      rw [EncodeM.bind_of_error (EncodeM.attempt_of_endless run)]
      exact .inr ⟨_, .endless, tends.mono fun _ run' =>
        EncodeM.bind_of_error (EncodeM.attempt_of_endless run')⟩

/-- With no levels, both sides lack them. -/
theorem zero (first : ∀ e, m e = .error .endless e) (second : ∀ e, job 0 e = .error .endless e) :
    Tracks c 0 E R E' m job := by
  intro e e' _
  rw [first]
  cases exact : c.exact with
  | false => exact .inl exact
  | true =>
    refine .inr ⟨.error .endless e', .endless, ?_⟩
    rw [Comparison.levels, if_pos exact]
    exact second e'

/-- Only what steps do to related encoders counts. -/
theorem congr {m' : EncodeM α} {job' : ℕ → EncodeM β} (h : Tracks c n E R E' m' job')
    (first : ∀ e e', E e e' → m e = m' e)
    (second : ∀ e e', E e e' → ∀ levels, job levels e' = job' levels e') :
    Tracks c n E R E' m job := by
  intro e e' related
  have kept := h e e' related
  rwa [← first e e' related, ← funext (second e e' related)] at kept

/-- With one level more on the first side, the second side may have one more. -/
theorem succ (h : Tracks c n E R E' m fun levels => job (levels + 1)) :
    Tracks c (n + 1) E R E' m job := by
  intro e e' related
  rcases h e e' related with excused | ⟨result, matched, tends⟩
  · exact .inl excused
  · exact .inr ⟨result, matched, by rwa [c.levels_succ, Filter.eventually_map]⟩

/-- With the same number of levels on both sides, only this number counts. -/
theorem leveled {m' : ℕ → EncodeM β} (h : Tracks c n E R E' m fun _ => m' n)
    (exact : c.exact = true) : Tracks c n E R E' m m' := by
  intro e e' related
  rcases h e e' related with excused | ⟨result, matched, tends⟩
  · exact .inl excused
  · refine .inr ⟨result, matched, ?_⟩
    rw [Comparison.levels, if_pos exact, Filter.eventually_pure] at tends ⊢
    exact tends

theorem of_succ (h : Tracks c (n + 1) E R E' m job) :
    Tracks c n E R E' m fun levels => job (levels + 1) := by
  intro e e' related
  rcases h e e' related with excused | ⟨result, matched, tends⟩
  · exact .inl excused
  · exact .inr ⟨result, matched, by rwa [c.levels_succ, Filter.eventually_map] at tends⟩

end Tracks

/-! ## Whole runs -/

namespace Tracks

variable {c : Comparison} {n : ℕ} {α β : Type} {E E' : Encoder → Encoder → Prop}
  {R : α → β → Prop} {m : EncodeM α} {m' : EncodeM β}
  (h : Tracks c n E R E' m fun _ => m') {e e' : Encoder} (related : E e e')

include h related

/-- Unless refusals excuse, runs match or the first one does not end. -/
theorem ended (severe : ¬ c.lenient) :
    (∃ after, m e = .error .endless after) ∨ Matches R E' c.failed (m e) (m' e') := by
  rcases h e e' related with excused | ⟨result, matched, tends⟩
  · exact .inl (excused.inexact severe).2
  · obtain ⟨_, run : m' e' = result⟩ := tends.exists
    rw [run]
    exact .inr matched

/-- With the same number of levels on both sides, runs match unless refusals excuse. -/
theorem ended_of_exact (exact : c.exact = true) (severe : ¬ c.lenient) :
    Matches R E' c.failed (m e) (m' e') := by
  rcases h e e' related with excused | ⟨result, matched, tends⟩
  · exact absurd (exact.symm.trans (excused.inexact severe).1) Bool.noConfusion
  · obtain ⟨_, run : m' e' = result⟩ := tends.exists
    rw [run]
    exact matched

/-- If the first run goes well, so does the second one. -/
theorem went {a : α} {after : Encoder} (run : m e = .ok a after) :
    ∃ b after', m' e' = .ok b after' ∧ R a b ∧ E' after after' := by
  rcases h e e' related with excused | ⟨result, matched, tends⟩
  · rw [run] at excused
    exact excused.elim
  · obtain ⟨_, run' : m' e' = result⟩ := tends.exists
    rw [run] at matched
    cases matched with
    | ok results related => exact ⟨_, _, run', results, related⟩

end Tracks

/-! ## Steps that both sides take -/

/-- Related encoders put slices alike and have settings that differ in `append` alone. -/
structure Footing (c : Comparison) (E : Encoder → Encoder → Prop) : Prop where
  failed {e e' : Encoder} (related : E e e') : c.failed e e'
  put (op : String) (slice : List UInt8) {e e' : Encoder} (related : E e e') :
    Matches Eq E c.failed (EncodeM.put op slice e) (EncodeM.put op slice e')
  options {e e' : Encoder} (related : E e e') :
    e'.options = { e.options with append := e'.options.append }

namespace Footing

variable {c : Comparison} {n : ℕ} {α β : Type} {E E' : Encoder → Encoder → Prop}
  {R : α → β → Prop} (footing : Footing c E)

include footing

theorem putting {α : Type} {m : EncodeM α} (putting : Putting m) :
    Tracks c n E Eq E m fun _ => m := by
  induction putting with
  | result a => exact .result rfl
  | refusal error => exact .refusal error fun _ _ => footing.failed
  | put op slice => exact .steady fun _ _ => footing.put op slice
  | bind _ _ first second =>
    refine .bind first ?_
    rintro a _ rfl
    exact second a

theorem tagged (tag : Tag) : Tracks c n E Eq E (EncodeM.tagged tag) fun _ => EncodeM.tagged tag :=
  footing.putting (.put _ _)

theorem writeLength (oid : Oid) (length : ℕ) :
    Tracks c n E Eq E (Wire.writeLength oid length) fun _ => Wire.writeLength oid length :=
  footing.putting (.writeLength oid length)

/-- A step that looks at the settings first. -/
theorem settings {k : Options → EncodeM α} {jobs : ℕ → Options → EncodeM β}
    (h : ∀ options append, Tracks c n E R E' (k options)
      fun levels => jobs levels { options with append }) :
    Tracks c n E R E' (EncodeM.settings >>= k) fun levels => EncodeM.settings >>= jobs levels := by
  intro e e' related
  have same := h e.options e'.options.append e e' related
  rw [← footing.options related] at same
  exact same

end Footing

end TaggedStream
