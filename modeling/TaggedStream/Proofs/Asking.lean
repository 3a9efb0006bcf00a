import Mathlib.Algebra.BigOperators.Fin
import TaggedStream.Store.Basic

/-!
What asking for deferred values changes.

Asking for a deferred value is all that an encoder does to a store before it writes, and it is not
undone. It moves the outcome of a promise to where the next one who asks finds it, and a resolver
counts it. `Store.Asked` says that a store differs from another one in no other way.
-/

namespace TaggedStream

/-! ## Promises -/

/-- A promise before and after it was asked. -/
def Promise.Asked (before after : Promise) : Prop := after = before ∨ after = before.receive.2

/-- Asking a promise again finds what was found before and changes nothing more. -/
theorem Promise.receive_receive (p : Promise) : p.receive.2.receive = p.receive := by
  obtain ⟨message, isOpen, settled⟩ := p
  cases settled with
  | some outcome => rfl
  | none =>
    cases message with
    | some message => rfl
    | none => cases isOpen <;> rfl

theorem Promise.resolve_snd (timeout : Nat) (p : Promise) :
    (p.resolve timeout).2 = p.receive.2 := by
  unfold Promise.resolve
  split <;> rename_i received <;> rw [received]

theorem Promise.Asked.receive_eq {p q : Promise} (h : p.Asked q) : q.receive = p.receive := by
  rcases h with rfl | rfl
  · rfl
  · exact Promise.receive_receive p

theorem Promise.Asked.trans {p q r : Promise} (first : p.Asked q) (second : q.Asked r) :
    p.Asked r := by
  rcases second with rfl | rfl
  · exact first
  · exact .inr (congrArg Prod.snd first.receive_eq)

/-- A promise that was asked has the outcome that it had before, whoever asks next. -/
theorem Promise.Asked.resolve_eq {p q : Promise} (h : p.Asked q) (timeout : Nat) :
    (q.resolve timeout).1 = (p.resolve timeout).1 := by
  unfold Promise.resolve
  rw [h.receive_eq]

/-! ## Origins -/

/-- The origin of a deferred value before and after it was asked, any number of times: a promise has
its outcome still, and a resolver has counted the calls. -/
inductive Deferral.Asked : Deferral → Deferral → Prop
  | promise {p q : Promise} (asked : p.Asked q) : Deferral.Asked (.promise p) (.promise q)
  | resolver {r : Resolver} (calls : List Nat) :
      Deferral.Asked (.resolver r) (.resolver { r with calls := calls ++ r.calls })

theorem Deferral.Asked.refl (d : Deferral) : Deferral.Asked d d := by
  cases d with
  | promise p => exact .promise (.inl rfl)
  | resolver r => exact .resolver []

theorem Deferral.Asked.trans {a b c : Deferral} (first : Deferral.Asked a b)
    (second : Deferral.Asked b c) : Deferral.Asked a c := by
  cases first with
  | promise asked =>
    cases second with
    | promise asked' => exact .promise (asked.trans asked')
  | resolver calls =>
    cases second with
    | resolver calls' =>
      rw [← List.append_assoc]
      exact .resolver (calls' ++ calls)

theorem Deferral.Asked.of_resolve (timeout : Nat) (d : Deferral) :
    Deferral.Asked d (d.resolve timeout).2 := by
  cases d with
  | promise p => exact .promise (.inr (Promise.resolve_snd timeout p))
  | resolver r => exact .resolver [timeout]

/-- Asking does not change how high the values are that come. -/
theorem Deferral.Asked.height_eq {a b : Deferral} (h : Deferral.Asked a b) :
    b.height = a.height := by
  cases h with
  | promise asked =>
    change Promise.height _ = Promise.height _
    unfold Promise.height
    rw [asked.receive_eq]
  | resolver calls => rfl

/-! ## Stores -/

/-- A store before and after deferred values were asked for. Nothing but their origins has changed,
and these only by being asked. -/
structure Store.Asked (before after : Store) : Prop where
  sequences : after.sequences = before.sequences
  readers : after.readers = before.readers
  size : after.deferrals.size = before.deferrals.size
  deferrals : ∀ (cell : Nat) (d : Deferral), before.deferrals[cell]? = some d →
    ∃ d', after.deferrals[cell]? = some d' ∧ Deferral.Asked d d'

theorem Store.Asked.refl (store : Store) : Store.Asked store store :=
  ⟨rfl, rfl, rfl, fun _ d there => ⟨d, there, .refl d⟩⟩

theorem Store.Asked.trans {a b c : Store} (first : Store.Asked a b) (second : Store.Asked b c) :
    Store.Asked a c := by
  refine ⟨second.sequences.trans first.sequences, second.readers.trans first.readers,
    second.size.trans first.size, fun cell d there => ?_⟩
  obtain ⟨d', there', asked⟩ := first.deferrals cell d there
  obtain ⟨d'', there'', asked'⟩ := second.deferrals cell d' there'
  exact ⟨d'', there'', asked.trans asked'⟩

/-- What waiting for what a cell brings comes to. -/
theorem Store.resolve_shared {store : Store} {cell timeout : Nat} {origin : Deferral}
    (there : store.deferrals[cell]? = some origin) :
    store.resolve timeout (.shared cell) = ((origin.resolve timeout).1,
      { store with
        deferrals := store.deferrals.setIfInBounds cell (origin.resolve timeout).2 }) := by
  rw [Store.resolve, there]

theorem Store.resolve_shared_of_none {store : Store} {cell timeout : Nat}
    (gone : store.deferrals[cell]? = none) :
    store.resolve timeout (.shared cell) = (.error .interrupted, store) := by
  rw [Store.resolve, gone]

theorem Store.resolve_shared_fst (store : Store) (timeout cell : Nat) :
    (store.resolve timeout (.shared cell)).1 =
      (store.deferrals[cell]?).elim (.error .interrupted) fun d => (d.resolve timeout).1 := by
  cases there : store.deferrals[cell]? with
  | none => rw [resolve_shared_of_none there]; rfl
  | some d => rw [resolve_shared there]; rfl

/-- Asking changes the origin in the cell. -/
theorem Store.getElem?_resolve_self (store : Store) (timeout cell : Nat) :
    (store.resolve timeout (.shared cell)).2.deferrals[cell]? =
      (store.deferrals[cell]?).map fun d => (d.resolve timeout).2 := by
  cases there : store.deferrals[cell]? with
  | none =>
    rw [resolve_shared_of_none there]
    exact there
  | some d =>
    have inside : cell < store.deferrals.size := (Array.getElem?_eq_some_iff.1 there).1
    rw [resolve_shared there]
    exact Array.getElem?_setIfInBounds_self_of_lt inside

/-- Asking changes no other origin. -/
theorem Store.getElem?_resolve_ne (store : Store) (timeout : Nat) {cell other : Nat}
    (ne : cell ≠ other) : (store.resolve timeout (.shared cell)).2.deferrals[other]? =
      store.deferrals[other]? := by
  cases there : store.deferrals[cell]? with
  | none => rw [resolve_shared_of_none there]
  | some d =>
    rw [resolve_shared there]
    exact Array.getElem?_setIfInBounds_ne ne

/-- Waiting for a deferred value only asks. -/
theorem Store.Asked.of_resolve {store after : Store} {timeout : Nat} {d : Deferred Value}
    {outcome : Outcome} (run : store.resolve timeout d = (outcome, after)) :
    Store.Asked store after := by
  cases d with
  | ready handle v =>
    cases run
    exact .refl store
  | shared cell =>
    cases there : store.deferrals[cell]? with
    | none =>
      rw [Store.resolve, there] at run
      cases run
      exact .refl store
    | some origin =>
      rw [Store.resolve_shared there] at run
      cases run
      refine ⟨rfl, rfl, Array.size_setIfInBounds, fun other d there' => ?_⟩
      by_cases same : cell = other
      · subst same
        cases there.symm.trans there'
        have inside : cell < store.deferrals.size := (Array.getElem?_eq_some_iff.1 there).1
        exact ⟨_, Array.getElem?_setIfInBounds_self_of_lt inside, .of_resolve timeout origin⟩
      · exact ⟨d, (Array.getElem?_setIfInBounds_ne same).trans there', .refl d⟩

/-! ## Levels -/

namespace Store

/-- How many levels the origin in a cell adds to the height of a store. -/
def levels (store : Store) (cell : Nat) : Nat :=
  store.deferrals[cell]?.elim 0 fun origin => origin.height + 1

/-- The levels of the cells, one by one, are those of the origins in them. -/
theorem sum_range_elim (origins : List Deferral) (f : Deferral → Nat) :
    ∑ cell ∈ Finset.range origins.length, origins[cell]?.elim 0 f = (origins.map f).sum := by
  induction origins with
  | nil => rfl
  | cons origin origins ih =>
    rw [List.length_cons, Finset.sum_range_succ', List.map_cons, List.sum_cons, ← ih, Nat.add_comm]
    rfl

theorem foldl_height (origins : List Deferral) (start : Nat) :
    origins.foldl (fun sum origin => sum + origin.height + 1) start =
      start + (origins.map fun origin => origin.height + 1).sum := by
  induction origins generalizing start with
  | nil => rfl
  | cons origin origins ih =>
    rw [List.foldl_cons, ih, List.map_cons, List.sum_cons]
    omega

/-- The levels of all cells are what the origins add to the height of a store. -/
theorem sum_levels (store : Store) :
    ∑ cell ∈ Finset.range store.deferrals.size, store.levels cell =
      store.deferrals.foldl (fun sum origin => sum + origin.height + 1) 0 := by
  rw [← Array.foldl_toList, foldl_height, Nat.zero_add, ← sum_range_elim, Array.length_toList]
  simp only [levels, Array.getElem?_toList]

end Store

end TaggedStream
