import TaggedStream.Proofs.Asking

/-!
Promises: one outcome, whoever asks for it and when.

All clones of a deferred value name one cell. What the promise in it shows (`Promise.Shows`) is all
that those who ask can tell: nothing until its holder acts, and from then on the outcome of that
action. The message can be received once only, but asking puts it where it is found again, so what
is shown outlasts every question; a wait that runs out finds nothing and leaves nothing behind.
-/

namespace TaggedStream

/-! ## One promise -/

/-- What the holder of a promise does with it. -/
inductive Promise.Action where
  | complete (value : Value)
  | fail (cause : String)
  /-- Goes away without a word, as a computation does that panics. -/
  | drop

namespace Promise

/-- Does it. -/
def Action.perform : Action → Promise → Promise
  | complete value => Promise.complete value
  | fail cause => Promise.fail cause
  | drop => Promise.drop

/-- What those who ask find afterwards. -/
def Action.outcome : Action → Outcome
  | complete value => .ok value
  | fail cause => .error (.failed cause)
  | drop => .error .interrupted

/-- What a promise shows to those who ask. It is a new one, or closed with an outcome. -/
inductive Shows : Promise → Option Outcome → Prop
  | nothing : Shows {} none
  | outcome {p : Promise} {outcome : Outcome} (closed : p.isOpen = false)
      (received : p.receive.1 = some outcome) : Shows p (some outcome)

theorem receive_isOpen (p : Promise) : p.receive.2.isOpen = p.isOpen := by
  obtain ⟨message, isOpen, settled⟩ := p
  cases settled with
  | some outcome => rfl
  | none =>
    cases message with
    | some message => rfl
    | none => cases isOpen <;> rfl

/-- Whoever holds a promise that is closed can do nothing more. -/
theorem perform_of_closed {p : Promise} (closed : p.isOpen = false) (action : Action) :
    action.perform p = p := by
  obtain ⟨message, isOpen, settled⟩ := p
  cases closed
  cases action <;> rfl

namespace Shows

variable {p : Promise} {found : Option Outcome} (h : p.Shows found)

include h

theorem receive_fst : p.receive.1 = found := by
  cases h with
  | nothing => rfl
  | outcome _ received => exact received

/-- Asking does not change what is shown. -/
theorem receive_snd : p.receive.2.Shows found := by
  cases h with
  | nothing => exact .nothing
  | outcome closed received =>
    exact .outcome ((receive_isOpen p).trans closed) (by rw [receive_receive, received])

theorem resolve_fst (timeout : Nat) :
    (p.resolve timeout).1 = found.getD (.error (.timedOut timeout)) := by
  have received := h.receive_fst
  unfold Promise.resolve
  split <;> rename_i ask <;> rw [ask] at received <;> cases received <;> rfl

theorem resolve_snd (timeout : Nat) : (p.resolve timeout).2.Shows found := by
  rw [Promise.resolve_snd]
  exact h.receive_snd

/-- The first action decides. -/
theorem perform (action : Action) :
    (action.perform p).Shows (some (found.getD action.outcome)) := by
  cases h with
  | nothing => cases action <;> exact .outcome rfl rfl
  | outcome closed received =>
    rw [perform_of_closed closed]
    exact .outcome closed received

end Shows

end Promise

/-! ## Events -/

namespace Store

/-- What happens to the deferred values of a store, seen by those who ask and those who act. A wait
happens at one moment, at which it finds an outcome or knows that none came in time. -/
inductive Event where
  | resolve (timeout : Nat) (deferred : Deferred Value)
  | peek (deferred : Deferred Value)
  | act (cell : Nat) (action : Promise.Action)

/-- What the one hears who lets it happen. -/
inductive Answer where
  | resolved (outcome : Outcome)
  | peeked (outcome : Option Outcome)
  | acted

/-- Lets something happen. -/
def happen (event : Event) (store : Store) : Answer × Store :=
  match event with
  | .resolve timeout deferred => (store.resolve timeout deferred).map .resolved id
  | .peek deferred => (store.peek deferred).map .peeked id
  | .act cell action => (.acted, store.act cell action.perform)

/-- The answers to one event after another. -/
def answers : List Event → Store → List Answer
  | [], _ => []
  | event :: events, store => (store.happen event).1 :: answers events (store.happen event).2

/-- The store after one event after another. -/
def afterAll (events : List Event) (store : Store) : Store :=
  events.foldl (fun store event => (store.happen event).2) store

namespace Event

/-- Whether this asks for what a cell brings. -/
def Asks (cell : Nat) : Event → Prop
  | resolve _ deferred => deferred = .shared cell
  | peek deferred => deferred = .shared cell
  | act .. => False

/-- Whether this is an action on the promise in a cell. -/
def Acts (cell : Nat) : Event → Prop
  | act acted _ => acted = cell
  | _ => False

/-- What the one hears who asks for a promise that shows this. -/
def answer (found : Option Outcome) : Event → Answer
  | resolve timeout _ => .resolved (found.getD (.error (.timedOut timeout)))
  | peek _ => .peeked found
  | act .. => .acted

/-- Whoever asks for what a cell brings is answered by what the promise shows. -/
def Finds (cell : Nat) (found : Option Outcome) (event : Event) (heard : Answer) : Prop :=
  event.Asks cell → heard = event.answer found

/-- What the promise in a cell shows after an event. -/
def shownAfter (cell : Nat) (found : Option Outcome) : Event → Option Outcome
  | act acted action => if acted = cell then some (found.getD action.outcome) else found
  | _ => found

theorem shownAfter_of_not_acts {cell : Nat} {event : Event} (still : ¬ event.Acts cell)
    (found : Option Outcome) : event.shownAfter cell found = found := by
  cases event with
  | resolve timeout deferred => rfl
  | peek deferred => rfl
  | act acted action => exact if_neg still

/-- An outcome that is shown is shown for ever. -/
theorem shownAfter_some (cell : Nat) (outcome : Outcome) (event : Event) :
    event.shownAfter cell (some outcome) = some outcome := by
  cases event with
  | resolve timeout deferred => rfl
  | peek deferred => rfl
  | act acted action => exact ite_self _

end Event

/-- What looking at what a cell brings comes to. -/
theorem peek_shared {store : Store} {cell : Nat} {origin : Deferral}
    (there : store.deferrals[cell]? = some origin) :
    store.peek (.shared cell) =
      (origin.peek.1, { store with
        deferrals := store.deferrals.setIfInBounds cell origin.peek.2 }) := by
  rw [Store.peek, there]

theorem peek_shared_of_none {store : Store} {cell : Nat}
    (gone : store.deferrals[cell]? = none) :
    store.peek (.shared cell) = (some (.error .interrupted), store) := by
  rw [Store.peek, gone]

/-- The promise in a cell, and what it shows. -/
def Shows (store : Store) (cell : Nat) (found : Option Outcome) : Prop :=
  ∃ p : Promise, store.deferrals[cell]? = some (.promise p) ∧ p.Shows found

namespace Shows

variable {store : Store} {cell : Nat} {found : Option Outcome}

/-- What is put into a cell is shown by it, and what is put elsewhere changes nothing. -/
theorem set (h : store.Shows cell found) {other : Nat} {origin : Deferral}
    {shown : Option Outcome} (self : other = cell → ∃ p, origin = .promise p ∧ p.Shows shown)
    (ne : other ≠ cell → shown = found) :
    Shows { store with deferrals := store.deferrals.setIfInBounds other origin } cell shown := by
  obtain ⟨p, there, shows⟩ := h
  by_cases same : other = cell
  · obtain ⟨q, rfl, shows'⟩ := self same
    subst same
    have inside : other < store.deferrals.size := (Array.getElem?_eq_some_iff.1 there).1
    exact ⟨q, Array.getElem?_setIfInBounds_self_of_lt inside, shows'⟩
  · rw [ne same]
    exact ⟨p, (Array.getElem?_setIfInBounds_ne same).trans there, shows⟩

theorem resolve (h : store.Shows cell found) (timeout : Nat) (deferred : Deferred Value) :
    (deferred = .shared cell →
      (store.resolve timeout deferred).1 = found.getD (.error (.timedOut timeout))) ∧
    Shows (store.resolve timeout deferred).2 cell found := by
  obtain ⟨p, there, shows⟩ := h
  cases deferred with
  | ready handle value => exact ⟨nofun, p, there, shows⟩
  | shared asked =>
    cases here : store.deferrals[asked]? with
    | none =>
      rw [resolve_shared_of_none here]
      refine ⟨?_, p, there, shows⟩
      rintro ⟨⟩
      cases here.symm.trans there
    | some origin =>
      rw [resolve_shared here]
      refine ⟨?_, set ⟨p, there, shows⟩ ?_ fun _ => rfl⟩
      · rintro ⟨⟩
        cases here.symm.trans there
        exact shows.resolve_fst timeout
      · rintro rfl
        cases here.symm.trans there
        exact ⟨_, rfl, shows.resolve_snd timeout⟩

theorem peek (h : store.Shows cell found) (deferred : Deferred Value) :
    (deferred = .shared cell → (store.peek deferred).1 = found) ∧
    Shows (store.peek deferred).2 cell found := by
  obtain ⟨p, there, shows⟩ := h
  cases deferred with
  | ready handle value => exact ⟨nofun, p, there, shows⟩
  | shared asked =>
    cases here : store.deferrals[asked]? with
    | none =>
      rw [peek_shared_of_none here]
      refine ⟨?_, p, there, shows⟩
      rintro ⟨⟩
      cases here.symm.trans there
    | some origin =>
      rw [peek_shared here]
      refine ⟨?_, set ⟨p, there, shows⟩ ?_ fun _ => rfl⟩
      · rintro ⟨⟩
        cases here.symm.trans there
        exact shows.receive_fst
      · rintro rfl
        cases here.symm.trans there
        exact ⟨_, rfl, shows.receive_snd⟩

theorem act (h : store.Shows cell found) (acted : Nat) (action : Promise.Action) :
    Shows (store.act acted action.perform) cell
      ((Event.act acted action).shownAfter cell found) := by
  have elsewhere (ne : acted ≠ cell) : (Event.act acted action).shownAfter cell found = found :=
    if_neg ne
  obtain ⟨p, there, shows⟩ := h
  unfold Store.act
  split
  next q here =>
    refine set ⟨p, there, shows⟩ ?_ elsewhere
    rintro rfl
    cases here.symm.trans there
    rw [Event.shownAfter, if_pos rfl]
    exact ⟨_, rfl, shows.perform action⟩
  next other =>
    have ne : acted ≠ cell := by
      rintro rfl
      exact other p there
    rw [elsewhere ne]
    exact ⟨p, there, shows⟩

/-- What one event comes to for those who look at a cell. -/
theorem happen (h : store.Shows cell found) (event : Event) :
    event.Finds cell found (store.happen event).1 ∧
      Shows (store.happen event).2 cell (event.shownAfter cell found) := by
  cases event with
  | resolve timeout deferred =>
    obtain ⟨finds, shows⟩ := h.resolve timeout deferred
    exact ⟨fun asks => congrArg Answer.resolved (finds asks), shows⟩
  | peek deferred =>
    obtain ⟨finds, shows⟩ := h.peek deferred
    exact ⟨fun asks => congrArg Answer.peeked (finds asks), shows⟩
  | act acted action => exact ⟨False.elim, h.act acted action⟩

/-- As long as what is shown stays, everyone who asks is answered by it. -/
theorem answers (h : store.Shows cell found) {events : List Event}
    (stays : ∀ event ∈ events, event.shownAfter cell found = found) :
    List.Forall₂ (Event.Finds cell found) events (store.answers events) ∧
      (store.afterAll events).Shows cell found := by
  induction events generalizing store with
  | nil => exact ⟨.nil, h⟩
  | cons event events ih =>
    obtain ⟨finds, shows⟩ := h.happen event
    rw [stays event List.mem_cons_self] at shows
    obtain ⟨all, last⟩ := ih shows fun event inside => stays event (List.mem_cons_of_mem _ inside)
    exact ⟨.cons finds all, last⟩

end Shows

theorem answers_append (before after : List Event) (store : Store) :
    store.answers (before ++ after) =
      store.answers before ++ (store.afterAll before).answers after := by
  induction before generalizing store with
  | nil => rfl
  | cons event before ih => exact congrArg (_ :: ·) (ih _)

/-- A deferred value has one outcome. Whatever happens and in whatever order, everyone who asks
before the holder of the promise acts is told that nothing came, and leaves the promise as it was;
everyone who asks later is told what the action brings. -/
theorem answers_of_promise {store : Store} {cell : Nat}
    (new : store.deferrals[cell]? = some (.promise {})) {before : List Event}
    (waiting : ∀ event ∈ before, ¬ event.Acts cell) (action : Promise.Action)
    (after : List Event) :
    ∃ early late : List Answer,
      store.answers (before ++ .act cell action :: after) = early ++ .acted :: late ∧
      List.Forall₂ (Event.Finds cell none) before early ∧
      (store.afterAll before).deferrals[cell]? = some (.promise {}) ∧
      List.Forall₂ (Event.Finds cell (some action.outcome)) after late := by
  have start : store.Shows cell none := ⟨{}, new, .nothing⟩
  obtain ⟨early, between⟩ := start.answers fun event inside =>
    Event.shownAfter_of_not_acts (waiting event inside) none
  have unchanged : (store.afterAll before).deferrals[cell]? = some (.promise {}) := by
    obtain ⟨p, there, shows⟩ := between
    cases shows
    exact there
  have decided : Shows ((store.afterAll before).act cell action.perform) cell
      (some action.outcome) := by
    have shows := between.act cell action
    rwa [Event.shownAfter, if_pos rfl] at shows
  obtain ⟨late, -⟩ := decided.answers fun event (_ : event ∈ after) =>
    Event.shownAfter_some cell action.outcome event
  exact ⟨_, _, answers_append before (.act cell action :: after) store, early, unchanged, late⟩

/-- A wait that runs out, then a value, which is found by a look and by two waits. -/
theorem answers_of_late_value :
    ∃ early late : List Answer,
      ({ deferrals := #[.promise {}] } : Store).answers
          ([.resolve 5 (.shared 0), .peek (.shared 0)] ++ .act 0 (.complete (.int 8)) ::
            [.peek (.shared 0), .resolve 1000 (.shared 0), .resolve 0 (.shared 0)]) =
        early ++ .acted :: late ∧
      List.Forall₂ (Event.Finds 0 none) [.resolve 5 (.shared 0), .peek (.shared 0)] early ∧
      (afterAll [.resolve 5 (.shared 0), .peek (.shared 0)]
        { deferrals := #[.promise {}] }).deferrals[0]? = some (.promise {}) ∧
      List.Forall₂ (Event.Finds 0 (some (.ok (.int 8))))
        [.peek (.shared 0), .resolve 1000 (.shared 0), .resolve 0 (.shared 0)] late :=
  answers_of_promise rfl (by simp [Event.Acts]) (.complete (.int 8)) _

end Store

end TaggedStream
