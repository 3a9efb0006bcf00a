import TaggedStream.Proofs.Drawing

/-!
What a run asks for.

While values are written, deferred values are asked for and items are drawn. `Answers` says which
cells answered what, in the order in which they were asked; a resolver keeps count of its calls, so
its answers are those to as many calls as were made. `Spends` is what a stretch of a run does to an
encoder apart from its output, and `Under` what stays true of all encoders behind it.
-/

namespace TaggedStream

/-! ## Answers -/

/-- A cell that was asked, and the value that came. -/
structure Answer where
  cell : ℕ
  value : Value

/-- The values that came from a cell. -/
def Answer.from (cell : ℕ) (answers : List Answer) : List Value :=
  (answers.filter (·.cell = cell)).map Answer.value

/-- The cells gave these answers, one after another. -/
inductive Answers (timeout : ℕ) : Array Deferral → List Answer → Array Deferral → Prop
  | none (deferrals : Array Deferral) : Answers timeout deferrals [] deferrals
  | asked {deferrals after : Array Deferral} {cell : ℕ} {d : Deferral} {v : Value}
      {later : List Answer} (there : deferrals[cell]? = some d)
      (came : (d.resolve timeout).1 = .ok v)
      (rest : Answers timeout (deferrals.setIfInBounds cell (d.resolve timeout).2) later after) :
      Answers timeout deferrals (⟨cell, v⟩ :: later) after

namespace Answers

variable {timeout : ℕ} {deferrals between after : Array Deferral} {log later : List Answer}

theorem append (first : Answers timeout deferrals log between)
    (second : Answers timeout between later after) :
    Answers timeout deferrals (log ++ later) after := by
  induction first with
  | none => exact second
  | asked there came _ ih => exact .asked there came (ih second)

/-- Asking changes what is in the cell. -/
theorem getElem?_set {cell other : ℕ} {d d' : Deferral} (there : deferrals[cell]? = some d) :
    (deferrals.setIfInBounds cell d')[other]? =
      if other = cell then some d' else deferrals[other]? := by
  split
  next same =>
    subst same
    exact Array.getElem?_setIfInBounds_self_of_lt (Array.getElem?_eq_some_iff.1 there).1
  next ne => exact Array.getElem?_setIfInBounds_ne fun same => ne same.symm

/-- A resolver was called as often as values came from its cell, with the same patience each time,
and these are its answers to the calls. -/
theorem of_resolver (answers : Answers timeout deferrals log after) {cell : ℕ} {r : Resolver}
    (there : deferrals[cell]? = some (.resolver r)) :
    after[cell]? = some (.resolver { r with
      calls := List.replicate (Answer.from cell log).length timeout ++ r.calls }) ∧
    (Answer.from cell log).map Except.ok =
      (List.range' r.calls.length (Answer.from cell log).length).map (r.answer · timeout) := by
  induction answers generalizing r with
  | none => exact ⟨there, rfl⟩
  | @asked deferrals after asked d v later found came _ ih =>
    by_cases same : cell = asked
    · subst same
      obtain rfl : d = .resolver r := Option.some.inj (found.symm.trans there)
      obtain ⟨last, given⟩ := ih (r := (r.resolve timeout).2)
        ((getElem?_set found).trans (if_pos rfl))
      have step : Answer.from cell (⟨cell, v⟩ :: later) = v :: Answer.from cell later := by
        simp [Answer.from]
      rw [step, List.length_cons, List.range'_succ, List.map_cons, List.map_cons, given, last]
      refine ⟨?_, congrArg₂ List.cons came.symm rfl⟩
      rw [List.replicate_succ', List.append_assoc]
      rfl
    · have step : Answer.from cell (⟨asked, v⟩ :: later) = Answer.from cell later := by
        simp [Answer.from, Ne.symm same]
      rw [step]
      exact ih ((getElem?_set found).trans ((if_neg same).trans there))

/-- What a cell brings afterwards it brought before. -/
theorem brings (answers : Answers timeout deferrals log after) {cell : ℕ} {d : Deferral}
    (there : after[cell]? = some d) :
    ∃ before, deferrals[cell]? = some before ∧ ∀ v, d.Brings v → before.Brings v := by
  induction answers with
  | none => exact ⟨d, there, fun _ => id⟩
  | @asked deferrals after asked origin v later found came _ ih =>
    obtain ⟨before, here, brings⟩ := ih there
    rw [getElem?_set found] at here
    split at here
    next same =>
      obtain rfl := Option.some.inj here
      exact ⟨origin, same ▸ found,
        fun v brought => (Deferral.brings_of_resolve timeout origin).2 v (brings v brought)⟩
    next => exact ⟨before, here, brings⟩

end Answers

/-! ## Items that were drawn -/

namespace Sequence

/-- Drawing goes on where it stopped. -/
theorem firsts_add (s : Sequence) (most more : ℕ) :
    (s.firsts (most + more)).2 = ((s.firsts most).2.firsts more).2 := by
  obtain ⟨source, drawn, busy⟩ := s
  cases source with
  | listed items =>
    have count : drawn + min (most + more) items.length =
        drawn + min most items.length + min more (items.length - most) := by omega
    rw [firsts_of_listed, firsts_of_listed, firsts_of_listed, List.drop_drop, List.length_drop,
      count]
  | endless item height bounded next =>
    rw [firsts_of_endless, firsts_of_endless, firsts_of_endless, Nat.add_assoc, Nat.add_assoc]

theorem firsts_append (s : Sequence) (most more : ℕ) :
    (s.firsts (most + more)).1 = (s.firsts most).1 ++ ((s.firsts most).2.firsts more).1 := by
  obtain ⟨source, drawn, busy⟩ := s
  cases source with
  | listed items =>
    rw [firsts_of_listed, firsts_of_listed, firsts_of_listed, List.take_add]
  | endless item height bounded next =>
    rw [firsts_of_endless, firsts_of_endless, firsts_of_endless, ← List.map_append,
      List.range'_append_1]

/-- A mark makes no difference to what is drawn. -/
theorem firsts_mark (s : Sequence) (busy : Bool) (most : ℕ) :
    firsts { s with busy } most = ((s.firsts most).1, { (s.firsts most).2 with busy }) := by
  obtain ⟨source, drawn, before⟩ := s
  cases source with
  | listed items => rw [firsts_of_listed, firsts_of_listed]
  | endless item height bounded next => rw [firsts_of_endless, firsts_of_endless]

theorem firsts_busy (s : Sequence) (most : ℕ) : (s.firsts most).2.busy = s.busy := by
  obtain ⟨source, drawn, busy⟩ := s
  cases source with
  | listed items => rw [firsts_of_listed]
  | endless item height bounded next => rw [firsts_of_endless]

theorem firsts_length_le (s : Sequence) (most : ℕ) : (s.firsts most).1.length ≤ most := by
  rw [(s.firsts_count most).1]
  cases s.source.size? with
  | none => exact Nat.le_refl _
  | some size => exact Nat.min_le_left ..

/-- A sequence that has nothing left stays as it is. -/
theorem draw_of_none {s : Sequence} (none : s.draw.1 = none) : s.draw.2 = s := by
  obtain ⟨source, drawn, busy⟩ := s
  cases source with
  | listed items =>
    cases items with
    | nil => rfl
    | cons item rest => cases none
  | endless item height bounded next => cases none

theorem draw_busy (s : Sequence) : s.draw.2.busy = s.busy := by
  rw [draw]
  rcases s.source.draw with ⟨_ | v, left⟩ <;> rfl

theorem firsts_of_none {s : Sequence} (none : s.draw.1 = none) (most : ℕ) :
    s.firsts most = ([], s) := by
  cases most with
  | zero => rfl
  | succ most =>
    have drew : s.draw = (.none, s) := Prod.ext none (draw_of_none none)
    simp only [firsts, drew]

/-- As many items as were drawn are the first ones. -/
theorem firsts_length (s : Sequence) (most : ℕ) :
    s.firsts (s.firsts most).1.length = s.firsts most := by
  induction most generalizing s with
  | zero => rfl
  | succ most ih =>
    rcases drew : s.draw with ⟨_ | v, left⟩
    · have none : s.draw.1 = none := congrArg Prod.fst drew
      rw [firsts_of_none none, firsts_of_none none]
    · simp only [firsts, drew, List.length_cons, ih left]

/-- What is drawn was supplied, and what is supplied afterwards was too. -/
theorem supplies_of_firsts (s : Sequence) (most : ℕ) :
    (∀ v ∈ (s.firsts most).1, s.source.Supplies v) ∧
      ∀ v, (s.firsts most).2.source.Supplies v → s.source.Supplies v := by
  induction most generalizing s with
  | zero => exact ⟨List.forall_mem_nil _, fun _ => id⟩
  | succ most ih =>
    obtain ⟨supplied, still⟩ := s.supplies_of_draw
    rcases drew : s.draw with ⟨_ | v, left⟩
    · rw [drew] at still
      simp only [firsts, drew]
      exact ⟨List.forall_mem_nil _, still⟩
    · rw [drew] at supplied still
      simp only [firsts, drew]
      obtain ⟨front, back⟩ := ih left
      refine ⟨fun w inside => ?_, fun w supplies => still w (back w supplies)⟩
      rcases List.mem_cons.1 inside with rfl | inside
      · exact supplied w rfl
      · exact still w (front w inside)

end Sequence

namespace Encoder

/-! ## Stretches of a run -/

/-- What a stretch of a run does to an encoder apart from its output. Sequences that others are in
the middle of are left alone; the stretch itself may be in the middle of the one in `own`. -/
structure Spends (own : Option ℕ) (e : Encoder) (log : List Answer) (after : Encoder) : Prop where
  setting : after.setting = e.setting
  idle : e.Idle → after.Idle
  answers : Answers e.options.derefTimeout e.store.deferrals log after.store.deferrals
  drawn (cell : ℕ) : ∃ count,
    after.store.sequences[cell]? = (e.store.sequences[cell]?).map (fun s => (s.firsts count).2) ∧
      (own ≠ some cell → e.store.sequenceIsBusy cell = true → count = 0)

namespace Spends

variable {own : Option ℕ} {e between after : Encoder} {log later : List Answer}

theorem options_eq (h : Spends own e log after) : after.options = e.options :=
  congrArg Setting.options h.setting

/-- A stretch in which nothing is asked for and nothing is drawn. -/
theorem of_store (setting : after.setting = e.setting) (idle : e.Idle → after.Idle)
    (deferrals : after.store.deferrals = e.store.deferrals)
    (sequences : after.store.sequences = e.store.sequences) : Spends own e [] after where
  setting
  idle
  answers := deferrals ▸ .none _
  drawn cell := by
    refine ⟨0, ?_, fun _ _ => rfl⟩
    rw [sequences]
    cases e.store.sequences[cell]? <;> rfl

theorem refl (e : Encoder) : Spends own e [] e := of_store rfl id rfl rfl

/-- Sequences that are being written still are. -/
theorem busy_eq (h : Spends own e log after) (cell : ℕ) :
    after.store.sequenceIsBusy cell = e.store.sequenceIsBusy cell := by
  obtain ⟨count, drawn, -⟩ := h.drawn cell
  rw [Store.sequenceIsBusy, Store.sequenceIsBusy, drawn]
  cases e.store.sequences[cell]? with
  | none => rfl
  | some s => exact s.firsts_busy count

theorem marked (h : Spends own e log after) {cell : ℕ}
    (busy : ∀ s, e.store.sequences[cell]? = some s → s.busy = true) :
    ∀ s, after.store.sequences[cell]? = some s → s.busy = true := by
  obtain ⟨count, drawn, -⟩ := h.drawn cell
  intro s there
  rw [drawn] at there
  obtain ⟨before, here, rfl⟩ := Option.map_eq_some_iff.1 there
  exact (before.firsts_busy count).trans (busy before here)

/-- A sequence that is being written is left as it was. -/
theorem kept (h : Spends none e log after) {cell : ℕ}
    (busy : ∀ s, e.store.sequences[cell]? = some s → s.busy = true) :
    after.store.sequences[cell]? = e.store.sequences[cell]? := by
  obtain ⟨count, drawn, kept⟩ := h.drawn cell
  rw [drawn]
  cases there : e.store.sequences[cell]? with
  | none => rfl
  | some s =>
    have marked : e.store.sequenceIsBusy cell = true := by
      rw [Store.sequenceIsBusy, there]
      exact busy s there
    rw [kept (Option.some_ne_none cell).symm marked]
    rfl

theorem trans (first : Spends own e log between) (second : Spends own between later after) :
    Spends own e (log ++ later) after where
  setting := second.setting.trans first.setting
  idle := second.idle ∘ first.idle
  answers := first.answers.append (first.options_eq ▸ second.answers)
  drawn cell := by
    obtain ⟨count, drawn, kept⟩ := first.drawn cell
    obtain ⟨count', drawn', kept'⟩ := second.drawn cell
    refine ⟨count + count', ?_, fun foreign busy => ?_⟩
    · rw [drawn', drawn, Option.map_map]
      cases e.store.sequences[cell]? with
      | none => rfl
      | some s => exact congrArg some (s.firsts_add count count').symm
    · rw [kept foreign busy, kept' foreign ((first.busy_eq cell).trans busy)]

theorem widen (h : Spends none e log after) : Spends own e log after where
  setting := h.setting
  idle := h.idle
  answers := h.answers
  drawn cell := by
    obtain ⟨count, drawn, kept⟩ := h.drawn cell
    exact ⟨count, drawn, fun _ => kept (Option.some_ne_none cell).symm⟩

/-- A sequence is marked while the stretch is in the middle of it. -/
theorem unmarked {cell : ℕ} (free : e.store.sequenceIsBusy cell = false)
    (h : Spends (some cell) { e with store := e.store.markSequence cell true } log after) :
    Spends none e log { after with store := after.store.markSequence cell false } where
  setting := h.setting
  idle := h.idle
  answers := h.answers
  drawn other := by
    obtain ⟨count, drawn, kept⟩ := h.drawn other
    refine ⟨count, ?_, fun _ busy => ?_⟩
    · by_cases same : cell = other
      · subst same
        rw [Store.getElem?_markSequence, if_pos rfl, drawn, Store.getElem?_markSequence, if_pos rfl]
        rw [Store.sequenceIsBusy] at free
        cases there : e.store.sequences[cell]? with
        | none => rfl
        | some s =>
          rw [there] at free
          have idle := (s.firsts_busy count).trans free
          simp only [Option.map_some, Sequence.firsts_mark, ← idle]
      · rw [Store.getElem?_markSequence, if_neg same, drawn, Store.getElem?_markSequence,
          if_neg same]
    · have ne : cell ≠ other := by
        rintro rfl
        exact absurd (free.symm.trans busy) Bool.noConfusion
      refine kept (fun same => ne (Option.some.inj same)) ?_
      rwa [Store.sequenceIsBusy, Store.getElem?_markSequence, if_neg ne, ← Store.sequenceIsBusy]

end Spends

/-! ## Encoders behind a stretch -/

/-- An encoder that another one has become while it wrote values of a set. -/
structure Under (origin : Encoder) (A : Value → Prop) (e : Encoder) : Prop where
  setting : e.setting = origin.setting
  idle : e.Idle
  encloses : Encloses origin.options origin.registry e.store A
  later (cell : ℕ) : ∃ count busy, e.store.sequences[cell]? =
    (origin.store.sequences[cell]?).map fun s => { (s.firsts count).2 with busy }

namespace Under

variable {origin : Encoder} {A : Value → Prop} {e after : Encoder}

theorem refl {e : Encoder} (idle : e.Idle) (encloses : Encloses e.options e.registry e.store A) :
    Under e A e where
  setting := rfl
  idle
  encloses
  later cell := by
    cases there : e.store.sequences[cell]? with
    | none => exact ⟨0, false, rfl⟩
    | some s => exact ⟨0, s.busy, rfl⟩

/-- Cells that bring and supply no more than they did lead to no other values. -/
theorem encloses_of_fewer {options : Options} {registry : Registry} {store store' : Store}
    (encloses : Encloses options registry store A)
    (brings : ∀ {cell : ℕ} {d : Deferral}, store'.deferrals[cell]? = some d →
      ∃ before, store.deferrals[cell]? = some before ∧ ∀ v, d.Brings v → before.Brings v)
    (supplies : ∀ {cell : ℕ} {s : Sequence}, store'.sequences[cell]? = some s →
      ∃ before, store.sequences[cell]? = some before ∧
        ∀ v, s.source.Supplies v → before.source.Supplies v) :
    Encloses options registry store' A := by
  intro v w member part
  cases part with
  | brought there brought =>
    obtain ⟨before, here, still⟩ := brings there
    exact encloses member (.brought here (still w brought))
  | item there supplied =>
    obtain ⟨before, here, still⟩ := supplies there
    exact encloses member (.item here (still w supplied))
  | vector inside => exact encloses member (.vector inside)
  | set inside => exact encloses member (.set inside)
  | seq inside => exact encloses member (.seq inside)
  | key inside => exact encloses member (.key inside)
  | value inside => exact encloses member (.value inside)
  | cause below => exact encloses member (.cause below)
  | suppressed beside => exact encloses member (.suppressed beside)
  | data inside => exact encloses member (.data inside)
  | inner => exact encloses member .inner
  | notes => exact encloses member .notes
  | ready => exact encloses member .ready
  | handled known mentions => exact encloses member (.handled known mentions)

theorem spends {own : Option ℕ} {log : List Answer} (under : Under origin A e)
    (h : Spends own e log after) : Under origin A after where
  setting := h.setting.trans under.setting
  idle := h.idle under.idle
  encloses := by
    refine encloses_of_fewer under.encloses h.answers.brings fun {cell s} there => ?_
    obtain ⟨count, drawn, -⟩ := h.drawn cell
    rw [drawn] at there
    obtain ⟨before, here, rfl⟩ := Option.map_eq_some_iff.1 there
    exact ⟨before, here, (before.supplies_of_firsts count).2⟩
  later cell := by
    obtain ⟨count, busy, here⟩ := under.later cell
    obtain ⟨count', drawn, -⟩ := h.drawn cell
    refine ⟨count + count', busy, ?_⟩
    rw [drawn, here, Option.map_map]
    cases origin.store.sequences[cell]? with
    | none => rfl
    | some s =>
      simp only [Option.map_some, Function.comp, Sequence.firsts_mark, Sequence.firsts_add]

/-- A mark changes nothing else. -/
theorem mark (under : Under origin A e) (cell : ℕ) (busy : Bool) :
    Under origin A { e with store := e.store.markSequence cell busy } where
  setting := under.setting
  idle := under.idle
  encloses := by
    refine @encloses_of_fewer _ _ _ _ (e.store.markSequence cell busy) under.encloses
      (fun there => ⟨_, there, fun _ => id⟩) fun {other s} there => ?_
    rw [Store.getElem?_markSequence] at there
    split at there
    next same =>
      obtain ⟨before, here, rfl⟩ := Option.map_eq_some_iff.1 there
      exact ⟨before, same ▸ here, fun _ => id⟩
    next => exact ⟨s, there, fun _ => id⟩
  later other := by
    obtain ⟨count, before, here⟩ := under.later other
    rw [Store.getElem?_markSequence]
    split
    next same =>
      subst same
      refine ⟨count, busy, ?_⟩
      rw [here, Option.map_map]
      rfl
    next => exact ⟨count, before, here⟩

end Under

end Encoder

end TaggedStream
