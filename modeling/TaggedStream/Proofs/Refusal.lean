import TaggedStream.Proofs.Asking
import TaggedStream.Proofs.Deepening

/-!
Values that are refused before they are written, and what they leave behind.

A value is refused in the first phase when a chain of deferred and annotated values ends in
something that cannot be written: a deferred value that does not come, an object that nothing
writes, or a time in a leap second. `Refused` follows the chain down through the store. Nothing is
written then if the whole chain belongs to the first phase. Notes that are not saved end the first
phase, so that the identifiers of the deferred values above them have been written when what is
below them is refused.
-/

namespace TaggedStream

/-- What stands around the head of a chain: a deferred value, with the cell that is asked for it, if
it is not there already, or notes. -/
inductive Layer where
  | deferred (cell : Option Nat)
  | notes
deriving DecidableEq

namespace Layer

/-- How many deferred layers stand above the last notes of a chain, outermost layer first. -/
def exposed : List Layer → Nat
  | [] => 0
  | .deferred _ :: rest => if .notes ∈ rest then exposed rest + 1 else 0
  | .notes :: rest => exposed rest

/-- A chain without notes exposes nothing. -/
theorem exposed_of_not_mem {layers : List Layer} (absent : .notes ∉ layers) :
    exposed layers = 0 := by
  cases layers with
  | nil => rfl
  | cons layer rest =>
    cases layer with
    | deferred cell => exact if_neg (mt (List.mem_cons_of_mem _) absent)
    | notes => exact absurd (List.mem_cons_self ..) absent

/-- A deferred layer stands above notes. -/
def Above (upper lower : Layer) : Prop := upper ≠ .notes ∧ lower = .notes

/-- No deferred layer is exposed exactly if none stands above notes. -/
theorem exposed_eq_zero_iff (layers : List Layer) :
    exposed layers = 0 ↔ layers.Pairwise fun upper lower => ¬ Above upper lower := by
  induction layers with
  | nil => simp [exposed]
  | cons layer rest ih =>
    cases layer with
    | deferred cell =>
      simp only [exposed, List.pairwise_cons, Above, ne_eq, reduceCtorEq, not_false_eq_true,
        true_and]
      by_cases below : Layer.notes ∈ rest
      · simp [below]
      · have none : ∀ lower ∈ rest, ¬ lower = .notes := fun lower mem same => below (same ▸ mem)
        simp only [below, if_false, true_iff]
        refine ⟨none, List.Pairwise.imp_of_mem ?_ (List.pairwise_of_forall fun _ _ => trivial)⟩
        intro upper lower _ mem _ found
        rcases found with ⟨-, same⟩
        exact none lower mem same
    | notes =>
      simp [exposed, ih, Above]

end Layer

/-- The cell that is asked for a deferred value, unless the value is there already. -/
def Deferred.cell? {ν : Type} : Deferred ν → Option Nat
  | .ready .. => none
  | .shared cell => some cell

/-! ## Chains -/

/-- The value is a chain of layers, outermost first, around something that is refused with an error.
Deferred values on the chain are asked for in the first store, which leaves the second one. -/
inductive Refused (options : Options) (registry : Registry) :
    Store → Value → List Layer → StreamError → Store → Prop
  | unresolved {store after : Store} {d : Deferred Value} {failure : DeferredFailure}
      (asked : store.resolve options.derefTimeout d = (.error failure, after)) :
      Refused options registry store (.future d) [] (.deferred failure) after
  | object {store : Store} {o : HostObject Value} (unknown : registry.writer? o.type = none)
      (strict : options.encodeUnsupported = false) :
      Refused options registry store (.object o) [] (.unsupportedType o.type.typeName) store
  | time {store : Store} {t : TimeOfDay} (leap : t.isLeap = true) :
      Refused options registry store (.time t) [] (.malformed Tag.time.code (.leapSecond t)) store
  | offsetTime {store : Store} {t : OffsetTime} (leap : t.time.isLeap = true) :
      Refused options registry store (.offsetTime t) []
        (.malformed Tag.offsetTime.code (.leapSecond t.time)) store
  | deferred {store between after : Store} {d : Deferred Value} {v : Value} {layers : List Layer}
      {error : StreamError} (asked : store.resolve options.derefTimeout d = (.ok v, between))
      (below : Refused options registry between v layers error after) :
      Refused options registry store (.future d) (.deferred d.cell? :: layers) error after
  | notes {store after : Store} {inner : Value} {notes : OrderedMap Value Value}
      {layers : List Layer} {error : StreamError}
      (below : Refused options registry store inner layers error after) :
      Refused options registry store (.annotated inner notes) (.notes :: layers) error after

namespace Refused

variable {options : Options} {registry : Registry} {store after : Store} {v : Value}
  {layers : List Layer} {error : StreamError}

/-- Following a chain only asks. -/
theorem asked (h : Refused options registry store v layers error after) :
    Store.Asked store after := by
  induction h with
  | unresolved asked => exact .of_resolve asked
  | object | time | offsetTime => exact .refl _
  | deferred asked _ ih => exact (Store.Asked.of_resolve asked).trans ih
  | notes _ ih => exact ih

end Refused

namespace EncodeM

variable {e : Encoder}

/-- Asking for a deferred value changes the store alone. -/
theorem resolve_of_ok {d : Deferred Value} {v : Value} {after : Store}
    (asked : e.store.resolve e.options.derefTimeout d = (.ok v, after)) :
    resolve d e = .ok v { e with store := after } := by
  have step : onStore (Store.resolve e.options.derefTimeout d) e =
      .ok (.ok v) { e with store := after } := by
    rw [onStore, asked]
  rw [resolve, settings_bind, bind_of_ok step]
  rfl

theorem resolve_of_error {d : Deferred Value} {failure : DeferredFailure} {after : Store}
    (asked : e.store.resolve e.options.derefTimeout d = (.error failure, after)) :
    resolve d e = .error (.refused (.deferred failure)) { e with store := after } := by
  have step : onStore (Store.resolve e.options.derefTimeout d) e =
      .ok (.error failure) { e with store := after } := by
    rw [onStore, asked]
  rw [resolve, settings_bind, bind_of_ok step]
  rfl

/-- An object that nothing writes has no placeholder when placeholders are off. -/
theorem placeholderOf_of_strict {o : HostObject Value}
    (strict : e.options.encodeUnsupported = false) :
    placeholderOf o e = .error (.refused (.unsupportedType o.type.typeName)) e := by
  rw [placeholderOf, settings_bind, strict]
  rfl

section

variable {options : Options} {registry : Registry} {store after : Store} {v : Value}
  {layers : List Layer} {error : StreamError}

/-- A chain that belongs to the first phase is refused there, which changes the store alone. -/
theorem prepare_of_refused (refused : Refused options registry store v layers error after)
    (whole : options.saveMeta = true ∨ .notes ∉ layers) {levels : Nat}
    (enough : layers.length ≤ levels) (optionsEq : e.options = options)
    (registryEq : e.registry = registry) (storeEq : e.store = store) :
    prepare (levels + 1) v e = .error (.refused error) { e with store := after } := by
  induction refused generalizing e levels with
  | unresolved asked =>
    subst optionsEq storeEq
    rw [prepare, prepareAbove, bind_of_error (resolve_of_error asked)]
  | object unknown strict =>
    subst optionsEq storeEq registryEq
    rw [prepare, prepareAbove, get_bind, unknown]
    exact bind_of_error (placeholderOf_of_strict strict)
  | time leap =>
    subst storeEq
    simp only [prepare, prepareAbove, refuseLeapSecond, leap, if_true]
    rfl
  | offsetTime leap =>
    subst storeEq
    simp only [prepare, prepareAbove, refuseLeapSecond, leap, if_true]
    rfl
  | @deferred store between after d v layers error asked below ih =>
    subst optionsEq storeEq
    obtain ⟨levels, rfl⟩ := Nat.exists_eq_add_of_le' (Nat.le_of_add_left_le enough)
    have inside := ih (e := { e with store := between })
      (whole.imp_right (mt (List.mem_cons_of_mem _))) (Nat.le_of_succ_le_succ enough) rfl
      registryEq rfl
    rw [prepare, prepareAbove, bind_of_ok (resolve_of_ok asked), bind_of_error inside]
  | @notes store after inner notes layers error below ih =>
    subst optionsEq
    obtain ⟨levels, rfl⟩ := Nat.exists_eq_add_of_le' (Nat.le_of_add_left_le enough)
    have saves : e.options.saveMeta = true := whole.resolve_right fun absent =>
      absent (List.mem_cons_self ..)
    have inside := ih (.inl saves) (Nat.le_of_succ_le_succ enough) rfl registryEq storeEq
    rw [prepare, prepareAbove, settings_bind, if_pos saves, bind_of_error inside]

/-- The identifiers of some deferred values. -/
def futures (count : Nat) : List UInt8 := (List.replicate count Tag.future.spelled).flatten

/-- A writer is refused after it wrote the identifiers of `count` deferred values. All else that it
changed is the store. -/
structure RefusedAfter (count : Nat) (m : EncodeM Unit) (error : StreamError) (e : Encoder)
    (after : Store) (e' : Encoder) : Prop where
  run : m e = .error (.refused error) e'
  extended : Encoder.Extends { e with store := after } (futures count) e'
  silent : count = 0 → e' = { e with store := after }

/-- Nothing is written when the first phase is refused. -/
theorem RefusedAfter.of_error {m : EncodeM Unit} (willing : e.output.Willing)
    (run : m e = .error (.refused error) { e with store := after }) :
    RefusedAfter 0 m error e after { e with store := after } :=
  ⟨run, ⟨rfl, (List.append_nil _).symm, willing⟩, fun _ => rfl⟩

/-- The identifier of a deferred value is written before what is below it is refused. -/
theorem RefusedAfter.future {m : EncodeM Unit} {count : Nat} (willing : e.output.Willing)
    (h : ∀ e₁ : Encoder, e₁.options = e.options → e₁.registry = e.registry →
      e₁.store = e.store → e₁.output.Willing → ∃ e', RefusedAfter count m error e₁ after e') :
    ∃ e', RefusedAfter (count + 1) (do tagged .future; m) error e after e' := by
  obtain ⟨between, first, written⟩ := Writes.tagged .future e rfl willing
  have frame := written.frame
  obtain ⟨e', run, extended, -⟩ := h between (by rw [frame]) (by rw [frame]) (by rw [frame])
    written.willing
  refine ⟨e', (bind_of_ok first).trans run, ?_, fun none => absurd none (Nat.succ_ne_zero _)⟩
  have start : Encoder.Extends { e with store := after } Tag.future.spelled
      { between with store := after } :=
    ⟨by rw [frame], written.written, written.willing⟩
  exact start.trans extended

/-- What the first phase comes to for a chain whose notes are not saved: it is refused when there
are no notes, and else leads to a second phase that is refused. -/
structure Phases (levels : Nat) (v : Value) (layers : List Layer) (error : StreamError)
    (e : Encoder) (after : Store) : Prop where
  first : .notes ∉ layers → prepare levels v e = .error (.refused error) { e with store := after }
  second : .notes ∈ layers → ∃ write between,
    prepare levels v e = .ok write { e with store := between } ∧
      ∀ e₁ : Encoder, e₁.options = e.options → e₁.registry = e.registry → e₁.store = between →
        e₁.output.Willing → ∃ e', RefusedAfter (Layer.exposed layers) write error e₁ after e'

/-- Both phases in turn are refused behind the identifiers of the exposed deferred values. -/
theorem Phases.inTurn {levels : Nat} (h : Phases levels v layers error e after)
    (willing : e.output.Willing) :
    ∃ e', RefusedAfter (Layer.exposed layers) (inTurn (prepare levels) v) error e after e' := by
  by_cases noted : .notes ∈ layers
  · obtain ⟨write, between, prepared, refuses⟩ := h.second noted
    obtain ⟨e', run, extended, silent⟩ := refuses { e with store := between } rfl rfl rfl willing
    exact ⟨e', (bind_of_ok prepared).trans run, extended, silent⟩
  · rw [Layer.exposed_of_not_mem noted]
    exact ⟨_, .of_error willing (bind_of_error (h.first noted))⟩

/-- Notes that are not saved end the first phase. What is below them is refused in the second phase,
behind the identifiers of the exposed deferred values. -/
theorem phases_of_refused (refused : Refused options registry store v layers error after)
    (bare : options.saveMeta = false) {levels : Nat} (enough : layers.length ≤ levels)
    (optionsEq : e.options = options) (registryEq : e.registry = registry)
    (storeEq : e.store = store) : Phases (levels + 1) v layers error e after := by
  refine ⟨fun absent =>
    prepare_of_refused refused (.inr absent) enough optionsEq registryEq storeEq, fun noted => ?_⟩
  -- The second phase of what is above meets an encoder that has written already, so the second
  -- phase of the rest is wanted for every encoder over the store that the first one left.
  induction refused generalizing e levels with
  | unresolved | object | time | offsetTime => cases noted
  | @deferred store between after d v layers error asked below ih =>
    subst optionsEq storeEq
    obtain ⟨levels, rfl⟩ := Nat.exists_eq_add_of_le' (Nat.le_of_add_left_le enough)
    have lower : Layer.notes ∈ layers := (List.mem_cons.1 noted).resolve_left Layer.noConfusion
    obtain ⟨write, between', prepared, refuses⟩ := ih (e := { e with store := between })
      (Nat.le_of_succ_le_succ enough) rfl registryEq rfl lower
    refine ⟨do tagged .future; write, between', ?_, ?_⟩
    · rw [prepare, prepareAbove, bind_of_ok (resolve_of_ok asked), bind_of_ok prepared]
      rfl
    · intro e₁ optionsEq₁ registryEq₁ storeEq₁ willing
      rw [Layer.exposed, if_pos lower]
      refine RefusedAfter.future willing fun e₂ optionsEq₂ registryEq₂ storeEq₂ willing₂ => ?_
      exact refuses e₂ (optionsEq₂.trans optionsEq₁) (registryEq₂.trans registryEq₁)
        (storeEq₂.trans storeEq₁) willing₂
  | @notes store after inner notes layers error below ih =>
    subst optionsEq
    obtain ⟨levels, rfl⟩ := Nat.exists_eq_add_of_le' (Nat.le_of_add_left_le enough)
    refine ⟨EncodeM.inTurn (prepare (levels + 1)) inner, store, ?_, ?_⟩
    · rw [prepare, prepareAbove, settings_bind, bare, if_neg Bool.false_ne_true, ← storeEq]
      rfl
    · intro e₁ optionsEq₁ registryEq₁ storeEq₁ willing
      have inner : Phases (levels + 1) inner layers error e₁ after :=
        ⟨fun absent => prepare_of_refused below (.inr absent) (Nat.le_of_succ_le_succ enough)
            optionsEq₁ (registryEq₁.trans registryEq) storeEq₁,
          ih (Nat.le_of_succ_le_succ enough) optionsEq₁ (registryEq₁.trans registryEq) storeEq₁⟩
      exact inner.inTurn willing

/-- How many identifiers of deferred values are written before a chain is refused. -/
def dangling (options : Options) (layers : List Layer) : Nat :=
  if options.saveMeta then 0 else Layer.exposed layers

/-- A chain is refused behind its dangling identifiers, in the first phase or in the second. -/
theorem encodeWithin_of_refused (willing : e.output.Willing)
    (refused : Refused e.options e.registry e.store v layers error after) {levels : Nat}
    (enough : layers.length ≤ levels) :
    ∃ e', RefusedAfter (dangling e.options layers) (encodeWithin (levels + 1) v) error e after
      e' := by
  by_cases saves : e.options.saveMeta = true
  · have first := prepare_of_refused refused (.inl saves) enough rfl rfl rfl
    rw [dangling, if_pos saves]
    exact ⟨_, .of_error willing (bind_of_error first)⟩
  · rw [dangling, if_neg saves]
    exact (phases_of_refused refused (Bool.not_eq_true _ ▸ saves) enough rfl rfl rfl).inTurn willing

/-- A writer is refused, and the identifiers of the dangling deferred values are all that it wrote.
It leaves no trace, but that deferred values were asked for, exactly if notes are saved or no
deferred layer stands above notes. -/
def LeavesDangling (m : EncodeM Unit) (layers : List Layer) (error : StreamError) (e : Encoder)
    (after : Store) : Prop :=
  ∃ e', m e = .error (.refused error) e' ∧
    Encoder.Extends { e with store := after } (futures (dangling e.options layers)) e' ∧
    (e' = { e with store := after } ↔
      e.options.saveMeta = true ∨ layers.Pairwise fun upper lower => ¬ Layer.Above upper lower)

theorem dangling_eq_zero_iff (options : Options) (layers : List Layer) :
    dangling options layers = 0 ↔
      options.saveMeta = true ∨ layers.Pairwise fun upper lower => ¬ Layer.Above upper lower := by
  by_cases saves : options.saveMeta = true
  · simp [dangling, saves]
  · simp [dangling, saves, Layer.exposed_eq_zero_iff]

theorem futures_eq_nil_iff (count : Nat) : futures count = [] ↔ count = 0 := by
  cases count with
  | zero => simp [futures]
  | succ count =>
    simp only [futures, List.replicate_succ, List.flatten_cons, Nat.succ_ne_zero, iff_false]
    exact List.append_ne_nil_of_left_ne_nil (List.cons_ne_nil _ _) _

theorem RefusedAfter.leavesDangling {m : EncodeM Unit} {e' : Encoder}
    (h : RefusedAfter (dangling e.options layers) m error e after e') :
    LeavesDangling m layers error e after := by
  refine ⟨e', h.run, h.extended, ?_⟩
  rw [← dangling_eq_zero_iff]
  refine ⟨fun clean => ?_, h.silent⟩
  have kept := h.extended.written
  rw [clean] at kept
  exact (futures_eq_nil_iff _).1 (List.append_right_eq_self.1 kept.symm)

/-- A value whose chain of deferred and annotated values ends in something that cannot be written is
refused with the error of what it ends in, and the deferred values on the chain were asked for. What
it leaves in the sink are the identifiers of its deferred values above notes that are not saved: it
leaves no trace exactly if notes are saved or no deferred value stands above notes. So it is for a
session, and for every number of levels that reaches the end of the chain. -/
theorem encode_refused (willing : e.output.Willing)
    (refused : Refused e.options e.registry e.store v layers error after) :
    Store.Asked e.store after ∧
      (∀ levels, layers.length < levels →
        LeavesDangling (encodeWithin levels v) layers error e after) ∧
      LeavesDangling (encode v) layers error e after := by
  have within : ∀ levels, layers.length < levels →
      LeavesDangling (encodeWithin levels v) layers error e after := by
    intro levels enough
    obtain ⟨levels, rfl⟩ := Nat.exists_eq_add_of_lt enough
    obtain ⟨e', h⟩ := encodeWithin_of_refused willing refused (Nat.le_add_right _ levels)
    exact h.leavesDangling
  obtain ⟨e', run, left⟩ := within _ (Nat.lt_succ_self _)
  exact ⟨refused.asked, within, e', encode_of_refused run, left⟩

end

/-- A leap second below notes that are not saved leaves the identifier of the deferred value above
them in the sink. -/
theorem encode_refused_leap_second :
    let leap : TimeOfDay := ⟨86399, 1500000000, by decide, by decide⟩
    ∃ e', encode (.future (.ready none (.annotated (.time leap) ⟨[]⟩)))
        (.fresh {} { saveMeta := false } { sink := .unlimited } {}) =
          .error (.refused (.malformed 0x82 (.leapSecond leap))) e' ∧
      e'.output.written = [0x00, 0xA0] := by
  intro leap
  obtain ⟨-, -, session⟩ := encode_refused
    (e := .fresh {} { saveMeta := false } { sink := .unlimited } {})
    (v := .future (.ready none (.annotated (.time leap) ⟨[]⟩))) Output.willing_of_unlimited
    (.deferred rfl (.notes (.time rfl)))
  obtain ⟨e', run, extended, -⟩ := session
  exact ⟨e', run, extended.written⟩

end EncodeM

end TaggedStream
