import Mathlib.Logic.Relation
import TaggedStream.Proofs.Asking
import TaggedStream.Proofs.Kinship

/-!
The same value written by two encoders.

A value is written alike by encoders over the same cells. More than that, the cells need to be the
same only as far as the value leads: `Part` relates a value to what may be written while it is
written, through sequences, deferred values and handlers, and any set of values that contains all
parts of its members is a correspondence with itself.
-/

namespace TaggedStream

/-! ## Placeholders -/

section

variable {store store' : Store} (outcomes : ∀ d, store'.outcome? d = store.outcome? d)

include outcomes

theorem Value.describeWithin_congr (fuel : ℕ) :
    Value.describeWithin store' fuel = Value.describeWithin store fuel := by
  induction fuel with
  | zero => rfl
  | succ fuel ih =>
    funext v
    cases v with
    | future d => simp only [Value.describeWithin, Deferred.describe, outcomes d, ih]
    | _ => simp only [Value.describeWithin, ih]

/-- A placeholder shows deferred values, so it is the same where these are. -/
theorem Store.placeholder_congr (heights : store'.heightOfDeferrals = store.heightOfDeferrals)
    (o : HostObject Value) : store'.placeholder o = store.placeholder o := by
  have same : Value.describe store' = Value.describe store := by
    funext v
    rw [Value.describe, Value.describe, Value.describeWithin_congr outcomes, heights]
  rw [Store.placeholder, Store.placeholder, Store.describeObject, Store.describeObject, same]

end

/-- A placeholder depends on the origins of deferred values alone. -/
theorem Store.placeholder_of_deferrals {store store' : Store}
    (deferrals : store'.deferrals = store.deferrals) (o : HostObject Value) :
    store'.placeholder o = store.placeholder o := by
  refine placeholder_congr (fun d => ?_) ?_ o
  · cases d with
    | ready => rfl
    | shared cell =>
      simp only [Store.outcome?, Store.peek, deferrals]
      cases store.deferrals[cell]? <;> rfl
  · rw [Store.heightOfDeferrals, deferrals, ← Store.heightOfDeferrals]

/-! ## Parts -/

namespace WritePlan

variable {α : Type}

/-- The plan may write the value. -/
inductive Mentions (v : Value) : WritePlan α → Prop
  | put (op : String) (slice : List UInt8) {next : Except StreamError Unit → WritePlan α}
      (outcome : Except StreamError Unit) (later : Mentions v (next outcome)) :
      Mentions v (.put op slice next)
  | here {next : Except StreamError Unit → WritePlan α} : Mentions v (.value v next)
  | value {w : Value} {next : Except StreamError Unit → WritePlan α}
      (outcome : Except StreamError Unit) (later : Mentions v (next outcome)) :
      Mentions v (.value w next)

theorem Mentions.eq_of_writeValue {v w : Value} (h : (writeValue v).Mentions w) : w = v := by
  cases h with
  | here => rfl
  | value outcome later => cases outcome <;> cases later

theorem All.of_mentions {P : Value → Prop} {plan : WritePlan α} (h : ∀ v, plan.Mentions v → P v) :
    plan.All P := by
  induction plan with
  | done result => exact .done result
  | refuse error => exact .refuse error
  | put op slice next ih =>
    exact .put op slice fun outcome => ih outcome fun v later => h v (.put op slice outcome later)
  | value v next ih =>
    exact .value (h v .here) fun outcome => ih outcome fun w later => h w (.value outcome later)

end WritePlan

/-- The value may be drawn. -/
def ItemSource.Supplies : ItemSource → Value → Prop
  | .listed items, v => v ∈ items
  | .endless item _ _ _, v => ∃ k, item k = v

/-- The value may come. -/
def Deferral.Brings : Deferral → Value → Prop
  | .promise p, v => p.receive.1 = some (.ok v)
  | .resolver r, v => ∃ earlier timeout, r.answer earlier timeout = .ok v

/-- While the first value is written over a store, the second one may be written for it. -/
inductive Part (options : Options) (registry : Registry) (store : Store) : Value → Value → Prop
  | vector {items : List Value} {v : Value} (inside : v ∈ items) :
      Part options registry store (.vector items) v
  | set {items : List Value} {v : Value} (inside : v ∈ items) :
      Part options registry store (.set items) v
  | seq {items : List Value} {v : Value} (inside : v ∈ items) :
      Part options registry store (.seq items) v
  | key {m : OrderedMap Value Value} {entry : Value × Value} (inside : entry ∈ m.entries) :
      Part options registry store (.map m) entry.1
  | value {m : OrderedMap Value Value} {entry : Value × Value} (inside : entry ∈ m.entries) :
      Part options registry store (.map m) entry.2
  | cause {t cause : Throwable Value} (below : t.cause = some cause) :
      Part options registry store (.throwable t) (.throwable cause)
  | suppressed {t other : Throwable Value} (beside : other ∈ t.suppressed) :
      Part options registry store (.throwable t) (.throwable other)
  | data {t : Throwable Value} {m : OrderedMap Value Value} (inside : t.data = some m) :
      Part options registry store (.throwable t) (.map m)
  | inner {inner : Value} {notes : OrderedMap Value Value} :
      Part options registry store (.annotated inner notes) inner
  | notes {inner : Value} {notes : OrderedMap Value Value} :
      Part options registry store (.annotated inner notes) (.map notes)
  | ready {handle : Option ℕ} {v : Value} :
      Part options registry store (.future (.ready handle v)) v
  | brought {cell : ℕ} {d : Deferral} {v : Value} (there : store.deferrals[cell]? = some d)
      (brings : d.Brings v) : Part options registry store (.future (.shared cell)) v
  | item {cell : ℕ} {s : Sequence} {v : Value} (there : store.sequences[cell]? = some s)
      (supplies : s.source.Supplies v) : Part options registry store (.lazySeq cell) v
  | handled {o : HostObject Value} {writer : ObjectWriter} {v : Value}
      (known : registry.writer? o.type = some writer) (mentions : (writer options o).Mentions v) :
      Part options registry store (.object o) v

/-- All parts of members are members. -/
def Encloses (options : Options) (registry : Registry) (store : Store) (A : Value → Prop) : Prop :=
  ∀ {v w : Value}, A v → Part options registry store v w → A w

/-- While the first value is written by an encoder, the second one may be written, at some depth. -/
def Leads (e : Encoder) : Value → Value → Prop :=
  Relation.ReflTransGen (Part e.options e.registry e.store)

/-! ## The kind of the same values -/

/-- Deferred values of a set are asked for alike, and are shown alike. -/
structure DeferredAlike (A : Value → Prop) (deferrals : Array Deferral → Array Deferral → Prop) :
    Prop where
  asked {d : Deferred Value} (member : A (.future d)) (timeout : ℕ) {store store' : Store}
    (related : deferrals store.deferrals store'.deferrals) :
    Outcome.Alike (fun v w => w = v ∧ A v) (store.resolve timeout d).1
        (store'.resolve timeout d).1 ∧
      deferrals (store.resolve timeout d).2.deferrals (store'.resolve timeout d).2.deferrals
  shown {store store' : Store} (related : deferrals store.deferrals store'.deferrals)
    (o : HostObject Value) : store'.placeholder o = store.placeholder o

/-- The same origins, which bring values of a set. -/
def Deferral.Same (A : Value → Prop) (ds ds' : Array Deferral) : Prop :=
  ds' = ds ∧ ∀ (cell : ℕ) (d : Deferral), ds[cell]? = some d → A (.future (.shared cell)) →
    ∀ v, d.Brings v → A v

/-- The values of a set are written by encoders over the same cells. -/
def Kind.same (A : Value → Prop) (stuck : ℕ → Prop)
    (deferrals : Array Deferral → Array Deferral → Prop)
    (outputs : Output → ℕ → Output → ℕ → Prop) : Kind where
  values v w := w = v ∧ A v
  sequences _ s s' := s' = s ∧ ∀ v, s.source.Supplies v → A v
  deferrals
  outputs
  stuck

/-- Outputs of two encoders take slices alike. -/
def Outlets (outputs : Output → ℕ → Output → ℕ → Prop) : Prop :=
  ∀ (slice : List UInt8) {output output' : Output} {position position' : ℕ},
    outputs output position output' position' →
      (∃ after after', output.put slice = (none, after) ∧ output'.put slice = (none, after') ∧
        outputs after (position + slice.length) after' (position' + slice.length)) ∨
      ∃ cause after after', output.put slice = (some cause, after) ∧
        output'.put slice = (some cause, after') ∧ outputs after position after' position'

/-- What is drawn was supplied, and no more is supplied afterwards. -/
theorem Sequence.supplies_of_draw (s : Sequence) :
    (∀ v, s.draw.1 = some v → s.source.Supplies v) ∧
      ∀ v, s.draw.2.source.Supplies v → s.source.Supplies v := by
  obtain ⟨source, drawn, busy⟩ := s
  cases source with
  | listed items =>
    cases items with
    | nil => exact ⟨nofun, fun v h => h⟩
    | cons item rest =>
      exact ⟨fun v same => Option.some.inj same ▸ List.mem_cons_self ..,
        fun v h => List.mem_cons_of_mem _ h⟩
  | endless item height bounded next =>
    exact ⟨fun v same => ⟨next, Option.some.inj same⟩, fun v h => h⟩

/-- What comes was to be brought, and asking brings nothing new. -/
theorem Deferral.brings_of_resolve (timeout : ℕ) (d : Deferral) :
    (∀ v, (d.resolve timeout).1 = .ok v → d.Brings v) ∧
      ∀ v, (d.resolve timeout).2.Brings v → d.Brings v := by
  cases d with
  | resolver r => exact ⟨fun v came => ⟨_, _, came⟩, fun v h => h⟩
  | promise p =>
    constructor
    · intro v came
      change (p.resolve timeout).1 = .ok v at came
      unfold Promise.resolve at came
      split at came
      next outcome _ received =>
        change p.receive.1 = some (.ok v)
        rw [received, ← came]
      next => cases came
    · intro v brings
      change (p.resolve timeout).2.receive.1 = some (.ok v) at brings
      rwa [Promise.resolve_snd, Promise.receive_receive] at brings

/-- The same origins are asked and shown alike. -/
theorem Deferral.Same.alike {A : Value → Prop}
    (ready : ∀ {handle v}, A (.future (.ready handle v)) → A v) :
    DeferredAlike A (Deferral.Same A) where
  asked {d} member timeout store store' related := by
    obtain ⟨sameCells, promised⟩ := related
    cases d with
    | ready handle v => exact ⟨.ok ⟨rfl, ready member⟩, sameCells, promised⟩
    | shared cell =>
      cases there : store.deferrals[cell]? with
      | none =>
        rw [Store.resolve, Store.resolve, sameCells, there]
        exact ⟨.error _, sameCells, promised⟩
      | some d =>
        rw [Store.resolve_shared there, Store.resolve_shared (sameCells ▸ there)]
        obtain ⟨came, after⟩ := d.brings_of_resolve timeout
        refine ⟨?_, by rw [sameCells], fun other d' there' member' v brings => ?_⟩
        · cases found : (d.resolve timeout).1 with
          | ok v => exact .ok ⟨rfl, promised cell d there member v (came v found)⟩
          | error failure => exact .error failure
        · by_cases same : cell = other
          · subst same
            have inside : cell < store.deferrals.size := (Array.getElem?_eq_some_iff.1 there).1
            rw [Array.getElem?_setIfInBounds_self_of_lt inside] at there'
            cases there'
            exact promised cell d there member v (after v brings)
          · rw [Array.getElem?_setIfInBounds_ne same] at there'
            exact promised other d' there' member' v brings
  shown related := Store.placeholder_of_deferrals related.1

/-- What two encoders over the same cells do keeps the cells the same. -/
theorem Kind.lawful_same {A : Value → Prop} {stuck : ℕ → Prop}
    {deferrals : Array Deferral → Array Deferral → Prop} {outputs : Output → ℕ → Output → ℕ → Prop}
    (deferred : DeferredAlike A deferrals) (outlets : Outlets outputs) :
    (Kind.same A stuck deferrals outputs).Lawful where
  busy related := by rw [related.1]
  size related := by rw [related.1]
  marked related busy := ⟨by rw [related.1], related.2⟩
  drawn {cell s s'} related := by
    obtain ⟨rfl, supplies⟩ := related
    obtain ⟨drawn, after⟩ := s'.supplies_of_draw
    refine ⟨?_, rfl, fun v h => supplies v (after v h)⟩
    cases found : s'.draw.1 with
    | none => exact .none
    | some v => exact .some ⟨rfl, supplies v (drawn v found)⟩
  asked {d d'} related timeout store store' deferrals := by
    obtain ⟨same, member⟩ := related
    obtain rfl : d' = d := Value.future.inj same
    exact deferred.asked member timeout deferrals
  put := outlets

/-! ## The correspondence of the same values -/

/-- An error has the parts that it has. -/
theorem Encloses.beside {options : Options} {registry : Registry} {store : Store}
    {A : Value → Prop} (encloses : Encloses options registry store A) {V : Value → Value → Prop}
    (same : ∀ v, A v → V v v) {t : Throwable Value} (member : A (.throwable t)) : t.Beside V t := by
  have below (cause : Throwable Value) (there : t.cause = some cause) : A (.throwable cause) :=
    encloses member (.cause there)
  have beside (other : Throwable Value) (there : other ∈ t.suppressed) : A (.throwable other) :=
    encloses member (.suppressed there)
  have inside (m : OrderedMap Value Value) (there : t.data = some m) : A (.map m) :=
    encloses member (.data there)
  obtain ⟨message, frames, cause, suppressed, data⟩ := t
  refine .mk ?_ ?_ ?_
  · cases cause with
    | none => exact .none
    | some cause => exact .some (same _ (below cause rfl))
  · exact List.forall₂_same.2 fun other there => same _ (beside other there)
  · cases data with
    | none => exact .none
    | some m =>
      exact .some (List.forall₂_same.2 fun entry there =>
        ⟨same _ (encloses (inside m rfl) (.key there)),
          same _ (encloses (inside m rfl) (.value there))⟩)

/-- What encloses the parts of its members has them as counterparts of themselves, if handlers do
not look at `append`, unless they are atoms or objects that nothing writes. -/
theorem Encloses.counterpart {c : Comparison} {sides : Sides} {store : Store} {A : Value → Prop}
    {V : Value → Value → Prop}
    (encloses : Encloses sides.options sides.registry store A) (same : ∀ v, A v → V v v)
    (blind : ∀ o writer, A (.object o) → sides.registry.writer? o.type = some writer →
      writer sides.options' o = writer sides.options o) {v : Value} (member : A v) :
    Counterpart c sides V v v ∨ v.isAtom = true ∨
      ∃ o, v = .object o ∧ sides.registry.writer? o.type = none := by
  have shared := same v member
  cases v with
  | vector items =>
    exact .inl (.vector
      (List.forall₂_same.2 fun v inside => same v (encloses member (.vector inside))))
  | set items =>
    exact .inl (.set
      (List.forall₂_same.2 fun v inside => same v (encloses member (.set inside))))
  | seq items =>
    exact .inl (.seq
      (List.forall₂_same.2 fun v inside => same v (encloses member (.seq inside))))
  | map m =>
    exact .inl (.map (List.forall₂_same.2 fun entry inside =>
      ⟨same _ (encloses member (.key inside)), same _ (encloses member (.value inside))⟩))
  | throwable t => exact .inl (.throwable shared)
  | lazySeq cell => exact .inl (.lazySeq shared)
  | byteStream cell => exact .inl (.byteStream shared)
  | future d => exact .inl (.future shared)
  | annotated inner notes =>
    have inside : A inner := encloses member .inner
    have beside : A (.map notes) := encloses member .notes
    cases saved : sides.options.saveMeta with
    | false => exact .inl (.dropped saved (same _ inside))
    | true =>
      exact .inl (.annotated saved (same _ inside) (List.forall₂_same.2 fun entry there =>
        ⟨same _ (encloses beside (.key there)), same _ (encloses beside (.value there))⟩))
  | object o =>
    cases known : sides.registry.writer? o.type with
    | some writer =>
      exact .inl (.object ⟨writer, known, rfl, blind o writer member known⟩
        (.of_mentions fun v mentions => same v (encloses member (.handled known mentions))))
    | none => exact .inr (.inr ⟨o, rfl, known⟩)
  | _ => exact .inr (.inl rfl)

/-- An object that nothing writes is flat if it is shown alike. -/
theorem Flat.unknown {E : Encoder → Encoder → Prop} {sides : Sides}
    (setting : ∀ e e', E e e' → e.setting = ⟨sides.options, sides.registry⟩ ∧
      e'.setting = ⟨sides.options', sides.registry⟩) {o : HostObject Value}
    (shown : ∀ e e', E e e' → e'.store.placeholder o = e.store.placeholder o)
    (unknown : sides.registry.writer? o.type = none) : Flat E (.object o) (.object o) := by
  intro e e' related
  have same := shown e e' related
  obtain ⟨first, second⟩ := setting e e' related
  have registry : e.registry = sides.registry := congrArg Setting.registry first
  have registry' : e'.registry = sides.registry := congrArg Setting.registry second
  have options : e.options = sides.options := congrArg Setting.options first
  have options' : e'.options = sides.options' := congrArg Setting.options second
  cases kind : sides.options.encodeUnsupported with
  | true =>
    refine .inl ⟨_, .writePlaceholder (e.store.placeholder o), fun below => ⟨?_, ?_⟩⟩
    · exact EncodeM.prepareAbove_of_unknown (registry ▸ unknown) (options ▸ kind) below
    · rw [← same]
      exact EncodeM.prepareAbove_of_unknown (registry' ▸ unknown) (options' ▸ kind) below
  | false =>
    refine .inr ⟨.unsupportedType o.type.typeName, fun below => ⟨?_, ?_⟩⟩
    · exact EncodeM.prepareAbove_of_unsupported (registry ▸ unknown) (options ▸ kind) below
    · exact EncodeM.prepareAbove_of_unsupported (registry' ▸ unknown) (options' ▸ kind) below

section

variable {A : Value → Prop} {stuck : ℕ → Prop} {deferrals : Array Deferral → Array Deferral → Prop}
  {outputs : Output → ℕ → Output → ℕ → Prop} {sides : Sides} {pinned : Pinned} {exact : Bool}
  {store : Store} (deferred : DeferredAlike A deferrals)

include deferred

/-- Encoders over the same cells show an object alike. -/
theorem DeferredAlike.flat {o : HostObject Value} (unknown : sides.registry.writer? o.type = none) :
    Flat (Encoder.Kin (.same A stuck deferrals outputs) sides pinned) (.object o) (.object o) :=
  .unknown (fun _ _ kin => ⟨kin.setting, kin.setting'⟩)
    (fun _ _ kin => deferred.shown kin.store.deferrals o) unknown

variable (encloses : Encloses sides.options sides.registry store A)

include encloses

theorem Encloses.analogy (outlets : Outlets outputs)
    (waits : ∀ {cell}, A (.lazySeq cell) → stuck cell →
      exact = false ∧ ∃ s, pinned.first cell = some s ∧ s.busy = true) :
    Analogy (Comparison.strict (.same A stuck deferrals outputs) sides pinned exact)
      (Kind.same A stuck deferrals outputs).values
      (Encoder.Kin (.same A stuck deferrals outputs) sides pinned) :=
  Encoder.Kin.analogy (Kind.lawful_same deferred outlets)
    (fun {t t'} related => by
      obtain ⟨same, member⟩ := related
      obtain rfl : t' = t := Value.throwable.inj same
      exact encloses.beside (fun _ member => ⟨rfl, member⟩) member)
    fun shared => waits shared.2

/-- A set that contains all parts of its members corresponds to itself, if handlers of objects among
them do not look at `append`. -/
theorem Encloses.correspondence (outlets : Outlets outputs)
    (blind : ∀ o writer, A (.object o) → sides.registry.writer? o.type = some writer →
      writer sides.options' o = writer sides.options o)
    (waits : ∀ {cell}, A (.lazySeq cell) → stuck cell →
      exact = false ∧ ∃ s, pinned.first cell = some s ∧ s.busy = true) :
    Correspondence (Comparison.strict (.same A stuck deferrals outputs) sides pinned exact) sides
      (Encoder.Kin (.same A stuck deferrals outputs) sides pinned)
      (Kind.same A stuck deferrals outputs).values where
  toAnalogy := encloses.analogy deferred outlets waits
  setting kin := ⟨kin.setting, kin.setting'⟩
  counterpart {v w} related := by
    obtain ⟨rfl, member⟩ := related
    refine Or.imp_right (fun rest => .inl ?_)
      (encloses.counterpart (fun _ member => ⟨rfl, member⟩) blind member)
    rcases rest with isAtom | ⟨o, rfl, unknown⟩
    · exact .atom isAtom
    · exact deferred.flat unknown
  plan _ _ inside _ h := (encloses.analogy deferred outlets waits).runPlan_of_tight h
    (fun _ _ failed => failed.2.2 trivial) False.elim inside
  bare := False.elim
  lost := False.elim

end

end TaggedStream
