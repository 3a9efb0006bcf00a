import TaggedStream.Proofs.Acceptance
import TaggedStream.Proofs.Arrival
import TaggedStream.Proofs.Deepening
import TaggedStream.Proofs.Rendering

/-!
Values that go through a stream, objects with handlers included.

`Terms` are what both ends need: the setting of the writer, the handlers of the reader, and which
objects the host counts as equal. The handlers of an object are `Inverse` if the one at the reader's
end takes what the one at the writer's end puts, given that the values in between arrive. Then every
value that is built from atoms and such objects arrives: its first phase leaves the encoder as it
was, its second phase writes a derivation of what arrives of it, and the decoder accepts every
derivation.
-/

namespace TaggedStream

/-- What both ends of a stream need. -/
structure Terms where
  /-- The settings and the handlers of the writer. -/
  setting : Setting
  /-- The handlers of the reader. -/
  handlers : Handlers
  /-- Which objects the host counts as equal, besides those that differ in nothing but handles. -/
  same : HostObject Value → HostObject Value → Prop

namespace Terms

/-- A derivation of what arrives of a value, at most `n` levels deep. -/
def form (terms : Terms) (n : Nat) : Form Value := fun bytes v =>
  ∃ w, Value.Arrives terms.same v w ∧ DerivesUnder terms.handlers n bytes w

/-- The handlers of an object are inverse to each other on it. The one that writes it puts an
identifier outside the catalogue and a cargo behind it, and the one that reads this identifier takes
whatever arrives of the cargo for what arrives of the object. -/
structure Inverse (terms : Terms) (o : HostObject Value) (oid : Oid) (cargo : Cargo) : Prop where
  foreign : Tag.ofCode? oid = none
  puts : ∃ writer, terms.setting.registry.writer? o.type = some writer ∧
    (writer terms.setting.options o).Puts (Cargo.ofBytes (Oid.spelled oid) ++ cargo) ()
  takes : ∃ plan, terms.handlers oid = some plan ∧
    ∀ cargo', Cargo.Arrives terms.same cargo cargo' →
      ∃ w, plan.Takes cargo' w ∧ Value.Arrives terms.same (.object o) w

end Terms

namespace Value

/-- The values that can go through a stream, at most `n` levels deep, where a value that a handler
writes is one level below its object. -/
inductive Conveyable (terms : Terms) : (n : Nat) → Value → Prop
  | atom {n : Nat} {v : Value} (portable : Portable terms.setting.options.objectChunkSize v)
      (isAtom : v.isAtom = true) : Conveyable terms (n + 1) v
  | vector {n : Nat} {items : List Value} (fits : items.length ≤ Form.maxLength)
      (inside : ∀ v ∈ items, Conveyable terms n v) : Conveyable terms (n + 1) (.vector items)
  | set {n : Nat} {items : List Value} (fits : items.length ≤ Form.maxLength)
      (inside : ∀ v ∈ items, Conveyable terms n v) : Conveyable terms (n + 1) (.set items)
  | map {n : Nat} {entries : List (Value × Value)} (fits : entries.length ≤ Form.maxLength)
      (keys : ∀ entry ∈ entries, Conveyable terms n entry.1)
      (values : ∀ entry ∈ entries, Conveyable terms n entry.2) :
      Conveyable terms (n + 1) (.map ⟨entries⟩)
  /-- The settings do not cut the sequence, and the largest chunk is full or holds all items. -/
  | seq {n : Nat} {items : List Value}
      (uncut : ∀ most, terms.setting.options.uncountableMaxItems = some most →
        items.length ≤ most)
      (fits : min terms.setting.options.objectChunkSize items.length ≤ Form.maxLength)
      (inside : ∀ v ∈ items, Conveyable terms n v) : Conveyable terms (n + 1) (.seq items)
  | future {n : Nat} {handle : Option Nat} {v : Value} (inside : Conveyable terms n v) :
      Conveyable terms (n + 1) (.future (.ready handle v))
  | throwable {n : Nat} {t : Throwable Value} (message : ∀ s, t.message = some s → TextFits s)
      (frameCount : t.frames.length ≤ Form.maxLength)
      (frames : ∀ f ∈ t.frames, Renders.FrameFits f)
      (cause : ∀ c, t.cause = some c → Conveyable terms n (.throwable c))
      (suppressedCount : t.suppressed.length ≤ Form.maxLength)
      (suppressed : ∀ c ∈ t.suppressed, Conveyable terms n (.throwable c))
      (data : ∀ m, t.data = some m → Conveyable terms n (.map m)) :
      Conveyable terms (n + 1) (.throwable t)
  | object {n : Nat} {o : HostObject Value} {oid : Oid} {cargo : Cargo}
      (inverse : terms.Inverse o oid cargo) (inside : ∀ v, .inr v ∈ cargo → Conveyable terms n v) :
      Conveyable terms (n + 1) (.object o)
  | annotated {n : Nat} {inner : Value} {notes : OrderedMap Value Value}
      (saves : terms.setting.options.saveMeta = true) (inside : Conveyable terms n inner)
      (beside : Conveyable terms n (.map notes)) : Conveyable terms (n + 1) (.annotated inner notes)

/-- More levels do no harm. -/
theorem Conveyable.mono {terms : Terms} {n more : Nat} {v : Value} (h : Conveyable terms n v)
    (le : n ≤ more) : Conveyable terms more v := by
  induction h generalizing more <;>
    obtain ⟨more, rfl⟩ := Nat.exists_eq_add_of_le' (Nat.le_of_add_left_le le) <;>
    replace le := Nat.le_of_succ_le_succ le
  case atom portable isAtom => exact .atom portable isAtom
  case vector fits _ ih => exact .vector fits fun v mem => ih v mem le
  case set fits _ ih => exact .set fits fun v mem => ih v mem le
  case map fits _ _ ihKeys ihValues =>
    exact .map fits (fun entry mem => ihKeys entry mem le) fun entry mem => ihValues entry mem le
  case seq uncut fits _ ih => exact .seq uncut fits fun v mem => ih v mem le
  case future ih => exact .future (ih le)
  case throwable message frameCount frames _ suppressedCount _ _ ihCause ihSuppressed ihData =>
    exact .throwable message frameCount frames (fun c same => ihCause c same le) suppressedCount
      (fun c mem => ihSuppressed c mem le) fun m same => ihData m same le
  case object inverse _ ih => exact .object inverse fun v mem => ih v mem le
  case annotated saves _ _ ihInside ihBeside => exact .annotated saves (ihInside le) (ihBeside le)

end Value

/-- A tag and a payload of what arrives are a derivation of what arrives. -/
theorem Terms.form_of_tagged {terms : Terms} {n : Nat} {bytes : List UInt8} {v : Value}
    (h : Form.tagged (terms.form n) bytes v) : terms.form (n + 1) bytes v := by
  obtain ⟨tag, payload, rfl, isPayload⟩ := h
  obtain ⟨w, arrives, isPayload⟩ := Payload.turns (fun _ _ found => found) tag _ _ isPayload
  exact ⟨w, arrives, tag.code, payload, rfl, .tagged isPayload⟩

namespace EncodeM

open Value Renders

variable {setting : Setting} {form : Form Value} {terms : Terms} {n fuel : Nat} {v : Value}

/-- The first phase leaves the encoder as it was, and the second phase writes the form. -/
def Prepares (setting : Setting) (fuel : Nat) (form : Form Value) (v : Value) : Prop :=
  ∃ write, (∀ e : Encoder, e.setting = setting → prepare fuel v e = .ok write e) ∧
    Renders setting write form v

theorem Prepares.of_pure {write : EncodeM Unit} (phase : prepare fuel v = pure write)
    (h : Renders setting write form v) : Prepares setting fuel form v :=
  ⟨write, fun _ _ => by rw [phase]; rfl, h⟩

/-- The second phase is known when the first one does nothing else. -/
theorem Prepares.renders {write : EncodeM Unit} (h : Prepares setting fuel form v)
    (phase : prepare fuel v = pure write) : Renders setting write form v := by
  obtain ⟨write', prepared, renders⟩ := h
  have run := prepared (.fresh setting.registry setting.options default default) rfl
  rw [phase] at run
  cases run
  exact renders

/-- Both phases in turn. -/
theorem Prepares.inTurn (h : Prepares setting fuel form v) :
    Renders setting (inTurn (prepare fuel) v) form v := by
  obtain ⟨write, prepared, bytes, writes, isForm⟩ := h
  refine ⟨bytes, ?_, isForm⟩
  intro e same willing
  obtain ⟨after, run, grown⟩ := writes e same willing
  exact ⟨after, (bind_of_ok (prepared e same)).trans run, grown⟩

/-- With all fuel that reaches the depth of a value, it is written as a derivation of what arrives
of it. -/
def Preparable (terms : Terms) (n : Nat) (v : Value) : Prop :=
  ∀ fuel, n ≤ fuel → Prepares terms.setting fuel (terms.form n) v

theorem resolve_ready (handle : Option Nat) (e : Encoder) :
    resolve (.ready handle v) e = .ok v e := rfl

namespace Preparable

/-- What is inside is written with one level of fuel less than what holds it. -/
theorem step (h : ∀ fuel, n ≤ fuel → Prepares terms.setting (fuel + 1) (terms.form (n + 1)) v) :
    Preparable terms (n + 1) v := by
  intro fuel enough
  obtain ⟨fuel, rfl⟩ := Nat.exists_eq_add_of_le' (Nat.le_of_add_left_le enough)
  exact h fuel (Nat.le_of_succ_le_succ enough)

/-- A value whose first phase does nothing is prepared by what is written in the second. -/
theorem of_pure {write : Nat → EncodeM Unit}
    (phase : ∀ fuel, prepare (fuel + 1) v = pure (write fuel))
    (h : ∀ fuel, n ≤ fuel → Renders terms.setting (write fuel) (Form.tagged (terms.form n)) v) :
    Preparable terms (n + 1) v :=
  step fun fuel enough => .of_pure (phase fuel) ((h fuel enough).imp fun _ => Terms.form_of_tagged)

theorem renders_items {items : List Value} (h : ∀ v ∈ items, Preparable terms n v)
    (enough : n ≤ fuel) :
    ∀ v ∈ items, Renders terms.setting (inTurn (prepare fuel) v) (terms.form n) v :=
  fun v mem => (h v mem fuel enough).inTurn

theorem vector {items : List Value} (fits : items.length ≤ Form.maxLength)
    (h : ∀ v ∈ items, Preparable terms n v) : Preparable terms (n + 1) (.vector items) :=
  of_pure (fun _ => rfl) fun _ enough =>
    countable fits (renders_items h enough) (fun empty => empty ▸ .vectorEmpty) .vector

theorem set {items : List Value} (fits : items.length ≤ Form.maxLength)
    (h : ∀ v ∈ items, Preparable terms n v) : Preparable terms (n + 1) (.set items) :=
  of_pure (fun _ => rfl) fun _ enough =>
    countable fits (renders_items h enough) (fun empty => empty ▸ .setEmpty) .set

theorem map {entries : List (Value × Value)} (fits : entries.length ≤ Form.maxLength)
    (keys : ∀ entry ∈ entries, Preparable terms n entry.1)
    (values : ∀ entry ∈ entries, Preparable terms n entry.2) :
    Preparable terms (n + 1) (.map ⟨entries⟩) :=
  of_pure (fun _ => rfl) fun fuel enough =>
    Renders.map fits (fun entry mem => (keys entry mem fuel enough).inTurn)
      fun entry mem => (values entry mem fuel enough).inTurn

theorem seq {items : List Value}
    (uncut : ∀ most, terms.setting.options.uncountableMaxItems = some most → items.length ≤ most)
    (fits : min terms.setting.options.objectChunkSize items.length ≤ Form.maxLength)
    (h : ∀ v ∈ items, Preparable terms n v) : Preparable terms (n + 1) (.seq items) :=
  of_pure (fun _ => rfl) fun _ enough => Renders.seq uncut fits (renders_items h enough)

theorem future {handle : Option Nat} (h : Preparable terms n v) :
    Preparable terms (n + 1) (.future (.ready handle v)) := by
  apply step
  intro fuel enough
  obtain ⟨write, prepared, bytes, writes, w, arrives, derives⟩ := h fuel enough
  refine ⟨_, fun e same => ?_, Tag.future.spelled ++ bytes,
    (Writes.tagged .future).bind writes, .future (.ready none w), .future arrives,
    Tag.future.code, bytes, rfl, .tagged (.future derives)⟩
  rw [prepare, prepareAbove, bind_of_ok (resolve_ready handle e), bind_of_ok (prepared e same)]
  rfl

theorem annotated {notes : OrderedMap Value Value}
    (saves : terms.setting.options.saveMeta = true) (inside : Preparable terms n v)
    (beside : Preparable terms n (.map notes)) :
    Preparable terms (n + 1) (.annotated v notes) := by
  apply step
  intro fuel enough
  obtain ⟨write, prepared, renders⟩ := inside fuel enough
  have writesNotes := (beside (fuel + 1) (Nat.le_succ_of_le enough)).renders rfl
  refine ⟨_, fun e same => ?_,
    (writesNotes.both renders Payload.annotated).tagged.imp fun _ => Terms.form_of_tagged⟩
  have saves' : e.options.saveMeta = true := congrArg (·.options.saveMeta) same |>.trans saves
  rw [prepare, prepareAbove, settings_bind, if_pos saves', bind_of_ok (prepared e same)]
  rfl

theorem throwable {t : Throwable Value} (message : ∀ s, t.message = some s → TextFits s)
    (frameCount : t.frames.length ≤ Form.maxLength) (frames : ∀ f ∈ t.frames, FrameFits f)
    (cause : ∀ c, t.cause = some c → Preparable terms n (.throwable c))
    (suppressedCount : t.suppressed.length ≤ Form.maxLength)
    (suppressed : ∀ c ∈ t.suppressed, Preparable terms n (.throwable c))
    (data : ∀ m, t.data = some m → Preparable terms n (.map m)) :
    Preparable terms (n + 1) (.throwable t) := by
  refine of_pure (fun _ => rfl) fun fuel enough => ?_
  -- Errors below an error are values one level lower, but are written by the same function.
  have more : n ≤ fuel + 1 := Nat.le_succ_of_le enough
  exact Renders.throwable message frameCount frames
    (fun c mem => (cause c mem (fuel + 1) more).renders rfl) suppressedCount
    (fun c mem => (suppressed c mem (fuel + 1) more).renders rfl)
    fun m mem => (data m mem (fuel + 1) more).renders rfl

/-- An object is written as the identifier and the cargo that its handler puts, and the handler at
the other end takes what arrives of the cargo. -/
theorem object {o : HostObject Value} {oid : Oid} {cargo : Cargo}
    (inverse : terms.Inverse o oid cargo) (h : ∀ v, .inr v ∈ cargo → Preparable terms n v) :
    Preparable terms (n + 1) (.object o) := by
  apply step
  intro fuel enough
  obtain ⟨writer, registered, puts⟩ := inverse.puts
  obtain ⟨plan, handled, takes⟩ := inverse.takes
  have inside : ∀ v, .inr v ∈ Cargo.ofBytes (Oid.spelled oid) ++ cargo →
      Renders terms.setting (inTurn (prepare fuel) v) (terms.form n) v := by
    intro v mem
    have mem' : .inr v ∈ cargo := by simpa [Cargo.ofBytes] using mem
    exact (h v mem' fuel enough).inTurn
  obtain ⟨bytes, writes, form⟩ := Renders.runPlan puts inside
  obtain ⟨payload, rfl, behind⟩ := Form.cargo_ofBytes_append_iff.1 form
  obtain ⟨cargo', arrive, arrived⟩ := Form.Turns.cargo (fun _ _ found => found) _ _ behind
  obtain ⟨w, takes, arrives⟩ := takes cargo' arrive
  refine ⟨_, fun e same => ?_, _,
    Writes.settings (k := fun options => EncodeM.runPlan _ (writer options o)) writes, w, arrives,
    oid, payload, rfl, .extension inverse.foreign handled takes arrived⟩
  have registered' : e.registry.writer? o.type = some writer :=
    congrArg (·.registry.writer? o.type) same |>.trans registered
  rw [prepare, prepareAbove, get_bind, registered']
  rfl

end Preparable

/-- What can go through a stream is written as a derivation of what arrives of it. -/
theorem preparable_of_conveyable (conveyable : Conveyable terms n v) : Preparable terms n v := by
  induction conveyable with
  | atom portable isAtom =>
    obtain ⟨write, phase, renders⟩ := Renders.atom portable isAtom
    exact .of_pure phase fun _ _ => renders
  | vector fits _ ih => exact .vector fits ih
  | set fits _ ih => exact .set fits ih
  | map fits _ _ ihKeys ihValues => exact .map fits ihKeys ihValues
  | seq uncut fits _ ih => exact .seq uncut fits ih
  | future _ ih => exact .future ih
  | throwable message frameCount frames _ suppressedCount _ _ ihCause ihSuppressed ihData =>
    exact .throwable message frameCount frames ihCause suppressedCount ihSuppressed ihData
  | object inverse _ ih => exact .object inverse ih
  | annotated saves _ _ ihInside ihBeside => exact .annotated saves ihInside ihBeside

/-- What is written with so many levels is written wherever the search for enough starts. -/
theorem Writes.deepening {setting : Setting} {fuel : Nat} {v : Value} {bytes : List UInt8}
    (writes : Writes setting (encodeWithin fuel v) bytes) (levels : Nat) :
    Writes setting (EncodeM.deepening (fun fuel => encodeWithin fuel v) levels) bytes := by
  intro e same willing
  obtain ⟨after, run, grown⟩ := writes e same willing
  have enough : ∀ e', encodeWithin fuel v e ≠ .error .endless e' := by
    intro e' endless
    cases run.symm.trans endless
  have settled := deepening_of_enough (fun fuel => Deepens.encodeWithin fuel v) enough levels
  exact ⟨after, settled.trans run, grown⟩

/-- What can go through a stream is written as a derivation of what arrives of it, wherever the
search for enough levels starts. -/
theorem writes_of_conveyable (conveyable : Conveyable terms n v) :
    ∃ bytes, terms.form n bytes v ∧
      ∀ levels,
        Writes terms.setting (deepening (fun fuel => encodeWithin fuel v) levels) bytes := by
  obtain ⟨bytes, writes, isForm⟩ := (preparable_of_conveyable conveyable n (Nat.le_refl n)).inTurn
  exact ⟨bytes, isForm, Writes.deepening writes⟩

end EncodeM

end TaggedStream
