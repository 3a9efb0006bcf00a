import TaggedStream.Proofs.Phases

/-!
Correspondences of values.

A relation of values is a correspondence if related values are built alike, down to what is put and
refused at once, and what is inside is related again. So it follows values through the cells of the
stores without end, and encoders that write related values track each other for every number of
levels.
-/

namespace TaggedStream

/-- From related encoders, both first phases lead to the same second phase that only puts slices and
refuses, or both are refused with the same error. -/
def Flat (E : Encoder → Encoder → Prop) (v w : Value) : Prop :=
  ∀ e e', E e e' →
    (∃ write, Putting write ∧ ∀ below, EncodeM.prepareAbove below v e = .ok write e ∧
      EncodeM.prepareAbove below w e' = .ok write e') ∨
    ∃ error, ∀ below, EncodeM.prepareAbove below v e = .error (.refused error) e ∧
      EncodeM.prepareAbove below w e' = .error (.refused error) e'

namespace EncodeM

/-- An atom is flat: its first phase leads to a second one that only puts slices and refuses, or is
refused because of a leap second. -/
theorem prepareAbove_atom {v : Value} (isAtom : v.isAtom = true) :
    (∃ write, Putting write ∧ ∀ below e, prepareAbove below v e = .ok write e) ∨
      ∃ error, ∀ below e, prepareAbove below v e = .error (.refused error) e := by
  have flat {write : EncodeM Unit} (putting : Putting write)
      (first : ∀ below, prepareAbove below v = pure write) :
      (∃ write, Putting write ∧ ∀ below e, prepareAbove below v e = .ok write e) ∨
        ∃ error, ∀ below e, prepareAbove below v e = .error (.refused error) e :=
    .inl ⟨write, putting, fun below e => congrFun (first below) e⟩
  cases v with
  | null => exact flat (.put _ _) fun _ => rfl
  | bool b => exact flat (.put _ _) fun _ => rfl
  | byte i => exact flat (.writeNumber _ _ (.put _ _)) fun _ => rfl
  | short i => exact flat (.writeNumber _ _ (.put _ _)) fun _ => rfl
  | int i => exact flat (.writeNumber _ _ (.put _ _)) fun _ => rfl
  | long i => exact flat (.writeNumber _ _ (.put _ _)) fun _ => rfl
  | half bits => exact flat (.writeNumber _ _ (.put _ _)) fun _ => rfl
  | float bits => exact flat (.writeNumber _ _ (.put _ _)) fun _ => rfl
  | double bits => exact flat (.writeNumber _ _ (.put _ _)) fun _ => rfl
  | bigInt i => exact flat (.writeNumber _ _ (.writeBytes _ _)) fun _ => rfl
  | char c => exact flat (.bind (.put _ _) fun _ => .put _ _) fun _ => rfl
  | decimal d =>
    exact flat (.bind (.put _ _) fun _ => .bind (.put _ _) fun _ => .writeBytes _ _) fun _ => rfl
  | ratio r =>
    exact flat (.bind (.put _ _) fun _ => .bind (.writeBytes _ _) fun _ => .writeBytes _ _)
      fun _ => rfl
  | string s =>
    refine flat ?_ fun _ => rfl
    split
    · exact .put _ _
    · exact .bind (.put _ _) fun _ => .writeBytes _ _
  | bytes content =>
    refine flat ?_ fun _ => rfl
    split
    · exact .put _ _
    · exact .bind (.put _ _) fun _ => .writeBytes _ _
  | uuid u => exact flat (.bind (.put _ _) fun _ => .bind (.put _ _) fun _ => .put _ _) fun _ => rfl
  | regex p => exact flat (.bind (.put _ _) fun _ => .writeBytes _ _) fun _ => rfl
  | instant t => exact flat (.bind (.put _ _) fun _ => .writeTimestamp t) fun _ => rfl
  | date d => exact flat (.bind (.put _ _) fun _ => .put _ _) fun _ => rfl
  | time t =>
    by_cases leap : t.isLeap = true
    · refine .inr ⟨.malformed Tag.time.code (.leapSecond t), fun below e => ?_⟩
      simp only [prepareAbove, refuseLeapSecond, leap, if_true]
      rfl
    · have nanos : Putting (do tagged .time; Wire.writeNanoOfDay t) :=
        .bind (.put _ _) fun _ => .put _ _
      refine flat nanos fun _ => ?_
      simp only [prepareAbove, refuseLeapSecond, leap, Bool.false_eq_true, if_false, pure_bind]
  | dateTime t => exact flat (.bind (.put _ _) fun _ => .writeTimestamp t) fun _ => rfl
  | offsetDateTime t =>
    exact flat (.bind (.put _ _) fun _ => .bind (.writeTimestamp _) fun _ => .put _ _) fun _ => rfl
  | duration d =>
    exact flat (.bind (.put _ _) fun _ => .bind (.put _ _) fun _ => .put _ _) fun _ => rfl
  | period p =>
    exact flat (.bind (.put _ _) fun _ => .bind (.put _ _) fun _ => .bind (.put _ _) fun _ =>
      .put _ _) fun _ => rfl
  | offsetTime t =>
    by_cases leap : t.time.isLeap = true
    · refine .inr ⟨.malformed Tag.offsetTime.code (.leapSecond t.time), fun below e => ?_⟩
      simp only [prepareAbove, refuseLeapSecond, leap, if_true]
      rfl
    · have nanos : Putting (do
            tagged .offsetTime
            Wire.writeNanoOfDay t.time
            Wire.writeOffset t.offset) :=
        .bind (.put _ _) fun _ => .bind (.put _ _) fun _ => .put _ _
      refine flat nanos fun _ => ?_
      simp only [prepareAbove, refuseLeapSecond, leap, Bool.false_eq_true, if_false, pure_bind]
  | zonedDateTime t =>
    exact flat (.bind (.put _ _) fun _ => .bind (.writeTimestamp _) fun _ => .writeBytes _ _)
      fun _ => rfl
  | zoneId zone => exact flat (.bind (.put _ _) fun _ => .writeBytes _ _) fun _ => rfl
  | intArray items => exact flat (.writeArray _ (fun _ => .put _ _) _) fun _ => rfl
  | longArray items => exact flat (.writeArray _ (fun _ => .put _ _) _) fun _ => rfl
  | doubleArray items => exact flat (.writeArray _ (fun _ => .put _ _) _) fun _ => rfl
  | boolArray items => exact flat (.writeArray _ (fun _ => .put _ _) _) fun _ => rfl
  | shortArray items => exact flat (.writeArray _ (fun _ => .put _ _) _) fun _ => rfl
  | floatArray items => exact flat (.writeArray _ (fun _ => .put _ _) _) fun _ => rfl
  | charArray items => exact flat (.writeArray _ (fun _ => .put _ _) _) fun _ => rfl
  | unsupported p => exact flat (.writePlaceholder p) fun _ => rfl
  | vector | set | map | seq | lazySeq | byteStream | future | throwable | object | annotated =>
    cases isAtom

/-- An object that nothing writes has its placeholder written. -/
theorem prepareAbove_of_unknown {e : Encoder} {o : HostObject Value}
    (unknown : e.registry.writer? o.type = none) (kind : e.options.encodeUnsupported = true)
    (below : Value → EncodeM (EncodeM Unit)) : prepareAbove below (.object o) e =
      .ok (writePlaceholder (e.store.placeholder o)) e := by
  rw [prepareAbove, get_bind, unknown]
  have step : placeholderOf o e = .ok (e.store.placeholder o) e := by
    rw [placeholderOf, settings_bind, if_pos kind]
    rfl
  exact bind_of_ok step

/-- An object that nothing writes is refused if placeholders are off. -/
theorem prepareAbove_of_unsupported {e : Encoder} {o : HostObject Value}
    (unknown : e.registry.writer? o.type = none) (strict : e.options.encodeUnsupported = false)
    (below : Value → EncodeM (EncodeM Unit)) : prepareAbove below (.object o) e =
      .error (.refused (.unsupportedType o.type.typeName)) e := by
  rw [prepareAbove, get_bind, unknown]
  have step : placeholderOf o e = .error (.refused (.unsupportedType o.type.typeName)) e := by
    rw [placeholderOf, settings_bind, if_neg (by simp [strict])]
    rfl
  exact bind_of_error step

end EncodeM

/-- Atoms are flat, whatever the encoders. -/
theorem Flat.atom {E : Encoder → Encoder → Prop} {v : Value} (isAtom : v.isAtom = true) :
    Flat E v v := by
  intro e e' _
  rcases EncodeM.prepareAbove_atom isAtom with ⟨write, putting, run⟩ | ⟨error, run⟩
  · exact .inl ⟨write, putting, fun below => ⟨run below e, run below e'⟩⟩
  · exact .inr ⟨error, fun below => ⟨run below e, run below e'⟩⟩

/-- What is flat leads to second phases that do the same, whatever lies below. -/
theorem Flat.tracks {c : Comparison} {n : ℕ} {E E' : Encoder → Encoder → Prop} {v w : Value}
    (flat : Flat E v w) (failed : ∀ e e', E e e' → c.failed e e') (footing : Footing c E')
    {below : Value → EncodeM (EncodeM Unit)} {belows : ℕ → Value → EncodeM (EncodeM Unit)} :
    Tracks c n E (fun write write' => Tracks c n E' Eq E' write fun _ => write') E
      (EncodeM.prepareAbove below v) fun levels => EncodeM.prepareAbove (belows levels) w := by
  intro e e' related
  rcases flat e e' related with ⟨write, putting, run⟩ | ⟨error, run⟩
  · rw [(run below).1]
    exact .inr ⟨_, .ok (footing.putting putting) related, .of_forall fun levels => (run _).2⟩
  · rw [(run below).1]
    exact .inr ⟨_, .refused (failed e e' related), .of_forall fun levels => (run _).2⟩

theorem Flat.flip {E : Encoder → Encoder → Prop} {v w : Value} (h : Flat E v w) :
    Flat (fun e e' => E e' e) w v := by
  intro e e' related
  rcases h e' e related with ⟨write, putting, run⟩ | ⟨error, run⟩
  · exact .inl ⟨write, putting, fun below => (run below).symm⟩
  · exact .inr ⟨error, fun below => (run below).symm⟩

/-- The settings and the handlers of encoders that are compared. -/
structure Sides where
  options : Options
  append : Bool
  registry : Registry

namespace Sides

/-- The settings of the second side. -/
def options' (sides : Sides) : Options := { sides.options with append := sides.append }

/-- The plan of a handler for an object on both sides. -/
def Plans (sides : Sides) (o : HostObject Value) (plan : WritePlan Unit) : Prop :=
  ∃ writer, sides.registry.writer? o.type = some writer ∧ writer sides.options o = plan ∧
    writer sides.options' o = plan

end Sides

/-- The second value is built like the first one, and what is inside is related. Notes that are not
saved do not count, and they may stand on one side only if the comparison allows it. -/
inductive Counterpart (c : Comparison) (sides : Sides) (V : Value → Value → Prop) :
    Value → Value → Prop
  | vector {items items' : List Value} (each : List.Forall₂ V items items') :
      Counterpart c sides V (.vector items) (.vector items')
  | set {items items' : List Value} (each : List.Forall₂ V items items') :
      Counterpart c sides V (.set items) (.set items')
  | seq {items items' : List Value} (each : List.Forall₂ V items items') :
      Counterpart c sides V (.seq items) (.seq items')
  | map {m m' : OrderedMap Value Value}
      (each : List.Forall₂ (Prod.RProd V V) m.entries m'.entries) :
      Counterpart c sides V (.map m) (.map m')
  | throwable {t t' : Throwable Value} (related : V (.throwable t) (.throwable t')) :
      Counterpart c sides V (.throwable t) (.throwable t')
  | lazySeq {cell : ℕ} (shared : V (.lazySeq cell) (.lazySeq cell)) :
      Counterpart c sides V (.lazySeq cell) (.lazySeq cell)
  | byteStream {cell : ℕ} (shared : V (.byteStream cell) (.byteStream cell)) :
      Counterpart c sides V (.byteStream cell) (.byteStream cell)
  | future {d d' : Deferred Value} (deferred : V (.future d) (.future d')) :
      Counterpart c sides V (.future d) (.future d')
  | object {o : HostObject Value} {plan : WritePlan Unit} (planned : sides.Plans o plan)
      (inside : plan.All fun v => V v v) : Counterpart c sides V (.object o) (.object o)
  | annotated {inner inner' : Value} {notes notes' : OrderedMap Value Value}
      (saved : sides.options.saveMeta = true) (inside : V inner inner')
      (beside : List.Forall₂ (Prod.RProd V V) notes.entries notes'.entries) :
      Counterpart c sides V (.annotated inner notes) (.annotated inner' notes')
  | dropped {inner inner' : Value} {notes notes' : OrderedMap Value Value}
      (lost : sides.options.saveMeta = false) (inside : V inner inner') :
      Counterpart c sides V (.annotated inner notes) (.annotated inner' notes')
  | left {inner w : Value} {notes : OrderedMap Value Value} (uneven : c.uneven)
      (inside : V inner w) : Counterpart c sides V (.annotated inner notes) w
  | right {v inner : Value} {notes : OrderedMap Value Value} (uneven : c.uneven)
      (inside : V v inner) : Counterpart c sides V v (.annotated inner notes)

/-- Counterparts are counterparts of each other. -/
theorem Counterpart.flip {c : Comparison} {sides : Sides} {V : Value → Value → Prop} {v w : Value}
    (h : Counterpart c sides V v w) : Counterpart c sides (fun v w => V w v) w v := by
  cases h with
  | vector each => exact .vector each.flip
  | set each => exact .set each.flip
  | seq each => exact .seq each.flip
  | map each => exact .map (flip_entries each)
  | throwable related => exact .throwable related
  | lazySeq shared => exact .lazySeq shared
  | byteStream shared => exact .byteStream shared
  | future deferred => exact .future deferred
  | object planned inside => exact .object planned inside
  | annotated saved inside beside => exact .annotated saved inside (flip_entries beside)
  | dropped lost inside => exact .dropped lost inside
  | left uneven inside => exact .right uneven inside
  | right uneven inside => exact .left uneven inside

/-- What waits to be written in front of a second phase. Where notes stand on one side only, these
are identifiers of deferred values. -/
structure Pending (c : Comparison) (n : ℕ) (E E' : Encoder → Encoder → Prop) (pre : EncodeM Unit)
    (pres : ℕ → EncodeM Unit) : Prop where
  tracks : Tracks c n E Eq E' pre pres
  futures (uneven : c.uneven) : ∃ count, pre = EncodeM.writeFutures count ∧
    pres = fun _ => EncodeM.writeFutures count

namespace Pending

variable {c : Comparison} {n : ℕ} {E E' E'' : Encoder → Encoder → Prop} {pre : EncodeM Unit}
  {pres : ℕ → EncodeM Unit}

theorem nothing : Pending c n E E (pure ()) fun _ => pure () :=
  ⟨.result rfl, fun _ => ⟨0, rfl, rfl⟩⟩

theorem imp (pending : Pending c n E E' pre pres) (after : ∀ e e', E' e e' → E'' e e') :
    Pending c n E E'' pre pres :=
  ⟨pending.tracks.imp (fun _ _ => id) after, pending.futures⟩

/-- The identifier of a deferred value behind what waits. -/
theorem future (pending : Pending c (n + 1) E E' pre pres) (footing : Footing c E') :
    Pending c n E E' (do pre; EncodeM.tagged .future)
      (fun levels => do pres (levels + 1); EncodeM.tagged .future) := by
  refine ⟨.bind pending.tracks.of_succ fun _ _ _ => footing.tagged _, fun uneven => ?_⟩
  obtain ⟨count, rfl, rfl⟩ := pending.futures uneven
  exact ⟨count + 1, rfl, rfl⟩

end Pending

namespace EncodeM

variable {e : Encoder} {inner : Value} {notes : OrderedMap Value Value} {pre : EncodeM Unit}

theorem pend_nothing (prepare : EncodeM (EncodeM Unit)) :
    pend prepare (pure ()) = prepare >>= id := by
  simp only [pend, pure_bind]
  rfl

theorem pend_future (levels : ℕ) (d : Deferred Value) (pre : EncodeM Unit) :
    pend (prepare (levels + 1) (.future d)) pre =
      resolve d >>= fun v => pend (prepare levels v) (do pre; tagged .future) := by
  simp only [pend, prepare, prepareAbove, bind_assoc, pure_bind]

theorem pend_of_saved (saved : e.options.saveMeta = true) (levels : ℕ) :
    pend (prepare (levels + 1) (.annotated inner notes)) pre e =
      pend (prepare levels inner)
        (do pre; tagged .annotated; writeMap (encodeWithin levels) notes) e := by
  simp only [pend, prepare, prepareAbove, bind_assoc]
  rw [settings_bind, if_pos saved]
  simp only [bind_assoc, pure_bind]
  rfl

theorem pend_of_lost (lost : e.options.saveMeta = false) (levels : ℕ) :
    pend (prepare (levels + 1) (.annotated inner notes)) pre e =
      (do pre; encodeWithin levels inner) e := by
  simp only [pend, prepare, prepareAbove, bind_assoc]
  rw [settings_bind, if_neg (by simp [lost])]
  rfl

theorem pend_of_known {o : HostObject Value} {writer : ObjectWriter}
    (known : e.registry.writer? o.type = some writer) (levels : ℕ) :
    pend (prepare (levels + 1) (.object o)) pre e =
      (do pre; runPlan (encodeWithin levels) (writer (← settings) o)) e := by
  simp only [pend, prepare, prepareAbove, bind_assoc]
  rw [get_bind, known]
  rfl

/-- An object with a handler is written as the handler says. -/
theorem encodeWithin_of_known {o : HostObject Value} {writer : ObjectWriter}
    (known : e.registry.writer? o.type = some writer) (levels : ℕ) :
    encodeWithin (levels + 1) (.object o) e =
      runPlan (encodeWithin levels) (writer e.options o) e := by
  have run : pend (prepare (levels + 1) (.object o)) (pure ()) e = _ := pend_of_known known levels
  rw [pend_nothing, pure_bind, settings_bind] at run
  exact run

end EncodeM

/-- An object whose handler writes a value is written as that value. -/
theorem Writes.object {options : Options} {registry : Registry} {o : HostObject Value}
    {writer : ObjectWriter} {v : Value} {bytes : List UInt8} {levels : ℕ}
    (known : registry.writer? o.type = some writer) (plan : writer options o = .writeValue v)
    (writes : Writes ⟨options, registry⟩ (EncodeM.encodeWithin levels v) bytes) :
    Writes ⟨options, registry⟩ (EncodeM.encodeWithin (levels + 1) (.object o)) bytes := by
  intro e same willing
  obtain ⟨after, run, grows⟩ := writes e same willing
  refine ⟨after, ?_, grows⟩
  obtain ⟨rfl, rfl⟩ := Setting.mk.inj same
  rw [EncodeM.encodeWithin_of_known known, plan, WritePlan.writeValue, EncodeM.runPlan,
    EncodeM.bind_of_ok (EncodeM.attempt_of_ok run)]
  rfl

/-- A boolean is its identifier. -/
theorem Writes.bool (setting : Setting) (b : Bool) (levels : ℕ) :
    Writes setting (EncodeM.encodeWithin (levels + 1) (.bool b))
      (if b then Tag.boolTrue else Tag.boolFalse).spelled :=
  fun e same willing => Writes.tagged _ e same willing

theorem Writes.encode {setting : Setting} {v : Value} {bytes : List UInt8} {levels : ℕ}
    (writes : Writes setting (EncodeM.encodeWithin levels v) bytes) :
    Writes setting (EncodeM.encode v) bytes := by
  intro e same willing
  obtain ⟨after, run, grows⟩ := writes e same willing
  exact ⟨after, EncodeM.encode_of_ok run, grows⟩

/-! ## Values one after another -/

/-- What is inside a value, in the order in which it is written: not more items of a sequence in
memory than the settings allow, and notes only if they are saved. -/
def Value.contents (options : Options) : Value → List Value
  | .vector items => items
  | .set items => items
  | .seq items => items.take (options.limitOf items)
  | .map m => inTurns m.entries
  | .throwable t => t.contents
  | .annotated inner notes =>
    if options.saveMeta then inTurns notes.entries ++ [inner] else [inner]
  | _ => []

/-- The value itself says what is inside. -/
def Value.isPlain : Value → Bool
  | .future _ => false
  | .lazySeq _ => false
  | .object _ => false
  | _ => true

/-- The second value is written like the first one, whatever waits in front of them. -/
def Straight {κ ι : Type} (c : Comparison) (K : κ → Encoder → Encoder → Prop)
    (F : ι → List Value → Encoder → Encoder → Prop) (v w : Value) : Prop :=
  ∀ (n : ℕ) (k : κ) (i : ι) (ahead : List Value) {pre : EncodeM Unit} {pres : ℕ → EncodeM Unit},
    Pending c n (K k) (F i (w :: ahead)) pre pres →
      Tracks c n (K k) Eq (F i ahead) (EncodeM.pend (EncodeM.prepare n v) pre)
        fun levels => EncodeM.pend (EncodeM.prepare levels w) (pres levels)

/-- Encoders in front of values that are still to be written, and a relation of values that they
write alike, one after another. What is ahead is said by a family of relations, for which a value is
exchanged for what is inside as soon as its turn comes. First phases come before all that waits, so
for them the encoders are related as they were when they were in front of it. -/
structure Traversal {κ ι : Type} (c : Comparison) (sides : Sides) (V : Value → Value → Prop)
    (K : κ → Encoder → Encoder → Prop) (F : ι → List Value → Encoder → Encoder → Prop) : Prop where
  footing (i : ι) (ahead : List Value) : Footing c (F i ahead)
  start (i : ι) (ahead : List Value) : ∃ k, K k = F i ahead
  failed {k : κ} {e e' : Encoder} (related : K k e e') : c.failed e e'
  setting {k : κ} {e e' : Encoder} (related : K k e e') :
    e.setting = ⟨sides.options, sides.registry⟩ ∧ e'.setting = ⟨sides.options', sides.registry⟩
  bare (uneven : c.uneven) (k : κ) : c.Bare (K k)
  lost (uneven : c.uneven) : sides.options.saveMeta = false
  counterpart {v w : Value} (related : V v w) : Counterpart c sides V v w ∨ Straight c K F v w
  opened {w : Value} (plain : w.isPlain = true) {i : ι} {ahead : List Value} {e e' : Encoder}
    (related : F i (w :: ahead) e e') : F i (w.contents sides.options ++ ahead) e e'
  asked {d d' : Deferred Value} (deferred : V (.future d) (.future d')) :
    Straight c K F (.future d) (.future d') ∨ ∀ (n : ℕ) (k : κ),
      Tracks c n (K k) (fun v w => V v w ∧ ∀ i ahead e e', F i (.future d' :: ahead) e e' →
        F i (w :: ahead) e e') (K k) (EncodeM.resolve d) fun _ => EncodeM.resolve d'
  throwable {t t' : Throwable Value} (related : V (.throwable t) (.throwable t')) : t.Beside V t'
  byteStream {cell : ℕ} (shared : V (.byteStream cell) (.byteStream cell)) (n : ℕ) (i : ι)
    (ahead : List Value) : Tracks c n (F i ahead) Eq (F i ahead) (EncodeM.writeByteStream cell)
      fun _ => EncodeM.writeByteStream cell
  lazySeq {cell : ℕ} (shared : V (.lazySeq cell) (.lazySeq cell)) (n : ℕ)
    (item : ∀ i, Procession c n V (F i) (EncodeM.encodeWithin n) EncodeM.encodeWithin) (i : ι)
    (ahead : List Value) : Tracks c n (F i (.lazySeq cell :: ahead)) Eq (F i ahead)
      (EncodeM.writeLazySeq (EncodeM.encodeWithin n) cell)
      fun levels => EncodeM.writeLazySeq (EncodeM.encodeWithin levels) cell
  plan {o : HostObject Value} {plan : WritePlan Unit} (shared : V (.object o) (.object o))
    (planned : sides.Plans o plan) (inside : plan.All fun v => V v v) (n : ℕ)
    (item : ∀ i, Procession c n V (F i) (EncodeM.encodeWithin n) EncodeM.encodeWithin) (i : ι)
    (ahead : List Value) : Tracks c n (F i (.object o :: ahead)) Eq (F i ahead)
      (EncodeM.runPlan (EncodeM.encodeWithin n) plan)
      fun levels => EncodeM.runPlan (EncodeM.encodeWithin levels) plan

/-- What is flat is written alike, if nothing inside is ahead. -/
theorem Straight.of_flat {κ ι : Type} {c : Comparison} {K : κ → Encoder → Encoder → Prop}
    {F : ι → List Value → Encoder → Encoder → Prop} {v w : Value} (flat : ∀ k, Flat (K k) v w)
    (failed : ∀ k e e', K k e e' → c.failed e e') (footing : ∀ i ahead, Footing c (F i ahead))
    (passed : ∀ i ahead e e', F i (w :: ahead) e e' → F i ahead e e') : Straight c K F v w := by
  intro n k i ahead pre pres pending
  cases n with
  | zero => exact .zero (fun _ => rfl) fun _ => rfl
  | succ n =>
    apply Tracks.succ
    exact .bind ((flat k).tracks (failed k) (footing i ahead)) fun _ _ alike =>
      .bind (pending.imp (passed i ahead)).tracks.of_succ fun _ _ _ => alike

/-- Nothing is to be said if the first phase is always refused on the first side. -/
theorem Straight.of_excused {κ ι : Type} {c : Comparison} {K : κ → Encoder → Encoder → Prop}
    {F : ι → List Value → Encoder → Encoder → Prop} {v w : Value}
    (excused : ∀ k levels e e', K k e e' → c.Excuses (EncodeM.prepare levels v e)) :
    Straight c K F v w :=
  fun n k _ _ _ _ _ e e' related => .inl (excused k n e e' related).bind

namespace Traversal

variable {κ ι : Type} {c : Comparison} {n : ℕ} {sides : Sides} {V : Value → Value → Prop}
  {K : κ → Encoder → Encoder → Prop} {F : ι → List Value → Encoder → Encoder → Prop}
  {v w : Value} {pre : EncodeM Unit} {pres : ℕ → EncodeM Unit}

/-- Both values begin with the second phase. -/
theorem immediate {E E' E'' : Encoder → Encoder → Prop} {write : EncodeM Unit}
    {writes : ℕ → EncodeM Unit} (first : EncodeM.prepare (n + 1) v = pure write)
    (second : ∀ levels, EncodeM.prepare (levels + 1) w = pure (writes levels))
    (pending : Pending c (n + 1) E E' pre pres) (h : Tracks c n E' Eq E'' write writes) :
    Tracks c (n + 1) E Eq E'' (EncodeM.pend (EncodeM.prepare (n + 1) v) pre)
      fun levels => EncodeM.pend (EncodeM.prepare levels w) (pres levels) := by
  apply Tracks.succ
  simp only [EncodeM.pend, first, second, pure_bind]
  exact .bind pending.tracks.of_succ fun _ _ _ => h

variable (h : Traversal c sides V K F)

include h

theorem options_eq {k : κ} {e e' : Encoder} (related : K k e e') :
    e.options = sides.options ∧ e'.options = sides.options' :=
  have both := h.setting related
  ⟨congrArg Setting.options both.1, congrArg Setting.options both.2⟩

theorem registry_eq {k : κ} {e e' : Encoder} (related : K k e e') :
    e.registry = sides.registry ∧ e'.registry = sides.registry :=
  have both := h.setting related
  ⟨congrArg Setting.registry both.1, congrArg Setting.registry both.2⟩

theorem saveMeta_eq {k : κ} {e e' : Encoder} (related : K k e e') :
    e.options.saveMeta = sides.options.saveMeta ∧ e'.options.saveMeta = sides.options.saveMeta := by
  obtain ⟨same, same'⟩ := h.options_eq related
  rw [same, same']
  exact ⟨rfl, rfl⟩

/-- A handler looks at the settings in the second phase. -/
theorem object {o : HostObject Value} {plan : WritePlan Unit} (shared : V (.object o) (.object o))
    (planned : sides.Plans o plan) (inside : plan.All fun v => V v v)
    (item : ∀ i, Procession c n V (F i) (EncodeM.encodeWithin n) EncodeM.encodeWithin) (k : κ)
    (i : ι) (ahead : List Value)
    (pending : Pending c (n + 1) (K k) (F i (.object o :: ahead)) pre pres) :
    Tracks c (n + 1) (K k) Eq (F i ahead) (EncodeM.pend (EncodeM.prepare (n + 1) (.object o)) pre)
      fun levels => EncodeM.pend (EncodeM.prepare levels (.object o)) (pres levels) := by
  have run := h.plan shared planned inside n item i ahead
  obtain ⟨writer, known, same, same'⟩ := planned
  obtain ⟨front, here⟩ := h.start i (.object o :: ahead)
  have second : Tracks c n (F i (.object o :: ahead)) Eq (F i ahead)
      (do EncodeM.runPlan (EncodeM.encodeWithin n) (writer (← EncodeM.settings) o))
      (fun levels => do
        EncodeM.runPlan (EncodeM.encodeWithin levels) (writer (← EncodeM.settings) o)) := by
    rw [← here] at run ⊢
    refine run.congr (fun e e' related => ?_) fun e e' related levels => ?_
    · rw [EncodeM.settings_bind, (h.options_eq related).1, same]
    · rw [EncodeM.settings_bind, (h.options_eq related).2, same']
  have both := Tracks.bind pending.tracks.of_succ fun _ _ _ => second
  apply Tracks.succ
  refine both.congr (fun e e' related => ?_) fun e e' related levels => ?_
  · exact EncodeM.pend_of_known ((h.registry_eq related).1 ▸ known) n
  · exact EncodeM.pend_of_known ((h.registry_eq related).2 ▸ known) levels

/-- Notes that are saved wait in front of what is below them. -/
theorem annotated {inner inner' : Value} {notes notes' : OrderedMap Value Value}
    (saved : sides.options.saveMeta = true)
    (beside : List.Forall₂ (Prod.RProd V V) notes.entries notes'.entries)
    (item : ∀ i, Procession c n V (F i) (EncodeM.encodeWithin n) EncodeM.encodeWithin) (k : κ)
    (i : ι) (ahead : List Value)
    (pending : Pending c (n + 1) (K k) (F i (.annotated inner' notes' :: ahead)) pre pres)
    (below : ∀ {pre : EncodeM Unit} {pres : ℕ → EncodeM Unit},
      Pending c n (K k) (F i (inner' :: ahead)) pre pres →
        Tracks c n (K k) Eq (F i ahead) (EncodeM.pend (EncodeM.prepare n inner) pre)
          fun levels => EncodeM.pend (EncodeM.prepare levels inner') (pres levels)) :
    Tracks c (n + 1) (K k) Eq (F i ahead)
      (EncodeM.pend (EncodeM.prepare (n + 1) (.annotated inner notes)) pre)
      fun levels =>
        EncodeM.pend (EncodeM.prepare levels (.annotated inner' notes')) (pres levels) := by
  have opened := pending.imp fun _ _ => h.opened rfl
  rw [Value.contents, if_pos saved, List.append_assoc, List.singleton_append] at opened
  have waiting : Pending c n (K k) (F i (inner' :: ahead))
      (do
        pre
        EncodeM.tagged .annotated
        EncodeM.writeMap (EncodeM.encodeWithin n) notes)
      (fun levels => do
        pres (levels + 1)
        EncodeM.tagged .annotated
        EncodeM.writeMap (EncodeM.encodeWithin levels) notes') := by
    refine ⟨.bind opened.tracks.of_succ fun _ _ _ => .bind ((h.footing _ _).tagged _)
      fun _ _ _ => (item i).writeMap _ beside, fun uneven => ?_⟩
    rw [h.lost uneven] at saved
    cases saved
  apply Tracks.succ
  refine (below waiting).congr (fun e e' related => ?_) fun e e' related levels => ?_
  · exact EncodeM.pend_of_saved ((h.saveMeta_eq related).1.trans saved) n
  · exact EncodeM.pend_of_saved ((h.saveMeta_eq related).2.trans saved) levels

/-- Below notes that are not saved, a value starts again with its own first phase. -/
theorem dropped {inner inner' : Value} {notes notes' : OrderedMap Value Value}
    (lost : sides.options.saveMeta = false) (inside : V inner inner')
    (item : ∀ i, Procession c n V (F i) (EncodeM.encodeWithin n) EncodeM.encodeWithin) (k : κ)
    (i : ι) (ahead : List Value)
    (pending : Pending c (n + 1) (K k) (F i (.annotated inner' notes' :: ahead)) pre pres) :
    Tracks c (n + 1) (K k) Eq (F i ahead)
      (EncodeM.pend (EncodeM.prepare (n + 1) (.annotated inner notes)) pre)
      fun levels =>
        EncodeM.pend (EncodeM.prepare levels (.annotated inner' notes')) (pres levels) := by
  have behind := pending.imp fun _ _ => h.opened rfl
  rw [Value.contents, lost] at behind
  have both : Tracks c n (K k) Eq (F i ahead) (do pre; EncodeM.encodeWithin n inner)
      (fun levels => do pres (levels + 1); EncodeM.encodeWithin levels inner') :=
    .bind behind.tracks.of_succ fun _ _ _ => (item i).item _ _ _ inside
  apply Tracks.succ
  refine both.congr (fun e e' related => ?_) fun e e' related levels => ?_
  · exact EncodeM.pend_of_lost ((h.saveMeta_eq related).1.trans lost) n
  · exact EncodeM.pend_of_lost ((h.saveMeta_eq related).2.trans lost) levels

/-- Related values are written alike, whatever waits in front of them. -/
theorem pended (related : V v w) (k : κ) (i : ι) (ahead : List Value)
    (pending : Pending c n (K k) (F i (w :: ahead)) pre pres) :
    Tracks c n (K k) Eq (F i ahead) (EncodeM.pend (EncodeM.prepare n v) pre)
      fun levels => EncodeM.pend (EncodeM.prepare levels w) (pres levels) := by
  induction n generalizing v w k i ahead pre pres with
  | zero => exact .zero (fun _ => rfl) fun _ => rfl
  | succ n ih =>
    have item (i : ι) :
        Procession c n V (F i) (EncodeM.encodeWithin n) EncodeM.encodeWithin := by
      refine ⟨h.footing i, fun v w ahead related => ?_⟩
      obtain ⟨front, here⟩ := h.start i (w :: ahead)
      have nothing : Pending c n (K front) (F i (w :: ahead)) (pure ()) fun _ => pure () := by
        rw [here]
        exact .nothing
      have both := ih related front i ahead nothing
      simp only [EncodeM.pend_nothing, here] at both
      exact both
    -- Notes on the second side are left by and by, with the same number of levels on the first.
    induction heightEq : w.height using Nat.strong_induction_on generalizing w with
    | _ height above =>
    have opened (plain : w.isPlain = true) :
        Pending c (n + 1) (K k) (F i (w.contents sides.options ++ ahead)) pre pres :=
      pending.imp fun _ _ => h.opened plain
    rcases h.counterpart related with counterpart | straight
    · cases counterpart with
      | vector each =>
        exact immediate rfl (fun _ => rfl) (opened rfl)
          ((item i).writeCollection ahead .vectorEmpty _ each)
      | set each =>
        exact immediate rfl (fun _ => rfl) (opened rfl)
          ((item i).writeCollection ahead .setEmpty _ each)
      | @seq items items' each =>
        obtain ⟨front, here⟩ := h.start i (.seq items' :: ahead)
        refine immediate rfl (fun _ => rfl) pending
          ((item i).writeSeq ahead each fun e e' related => ?_)
        have options : e.options = sides.options := (h.options_eq (here ▸ related)).1
        rw [options]
        exact h.opened rfl related
      | map each =>
        exact immediate rfl (fun _ => rfl) (opened rfl) ((item i).writeMap ahead each)
      | throwable related =>
        exact immediate rfl (fun _ => rfl) (opened rfl)
          (Procession.writeThrowable (item i) h.throwable ahead _ _ related)
      | lazySeq shared =>
        exact immediate rfl (fun _ => rfl) pending (h.lazySeq shared n item i ahead)
      | byteStream shared =>
        exact immediate rfl (fun _ => rfl) (opened rfl)
          (.bind (h.byteStream shared n i ahead) fun _ _ _ => .result rfl)
      | future deferred =>
        rcases h.asked deferred with straight | asked
        · exact straight _ k i ahead pending
        · apply Tracks.succ
          simp only [EncodeM.pend_future]
          refine .bind (asked n k) fun v w came => ih came.1 k i ahead ?_
          exact (pending.future (h.footing _ _)).imp (came.2 i ahead)
      | object planned inside => exact h.object related planned inside item k i ahead pending
      | annotated saved inside beside =>
        exact h.annotated saved beside item k i ahead pending fun waiting =>
          ih inside k i ahead waiting
      | dropped lost inside => exact h.dropped lost inside item k i ahead pending
      | left uneven inside =>
        have bare := h.bare uneven k
        have lost := h.lost uneven
        obtain ⟨count, rfl, rfl⟩ := pending.futures uneven
        have below := ih inside k i ahead ⟨bare.relevel pending.tracks n, pending.futures⟩
        have behind := bare.relevel (bare.late_left (.prepare n _) below) (n + 1)
        exact behind.congr
          (fun e e' related => EncodeM.pend_of_lost ((h.saveMeta_eq related).1.trans lost) n)
          fun _ _ _ _ => rfl
      | @right v inner notes uneven inside =>
        have bare := h.bare uneven k
        have lost := h.lost uneven
        have behind := opened rfl
        rw [Value.contents, lost] at behind
        obtain ⟨count, rfl, rfl⟩ := pending.futures uneven
        have lower : inner.height < height := by
          rw [← heightEq, Value.height]
          exact Nat.lt_succ_of_le (Nat.le_max_left ..)
        have below := above _ lower inside behind rfl
        have behind := bare.relevel (bare.late_right below) n
        apply Tracks.succ
        exact behind.congr (fun _ _ _ => rfl) fun e e' related levels =>
          EncodeM.pend_of_lost ((h.saveMeta_eq related).2.trans lost) levels
    · exact straight _ k i ahead pending

/-- Related values are written alike, one after another. -/
theorem procession (i : ι) :
    Procession c n V (F i) (EncodeM.encodeWithin n) EncodeM.encodeWithin := by
  refine ⟨h.footing i, fun v w ahead related => ?_⟩
  obtain ⟨front, here⟩ := h.start i (w :: ahead)
  have nothing : Pending c n (K front) (F i (w :: ahead)) (pure ()) fun _ => pure () := by
    rw [here]
    exact .nothing
  have both := h.pended related front i ahead nothing
  simp only [EncodeM.pend_nothing, here] at both
  exact both

end Traversal

/-! ## Whatever is ahead -/

/-- A relation of values that are written alike by related encoders. -/
structure Correspondence (c : Comparison) (sides : Sides) (E : Encoder → Encoder → Prop)
    (V : Value → Value → Prop) : Prop extends Analogy c V E where
  setting {e e' : Encoder} (related : E e e') : e.setting = ⟨sides.options, sides.registry⟩ ∧
    e'.setting = ⟨sides.options', sides.registry⟩
  counterpart {v w : Value} (related : V v w) : Counterpart c sides V v w ∨ Flat E v w ∨
    c.lenient ∧ ∀ levels e e', E e e' → c.Excuses (EncodeM.prepare levels v e)
  plan {o : HostObject Value} {plan : WritePlan Unit} (shared : V (.object o) (.object o))
    (planned : sides.Plans o plan) (inside : plan.All fun v => V v v) {n : ℕ}
    (h : ∀ v w, V v w → Tracks c n E Eq E (EncodeM.encodeWithin n v)
      fun levels => EncodeM.encodeWithin levels w) :
    Tracks c n E Eq E (EncodeM.runPlan (EncodeM.encodeWithin n) plan)
      fun levels => EncodeM.runPlan (EncodeM.encodeWithin levels) plan
  bare (uneven : c.uneven) : c.Bare E
  lost (uneven : c.uneven) : sides.options.saveMeta = false

namespace Correspondence

variable {c : Comparison} {n : ℕ} {sides : Sides} {E : Encoder → Encoder → Prop}
  {V : Value → Value → Prop} (h : Correspondence c sides E V)

include h

/-- What is ahead makes no difference. -/
theorem traversal :
    Traversal c sides V (fun _ : Unit => E) (fun (_ : Unit) (_ : List Value) => E) where
  footing _ _ := h.toFooting
  start _ _ := ⟨(), rfl⟩
  failed := h.failed
  setting := h.setting
  bare uneven _ := h.bare uneven
  lost := h.lost
  counterpart related := (h.counterpart related).imp id fun rest => by
    rcases rest with flat | ⟨-, refused⟩
    · exact Straight.of_flat (fun _ => flat) (fun _ _ _ => h.failed) (fun _ _ => h.toFooting)
        fun _ _ _ _ => id
    · exact Straight.of_excused fun _ => refused
  opened _ := id
  asked deferred := .inr fun _ _ => (h.toAnalogy.asked deferred).results fun _ _ related =>
    ⟨related, fun _ _ _ _ => id⟩
  throwable := h.throwable
  byteStream shared _ _ _ := h.writeByteStream shared
  lazySeq shared _ item _ _ := h.writeLazySeq (fun v w => (item ()).item v w []) shared
  plan shared planned inside _ item _ _ :=
    h.plan shared planned inside fun v w => (item ()).item v w []

theorem options_eq {e e' : Encoder} (related : E e e') :
    e.options = sides.options ∧ e'.options = sides.options' :=
  h.traversal.options_eq (k := ()) related

theorem registry_eq {e e' : Encoder} (related : E e e') :
    e.registry = sides.registry ∧ e'.registry = sides.registry :=
  h.traversal.registry_eq (k := ()) related

/-- Related values are written alike. -/
theorem tracked {v w : Value} (related : V v w) : Tracks c n E Eq E (EncodeM.encodeWithin n v)
    fun levels => EncodeM.encodeWithin levels w :=
  (h.traversal.procession ()).item v w [] related

end Correspondence

end TaggedStream
