import TaggedStream.Proofs.Dictionary
import TaggedStream.Proofs.Sameness

/-!
Sessions: what encoders are asked for, one request after another.

A session gives every value as many levels as it takes, so encoders that track each other level by
level come to the same end. No request leaves anything in the buffer that the encoder lends, also if
it is refused half-way. So an encoder has no memory of what it was asked for before: a value is
written as by a new encoder over the same cells.
-/

namespace TaggedStream

/-- The handler that was registered last for a type counts. -/
theorem Registry.writer?_registerWriter (registry : Registry) (type other : HostType)
    (writer : ObjectWriter) : (registry.registerWriter type writer).writer? other =
      if type == other then some (guarded type writer) else registry.writer? other :=
  OrderedMap.get?_insert _ _ _ _

/-! ## As many levels as it takes -/

theorem EncodeM.exists_eq_deepening {α : Type} (job : ℕ → EncodeM α) (start : ℕ) (e : Encoder) :
    ∃ levels, job levels e = deepening job start e :=
  (Id.run (repeatM (tryLevels job e) start)).property

/-- If a job is tracked with every number of levels, then it is tracked with as many as it takes. -/
theorem Tracks.deepening {c : Comparison} {n : ℕ} {α β : Type} {E E' : Encoder → Encoder → Prop}
    {R : α → β → Prop} {job : ℕ → EncodeM α} {jobs : ℕ → EncodeM β}
    (deepens : ∀ levels, Deepens (job levels) (job (levels + 1)))
    (deepens' : ∀ levels, Deepens (jobs levels) (jobs (levels + 1)))
    (h : ∀ levels, Tracks c levels E R E' (job levels) jobs) (start start' : ℕ) :
    Tracks c n E R E' (EncodeM.deepening job start) fun _ => EncodeM.deepening jobs start' := by
  intro e e' related
  by_cases enough : ∃ levels, ∀ after, job levels e ≠ .error .endless after
  · obtain ⟨levels, enough⟩ := enough
    rw [EncodeM.deepening_of_enough deepens enough]
    rcases h levels e e' related with excused | ⟨result, matched, tends⟩
    · exact .inl excused
    · obtain ⟨most, run : jobs most e' = result⟩ := tends.exists
      have enough' (after : Encoder) : jobs most e' ≠ .error .endless after := by
        rw [run]
        rintro rfl
        generalize job levels e = first at matched enough
        cases matched
        exact enough _ rfl
      refine .inr ⟨result, matched, .of_forall fun _ => ?_⟩
      exact (EncodeM.deepening_of_enough deepens' enough' start').trans run
  · -- The first side lacks levels, however many there are.
    have endless (levels : ℕ) : ∃ after, job levels e = .error .endless after := by
      by_contra some
      exact enough ⟨levels, fun after run => some ⟨after, run⟩⟩
    obtain ⟨levels, same⟩ := EncodeM.exists_eq_deepening job start e
    obtain ⟨after, run⟩ := endless levels
    rw [← same, run]
    cases exact : c.exact with
    | false => exact .inl exact
    | true =>
      obtain ⟨levels', same'⟩ := EncodeM.exists_eq_deepening jobs start' e'
      obtain ⟨after', run'⟩ := endless levels'
      have kept := h levels' e e' related
      rw [run'] at kept
      rcases kept with excused | ⟨result, matched, tends⟩
      · exact absurd (exact.symm.trans excused) Bool.noConfusion
      · rw [Comparison.levels, if_pos exact] at tends
        have last : jobs levels' e' = result := tends
        cases matched
        exact .inr ⟨_, .endless, .of_forall fun _ => same'.symm.trans last⟩

/-- Related values are written alike, and what is behind them is ahead then. -/
theorem Traversal.encode {κ ι : Type} {c : Comparison} {n : ℕ} {sides : Sides}
    {V : Value → Value → Prop} {K : κ → Encoder → Encoder → Prop}
    {F : ι → List Value → Encoder → Encoder → Prop} (h : Traversal c sides V K F) {v w : Value}
    (related : V v w) (i : ι) (ahead : List Value) :
    Tracks c n (F i (w :: ahead)) Eq (F i ahead) (EncodeM.encode v) fun _ => EncodeM.encode w :=
  .got fun e e' before => Tracks.deepening (fun levels => .encodeWithin levels v)
    (fun levels => .encodeWithin levels w)
    (fun _ => (h.procession i).item v w ahead related) _ _ e e' before

namespace Correspondence

variable {c : Comparison} {n : ℕ} {sides : Sides} {E : Encoder → Encoder → Prop}
  {V : Value → Value → Prop} (h : Correspondence c sides E V)

include h

/-- A session is tracked if it is tracked with any ways to write values that are. -/
theorem withLevels {α β : Type} {R : α → β → Prop} {E' : Encoder → Encoder → Prop}
    {session : (Value → EncodeM Unit) → EncodeM α} {session' : (Value → EncodeM Unit) → EncodeM β}
    (tracks : ∀ (write : Value → EncodeM Unit) (writes : ℕ → Value → EncodeM Unit), (∀ v w,
        V v w → Tracks c n E Eq E (write v) fun levels => writes levels w) →
      Tracks c n E R E' (session write) fun levels => session' (writes levels)) :
    Tracks c n E R E' (EncodeM.withLevels session) fun _ => EncodeM.withLevels session' :=
  .got fun e e' related => tracks _
    (fun _ w =>
      EncodeM.deepening (fun levels => EncodeM.encodeWithin levels w) (w.height + e'.store.height))
    (fun v w inside => .deepening (fun levels => .encodeWithin levels v)
      (fun levels => .encodeWithin levels w) (fun _ => h.tracked inside) _ _) e e' related

theorem encode {v w : Value} (related : V v w) :
    Tracks c n E Eq E (EncodeM.encode v) fun _ => EncodeM.encode w :=
  h.withLevels fun _ _ tracks => tracks v w related

theorem encodeDrawn {write : Value → EncodeM Unit} {writes : ℕ → Value → EncodeM Unit}
    (tracks : ∀ v w, V v w → Tracks c n E Eq E (write v) fun levels => writes levels w) {cell : ℕ}
    (shared : V (.lazySeq cell) (.lazySeq cell)) (free : ¬ c.stuck cell) (limit written : ℕ) :
    Tracks c n E Eq E (EncodeM.encodeDrawn write cell limit written)
      fun levels => EncodeM.encodeDrawn (writes levels) cell limit written := by
  induction limit generalizing written with
  | zero => exact .result rfl
  | succ limit ih =>
    refine .bind (h.drawn shared free) ?_
    intro item item' items
    cases items with
    | none => exact .result rfl
    | some item => exact .bind (tracks _ _ item) fun _ _ _ => ih (written + 1)

end Correspondence

/-! ## Requests -/

/-- What an encoder can be asked for. -/
inductive Request where
  | value (v : Value)
  | all (cell : ℕ)
  | uncountable (oid : Oid) (cell : ℕ)
  | countable (oid : Oid) (items : List Value)
  | map (m : OrderedMap Value Value)
  | byteStream (cell : ℕ)

/-- Does what an encoder is asked for. -/
def Request.perform : Request → EncodeM Unit
  | .value v => EncodeM.encode v
  | .all cell => do
    let _ ← EncodeM.encodeAll cell
  | .uncountable oid cell => do
    let _ ← EncodeM.encodeUncountable oid cell
  | .countable oid items => EncodeM.encodeCountable oid items
  | .map m => EncodeM.encodeMap m
  | .byteStream cell => do
    let _ ← EncodeM.encodeByteStream cell

/-- A correspondence of all values with themselves is one of requests. -/
theorem Correspondence.perform {c : Comparison} {n : ℕ} {sides : Sides}
    {E : Encoder → Encoder → Prop} {V : Value → Value → Prop} (h : Correspondence c sides E V)
    (all : ∀ v, V v v) (free : ∀ cell, ¬ c.stuck cell) (request : Request) :
    Tracks c n E Eq E request.perform fun _ => request.perform := by
  have each (items : List Value) : List.Forall₂ V items items :=
    List.forall₂_same.2 fun v _ => all v
  cases request with
  | value v => exact h.encode (all v)
  | all cell =>
    have session : Tracks c n E Eq E (EncodeM.encodeAll cell) fun _ => EncodeM.encodeAll cell := by
      refine .bind (h.drawLimit (all _) (free cell)) ?_
      rintro limit _ rfl
      exact h.withLevels fun _ _ tracks => h.encodeDrawn tracks (all _) (free cell) limit 0
    exact .bind session fun _ _ _ => .result rfl
  | uncountable oid cell =>
    exact .bind (h.withLevels fun _ _ tracks => h.writeUncountable tracks oid (all _) (free cell))
      fun _ _ _ => .result rfl
  | countable oid items =>
    unfold Request.perform EncodeM.encodeCountable
    exact h.withLevels fun _ _ tracks => h.writeCountable tracks oid (each items)
  | map m =>
    unfold Request.perform EncodeM.encodeMap
    exact h.withLevels fun _ _ tracks => h.writeMap tracks (List.forall₂_same.2 fun entry _ =>
      ⟨all entry.1, all entry.2⟩)
  | byteStream cell => exact .bind (h.writeByteStream (all _)) fun _ _ _ => .result rfl

/-! ## Encoders in use -/

/-- The same output on both sides, with a property. -/
def Output.Shared (P : Output → Prop) (output : Output) (position : ℕ) (output' : Output)
    (position' : ℕ) : Prop :=
  output' = output ∧ position' = position ∧ P output

theorem Outlets.shared {P : Output → Prop}
    (kept : ∀ slice output, P output → P (output.put slice).2) : Outlets (Output.Shared P) := by
  rintro slice _ output _ position ⟨rfl, rfl, holds⟩
  have after := kept slice output holds
  cases run : output.put slice with
  | mk cause next =>
    rw [run] at after
    cases cause with
    | none => exact .inl ⟨next, next, rfl, rfl, rfl, rfl, after⟩
    | some cause => exact .inr ⟨cause, next, next, rfl, rfl, rfl, rfl, after⟩

theorem Output.Willing.put {output : Output} (willing : output.Willing) (slice : List UInt8) :
    (output.put slice).2.Willing := by
  obtain ⟨after, run, kept, -⟩ := Output.put_of_willing slice willing
  rw [run]
  exact willing.of_channel_eq kept

/-- All values are written by encoders over the same cells. -/
abbrev Kind.all (outputs : Output → ℕ → Output → ℕ → Prop) : Kind :=
  .same (fun _ => True) (fun _ => False) (Deferral.Same fun _ => True) outputs

/-- No cells are left aside. -/
def Pinned.none : Pinned := ⟨fun _ => .none, fun _ => .none⟩

/-- Encoders over the same cells are compared with the same number of levels, and they are still
over the same cells when both were refused. -/
abbrev Comparison.twins (outputs : Output → ℕ → Output → ℕ → Prop) (sides : Sides) : Comparison :=
  .strict (.all outputs) sides .none true

namespace Encoder

/-- The settings and handlers of an encoder, and of another one that may append. -/
def sides (e : Encoder) (append : Bool) : Sides := ⟨e.options, append, e.registry⟩

/-- All values are written by encoders over the same cells. -/
abbrev Twin (outputs : Output → ℕ → Output → ℕ → Prop) (sides : Sides) : Encoder → Encoder → Prop :=
  Kin (.all outputs) sides .none

variable {outputs : Output → ℕ → Output → ℕ → Prop} {sides : Sides} {e e' : Encoder}

theorem Twin.of_store_eq (setting : e.setting = ⟨sides.options, sides.registry⟩)
    (setting' : e'.setting = ⟨sides.options', sides.registry⟩) (idle : e.Idle) (idle' : e'.Idle)
    (related : outputs e.output e.position e'.output e'.position) (same : e'.store = e.store) :
    Twin outputs sides e e' := by
  refine ⟨setting, setting', idle, idle', related, fun {cell} _ => ?_, fun aside => ?_, ?_, ?_, ?_⟩
  · rw [same]
    cases e.store.sequences[cell]? with
    | none => exact .none
    | some s => exact .some ⟨rfl, fun _ _ => trivial⟩
  · exact absurd ⟨⟨rfl, trivial⟩, id⟩ aside
  · rw [same]
  · rw [same]
  · exact fun _ _ _ _ _ _ => trivial

theorem Kin.store_eq (twin : Twin outputs sides e e') : e'.store = e.store := by
  obtain ⟨shared, -, readers, deferrals, -⟩ := twin.store
  have sequences : e'.store.sequences = e.store.sequences := by
    apply Array.ext_getElem?
    intro cell
    have both := @shared cell ⟨⟨rfl, trivial⟩, id⟩
    generalize e.store.sequences[cell]? = s, e'.store.sequences[cell]? = s' at both
    cases both with
    | none => rfl
    | some related => rw [related.1]
  generalize e.store = store, e'.store = store' at sequences readers deferrals
  cases store
  cases store'
  cases sequences
  cases readers
  cases deferrals
  rfl

/-- Handlers that do not look at `append` do the same for all values. -/
theorem Twin.correspondence (outlets : Outlets outputs)
    (blind : ∀ o writer, sides.registry.writer? o.type = some writer →
      writer sides.options' o = writer sides.options o) :
    Correspondence (.twins outputs sides) sides
      (Twin outputs sides) (Kind.all outputs).values :=
  have encloses : Encloses sides.options sides.registry {} fun _ => True := fun _ _ => trivial
  encloses.correspondence (Deferral.Same.alike fun _ => trivial) outlets
    (fun o writer _ => blind o writer) fun _ => False.elim

/-- An encoder that was made over a willing output, with a header unless it appends, and was then
asked for one thing after another, whatever came of it. What values refer to may change in between,
and new cells may be made. -/
inductive InUse : Encoder → Prop
  | made {registry : Registry} {options : Options} {output : Output} {store : Store} {e : Encoder}
      (willing : output.Willing)
      (run : EncodeM.start (.fresh registry options output store) = .ok () e) : InUse e
  | went {e after : Encoder} (before : InUse e) (request : Request)
      (run : request.perform e = .ok () after) : InUse after
  | refused {e after : Encoder} (before : InUse e) (request : Request) {error : StreamError}
      (run : request.perform e = .error (.refused error) after) : InUse after
  | elsewhere {e : Encoder} (before : InUse e) (store : Store) : InUse { e with store }

/-- What holds after a step unless it never ends. -/
def Leaves {α : Type} (P : Encoder → Prop) : EStateM.Result Halt Encoder α → Prop
  | .ok _ e => P e
  | .error (.refused _) e => P e
  | .error .endless _ => True

/-- A step that encoders over the same cells take alike leaves the settings as they were and nothing
in the buffer, whatever comes of it. -/
theorem Idle.leaves {α : Type} {m : EncodeM α} {P : Output → Prop}
    (kept : ∀ slice output, P output → P (output.put slice).2) (idle : e.Idle) (holds : P e.output)
    (alike : ∀ {outputs : Output → ℕ → Output → ℕ → Prop} {sides : Sides},
      Correspondence (.twins outputs sides) sides
        (Twin outputs sides) (Kind.all outputs).values →
      Tracks (.twins outputs sides) 0 (Twin outputs sides) Eq
        (Twin outputs sides) m fun _ => m) :
    Leaves (fun after => after.setting = e.setting ∧ after.Idle ∧ P after.output) (m e) := by
  have outlets : Outlets (Output.Shared P) := .shared kept
  have twin : Twin (Output.Shared P) (e.sides e.options.append) e e :=
    .of_store_eq rfl rfl idle idle ⟨rfl, rfl, holds⟩ rfl
  have matched := (alike (Twin.correspondence outlets fun _ _ _ => rfl)).matched twin
  generalize m e = result at matched
  cases matched with
  | ok _ twin => exact ⟨twin.setting, twin.idle, twin.outputs.2.2⟩
  | refused twin => exact ⟨twin.setting, twin.idle, twin.outputs.2.2⟩
  | endless => trivial

/-- A request leaves the settings as they were and nothing in the buffer. -/
theorem Idle.performs (idle : e.Idle) (willing : e.output.Willing) (request : Request) :
    Leaves (fun after => after.setting = e.setting ∧ after.Idle ∧ after.output.Willing)
      (request.perform e) :=
  idle.leaves (fun slice _ h => h.put slice) willing fun h =>
    h.perform (fun _ => ⟨rfl, trivial⟩) (fun _ => id) request

theorem Idle.fresh (registry : Registry) (options : Options) (output : Output) (store : Store) :
    (Encoder.fresh registry options output store).Idle := by
  intro chunk lent
  cases lent
  rfl

/-- An encoder in use has nothing in its buffer, and what it writes is taken. -/
theorem InUse.idle {e : Encoder} (used : e.InUse) : e.Idle ∧ e.output.Willing := by
  induction used with
  | @made registry options output store e willing run =>
    have idle := Idle.fresh registry options output store
    rw [EncodeM.start, EncodeM.settings_bind] at run
    split at run
    · cases run
      exact ⟨idle, willing⟩
    · have header : Putting (Header.write {}) := .bind (.put _ _) fun _ => .put _ _
      have left := idle.leaves (fun slice _ h => h.put slice) willing fun h => h.putting header
      change (Header.write {} : EncodeM Unit)
        (Encoder.fresh registry options output store) = _ at run
      rw [run] at left
      exact left.2
  | went _ request run ih =>
    have left := ih.1.performs ih.2 request
    rw [run] at left
    exact left.2
  | refused _ request run ih =>
    have left := ih.1.performs ih.2 request
    rw [run] at left
    exact left.2
  | elsewhere _ store ih => exact ih

end Encoder

/-! ## Watching the buffer -/

namespace EncodeM

/-- Stops if there is something in the buffer that the encoder lends. -/
def watch : EncodeM Unit := fun e =>
  match e.scratch with
  | none => .ok () e
  | some chunk => if chunk.items.isEmpty then .ok () e else .error .endless e

/-- The first phase of an encoder that watches its buffer: all that is written at any depth is only
begun when there is nothing in it. -/
def prepareWatched : (fuel : ℕ) → Value → EncodeM (EncodeM Unit)
  | 0, _ => endless
  | fuel + 1, v => do
    let write ← prepareAbove (prepareWatched fuel) v
    return do
      watch
      write

theorem watch_of_idle {e : Encoder} (idle : e.Idle) : watch e = .ok () e := by
  unfold watch
  cases lent : e.scratch with
  | none => rfl
  | some chunk =>
    have empty : chunk.items.isEmpty = true := Array.isEmpty_iff.2 (idle chunk lent)
    simp only [empty, if_true]

end EncodeM

namespace Encoder

variable {outputs : Output → ℕ → Output → ℕ → Prop} {sides : Sides} {n : ℕ}

/-- The second phases do the same from encoders over the same cells. -/
def Twin.Writes (outputs : Output → ℕ → Output → ℕ → Prop) (sides : Sides) (n : ℕ)
    (write write' : EncodeM Unit) : Prop :=
  Tracks (.twins outputs sides) n (Twin outputs sides) Eq
    (Twin outputs sides) write fun _ => write'

/-- The first phases do the same if those below them do. -/
theorem Twin.prepareAbove {below below' : Value → EncodeM (EncodeM Unit)}
    (outlets : Outlets outputs)
    (blind : ∀ o writer, sides.registry.writer? o.type = some writer →
      writer sides.options' o = writer sides.options o)
    (h : ∀ v, Tracks (.twins outputs sides) n
      (Twin outputs sides) (Twin.Writes outputs sides n) (Twin outputs sides) (below v)
      fun _ => below' v) (v : Value) :
    Tracks (.twins outputs sides) n (Twin outputs sides)
      (Twin.Writes outputs sides n) (Twin outputs sides) (EncodeM.prepareAbove below v)
      fun _ => EncodeM.prepareAbove below' v := by
  have alike := Twin.correspondence outlets blind
  have item (v w : Value) (related : (Kind.all outputs).values v w) :
      Tracks (.twins outputs sides) n (Twin outputs sides) Eq
        (Twin outputs sides) (EncodeM.inTurn below v) fun _ => EncodeM.inTurn below' w := by
    obtain ⟨rfl, -⟩ := related
    exact .bind (h w) fun write write' alike => alike
  have each (items : List Value) :
      List.Forall₂ (Kind.all outputs).values items items :=
    List.forall₂_same.2 fun v _ => ⟨rfl, trivial⟩
  have entries (m : OrderedMap Value Value) :
      List.Forall₂ (Prod.RProd (Kind.all outputs).values
        (Kind.all outputs).values) m.entries m.entries :=
    List.forall₂_same.2 fun entry _ => ⟨⟨rfl, trivial⟩, ⟨rfl, trivial⟩⟩
  cases v with
  | future d =>
    refine .bind (alike.asked ⟨rfl, trivial⟩) ?_
    rintro _ v ⟨rfl, -⟩
    exact .bind (h v) fun write write' same => .result (.bind (alike.tagged _) fun _ _ _ => same)
  | annotated inner notes =>
    refine alike.settings fun options append => ?_
    cases saved : options.saveMeta with
    | false =>
      simp only [Bool.false_eq_true, if_false]
      exact .result (item inner inner ⟨rfl, trivial⟩)
    | true =>
      simp only [if_true]
      exact .bind (h inner) fun write write' same => .result (.bind (alike.tagged _) fun _ _ _ =>
        .bind (alike.writeMap item (entries notes)) fun _ _ _ => same)
  | object o =>
    cases known : sides.registry.writer? o.type with
    | none =>
      exact ((Deferral.Same.alike fun _ => trivial).flat known).tracks (fun _ _ => alike.failed)
        alike.toFooting
    | some writer =>
      have inside : (writer sides.options o).All fun v => (Kind.all outputs).values v v :=
        .of_mentions fun v _ => ⟨rfl, trivial⟩
      have planned := alike.runPlan_of_tight item (fun _ _ failed => failed.2.2 trivial) False.elim
        inside
      have run : Twin.Writes outputs sides n
          (do EncodeM.runPlan (EncodeM.inTurn below) (writer (← EncodeM.settings) o))
          (do EncodeM.runPlan (EncodeM.inTurn below') (writer (← EncodeM.settings) o)) := by
        refine planned.congr (fun e e' twin => ?_) fun e e' twin _ => ?_
        · rw [EncodeM.settings_bind, (alike.options_eq twin).1]
        · rw [EncodeM.settings_bind, (alike.options_eq twin).2, blind o writer known]
      refine .got fun e e' twin => ?_
      obtain ⟨registry, registry'⟩ := alike.registry_eq twin
      rw [registry, registry', known]
      exact Tracks.result run e e' twin
  | vector items => exact .result (alike.writeCollection item .vectorEmpty _ (each items))
  | set items => exact .result (alike.writeCollection item .setEmpty _ (each items))
  | map m => exact .result (alike.writeMap item (entries m))
  | seq items => exact .result (alike.writeSeq item (each items))
  | lazySeq cell => exact .result (alike.writeLazySeq item ⟨rfl, trivial⟩)
  | byteStream cell =>
    exact .result (.bind (alike.writeByteStream ⟨rfl, trivial⟩) fun _ _ _ => .result rfl)
  | throwable t => exact .result (alike.writeThrowable item t t ⟨rfl, trivial⟩)
  | _ => exact (Flat.atom rfl).tracks (fun _ _ => alike.failed) alike.toFooting

/-- Watching makes no difference between encoders whose buffers are empty. -/
theorem Twin.prepareWatched (outlets : Outlets outputs)
    (blind : ∀ o writer, sides.registry.writer? o.type = some writer →
      writer sides.options' o = writer sides.options o) (fuel : ℕ) (v : Value) :
    Tracks (.twins outputs sides) n (Twin outputs sides)
      (Twin.Writes outputs sides n) (Twin outputs sides) (EncodeM.prepare fuel v)
      fun _ => EncodeM.prepareWatched fuel v := by
  induction fuel generalizing v with
  | zero => exact .endless
  | succ fuel ih =>
    have both := (Twin.prepareAbove outlets blind ih v).bind fun write write' same =>
      have watching : Twin.Writes outputs sides n write (do EncodeM.watch; write') :=
        same.congr (fun _ _ _ => rfl) fun _ _ twin _ =>
          EncodeM.bind_of_ok (EncodeM.watch_of_idle twin.idle')
      Tracks.result watching
    rw [bind_pure] at both
    exact both

/-- The encoders differ in their buffers alone. -/
def ApartFromBuffer (e e' : Encoder) : Prop := e' = { e with scratch := e'.scratch }

/-- An idle encoder takes two steps alike that keep track of each other over the same cells. -/
theorem Idle.apart {e : Encoder} (idle : e.Idle) {α : Type} {m m' : EncodeM α}
    (tracks : Tracks (.twins (Output.Shared fun _ => True) (e.sides e.options.append)) 0
      (Twin (Output.Shared fun _ => True) (e.sides e.options.append)) Eq
      (Twin (Output.Shared fun _ => True) (e.sides e.options.append)) m fun _ => m') :
    Matches Eq ApartFromBuffer ApartFromBuffer (m e) (m' e) := by
  have twin : Twin (Output.Shared fun _ => True) (e.sides e.options.append) e e :=
    .of_store_eq rfl rfl idle idle ⟨rfl, rfl, trivial⟩ rfl
  have rest {after after' : Encoder}
      (twin : Twin (Output.Shared fun _ => True) (e.sides e.options.append) after after') :
      ApartFromBuffer after after' := by
    have store : after'.store = after.store := twin.store_eq
    have setting : after'.setting = after.setting := twin.setting'.trans twin.setting.symm
    obtain ⟨output, position, -⟩ := twin.outputs
    obtain ⟨options, registry⟩ := Setting.mk.inj setting
    rw [ApartFromBuffer, ← output, ← position, ← options, ← registry, ← store]
  exact (tracks.matched twin).imp (fun _ _ => rest) fun _ _ => rest

/-- A handler that writes whether the encoder appends. -/
def writeAppend : ObjectWriter := fun options _ => .writeValue (.bool options.append)

end Encoder

end TaggedStream
