import TaggedStream.Proofs.Buffering
import TaggedStream.Proofs.Dictionary
import TaggedStream.Proofs.Sessions
import TaggedStream.Proofs.Streams

/-!
Handlers are a conservative extension.

A stream that is read without handlers is read alike with them, whatever they do: they are asked for
identifiers only that would else be unknown, and no error is lost on the way up. A value that leads
to no object is written alike too. Conversely, an identifier with a handler has no meaning in the
catalogue, so the handler is what is called.
-/

namespace TaggedStream

/-! ## Registries -/

theorem Except.bind_eq_ok {ε α β : Type} {first : Except ε α} {second : α → Except ε β} {b : β}
    (run : first >>= second = .ok b) : ∃ a, first = .ok a ∧ second a = .ok b := by
  cases first with
  | error error => cases run
  | ok a => exact ⟨a, rfl, run⟩

namespace Registry

/-- The registries that any sequence of registrations leads to. A registration that is refused
leaves the registry as it was. -/
inductive Reached : Registry → Prop
  | empty : Reached .empty
  | registerWriter {registry : Registry} (before : Reached registry) (type : HostType)
      (writer : ObjectWriter) : Reached (registry.registerWriter type writer)
  | registerReader {registry after : Registry} (before : Reached registry) {oid : Oid}
      {reader : ObjectReader} (accepted : registry.registerReader oid reader = .ok after) :
      Reached after
  | register {registry after : Registry} (before : Reached registry) {type : HostType} {oid : Oid}
      {writer : ObjectWriter} {reader : ObjectReader}
      (accepted : registry.register type oid writer reader = .ok after) : Reached after

theorem registerReader_eq_ok {registry after : Registry} {oid : Oid} {reader : ObjectReader}
    (accepted : registry.registerReader oid reader = .ok after) :
    oid.isBuiltin = false ∧
      ∀ other, after.reader? other =
        if oid == other then some reader else registry.reader? other := by
  unfold registerReader at accepted
  split at accepted
  · cases accepted
  next free =>
    cases accepted
    exact ⟨Bool.eq_false_iff.2 free, fun other => OrderedMap.get?_insert _ oid other reader⟩

theorem register_eq_ok {registry after : Registry} {type : HostType} {oid : Oid}
    {writer : ObjectWriter} {reader : ObjectReader}
    (accepted : registry.register type oid writer reader = .ok after) :
    ∃ between, registry.registerReader oid reader = .ok between ∧
      after = between.registerWriter type writer := by
  obtain ⟨between, first, second⟩ := Except.bind_eq_ok accepted
  cases second
  exact ⟨between, first, rfl⟩

theorem Reached.registerAll {registry after : Registry} (before : Reached registry)
    (accepted : Address.registerAll registry = .ok after) : Reached after := by
  unfold Address.registerAll at accepted
  obtain ⟨first, run, accepted⟩ := Except.bind_eq_ok accepted
  obtain ⟨second, run', accepted⟩ := Except.bind_eq_ok accepted
  exact ((before.register run).register run').register accepted

theorem Reached.standard : Reached .standard :=
  have accepted : Address.registerAll .empty = .ok .standard := rfl
  Reached.empty.registerAll accepted

/-- No identifier of the catalogue has a handler. -/
theorem Reached.reader?_of_builtin {registry : Registry} (reached : registry.Reached) {oid : Oid}
    (builtin : oid.isBuiltin = true) : registry.reader? oid = none := by
  have untouched {before after : Registry} {other : Oid} {reader : ObjectReader}
      (accepted : before.registerReader other reader = .ok after)
      (free : before.reader? oid = none) : after.reader? oid = none := by
    obtain ⟨foreign, readers⟩ := registerReader_eq_ok accepted
    have ne : ¬ (other == oid) = true := by
      intro same
      rw [eq_of_beq same, builtin] at foreign
      cases foreign
    rw [readers, if_neg ne, free]
  induction reached with
  | empty => rfl
  | registerWriter _ type writer ih => exact ih
  | registerReader _ accepted ih => exact untouched accepted ih
  | register _ accepted ih =>
    obtain ⟨between, first, rfl⟩ := register_eq_ok accepted
    have free : between.reader? oid = none := untouched first ih
    exact free

end Registry

namespace Oid

theorem isAdapter_code (tag : Tag) : isAdapter tag.code = false := by
  cases tag with
  | number kind => cases kind <;> decide
  | constant kind value => cases kind <;> cases value <;> decide
  | _ => decide

/-- What has a name and is not in the range of the adapters is what the catalogue owns. -/
theorem isBuiltin_eq (oid : Oid) : oid.isBuiltin = (oid.name?.isSome && !oid.isAdapter) := by
  unfold isBuiltin name?
  cases found : Tag.ofCode? oid with
  | some tag =>
    obtain rfl := Tag.code_of_ofCode? found
    rw [isAdapter_code]
    rfl
  | none =>
    dsimp only
    split
    next same => rw [same]; decide
    next =>
      split
      next same => rw [same]; decide
      next =>
        split
        next same => rw [same]; decide
        next => rfl

end Oid

/-! ## Reading without and with handlers -/

/-- The decoder with the handlers of a registry. -/
def Decoder.within (registry : Registry) (d : Decoder) : Decoder := { d with registry }

@[simp]
theorem Decoder.within_depth (registry : Registry) (d : Decoder) :
    (d.within registry).depth = d.depth :=
  rfl

@[simp]
theorem Decoder.within_done (registry : Registry) (d : Decoder) :
    (d.within registry).done = d.done :=
  rfl

/-- What a step comes to without handlers and with those of a registry: the same, and decoders that
differ in the handlers alone, unless there is an identifier that is unknown without handlers. -/
inductive Conserved (registry : Registry) {α : Type} :
    EStateM.Result StreamError Decoder α → EStateM.Result StreamError Decoder α → Prop
  | ok (a : α) (d : Decoder) :
      Conserved registry (.ok a (d.within .empty)) (.ok a (d.within registry))
  | error (error : StreamError) (d : Decoder) :
      Conserved registry (.error error (d.within .empty)) (.error error (d.within registry))
  | unknown (oid : Oid) (d : Decoder) (second : EStateM.Result StreamError Decoder α) :
      Conserved registry (.error (.unknownOid oid) d) second

/-- The second step does with handlers what the first one does without. -/
def Conserves (registry : Registry) (α : Type) (m m' : DecodeM α) : Prop :=
  ∀ d : Decoder, Conserved registry (m (d.within .empty)) (m' (d.within registry))

namespace Conserves

variable {registry : Registry} {α β : Type} {m m' : DecodeM α}

theorem result (a : α) : Conserves registry α (pure a) (pure a) := fun d => .ok a d

theorem refusal (error : StreamError) : Conserves registry α (throw error) (throw error) :=
  fun d => .error error d

theorem sequence {k k' : α → DecodeM β} (first : Conserves registry α m m')
    (second : ∀ a, Conserves registry β (k a) (k' a)) :
    Conserves registry β (m >>= k) (m' >>= k') := by
  intro d
  have both := first d
  generalize run : m (d.within .empty) = result, run' : m' (d.within registry) = result' at both
  cases both with
  | ok a after =>
    rw [DecodeM.bind_of_ok run, DecodeM.bind_of_ok run']
    exact second a after
  | error error after =>
    rw [DecodeM.bind_of_error run, DecodeM.bind_of_error run']
    exact .error error after
  | unknown oid after =>
    rw [DecodeM.bind_of_error run]
    exact .unknown oid after _

/-- A step that looks at the decoder first. -/
theorem got {k k' : Decoder → DecodeM α}
    (h : ∀ d : Decoder, Conserved registry (k (d.within .empty) (d.within .empty))
      (k' (d.within registry) (d.within registry))) :
    Conserves registry α (get >>= k) (get >>= k') :=
  h

theorem settings {k k' : Options → DecodeM α}
    (h : ∀ options, Conserves registry α (k options) (k' options)) :
    Conserves registry α (DecodeM.settings >>= k) (DecodeM.settings >>= k') :=
  fun d => h d.options d

theorem bracketed (h : Conserves registry α m m') {enter leave : Decoder → Decoder}
    (entering : ∀ registry d, enter (d.within registry) = (enter d).within registry)
    (leaving : ∀ registry d, leave (d.within registry) = (leave d).within registry) :
    Conserves registry α (DecodeM.bracketed enter leave m)
      (DecodeM.bracketed enter leave m') := by
  intro d
  have both := h (enter d)
  unfold DecodeM.bracketed
  rw [entering, entering]
  generalize m ((enter d).within .empty) = result, m' ((enter d).within registry) = result' at both
  cases both with
  | ok a after =>
    simp only [leaving]
    exact .ok a (leave after)
  | error error after =>
    simp only [leaving]
    exact .error error (leave after)
  | unknown oid after => exact .unknown oid _ _

theorem takeExact (op : String) (size : Nat) :
    Conserves registry (List UInt8) (DecodeM.takeExact op size) (DecodeM.takeExact op size) := by
  intro d
  unfold DecodeM.takeExact Decoder.within
  dsimp only
  rcases d.source.takeExact size with ⟨_ | taken, source⟩
  · exact .error _ { d with source }
  · exact .ok taken { d with source, position := d.position + size }

theorem atEnd : Conserves registry Bool DecodeM.atEnd DecodeM.atEnd := by
  intro d
  unfold DecodeM.atEnd Decoder.within
  dsimp only
  rcases d.source.atEnd with ⟨_ | answer, source⟩
  · exact .error _ { d with source }
  · exact .ok answer { d with source }

theorem congruence : DecodeM.Congruence (Conserves registry) where
  result := .result
  refusal := .refusal
  sequence := .sequence
  taken := .takeExact
  guarded oid fault _ _ related := by
    refine .sequence .atEnd fun ended => ?_
    cases ended with
    | true => exact .refusal _
    | false => exact related

theorem itemCongruence : DecodeM.ItemCongruence (Conserves registry) where
  toCongruence := congruence
  chunked oid _ _ related := .got fun d => congruence.readChunks related oid [] _ d

/-- Without handlers, every identifier outside the catalogue is unknown. -/
theorem readExtension (element element' : Oid → DecodeM Value) (oid : Oid) :
    Conserves registry Value (DecodeM.readExtension element oid)
      (DecodeM.readExtension element' oid) :=
  fun _ => .unknown oid _ _

theorem decodeNested (levels : Nat) (parent oid : Oid) :
    Conserves registry Value (DecodeM.decodeNested levels parent oid)
      (DecodeM.decodeNested levels parent oid) := by
  induction levels generalizing parent oid with
  | zero => exact .settings fun options => .refusal _
  | succ levels ih =>
    refine .settings fun options => .got fun d => ?_
    rw [Decoder.within_depth, Decoder.within_depth]
    split
    · exact refusal _ d
    · have inside := itemCongruence.readElement ih
      exact bracketed (itemCongruence.readBody inside (readExtension _ _) oid) (fun _ _ => rfl)
        (fun _ _ => rfl) d

theorem decode : Conserves registry (Option Value) DecodeM.decode DecodeM.decode := by
  apply sequence atEnd
  intro ended
  cases ended with
  | true => exact .result none
  | false =>
    refine .sequence congruence.readUInt16 fun oid => .settings fun options => ?_
    exact .sequence (decodeNested _ oid oid) fun v => .result (some v)

/-- A step that passes on what is unknown. -/
theorem attempt {k k' : Except StreamError α → DecodeM β} (first : Conserves registry α m m')
    (second : ∀ outcome, Conserves registry β (k outcome) (k' outcome))
    (passes : ∀ oid d, ∃ after, k (.error (.unknownOid oid)) d = .error (.unknownOid oid) after) :
    Conserves registry β (DecodeM.attempt m >>= k) (DecodeM.attempt m' >>= k') := by
  intro d
  have both := first d
  generalize run : m (d.within .empty) = result, run' : m' (d.within registry) = result' at both
  cases both with
  | ok a after =>
    rw [DecodeM.bind_of_ok (DecodeM.attempt_of_ok run),
      DecodeM.bind_of_ok (DecodeM.attempt_of_ok run')]
    exact second (.ok a) after
  | error error after =>
    rw [DecodeM.bind_of_ok (DecodeM.attempt_of_error run),
      DecodeM.bind_of_ok (DecodeM.attempt_of_error run')]
    exact second (.error error) after
  | unknown oid after =>
    obtain ⟨last, passed⟩ := passes oid after
    rw [DecodeM.bind_of_ok (DecodeM.attempt_of_error run), passed]
    exact .unknown oid last _

/-- A change that has nothing to do with the handlers. -/
theorem modified {change : Decoder → Decoder}
    (apart : ∀ registry d, change (d.within registry) = (change d).within registry) :
    Conserves registry PUnit (modify change) (modify change) := by
  intro d
  change Conserved registry (.ok _ (change (d.within .empty))) (.ok _ (change (d.within registry)))
  rw [apart, apart]
  exact .ok _ (change d)

theorem next : Conserves registry (Option Value) DecodeM.next DecodeM.next := by
  refine .got fun d => ?_
  rw [Decoder.within_done, Decoder.within_done]
  split
  · exact result none d
  · refine attempt decode (fun outcome => ?_) (fun oid d => ⟨_, rfl⟩) d
    rcases outcome with error | _ | v
    · exact .sequence (.modified fun _ _ => rfl) fun _ => .refusal error
    · exact .sequence (.modified fun _ _ => rfl) fun _ => .result none
    · exact .result (some v)

theorem decodeRest (before : List Value) (fuel : Nat) : Conserves registry (List Value)
    (DecodeM.decodeRest before fuel) (DecodeM.decodeRest before fuel) := by
  induction fuel generalizing before with
  | zero => exact .result _
  | succ fuel ih =>
    apply sequence next
    intro found
    cases found with
    | none => exact .result _
    | some v => exact ih (v :: before)

theorem session : Conserves registry (List Value) (do DecodeM.start; DecodeM.decodeAll)
    (do DecodeM.start; DecodeM.decodeAll) := by
  rw [DecodeM.start_eq]
  refine .sequence (.sequence (.takeExact _ _) fun version => .sequence (.takeExact _ _) fun _ =>
    .modified fun _ _ => rfl) fun _ => .got fun d => decodeRest [] _ d

end Conserves

/-- A stream that is read without handlers, or refused for another reason than an identifier that
is unknown, is read or refused alike with handlers. -/
theorem decodeStream_of_empty {registry : Registry} {options : Options} {bytes : List UInt8}
    {result : Except StreamError (List Value)}
    (run : decodeStream .empty options bytes = result)
    (known : ∀ oid, result ≠ .error (.unknownOid oid)) :
    decodeStream registry options bytes = result := by
  have both : Conserved registry
      ((do DecodeM.start; DecodeM.decodeAll : DecodeM _) (.fresh .empty options (.slice bytes)))
      ((do DecodeM.start; DecodeM.decodeAll : DecodeM _)
        (.fresh registry options (.slice bytes))) :=
    Conserves.session (.fresh .empty options (.slice bytes))
  subst run
  unfold decodeStream at known ⊢
  dsimp only at known ⊢
  generalize (do DecodeM.start; DecodeM.decodeAll : DecodeM _)
    (.fresh .empty options (.slice bytes)) = first,
    (do DecodeM.start; DecodeM.decodeAll : DecodeM _)
      (.fresh registry options (.slice bytes)) = second at both known ⊢
  cases both with
  | ok a after => rfl
  | error error after => rfl
  | unknown oid after => exact absurd rfl (known oid)

/-! ## Identifiers with and without a meaning -/

namespace DecodeM

variable {registry : Registry} {oid : Oid} {d : Decoder}

theorem readBody_of_foreign (element : Oid → DecodeM Value) (foreign : oid.isBuiltin = false) :
    readBody element oid = readExtension element oid := by
  have outside : Tag.ofCode? oid = none :=
    Option.isNone_iff_eq_none.1 (Option.isSome_eq_false_iff.1 foreign)
  rw [readBody, outside]

/-- An identifier with a handler is read by it, wherever it stands in front of a value. -/
theorem decodeNested_of_reader (reached : registry.Reached) {reader : ObjectReader}
    (handled : registry.reader? oid = some reader) (here : d.registry = registry)
    (room : d.depth < d.options.maxDepth) (levels : Nat) (parent : Oid) :
    decodeNested (levels + 1) parent oid d =
      bracketed (fun d => { d with depth := d.depth + 1 })
        (fun d => { d with depth := d.depth - 1 })
        (bracketed ({ · with extension := oid }) ({ · with extension := d.extension })
          (runPlan (readElement (decodeNested levels)) (reader d.options))) d := by
  have foreign : oid.isBuiltin = false := by
    by_contra builtin
    rw [reached.reader?_of_builtin (Bool.of_not_eq_false builtin)] at handled
    cases handled
  rw [decodeNested_succ, nested_eq, if_neg (Nat.not_le.2 room), readBody_of_foreign _ foreign]
  unfold bracketed
  rw [readExtension_of_registered (d := { d with depth := d.depth + 1 }) (by rw [here, handled])]
  rfl

/-- An identifier that the catalogue does not own and that has no handler is unknown. -/
theorem decodeNested_of_unknown (foreign : oid.isBuiltin = false)
    (unhandled : registry.reader? oid = none) (here : d.registry = registry)
    (room : d.depth < d.options.maxDepth) (levels : Nat) (parent : Oid) :
    decodeNested (levels + 1) parent oid d = .error (.unknownOid oid) d := by
  subst here
  rw [decodeNested_succ, nested_eq, if_neg (Nat.not_le.2 room), readBody_of_foreign _ foreign]
  unfold bracketed
  rw [readExtension, get_bind, unhandled]
  rfl

end DecodeM

/-! ## Writing without and with handlers -/

/-- The encoder with the handlers of a registry. -/
def Encoder.within (registry : Registry) (e : Encoder) : Encoder := { e with registry }

/-- A comparison in which the handlers of the second encoder do not count. -/
def Comparison.within (registry : Registry) (c : Comparison) : Comparison :=
  { c with failed := fun e e' => c.failed e (e'.within registry) }

/-- No step that an analogy is about looks at the handlers. -/
theorem Analogy.within {c : Comparison} {V : Value → Value → Prop} {E : Encoder → Encoder → Prop}
    (h : Analogy c V E) (registry : Registry) :
    Analogy (c.within registry) V fun e e' => E e (e'.within registry) where
  failed := h.failed
  put op slice e e' related := by
    have both := h.put op slice related
    generalize EncodeM.put op slice e = first at both ⊢
    obtain ⟨output, _, options, scratch, position, store⟩ := e'
    unfold Encoder.within EncodeM.put at both
    unfold EncodeM.put
    dsimp only at both ⊢
    rcases run : output.put slice with ⟨_ | cause, after⟩ <;> simp only [run] at both ⊢
    · cases both with
      | ok results related => exact .ok results related
    · cases both with
      | refused related => exact .refused related
  options := h.options
  idle := h.idle
  lent related clean clean' := h.lent related clean clean'
  lending :=
    { idle := h.lending.idle
      lent := fun related clean clean' => h.lending.lent related clean clean' }
  waits shared stuck _ _ related := h.waits shared stuck related
  busy shared free _ _ related :=
    have same := h.busy shared free related
    same
  size shared free related :=
    have same := h.size shared free related
    same
  mark shared free busy related := h.mark shared free busy related
  mark_failed shared free busy failed := h.mark_failed shared free busy failed
  draw shared free related := h.draw shared free related
  fill shared want related := h.fill shared want related
  left shared related :=
    have same := h.left shared related
    same
  ask deferred timeout _ _ related := h.ask deferred timeout related
  throwable := h.throwable

/-- What a member leads to is a member if all parts of members are. -/
theorem Encloses.leads {e : Encoder} {A : Value → Prop}
    (h : Encloses e.options e.registry e.store A) {v w : Value} (leads : Leads e v w)
    (member : A v) : A w := by
  induction leads with
  | refl => exact member
  | tail _ part ih => exact h ih part

/-- No member of a set is an object, and all parts of members are members. -/
structure Objectless (e : Encoder) (A : Value → Prop) : Prop where
  encloses : Encloses e.options .empty e.store A
  free (o : HostObject Value) : ¬ A (.object o)

namespace Objectless

variable {c : Comparison} {n : ℕ} {start : Encoder} {A : Value → Prop}
  {E : Encoder → Encoder → Prop} (objectless : Objectless start A)
  (alike : Analogy c (fun v w => w = v ∧ A v) E)

include objectless alike

theorem prepareAbove {below : Value → EncodeM (EncodeM Unit)}
    (h : ∀ v, A v → Tracks c n E (fun write write' => Tracks c n E Eq E write fun _ => write') E
      (below v) fun _ => below v) {v : Value} (member : A v) :
    Tracks c n E (fun write write' => Tracks c n E Eq E write fun _ => write') E
      (EncodeM.prepareAbove below v) fun _ => EncodeM.prepareAbove below v := by
  have item (v w : Value) (related : w = v ∧ A v) :
      Tracks c n E Eq E (EncodeM.inTurn below v) fun _ => EncodeM.inTurn below w := by
    obtain ⟨rfl, inside⟩ := related
    exact .bind (h w inside) fun _ _ same => same
  have each {items : List Value} (inside : ∀ v ∈ items, A v) :
      List.Forall₂ (fun v w => w = v ∧ A v) items items :=
    List.forall₂_same.2 fun v there => ⟨rfl, inside v there⟩
  have entries {m : OrderedMap Value Value} (inside : A (.map m)) :
      List.Forall₂ (Prod.RProd (fun v w => w = v ∧ A v) fun v w => w = v ∧ A v)
        m.entries m.entries :=
    List.forall₂_same.2 fun entry there => ⟨⟨rfl, objectless.encloses inside (.key there)⟩,
      ⟨rfl, objectless.encloses inside (.value there)⟩⟩
  cases v with
  | future d =>
    refine .bind (alike.asked ⟨rfl, member⟩) ?_
    rintro _ v ⟨rfl, inside⟩
    exact .bind (h v inside) fun write write' same => .result (.bind (alike.tagged _) fun _ _ _ =>
      same)
  | annotated inner notes =>
    have inside : A inner := objectless.encloses member .inner
    refine alike.settings fun options append => ?_
    cases saved : options.saveMeta with
    | false =>
      simp only [Bool.false_eq_true, if_false]
      exact .result (item inner inner ⟨rfl, inside⟩)
    | true =>
      simp only [if_true]
      exact .bind (h inner inside) fun write write' same => .result (.bind (alike.tagged _)
        fun _ _ _ => .bind (alike.writeMap item (entries (objectless.encloses member .notes)))
          fun _ _ _ => same)
  | object o => exact absurd member (objectless.free o)
  | vector items =>
    exact .result (alike.writeCollection item .vectorEmpty _
      (each fun v there => objectless.encloses member (.vector there)))
  | set items =>
    exact .result (alike.writeCollection item .setEmpty _
      (each fun v there => objectless.encloses member (.set there)))
  | map m => exact .result (alike.writeMap item (entries member))
  | seq items =>
    exact .result (alike.writeSeq item
      (each fun v there => objectless.encloses member (.seq there)))
  | lazySeq cell => exact .result (alike.writeLazySeq item ⟨rfl, member⟩)
  | byteStream cell =>
    exact .result (.bind (alike.writeByteStream ⟨rfl, member⟩) fun _ _ _ => .result rfl)
  | throwable t => exact .result (alike.writeThrowable item t t ⟨rfl, member⟩)
  | _ => exact (Flat.atom rfl).tracks (fun _ _ => alike.failed) alike.toFooting

theorem prepare (fuel : ℕ) {v : Value} (member : A v) :
    Tracks c n E (fun write write' => Tracks c n E Eq E write fun _ => write') E
      (EncodeM.prepare fuel v) fun _ => EncodeM.prepare fuel v := by
  induction fuel generalizing v with
  | zero => exact .endless
  | succ fuel ih => exact objectless.prepareAbove alike (fun v inside => ih inside) member

/-- Without objects, a value is written alike as soon as all steps but those that call handlers are
taken alike. -/
theorem encode (exact : c.exact = true) {v : Value} (member : A v) :
    Tracks c n E Eq E (EncodeM.encode v) fun _ => EncodeM.encode v := by
  have within (levels : ℕ) : Tracks c levels E Eq E (EncodeM.encodeWithin levels v)
      fun levels => EncodeM.encodeWithin levels v := by
    have steady : Tracks c levels E Eq E (EncodeM.encodeWithin levels v)
        fun _ => EncodeM.encodeWithin levels v :=
      .bind (objectless.prepare alike levels member) fun _ _ same => same
    exact steady.leveled exact
  refine .got fun e e' related => ?_
  exact Tracks.deepening (fun levels => .encodeWithin levels v)
    (fun levels => .encodeWithin levels v) within _ _ e e' related

end Objectless

/-- The encoders have written the same, and the cells are the same. -/
def Encoder.SameEffect (e e' : Encoder) : Prop :=
  e'.output = e.output ∧ e'.position = e.position ∧ e'.store = e.store

/-- The values of a set are written by encoders over the same cells, with the same output. -/
abbrev Kind.among (A : Value → Prop) : Kind :=
  .same A (fun _ => False) (Deferral.Same A) (Output.Shared fun _ => True)

namespace Encoder

variable {e : Encoder} {v : Value}

/-- An encoder is kindred to itself as far as a value leads. -/
theorem Kin.self (idle : e.Idle) (v : Value) :
    Kin (Kind.among (Leads e v)) (e.sides e.options.append) (.of e e) e e := by
  refine ⟨rfl, rfl, idle, idle, ⟨rfl, rfl, trivial⟩, fun {cell} draws => ?_,
    fun aside => ⟨rfl, rfl⟩, rfl, rfl, fun cell d there member w brings => ?_⟩
  · cases there : e.store.sequences[cell]? with
    | none => exact .none
    | some s => exact .some ⟨rfl, fun w supplies => draws.1.2.tail (.item there supplies)⟩
  · exact member.tail (.brought there brings)

/-- Kindred encoders that started with the same cells have the same cells. -/
theorem Kin.sameEffect {A : Value → Prop} {sides : Sides} {after after' : Encoder}
    (kin : Kin (Kind.among A) sides (.of e e) after after') : SameEffect after after' := by
  obtain ⟨shared, kept, readers, deferrals, -⟩ := kin.store
  have sequences : after'.store.sequences = after.store.sequences := by
    apply Array.ext_getElem?
    intro cell
    by_cases draws : (Kind.among A).Draws cell
    · have both := shared draws
      generalize after.store.sequences[cell]? = s, after'.store.sequences[cell]? = s' at both
      cases both with
      | none => rfl
      | some related => rw [related.1]
    · rw [(kept draws).1, (kept draws).2]
      rfl
  refine ⟨kin.outputs.1, kin.outputs.2.1, ?_⟩
  generalize after.store = store, after'.store = store' at sequences readers deferrals
  cases store
  cases store'
  cases sequences
  cases readers
  cases deferrals
  rfl

/-- A value that leads to no object is written alike without and with handlers. -/
theorem encode_within (idle : e.Idle) (registry : Registry)
    (objectless : ∀ o, ¬ Leads (e.within .empty) v (.object o)) :
    Matches Eq SameEffect SameEffect (EncodeM.encode v (e.within .empty))
      (EncodeM.encode v (e.within registry)) := by
  let start := e.within .empty
  let kind := Kind.among (Leads start v)
  let sides := start.sides start.options.append
  have encloses : Encloses start.options .empty start.store (Leads start v) :=
    fun member part => member.tail part
  have outlets : Outlets (Output.Shared fun _ => True) := .shared fun _ _ _ => trivial
  have alike : Analogy (.strict kind sides (.of start start) true) kind.values
      (Kin kind sides (.of start start)) :=
    encloses.analogy (Deferral.Same.alike fun member => member.tail .ready) outlets
      fun _ => False.elim
  have tracks := Objectless.encode (n := 0) ⟨encloses, objectless⟩ (alike.within .empty) rfl .refl
  have kin : Kin kind sides (.of start start) start ((e.within registry).within .empty) :=
    Kin.self (e := start) idle v
  exact (tracks.ended_of_exact kin rfl id).imp (fun _ _ kin => kin.sameEffect)
    fun _ _ failed => (failed.2.2 trivial).sameEffect

end Encoder

/-! ## Both together -/

namespace Registry

/-- Registrations are conservative. With the handlers of any registry that registrations lead to, a
decoder does what it does without handlers, unless that is to find an identifier unknown, and an
encoder writes what leads to no object as it does without handlers. Conversely, a handler that was
accepted for an identifier is found there, until another one is accepted, and is what is called for
it; what neither the catalogue nor the registry knows is unknown. The catalogue owns the identifiers
that have a name and are not in the range of the adapters. -/
theorem Reached.conservative {registry : Registry} (reached : registry.Reached) :
    (∀ d : Decoder, Conserved registry (DecodeM.decode (d.within .empty))
      (DecodeM.decode (d.within registry))) ∧
    (∀ options bytes result, decodeStream .empty options bytes = result →
      (∀ oid, result ≠ .error (.unknownOid oid)) →
      decodeStream registry options bytes = result) ∧
    (∀ (e : Encoder) (v : Value), e.Idle → (∀ o, ¬ Leads (e.within .empty) v (.object o)) →
      Matches Eq Encoder.SameEffect Encoder.SameEffect (EncodeM.encode v (e.within .empty))
        (EncodeM.encode v (e.within registry))) ∧
    (∀ oid reader after, registry.registerReader oid reader = .ok after →
      after.reader? oid = some reader ∧
        ∀ other, other ≠ oid → after.reader? other = registry.reader? other) ∧
    (∀ (d : Decoder) (oid : Oid) (levels : Nat) (parent : Oid), d.registry = registry →
      d.depth < d.options.maxDepth →
      (∀ reader, registry.reader? oid = some reader →
        DecodeM.decodeNested (levels + 1) parent oid d =
          DecodeM.bracketed (fun d => { d with depth := d.depth + 1 })
            (fun d => { d with depth := d.depth - 1 })
            (DecodeM.bracketed ({ · with extension := oid }) ({ · with extension := d.extension })
              (DecodeM.runPlan (DecodeM.readElement (DecodeM.decodeNested levels))
                (reader d.options))) d) ∧
      (oid.isBuiltin = false → registry.reader? oid = none →
        DecodeM.decodeNested (levels + 1) parent oid d = .error (.unknownOid oid) d)) ∧
    ∀ oid : Oid, oid.isBuiltin = (oid.name?.isSome && !oid.isAdapter) := by
  refine ⟨Conserves.decode, fun options bytes result => decodeStream_of_empty,
    fun e v idle => Encoder.encode_within idle registry, fun oid reader after accepted => ?_,
    fun d oid levels parent here room => ⟨fun reader handled =>
      DecodeM.decodeNested_of_reader reached handled here room levels parent,
      fun foreign unhandled =>
        DecodeM.decodeNested_of_unknown foreign unhandled here room levels parent⟩,
    Oid.isBuiltin_eq⟩
  obtain ⟨-, readers⟩ := registerReader_eq_ok accepted
  refine ⟨by rw [readers, if_pos (BEq.refl oid)], fun other ne => ?_⟩
  rw [readers, if_neg fun same => ne (eq_of_beq same).symm]

/-- A stream, a vector, an address and an identifier without a meaning, with the handlers of network
addresses. -/
theorem Reached.conservative_standard :
    let e := Encoder.fresh .standard {} { sink := .unlimited } {}
    let d := Decoder.fresh .standard {} (.slice [127, 0, 0, 1])
    decodeStream .standard {} (Header.spelled ++ [0, 48]) = .ok [.bool true] ∧
    Matches Eq Encoder.SameEffect Encoder.SameEffect
      (EncodeM.encode (.vector [.int 7]) (e.within .empty))
      (EncodeM.encode (.vector [.int 7]) (e.within .standard)) ∧
    DecodeM.decodeNested 1 0 Oid.ipv4 d =
      .ok (.object (Address.ipv4 0x7F000001)) (d.past [127, 0, 0, 1] []) ∧
    DecodeM.decodeNested 1 0 0x0103 d = .error (.unknownOid 0x0103) d := by
  intro e d
  obtain ⟨-, reads, writes, -, called, -⟩ := Reached.standard.conservative
  refine ⟨reads {} _ _ (by rfl) nofun, writes e _ (Encoder.Idle.fresh _ _ _ _) fun o leads => ?_,
    ?_, ?_⟩
  · have numbers :
        Encloses e.options .empty e.store fun v => v = .vector [.int 7] ∨ v = .int 7 := by
      rintro v w (rfl | rfl) part <;> cases part
      next inside => exact .inr (List.mem_singleton.1 inside)
    rcases numbers.leads (e := e.within .empty) leads (.inl rfl) with same | same <;> cases same
  · exact ((called _ Oid.ipv4 0 0 rfl (by decide)).1 _ rfl).trans rfl
  · exact (called _ 0x0103 0 0 rfl (by decide)).2 (by decide) rfl

end Registry

end TaggedStream
