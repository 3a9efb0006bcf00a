import TaggedStream.Proofs.Consumption
import TaggedStream.Proofs.Threshold

/-!
Decoding under supervision.

A supervised decoder does what the decoder does, but it reports every count of elements, entries,
lines, chunks, and items of arrays when it has read it, and something else stands in place of the
round, the level, or the value that would be one too many. If counts are only taken note of, what
stands there cannot be told from outside: every loop ends by itself, whatever the source and the
handlers are. And with the standard handlers, whatever is done about counts that exceed the bytes
that are left is not done in any run that succeeds.
-/

namespace TaggedStream

open DecodeM Wire

/-- What is done about a count that was read, and what stands in place of the step that would be one
too many. -/
structure Supervision where
  counted : Nat → DecodeM Unit
  beyond : (α : Type) → DecodeM α

/-- Counts are taken note of, and that is all. -/
def Supervision.idle (beyond : (α : Type) → DecodeM α) : Supervision where
  counted _ := pure ()
  beyond

/-- Whatever is done about a count, nothing is done if the count is at most the bytes that are left.
-/
def Supervision.Lenient (s : Supervision) : Prop :=
  ∀ (n : Nat) (d : Decoder), n ≤ d.source.size → s.counted n d = .ok () d

namespace Supervision

/-! ## The supervised decoder -/

section

variable {α : Type} (s : Supervision)

/-- Reads a count and reports it. -/
def report (length : DecodeM Nat) : DecodeM Nat := do
  let n ← length
  s.counted n
  return n

def readCounted (oid : Oid) (item : DecodeM α) : DecodeM (List α) := do
  readMany item [] (← s.report (readLength oid))

def readChunks (oid : Oid) (chunk : Nat → DecodeM (List α)) (before : List (List α)) :
    (rounds : Nat) → DecodeM (List α)
  | 0 => s.beyond (List α)
  | rounds + 1 => do
    match ← s.report (readChunkLength oid) with
    | 0 => return before.reverse.flatten
    | count =>
      let items ← chunk count
      readChunks oid chunk (items :: before) rounds

def readUncountable (oid : Oid) (chunk : Nat → DecodeM (List α)) : DecodeM (List α) := do
  s.readChunks oid chunk [] ((← get).source.size + 1)

variable (element : Oid → DecodeM Value)

def readMap (oid : Oid) : DecodeM (OrderedMap Value Value) := do
  return ⟨← s.readCounted oid (readEntry element oid)⟩

def readThrowable (data : Option (OrderedMap Value Value)) : DecodeM (Throwable Value) := do
  let message ← readOptionalText
  let frames ← s.readCounted Tag.throwable.code readFrame
  let cause ←
    if ← readBool Tag.throwable.code then some <$> readNestedThrowable element else pure none
  let suppressed ← s.readCounted Tag.throwable.code (readNestedThrowable element)
  return { message, frames, cause, suppressed, data }

/-- Reads what follows the identifier of a tag. Only tags with counts are told apart. -/
def readTagged (tag : Tag) : DecodeM Value :=
  let oid := tag.code
  match tag with
  | .byteStream => return .bytes (← s.readUncountable oid readRaw)
  | .vector => return .vector (← s.readCounted oid (element oid))
  | .set => return .set (← s.readCounted oid (element oid))
  | .map => return .map (← s.readMap element oid)
  | .intArray => return .intArray (← s.readCounted oid readInt32)
  | .longArray => return .longArray (← s.readCounted oid readInt64)
  | .doubleArray => return .doubleArray (← s.readCounted oid readDouble)
  | .boolArray => return .boolArray (← s.readCounted oid (readBool oid))
  | .shortArray => return .shortArray (← s.readCounted oid readInt16)
  | .floatArray => return .floatArray (← s.readCounted oid readFloat)
  | .charArray => return .charArray (← s.readCounted oid (readChar oid))
  | .seq => return .seq (← s.readUncountable oid (readMany (element oid) []))
  | .throwable => return .throwable (← s.readThrowable element none)
  | .throwableWithData => do
    let data ← readMapValue element oid
    return .throwable (← s.readThrowable element (some data))
  | tag => DecodeM.readTagged element tag

def readBody (oid : Oid) : DecodeM Value :=
  match Tag.ofCode? oid with
  | some tag => s.readTagged element tag
  | none => readExtension element oid

/-- Reads what follows an identifier, inside at most `levels` calls that are open. -/
def unrolled : (levels : Nat) → (oid : Oid) → DecodeM Value
  | 0, _ => s.beyond Value
  | levels + 1, oid =>
    s.readBody (readElement fun parent oid => nested parent (unrolled levels oid)) oid

def decode : DecodeM (Option Value) := do
  if ← atEnd then return none
  let oid ← readOid
  let levels := (← settings).maxDepth - (← get).depth
  return some (← nested oid (s.unrolled levels oid))

def next : DecodeM (Option Value) := do
  if (← get).done then return none
  match ← attempt s.decode with
  | .ok (some v) => return some v
  | .ok none =>
    modify ({ · with done := true })
    return none
  | .error error =>
    modify ({ · with done := true })
    throw error

def decodeRest (before : List Value) : (fuel : Nat) → DecodeM (List Value)
  | 0 => s.beyond (List Value)
  | fuel + 1 => do
    match ← s.next with
    | none => return before.reverse
    | some v => decodeRest (v :: before) fuel

def decodeAll : DecodeM (List Value) := do s.decodeRest [] ((← get).source.size + 1)

end

/-! ## Loops end by themselves -/

section

variable {α : Type} (beyond : (α : Type) → DecodeM α)

theorem report_idle (length : DecodeM Nat) : (idle beyond).report length = length := by
  simp [report, idle]

theorem readCounted_idle (oid : Oid) (item : DecodeM α) :
    (idle beyond).readCounted oid item = DecodeM.readCounted oid item := by
  rw [readCounted, report_idle]
  rfl

theorem readThrowable_idle (element : Oid → DecodeM Value)
    (data : Option (OrderedMap Value Value)) :
    (idle beyond).readThrowable element data = DecodeM.readThrowable element data := by
  simp only [readThrowable, readCounted_idle]
  rfl

end

end Supervision

/-- The same decoder, with this nesting bound, as many values open, and at most so many bytes left.
-/
structure Decoder.Fitting (most depth size : Nat) (d d' : Decoder) : Prop
    extends Holding most depth d d' where
  fits : d.source.size ≤ size

namespace Decoder.Fitting

variable {α : Type} {most depth size : Nat} {m m' : DecodeM α}

theorem mono {d d' : Decoder} {more : Nat} (h : Fitting most depth size d d')
    (le : size ≤ more) : Fitting most depth more d d' :=
  ⟨h.toHolding, Nat.le_trans h.fits le⟩

/-- A step gives no bytes back. -/
theorem of_holding (h : Lockstep (Holding most depth) α m m) (consumes : Consumes 0 m) :
    Lockstep (Fitting most depth size) α m m := by
  intro d d' related
  have both := h d d' related.toHolding
  obtain rfl := related.same
  generalize run : m d' = result at both
  cases both with
  | ok a kept => exact .ok a ⟨kept, Nat.le_trans (consumes.ok run) related.fits⟩
  | error error kept => exact .error error ⟨kept, Nat.le_trans (consumes.error run) related.fits⟩

theorem likeness : Likeness (Fitting most depth size) where
  options_eq h := by rw [h.same]
  registry_eq h := by rw [h.same]
  extension_eq h := by rw [h.same]
  size_eq h := by rw [h.same]
  extended h oid := ⟨Holding.likeness.extended h.toHolding oid, h.fits⟩
  taken op size := of_holding (Holding.likeness.taken op size) (Consumes.congruence.taken op size)
  ending := of_holding Holding.likeness.ending Consumes.atEnd

theorem nested {body body' : DecodeM Value} (parent : Oid)
    (h : depth < most → Lockstep (Fitting most (depth + 1) size) Value body body') :
    Lockstep (Fitting most depth size) Value (DecodeM.nested parent body)
      (DecodeM.nested parent body') := by
  refine Holding.nestedAlong parent toHolding (fun related => ?_) (fun related => ?_) h
  · exact ⟨related.toHolding.deeper, related.fits⟩
  · exact ⟨related.toHolding.back, related.fits⟩

/-- A round takes the four bytes of its count, so a loop ends before the rounds do. -/
theorem readChunks {beyond : (α : Type) → DecodeM α} {chunk chunk' : Nat → DecodeM (List α)}
    (h : ∀ size n, Lockstep (Fitting most depth size) (List α) (chunk n) (chunk' n)) (oid : Oid)
    (before : List (List α)) {rounds : Nat} (enough : size < rounds) :
    Lockstep (Fitting most depth size) (List α)
      ((Supervision.idle beyond).readChunks oid chunk before rounds)
      (DecodeM.readChunks oid chunk' before rounds) := by
  induction rounds generalizing before size with
  | zero => exact absurd enough (Nat.not_lt_zero size)
  | succ rounds ih =>
    intro d d' related
    rw [Supervision.readChunks, Supervision.report_idle, DecodeM.readChunks]
    have both := likeness.congruence.readChunkLength oid d d' related
    obtain rfl := related.same
    generalize run : readChunkLength oid d' = result at both
    cases both with
    | error error kept =>
      rw [bind_of_error run, bind_of_error run]
      exact .error error kept
    | @ok n between _ kept =>
      rw [bind_of_ok run, bind_of_ok run]
      have taken := (Consumes.readChunkLength oid).ok run
      have fits := related.fits
      cases n with
      | zero => exact .ok _ kept
      | succ n =>
        have left : Fitting most depth (size - 4) between between :=
          ⟨kept.toHolding, by omega⟩
        have rest := Lockstep.sequence (h (size - 4) (n + 1))
          (fun items => ih (items :: before) (by omega)) between between left
        exact rest.imp fun related => related.mono (Nat.sub_le size 4)

theorem readUncountable {beyond : (α : Type) → DecodeM α} {chunk chunk' : Nat → DecodeM (List α)}
    (h : ∀ size n, Lockstep (Fitting most depth size) (List α) (chunk n) (chunk' n)) (oid : Oid) :
    Lockstep (Fitting most depth size) (List α)
      ((Supervision.idle beyond).readUncountable oid chunk)
      (DecodeM.readUncountable oid chunk') := by
  apply Lockstep.got
  intro d d' related
  obtain rfl := related.same
  have own : Fitting most depth d'.source.size d' d' := ⟨related.toHolding, Nat.le_refl _⟩
  exact (readChunks h oid [] (Nat.lt_succ_self _) d' d' own).imp fun left =>
    left.mono related.fits

section

variable (beyond : (α : Type) → DecodeM α) {element element' : Oid → DecodeM Value}
  (h : ∀ size parent, Lockstep (Fitting most depth size) Value (element parent) (element' parent))

include h

theorem readTagged (tag : Tag) : Lockstep (Fitting most depth size) Value
    ((Supervision.idle beyond).readTagged element tag) (DecodeM.readTagged element' tag) := by
  have like : Likeness (Fitting most depth size) := likeness
  have plain := like.itemCongruence.readTagged (h size) tag
  cases tag with
  | byteStream =>
    exact like.congruence.mapped
      (readUncountable (fun _ n => likeness.congruence.readRaw n) _) _
  | seq =>
    exact like.congruence.mapped
      (readUncountable (fun size n => likeness.congruence.readMany (h size _) [] n) _) _
  | vector | set | map | intArray | longArray | doubleArray | boolArray | shortArray | floatArray
  | charArray =>
    simp only [Supervision.readTagged, Supervision.readMap, Supervision.readCounted_idle]
    exact plain
  | throwable | throwableWithData =>
    simp only [Supervision.readTagged, Supervision.readThrowable_idle]
    exact plain
  | _ => exact plain

theorem readBody (oid : Oid) : Lockstep (Fitting most depth size) Value
    ((Supervision.idle beyond).readBody element oid) (DecodeM.readBody element' oid) := by
  unfold Supervision.readBody DecodeM.readBody
  cases Tag.ofCode? oid with
  | some tag => exact readTagged beyond h tag
  | none => exact likeness.readExtension (h size) oid

end

/-- What stands in place of a round or a level that would be one too many is never reached. -/
theorem unrolled (beyond : (α : Type) → DecodeM α) {levels fuel : Nat}
    (enough : most ≤ depth + levels) (enough' : most ≤ depth + fuel) (parent oid : Oid) :
    Lockstep (Fitting most depth size) Value
      (DecodeM.nested parent ((Supervision.idle beyond).unrolled levels oid))
      (DecodeM.decodeNested fuel parent oid) := by
  induction fuel generalizing depth size levels parent oid with
  | zero =>
    intro d d' related
    obtain ⟨rfl, bound, held⟩ := related.toHolding
    have full : d'.options.maxDepth ≤ d'.depth := by omega
    rw [DecodeM.nested_eq, if_pos full]
    exact .error _ related
  | succ fuel ih =>
    rw [decodeNested_succ]
    refine nested parent fun room => ?_
    obtain ⟨levels, rfl⟩ : ∃ lower, levels = lower + 1 :=
      Nat.exists_eq_add_one_of_ne_zero (by omega)
    exact readBody beyond (fun size => likeness.itemCongruence.readElement fun parent oid =>
      ih (by omega) (by omega) parent oid) oid

end Decoder.Fitting

namespace Supervision

variable (beyond : (α : Type) → DecodeM α)

/-- What stands in place of a round or a level that would be one too many cannot be told from
outside. -/
theorem decode_idle : (idle beyond).decode = DecodeM.decode := by
  funext d
  have both : Lockstep (Decoder.Fitting d.options.maxDepth d.depth d.source.size) (Option Value)
      (idle beyond).decode DecodeM.decode := by
    have likeness : Decoder.Likeness
        (Decoder.Fitting d.options.maxDepth d.depth d.source.size) := Decoder.Fitting.likeness
    apply Lockstep.sequence likeness.ending
    intro ended
    cases ended with
    | true => exact .result none
    | false =>
      refine .sequence likeness.congruence.readUInt16 fun oid d d' related => ?_
      obtain ⟨rfl, bound, held⟩ := related.toHolding
      rw [settings_bind, get_bind, settings_bind]
      refine Lockstep.sequence (Decoder.Fitting.unrolled beyond ?_ ?_ oid oid)
        (fun v => .result (some v)) _ _ related <;> omega
  have matching := both d d ⟨⟨rfl, rfl, rfl⟩, Nat.le_refl _⟩
  generalize (idle beyond).decode d = result, DecodeM.decode d = result' at matching
  cases matching with
  | ok v related => rw [related.same]
  | error error related => rw [related.same]

theorem next_idle : (idle beyond).next = DecodeM.next := by
  rw [next, decode_idle]
  rfl

end Supervision

namespace DecodeM

variable {d after : Decoder} {v : Value}

/-- A value takes the bytes of its identifier. -/
theorem size_of_decode (run : decode d = .ok (some v) after) :
    after.source.size + 2 ≤ d.source.size := by
  obtain ⟨ended, between, looked, run⟩ := bind_eq_ok_iff.1 run
  have before := Consumes.atEnd.ok looked
  cases ended with
  | true => cases run
  | false =>
    have rest : Consumes 2 (do
        let oid ← readOid
        return some (← decodeNested (← settings).maxDepth oid oid) : DecodeM (Option Value)) :=
      ((Consumes.readNat "read u16" 2).mapped _).followed fun oid => .got fun options =>
        (Consumes.decodeNested _ oid oid).mapped some
    have behind := rest.ok run
    omega

/-- An iteration that goes on has read a value. -/
theorem decode_of_next (run : next d = .ok (some v) after) : decode d = .ok (some v) after := by
  rw [next, get_bind] at run
  split at run
  case isTrue => cases run
  case isFalse =>
    cases ran : decode d with
    | error error between =>
      rw [bind_of_ok (attempt_of_error ran)] at run
      cases run
    | ok found between =>
      rw [bind_of_ok (attempt_of_ok ran)] at run
      cases found <;> cases run
      rfl

end DecodeM

namespace Supervision

variable (beyond : (α : Type) → DecodeM α)

theorem decodeRest_idle (before : List Value) {fuel : Nat} {d : Decoder}
    (enough : d.source.size < fuel) :
    (idle beyond).decodeRest before fuel d = DecodeM.decodeRest before fuel d := by
  induction fuel generalizing before d with
  | zero => exact absurd enough (Nat.not_lt_zero _)
  | succ fuel ih =>
    rw [decodeRest, next_idle, DecodeM.decodeRest]
    cases run : DecodeM.next d with
    | error error after => rw [bind_of_error run, bind_of_error run]
    | ok found after =>
      rw [bind_of_ok run, bind_of_ok run]
      cases found with
      | none => rfl
      | some v =>
        have taken := size_of_decode (decode_of_next run)
        exact ih (v :: before) (by omega)

/-- What stands in place of a value that would be one too many cannot be told from outside either.
-/
theorem decodeAll_idle : (idle beyond).decodeAll = DecodeM.decodeAll := by
  funext d
  exact decodeRest_idle beyond [] (Nat.lt_succ_self _)

end Supervision

/-! ## Counts that exceed what is left -/

/-- With the standard registry, whatever the first step succeeds with, the second one succeeds with
as well. -/
def Yields (α : Type) (m m' : DecodeM α) : Prop :=
  ∀ (d after : Decoder) (a : α), d.registry = .standard → m d = .ok a after →
    m' d = .ok a after ∧ after.registry = .standard

namespace Yields

variable {α β : Type} {m m' : DecodeM α}

theorem result (a : α) : Yields α (pure a) (pure a) := by
  intro d after b standard run
  cases run
  exact ⟨rfl, standard⟩

/-- A step that fails yields nothing. -/
theorem refusal (error : StreamError) (m' : DecodeM α) : Yields α (throw error) m' :=
  fun _ _ _ _ run => nomatch run

theorem sequence {k k' : α → DecodeM β} (first : Yields α m m')
    (second : ∀ a, Yields β (k a) (k' a)) : Yields β (m >>= k) (m' >>= k') := by
  intro d after b standard run
  obtain ⟨a, between, went, goes⟩ := bind_eq_ok_iff.1 run
  obtain ⟨went, standard⟩ := first _ _ _ standard went
  rw [bind_of_ok went]
  exact second a _ _ _ standard goes

theorem got {k k' : Decoder → DecodeM α} (h : ∀ d, Yields α (k d) (k' d)) :
    Yields α (get >>= k) (get >>= k') :=
  fun d _ _ standard run => h d _ _ _ standard run

theorem takeExact (op : String) (size : Nat) :
    Yields (List UInt8) (DecodeM.takeExact op size) (DecodeM.takeExact op size) := by
  intro d after taken standard run
  refine ⟨run, ?_⟩
  unfold DecodeM.takeExact at run
  split at run <;> cases run
  exact standard

theorem atEnd : Yields Bool DecodeM.atEnd DecodeM.atEnd := by
  intro d after ended standard run
  refine ⟨run, ?_⟩
  unfold DecodeM.atEnd at run
  split at run <;> cases run
  exact standard

theorem congruence : Congruence Yields where
  result := result
  refusal error := refusal error _
  sequence := sequence
  taken := takeExact
  guarded := by
    intro α oid fault m m' related
    apply sequence atEnd
    intro ended
    cases ended with
    | true => exact refusal _ _
    | false => exact related

theorem itemCongruence : ItemCongruence Yields where
  toCongruence := congruence
  chunked oid _ _ related := got fun _ => congruence.readChunks related oid [] _

theorem bracketed {enter leave : Decoder → Decoder} (h : Yields α m m')
    (entering : ∀ d, (enter d).registry = d.registry)
    (leaving : ∀ d, (leave d).registry = d.registry) :
    Yields α (DecodeM.bracketed enter leave m) (DecodeM.bracketed enter leave m') := by
  intro d after a standard run
  unfold DecodeM.bracketed at run ⊢
  split at run <;> cases run
  case h_1 between ran =>
    obtain ⟨ran, kept⟩ := h _ _ _ ((entering d).trans standard) ran
    rw [ran]
    exact ⟨rfl, (leaving between).trans kept⟩

theorem nested {body body' : DecodeM Value} (h : Yields Value body body') (parent : Oid) :
    Yields Value (DecodeM.nested parent body) (DecodeM.nested parent body') := by
  refine got fun d => got fun d' => ?_
  split
  · exact refusal _ _
  · exact h.bracketed (fun _ => rfl) fun _ => rfl

/-- A plan that takes bytes alone does not care how values are read. -/
theorem runPlan {element element' : Oid → DecodeM Value} {plan : ReadPlan α}
    (bytewise : plan.Bytewise) :
    Yields α (DecodeM.runPlan element plan) (DecodeM.runPlan element' plan) := by
  induction bytewise with
  | done => exact result _
  | refuse => exact refusal _ _
  | @takeExact op size next passes _ ih =>
    intro d after a standard run
    have passing (error : StreamError) :
        DecodeM.runPlan element (next (.error error)) = throw error := by rw [passes error]; rfl
    obtain ⟨taken, between, took, goes⟩ := attempt_bind_eq_ok passing run
    have between_standard := (takeExact op size _ _ _ standard took).2
    rw [DecodeM.runPlan, bind_of_ok (attempt_of_ok took)]
    exact ih taken _ _ _ between_standard goes

/-- The handlers of the standard registry take bytes alone. -/
theorem readExtension {element element' : Oid → DecodeM Value} (oid : Oid) :
    Yields Value (DecodeM.readExtension element oid) (DecodeM.readExtension element' oid) := by
  intro d after v standard run
  cases found : d.registry.reader? oid with
  | none =>
    rw [DecodeM.readExtension, get_bind, found] at run
    cases run
  | some reader =>
    have handled : Registry.standard.handlers d.options oid = some (reader d.options) := by
      rw [Registry.handlers, ← standard, found]
      rfl
    rw [readExtension_of_registered found] at run ⊢
    refine Yields.bracketed (runPlan (Registry.bytewise_standard handled)) (fun _ => ?_)
      (fun _ => ?_) d after v standard run <;> rfl

end Yields

namespace Supervision

/-- Nothing is done about counts, and there is nothing beyond the last step. -/
def refusing : Supervision := idle fun _ => throw default

theorem refusing_report (length : DecodeM Nat) : refusing.report length = length :=
  report_idle _ length

section

variable {α : Type} {element : Oid → DecodeM Value}

theorem consumes_readUncountable {chunk : Nat → DecodeM (List α)}
    (h : ∀ n, Consumes 0 (chunk n)) (oid : Oid) :
    Consumes 0 (refusing.readUncountable oid chunk) := by
  refine .got fun d => ?_
  generalize d.source.size + 1 = rounds, ([] : List (List α)) = before
  induction rounds generalizing before with
  | zero => exact .refusal _
  | succ rounds ih =>
    rw [readChunks, refusing_report]
    refine (Consumes.congruence.readChunkLength oid).followed fun n => ?_
    cases n with
    | zero => exact .result _
    | succ n => exact (h (n + 1)).followed fun items => ih (items :: before)

theorem consumes_readTagged (h : ∀ parent, Consumes 0 (element parent)) (tag : Tag) :
    Consumes 0 (refusing.readTagged element tag) := by
  have plain := Consumes.readTagged h tag
  cases tag with
  | byteStream => exact (consumes_readUncountable Consumes.congruence.readRaw _).mapped _
  | seq =>
    refine (consumes_readUncountable (fun n => ?_) _).mapped _
    exact ((h _).readMany [] n).atLeast (Nat.zero_le _)
  | vector | set | map | intArray | longArray | doubleArray | boolArray | shortArray | floatArray
  | charArray =>
    simp only [refusing, readTagged, readMap, readCounted_idle]
    exact plain
  | throwable | throwableWithData =>
    simp only [refusing, readTagged, readThrowable_idle]
    exact plain
  | _ => exact plain

theorem consumes_unrolled (levels : Nat) (oid : Oid) :
    Consumes 0 (refusing.unrolled levels oid) := by
  induction levels generalizing oid with
  | zero => exact .refusal _
  | succ levels ih =>
    have inside (parent : Oid) := (Consumes.readElement (fun parent oid => (ih oid).nested parent)
      parent).atLeast (Nat.zero_le 2)
    unfold unrolled readBody
    cases Tag.ofCode? oid with
    | some tag => exact consumes_readTagged inside tag
    | none => exact Consumes.readExtension inside oid

end

variable {α : Type} {s : Supervision} (lenient : s.Lenient)

include lenient

/-- A count that does not exceed what is left is reported, and that is all. -/
theorem report_of_covered {length : DecodeM Nat} {d between : Decoder} {n : Nat}
    (run : length d = .ok n between) (covered : n ≤ between.source.size) :
    s.report length d = .ok n between := by
  rw [report, bind_of_ok run, bind_of_ok (lenient n between covered)]
  rfl

/-- As many things as are read do not exceed what is left. -/
theorem yields_readCounted {item item' : DecodeM α} (related : Yields α item item')
    (consumes : Consumes 1 item) (oid : Oid) :
    Yields (List α) (refusing.readCounted oid item) (s.readCounted oid item') := by
  intro d after items standard run
  rw [readCounted, refusing_report] at run
  obtain ⟨n, between, counted, reads⟩ := bind_eq_ok_iff.1 run
  have taken := (consumes.readMany [] n).ok reads
  have standard := (Yields.congruence.readLength oid _ _ _ standard counted).2
  rw [readCounted, bind_of_ok (report_of_covered lenient counted (by omega))]
  exact Yields.congruence.readMany related [] n _ _ _ standard reads

theorem yields_readChunks {chunk chunk' : Nat → DecodeM (List α)}
    (related : ∀ n, Yields (List α) (chunk n) (chunk' n)) (consumes : ∀ n, Consumes n (chunk n))
    (oid : Oid) (before : List (List α)) (rounds : Nat) :
    Yields (List α) (refusing.readChunks oid chunk before rounds)
      (s.readChunks oid chunk' before rounds) := by
  induction rounds generalizing before with
  | zero => exact Yields.refusal _ _
  | succ rounds ih =>
    intro d after items standard run
    rw [readChunks, refusing_report] at run
    obtain ⟨n, between, counted, reads⟩ := bind_eq_ok_iff.1 run
    have standard := (Yields.congruence.readChunkLength oid _ _ _ standard counted).2
    cases n with
    | zero =>
      rw [readChunks, bind_of_ok (report_of_covered lenient counted (Nat.zero_le _))]
      cases reads
      exact ⟨rfl, standard⟩
    | succ n =>
      obtain ⟨first, middle, read, rest⟩ := bind_eq_ok_iff.1 reads
      have taken := (consumes (n + 1)).ok read
      obtain ⟨read, standard⟩ := related (n + 1) _ _ _ standard read
      rw [readChunks, bind_of_ok (report_of_covered lenient counted (by omega))]
      refine ⟨(bind_of_ok read).trans ?_, ?_⟩
      · exact (ih (first :: before) _ _ _ standard rest).1
      · exact (ih (first :: before) _ _ _ standard rest).2

theorem yields_readUncountable {chunk chunk' : Nat → DecodeM (List α)}
    (related : ∀ n, Yields (List α) (chunk n) (chunk' n)) (consumes : ∀ n, Consumes n (chunk n))
    (oid : Oid) :
    Yields (List α) (refusing.readUncountable oid chunk) (s.readUncountable oid chunk') :=
  .got fun _ => yields_readChunks lenient related consumes oid [] _

section

variable {element element' : Oid → DecodeM Value}
  (related : ∀ parent, Yields Value (element parent) (element' parent))
  (consumes : ∀ parent, Consumes 1 (element parent))

include related consumes

theorem yields_readThrowable (data : Option (OrderedMap Value Value)) :
    Yields (Throwable Value) (refusing.readThrowable element data)
      (s.readThrowable element' data) := by
  have c := Yields.itemCongruence
  have nested := c.readNestedThrowable related
  have consumesNested : Consumes 1 (readNestedThrowable element) := by
    refine (consumes _).followed fun found => ?_
    split
    · exact .result _
    · exact .refusal _
  have frames := yields_readCounted lenient c.readFrame
    (Consumes.readFrame.atLeast (by decide)) Tag.throwable.code
  have suppressed := yields_readCounted lenient nested consumesNested Tag.throwable.code
  refine c.sequence c.readOptionalText fun message => c.sequence frames fun frames =>
    c.sequence (c.readBool _) fun caused => ?_
  cases caused with
  | true => exact c.sequence (c.mapped nested some) fun cause => c.mapped suppressed _
  | false => exact c.sequence (c.result none) fun cause => c.mapped suppressed _

theorem yields_readTagged (tag : Tag) :
    Yields Value (refusing.readTagged element tag) (s.readTagged element' tag) := by
  have c := Yields.itemCongruence
  have plain := c.readTagged related tag
  cases tag with
  | byteStream =>
    exact c.mapped (yields_readUncountable lenient c.readRaw Consumes.readRaw _) _
  | seq =>
    refine c.mapped (yields_readUncountable lenient (c.readMany (related _) [])
      (fun n => ?_) _) _
    exact ((consumes _).readMany [] n).atLeast (Nat.le_of_eq (Nat.mul_one n).symm)
  | vector | set => exact c.mapped (yields_readCounted lenient (related _) (consumes _) _) _
  | map =>
    have entry : Consumes 1 (readEntry element Tag.map.code) :=
      (consumes _).followed fun _ => ((consumes _).atLeast (Nat.zero_le 1)).mapped _
    exact c.mapped (c.mapped (yields_readCounted lenient (c.readEntry related _) entry _) _) _
  | intArray =>
    exact c.mapped (yields_readCounted lenient c.readInt32
      (Consumes.readInt32.atLeast (by decide)) _) _
  | longArray =>
    exact c.mapped (yields_readCounted lenient c.readInt64
      (Consumes.readInt64.atLeast (by decide)) _) _
  | doubleArray =>
    exact c.mapped (yields_readCounted lenient c.readUInt64
      (Consumes.readUInt64.atLeast (by decide)) _) _
  | boolArray =>
    exact c.mapped (yields_readCounted lenient (c.readBool _) (Consumes.readBool _) _) _
  | shortArray =>
    exact c.mapped (yields_readCounted lenient c.readInt16
      (Consumes.readInt16.atLeast (by decide)) _) _
  | floatArray =>
    exact c.mapped (yields_readCounted lenient c.readUInt32
      (Consumes.readUInt32.atLeast (by decide)) _) _
  | charArray =>
    exact c.mapped (yields_readCounted lenient (c.readChar _)
      ((Consumes.readChar _).atLeast (by decide)) _) _
  | throwable => exact c.mapped (yields_readThrowable lenient related consumes none) _
  | throwableWithData =>
    exact c.sequence (c.readMapValue related _) fun data =>
      c.mapped (yields_readThrowable lenient related consumes (some data)) _
  | _ => exact plain

theorem yields_readBody (oid : Oid) :
    Yields Value (refusing.readBody element oid) (s.readBody element' oid) := by
  unfold readBody
  cases Tag.ofCode? oid with
  | some tag => exact yields_readTagged lenient related consumes tag
  | none => exact .readExtension oid

end

theorem yields_unrolled (levels : Nat) (oid : Oid) :
    Yields Value (refusing.unrolled levels oid) (s.unrolled levels oid) := by
  induction levels generalizing oid with
  | zero => exact Yields.refusal _ _
  | succ levels ih =>
    apply yields_readBody lenient
    · exact Yields.itemCongruence.readElement fun parent oid => (ih oid).nested parent
    · intro parent
      refine (Consumes.readElement (fun parent oid => ?_) parent).atLeast (by decide)
      exact (consumes_unrolled levels oid).nested parent

theorem yields_decode : Yields (Option Value) refusing.decode s.decode := by
  apply Yields.sequence Yields.atEnd
  intro ended
  cases ended with
  | true => exact .result none
  | false =>
    refine Yields.congruence.sequence Yields.congruence.readUInt16 fun oid => ?_
    refine .got fun d => .got fun d' => ?_
    exact Yields.sequence ((yields_unrolled lenient _ oid).nested oid) fun v => .result (some v)

theorem yields_next : Yields (Option Value) refusing.next s.next := by
  refine .got fun current => ?_
  split
  case isTrue => exact .result none
  case isFalse =>
    intro d after found standard run
    cases ran : refusing.decode d with
    | error error between =>
      rw [bind_of_ok (attempt_of_error ran)] at run
      cases run
    | ok answer between =>
      rw [bind_of_ok (attempt_of_ok ran)] at run
      obtain ⟨ran, kept⟩ := yields_decode lenient _ _ _ standard ran
      rw [bind_of_ok (attempt_of_ok ran)]
      cases answer <;> cases run <;> exact ⟨rfl, kept⟩

theorem yields_decodeRest (before : List Value) (fuel : Nat) :
    Yields (List Value) (refusing.decodeRest before fuel) (s.decodeRest before fuel) := by
  induction fuel generalizing before with
  | zero => exact Yields.refusal _ _
  | succ fuel ih =>
    refine Yields.sequence (yields_next lenient) fun found => ?_
    cases found with
    | none => exact .result _
    | some v => exact ih (v :: before)

end Supervision

namespace DecodeM

/-- With the standard registry, a decoder that succeeds has read no count that exceeds the bytes
that were left, so nothing that is done about such counts makes a difference. -/
theorem decode_lenient {s : Supervision} (lenient : s.Lenient) {d after : Decoder}
    {found : Option Value} (standard : d.registry = .standard)
    (run : decode d = .ok found after) : s.decode d = .ok found after := by
  rw [← Supervision.decode_idle fun _ => throw default] at run
  exact (Supervision.yields_decode lenient d after found standard run).1

theorem decodeAll_lenient {s : Supervision} (lenient : s.Lenient) {d after : Decoder}
    {vs : List Value} (standard : d.registry = .standard)
    (run : decodeAll d = .ok vs after) : s.decodeAll d = .ok vs after := by
  rw [← Supervision.decodeAll_idle fun _ => throw default] at run
  exact (Supervision.yields_decodeRest lenient [] _ d after vs standard run).1

end DecodeM

end TaggedStream
