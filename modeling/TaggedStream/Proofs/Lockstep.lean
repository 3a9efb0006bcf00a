import TaggedStream.Proofs.Congruence
import TaggedStream.Proofs.Recognition

/-!
Steps that go side by side.

Two steps go in lockstep along a relation of decoders if, from related decoders, both have the same
result or both fail with the same error, and the decoders that they leave are related again. If
nothing that the steps of the wire and the handlers look at tells related decoders apart, then all
readers of values go in lockstep as soon as the readers of the values inside do.
-/

namespace TaggedStream

/-- Both went well with the same result, or failed with the same error, and left related decoders.
-/
inductive Matching (R : Decoder → Decoder → Prop) {α : Type} :
    EStateM.Result StreamError Decoder α → EStateM.Result StreamError Decoder α → Prop
  | ok (a : α) {d d' : Decoder} (related : R d d') : Matching R (.ok a d) (.ok a d')
  | error (error : StreamError) {d d' : Decoder} (related : R d d') :
      Matching R (.error error d) (.error error d')

/-- What is left is also related in every way that follows. -/
theorem Matching.imp {R S : Decoder → Decoder → Prop} {α : Type}
    {result result' : EStateM.Result StreamError Decoder α} (h : Matching R result result')
    (sub : ∀ {d d' : Decoder}, R d d' → S d d') : Matching S result result' := by
  cases h with
  | ok a related => exact .ok a (sub related)
  | error error related => exact .error error (sub related)

/-- Steps that end alike when they start related. -/
def Lockstep (R : Decoder → Decoder → Prop) (α : Type) (m m' : DecodeM α) : Prop :=
  ∀ d d' : Decoder, R d d' → Matching R (m d) (m' d')

/-- Related decoders cannot be told apart by what the steps of the wire and the handlers look at. -/
structure Decoder.Likeness (R : Decoder → Decoder → Prop) : Prop where
  options_eq {d d' : Decoder} (related : R d d') : d'.options = d.options
  registry_eq {d d' : Decoder} (related : R d d') : d'.registry = d.registry
  extension_eq {d d' : Decoder} (related : R d d') : d'.extension = d.extension
  size_eq {d d' : Decoder} (related : R d d') : d'.source.size = d.source.size
  extended {d d' : Decoder} (related : R d d') (oid : Oid) :
    R { d with extension := oid } { d' with extension := oid }
  taken (op : String) (size : Nat) :
    Lockstep R (List UInt8) (DecodeM.takeExact op size) (DecodeM.takeExact op size)
  ending : Lockstep R Bool DecodeM.atEnd DecodeM.atEnd

namespace Lockstep

variable {α β : Type} {R S : Decoder → Decoder → Prop} {m m' : DecodeM α}

theorem result (a : α) : Lockstep R α (pure a) (pure a) := fun _ _ related => .ok a related

theorem refusal (error : StreamError) : Lockstep R α (throw error) (throw error) :=
  fun _ _ related => .error error related

theorem sequence {k k' : α → DecodeM β} (first : Lockstep R α m m')
    (second : ∀ a, Lockstep R β (k a) (k' a)) : Lockstep R β (m >>= k) (m' >>= k') := by
  intro d d' related
  have both := first d d' related
  generalize run : m d = result, run' : m' d' = result' at both
  cases both with
  | ok a related =>
    rw [DecodeM.bind_of_ok run, DecodeM.bind_of_ok run']
    exact second a _ _ related
  | error error related =>
    rw [DecodeM.bind_of_error run, DecodeM.bind_of_error run']
    exact .error error related

/-- A step that looks at the decoder first. -/
theorem got {k k' : Decoder → DecodeM α} (h : ∀ d d', R d d' → Matching R (k d d) (k' d' d')) :
    Lockstep R α (get >>= k) (get >>= k') :=
  h

theorem attempt (h : Lockstep R α m m') :
    Lockstep R (Except StreamError α) (DecodeM.attempt m) (DecodeM.attempt m') := by
  intro d d' related
  have both := h d d' related
  unfold DecodeM.attempt
  generalize m d = result, m' d' = result' at both
  cases both with
  | ok a related => exact Matching.ok (Except.ok a) related
  | error error related => exact Matching.ok (Except.error error) related

/-- A bracket in which decoders are related in another way. -/
theorem bracketed (h : Lockstep S α m m') {enter leave : Decoder → Decoder}
    (entering : ∀ d d', R d d' → S (enter d) (enter d'))
    (leaving : ∀ d d', S d d' → R (leave d) (leave d')) :
    Lockstep R α (DecodeM.bracketed enter leave m) (DecodeM.bracketed enter leave m') := by
  intro d d' related
  have both := h _ _ (entering d d' related)
  unfold DecodeM.bracketed
  generalize m (enter d) = result, m' (enter d') = result' at both
  cases both with
  | ok a related => exact .ok a (leaving _ _ related)
  | error error related => exact .error error (leaving _ _ related)

/-! ## Readers -/

/-- Readers of the wire go side by side if the steps that look at the source do. -/
theorem congruence
    (taken : ∀ op size, Lockstep R (List UInt8) (DecodeM.takeExact op size)
      (DecodeM.takeExact op size))
    (ending : Lockstep R Bool DecodeM.atEnd DecodeM.atEnd) :
    DecodeM.Congruence (Lockstep R) where
  result := .result
  refusal := .refusal
  sequence := .sequence
  taken := taken
  guarded := by
    intro α oid fault m m' related
    apply Lockstep.sequence ending
    intro ended
    cases ended with
    | true => exact .refusal _
    | false => exact related

/-- So do readers of chunks, if as many bytes are left on both sides. -/
theorem itemCongruence (c : DecodeM.Congruence (Lockstep R))
    (size_eq : ∀ {d d' : Decoder}, R d d' → d'.source.size = d.source.size) :
    DecodeM.ItemCongruence (Lockstep R) where
  toCongruence := c
  chunked := by
    intro α oid chunk chunk' chunks
    apply Lockstep.got
    intro d d' related
    -- The bound for the number of chunks is taken from the bytes that are left.
    rw [size_eq related]
    exact c.readChunks chunks oid [] _ d d' related

end Lockstep

namespace Decoder.Likeness

variable {α : Type} {R : Decoder → Decoder → Prop} (likeness : Likeness R)

include likeness

theorem settings {k k' : Options → DecodeM α}
    (h : ∀ options, Lockstep R α (k options) (k' options)) :
    Lockstep R α (DecodeM.settings >>= k) (DecodeM.settings >>= k') := by
  intro d d' related
  rw [DecodeM.settings_bind, DecodeM.settings_bind, likeness.options_eq related]
  exact h _ d d' related

theorem congruence : DecodeM.Congruence (Lockstep R) :=
  Lockstep.congruence likeness.taken likeness.ending

theorem itemCongruence : DecodeM.ItemCongruence (Lockstep R) :=
  Lockstep.itemCongruence likeness.congruence likeness.size_eq

/-! ## Values -/

section

variable {element element' : Oid → DecodeM Value}
  (h : ∀ parent, Lockstep R Value (element parent) (element' parent))

include h

/-- A handler cannot tell related decoders apart. -/
theorem runPlan (plan : ReadPlan α) :
    Lockstep R α (DecodeM.runPlan element plan) (DecodeM.runPlan element' plan) := by
  induction plan with
  | done a => exact .result a
  | refuse error => exact .refusal error
  | takeExact op size next ih => exact .sequence (.attempt (likeness.taken op size)) ih
  | value next ih =>
    apply Lockstep.got
    intro d d' related
    rw [likeness.extension_eq related]
    exact Lockstep.sequence (.attempt (h _)) ih d d' related

theorem readExtension (oid : Oid) : Lockstep R Value (DecodeM.readExtension element oid)
    (DecodeM.readExtension element' oid) := by
  apply Lockstep.got
  intro d d' related
  rw [likeness.registry_eq related]
  cases d.registry.reader? oid with
  | none => exact Lockstep.refusal _ d d' related
  | some reader =>
    refine Lockstep.got (fun d d' related => ?_) d d' related
    rw [likeness.extension_eq related]
    refine likeness.settings (fun options => ?_) d d' related
    exact .bracketed (likeness.runPlan h _) (fun _ _ related => likeness.extended related oid)
      fun _ _ related => likeness.extended related d.extension

end

/-- What follows an identifier is read alike if the values inside are. -/
theorem readBody {nested nested' : (parent oid : Oid) → DecodeM Value}
    (h : ∀ parent oid, Lockstep R Value (nested parent oid) (nested' parent oid)) (oid : Oid) :
    Lockstep R Value (DecodeM.readBody (DecodeM.readElement nested) oid)
      (DecodeM.readBody (DecodeM.readElement nested') oid) :=
  have inside := likeness.itemCongruence.readElement h
  likeness.itemCongruence.readBody inside (likeness.readExtension inside) oid

/-- Values are read alike if decoders that are related have as many values open, and stay related
when this number changes for both. -/
theorem decodeNested (depth_eq : ∀ {d d'}, R d d' → d'.depth = d.depth)
    (leveled : ∀ {d d'} (depth : Nat), R d d' → R { d with depth } { d' with depth })
    (levels : Nat) (parent oid : Oid) :
    Lockstep R Value (DecodeM.decodeNested levels parent oid)
      (DecodeM.decodeNested levels parent oid) := by
  induction levels generalizing parent oid with
  | zero => exact likeness.settings fun options => .refusal _
  | succ levels ih =>
    refine likeness.settings fun options => .got fun d d' related => ?_
    rw [depth_eq related]
    split
    · exact Lockstep.refusal _ d d' related
    · refine Lockstep.bracketed (likeness.readBody ih oid) (fun d d' related => ?_)
        (fun d d' related => ?_) d d' related
      · have deeper := leveled (d.depth + 1) related
        rwa [← depth_eq related] at deeper ⊢
      · have back := leveled (d.depth - 1) related
        rwa [← depth_eq related] at back ⊢

/-- The next value is read alike if values are. -/
theorem decode (nested : ∀ levels parent oid, Lockstep R Value
      (DecodeM.decodeNested levels parent oid) (DecodeM.decodeNested levels parent oid)) :
    Lockstep R (Option Value) DecodeM.decode DecodeM.decode := by
  apply Lockstep.sequence likeness.ending
  intro ended
  cases ended with
  | true => exact .result none
  | false =>
    refine .sequence likeness.congruence.readUInt16 fun oid => likeness.settings fun options => ?_
    exact .sequence (nested _ oid oid) fun v => .result (some v)

/-- An iteration goes on alike if values are read alike, and ends alike. -/
theorem next (nested : ∀ levels parent oid, Lockstep R Value
      (DecodeM.decodeNested levels parent oid) (DecodeM.decodeNested levels parent oid))
    (done_eq : ∀ {d d'}, R d d' → d'.done = d.done)
    (finished : ∀ {d d'}, R d d' → R { d with done := true } { d' with done := true }) :
    Lockstep R (Option Value) DecodeM.next DecodeM.next := by
  apply Lockstep.got
  intro d d' related
  rw [done_eq related]
  have ended : Lockstep R Unit (modify ({ · with done := true }))
      (modify ({ · with done := true })) :=
    fun d d' related => .ok () (finished related)
  split
  · exact Lockstep.result none d d' related
  · refine Lockstep.sequence (.attempt (likeness.decode nested)) (fun outcome => ?_) d d' related
    rcases outcome with error | _ | v
    · exact .sequence ended fun _ => .refusal error
    · exact .sequence ended fun _ => .result none
    · exact .result (some v)

end Decoder.Likeness

end TaggedStream
