import TaggedStream.Proofs.Acceptance
import TaggedStream.Proofs.Congruence

/-!
What readers take off a source.

No reader gives bytes back, whether it succeeds or fails, and a reader that succeeds has taken the
bytes of what it read. So the bytes that are left bound how many things can be read, whatever a
count says.
-/

namespace TaggedStream

/-! ## Sources -/

namespace Source

/-- A request that is met takes its bytes off what is left, and one that is not gives nothing back.
-/
def Shrinks (want size : Nat) : Except IoCause (List UInt8) × Source → Prop
  | (.ok _, after) => after.size + want ≤ size
  | (.error _, after) => after.size ≤ size

theorem shrinks_takeThrough (capacity : Nat) (before : List (List UInt8)) (want : Nat)
    (script : Script) : Shrinks want script.size (takeThrough capacity before want script) := by
  induction script generalizing before want with
  | nil => exact Nat.le_refl _
  | cons turn rest ih =>
    match turn with
    | .interrupted => exact ih before want
    | .failure text => exact Nat.le_of_eq (Nat.zero_add _)
    | .bytes [] => simp [takeThrough, Shrinks, size, Script.size]
    | .bytes (byte :: piece) =>
      simp only [takeThrough]
      split
      case isTrue few =>
        -- The whole piece was not enough, so the rest must do.
        have all := ih ((byte :: piece).take (max want capacity) :: before)
          (want - ((byte :: piece).take (max want capacity)).length)
        generalize takeThrough .. = result at all ⊢
        rcases result with ⟨_ | _, after⟩ <;>
          simp only [Shrinks, Script.size, List.length_take] at all few ⊢ <;> omega
      case isFalse enough =>
        simp only [List.length_take] at enough
        change size (.buffered capacity (((byte :: piece).take (max want capacity)).drop want) _) +
          want ≤ _
        have halves := List.length_drop (i := max want capacity) (l := byte :: piece)
        rw [size]
        split
        all_goals
          simp only [*, Script.size, List.length_drop, List.length_take, List.length_nil] at *
          omega

theorem shrinks_takeExact (want : Nat) (source : Source) :
    Shrinks want source.size (source.takeExact want) := by
  cases source with
  | slice rest =>
    rw [takeExact, List.splitAt_eq]
    dsimp only
    split
    case isTrue => exact Nat.zero_le _
    case isFalse enough =>
      simp only [List.length_take] at enough
      simp only [Shrinks, size, List.length_drop]
      omega
  | buffered capacity buffer script =>
    rw [takeExact, List.splitAt_eq]
    dsimp only
    split
    case isTrue few =>
      have all := shrinks_takeThrough capacity [buffer.take want]
        (want - (buffer.take want).length) script
      generalize takeThrough .. = result at all ⊢
      rcases result with ⟨_ | _, after⟩ <;>
        simp only [Shrinks, size, List.length_take] at all few ⊢ <;> omega
    case isFalse enough =>
      simp only [List.length_take] at enough
      simp only [Shrinks, size, List.length_drop]
      omega

/-- What a read meets was held by the turns. -/
theorem size_readThrough_le (want : Nat) (script : Script) :
    Script.size ((script.readThrough want).1 :: (script.readThrough want).2) ≤ script.size := by
  induction script with
  | nil => exact Nat.le_refl _
  | cons turn rest ih =>
    match turn with
    | .interrupted => exact ih
    | .failure text => exact Nat.le_refl _
    | .bytes piece =>
      have halves := List.length_drop (i := want) (l := piece)
      simp only [Script.readThrough, Script.read]
      split
      case h_1 => exact Nat.le_refl _
      case h_2 =>
        simp only [Script.size, List.length_take]
        omega

/-- A look for the end takes nothing, though it may meet a failure. -/
theorem size_atEnd_le (source : Source) : source.atEnd.2.size ≤ source.size := by
  match source with
  | .slice rest => exact Nat.le_refl _
  | .buffered capacity (byte :: buffer) script => exact Nat.le_refl _
  | .buffered capacity [] script =>
    have size := size_readThrough_le capacity script
    rw [atEnd]
    generalize script.readThrough capacity = result at size ⊢
    rcases result with ⟨_ | _ | _, after⟩ <;> simpa [Source.size, Script.size] using size

end Source

/-! ## Readers -/

/-- Whoever succeeds has taken at least so many bytes off the source, and whoever fails gives none
back. -/
structure Consumes {α : Type} (least : Nat) (m : DecodeM α) : Prop where
  ok {d after : Decoder} {a : α} (run : m d = .ok a after) :
    after.source.size + least ≤ d.source.size
  error {d after : Decoder} {error : StreamError} (run : m d = .error error after) :
    after.source.size ≤ d.source.size

namespace Consumes

open DecodeM

variable {α β : Type} {least more : Nat} {m : DecodeM α} {k : α → DecodeM β}

theorem result (a : α) : Consumes 0 (pure a : DecodeM α) where
  ok run := by
    cases run
    exact Nat.le_refl _
  error run := nomatch run

theorem refusal (error : StreamError) : Consumes least (throw error : DecodeM α) where
  ok run := nomatch run
  error run := by
    cases run
    exact Nat.le_refl _

theorem atLeast (h : Consumes more m) (le : least ≤ more) : Consumes least m where
  ok run := Nat.le_trans (Nat.add_le_add_left le _) (h.ok run)
  error := h.error

theorem bind (first : Consumes least m) (second : ∀ a, Consumes more (k a)) :
    Consumes (least + more) (m >>= k) where
  ok run := by
    obtain ⟨a, between, went, goes⟩ := bind_eq_ok_iff.1 run
    have before := first.ok went
    have behind := (second a).ok goes
    omega
  error {d after error} run := by
    cases went : m d with
    | error error between =>
      rw [bind_of_error went] at run
      cases run
      exact first.error went
    | ok a between =>
      rw [bind_of_ok went] at run
      have before := first.ok went
      have behind := (second a).error run
      omega

/-- Whatever goes on behind a reader gives nothing back. -/
theorem followed (first : Consumes least m) (second : ∀ a, Consumes 0 (k a)) :
    Consumes least (m >>= k) :=
  first.bind second

theorem mapped (h : Consumes least m) (f : α → β) : Consumes least (do return f (← m)) :=
  h.followed fun a => result (f a)

/-- A step that looks at the decoder first. -/
theorem got {k : Decoder → DecodeM α} (h : ∀ d, Consumes least (k d)) :
    Consumes least (get >>= k) where
  ok {d _ _} run := (h d).ok run
  error {d _ _} run := (h d).error run

theorem attempt (h : Consumes 0 m) : Consumes 0 (DecodeM.attempt m) where
  ok run := by
    unfold DecodeM.attempt at run
    split at run <;> cases run
    case h_1 ran => exact h.ok ran
    case h_2 ran => exact h.error ran
  error run := by
    unfold DecodeM.attempt at run
    split at run <;> cases run

theorem bracketed {enter leave : Decoder → Decoder} (h : Consumes least m)
    (entering : ∀ d, (enter d).source = d.source) (leaving : ∀ d, (leave d).source = d.source) :
    Consumes least (DecodeM.bracketed enter leave m) where
  ok {d _ _} run := by
    unfold DecodeM.bracketed at run
    split at run <;> cases run
    case h_1 ran =>
      rw [leaving, ← entering d]
      exact h.ok ran
  error {d _ _} run := by
    unfold DecodeM.bracketed at run
    split at run <;> cases run
    case h_2 ran =>
      rw [leaving, ← entering d]
      exact h.error ran

theorem takeExact (op : String) (size : Nat) : Consumes size (DecodeM.takeExact op size) where
  ok {d _ _} run := by
    have shrinks := d.source.shrinks_takeExact size
    unfold DecodeM.takeExact at run
    split at run <;> cases run
    case h_1 ran =>
      rw [ran] at shrinks
      exact shrinks
  error {d _ _} run := by
    have shrinks := d.source.shrinks_takeExact size
    unfold DecodeM.takeExact at run
    split at run <;> cases run
    case h_2 ran =>
      rw [ran] at shrinks
      exact shrinks

theorem atEnd : Consumes 0 DecodeM.atEnd where
  ok {d _ _} run := by
    have le := d.source.size_atEnd_le
    unfold DecodeM.atEnd at run
    split at run <;> cases run
    case h_1 ran =>
      rw [ran] at le
      exact le
  error {d _ _} run := by
    have le := d.source.size_atEnd_le
    unfold DecodeM.atEnd at run
    split at run <;> cases run
    case h_2 ran =>
      rw [ran] at le
      exact le

/-- A look for the end in front of a reader. -/
theorem guarded (h : Consumes least m) (oid : Oid) (fault : Fault) : Consumes least (do
    if ← DecodeM.atEnd then Wire.malformed oid fault
    m) := by
  refine (atEnd.bind fun ended => ?_).atLeast (Nat.le_of_eq (Nat.zero_add least).symm)
  cases ended with
  | true => exact refusal _
  | false => exact h

/-! ## All readers -/

theorem congruence : Congruence fun _ m _ => Consumes 0 m where
  result := result
  refusal := refusal
  sequence first second := first.bind second
  taken op size := (takeExact op size).atLeast (Nat.zero_le size)
  guarded oid fault _ _ related := guarded related oid fault

/-- No reader gives bytes back, if the readers of the values inside do not. -/
theorem itemCongruence : ItemCongruence fun _ m _ => Consumes 0 m where
  toCongruence := congruence
  chunked oid chunk _ related := got fun _ =>
    @Congruence.readChunks _ _ congruence chunk chunk related oid [] _

/-- A handler gives no bytes back. -/
theorem runPlan {element : Oid → DecodeM Value} (h : ∀ parent, Consumes 0 (element parent))
    (plan : ReadPlan α) : Consumes 0 (DecodeM.runPlan element plan) := by
  induction plan with
  | done a => exact result a
  | refuse error => exact refusal error
  | takeExact op size next ih =>
    exact (((takeExact op size).atLeast (Nat.zero_le size)).attempt).bind ih
  | value next ih => exact got fun d => (h d.extension).attempt.bind ih

theorem readExtension {element : Oid → DecodeM Value} (h : ∀ parent, Consumes 0 (element parent))
    (oid : Oid) : Consumes 0 (DecodeM.readExtension element oid) := by
  refine got fun d => ?_
  cases d.registry.reader? oid with
  | none => exact refusal _
  | some reader =>
    exact got fun _ => got fun _ => (runPlan h _).bracketed (fun _ => rfl) fun _ => rfl

/-- A value takes the bytes of its identifier. -/
theorem readElement {nested : (parent oid : Oid) → DecodeM Value}
    (h : ∀ parent oid, Consumes 0 (nested parent oid)) (parent : Oid) :
    Consumes 2 (DecodeM.readElement nested parent) := by
  have identifier : Consumes 2 (Wire.readOid : DecodeM Oid) :=
    ((takeExact "read u16" 2).mapped _).mapped _
  exact (identifier.bind (h parent)).guarded parent .missingValue

theorem nested {body : DecodeM Value} (h : Consumes 0 body) (parent : Oid) :
    Consumes 0 (DecodeM.nested parent body) := by
  refine got fun d => got fun d' => ?_
  split
  · exact refusal _
  · exact h.bracketed (fun _ => rfl) fun _ => rfl

theorem readTagged {element : Oid → DecodeM Value} (h : ∀ parent, Consumes 0 (element parent))
    (tag : Tag) : Consumes 0 (DecodeM.readTagged element tag) :=
  @ItemCongruence.readTagged _ itemCongruence element element h tag

theorem readBody {element : Oid → DecodeM Value} (h : ∀ parent, Consumes 0 (element parent))
    (oid : Oid) : Consumes 0 (DecodeM.readBody element oid) :=
  @ItemCongruence.readBody _ itemCongruence element element h (readExtension h) oid

theorem decodeNested (levels : Nat) (parent oid : Oid) :
    Consumes 0 (DecodeM.decodeNested levels parent oid) := by
  induction levels generalizing parent oid with
  | zero => exact got fun _ => refusal _
  | succ levels ih =>
    exact (readBody (fun parent => (readElement ih parent).atLeast (Nat.zero_le 2)) oid).nested
      parent

/-! ## Things that take bytes -/

theorem readNat (op : String) (size : Nat) : Consumes size (Wire.readNat op size : DecodeM Nat) :=
  (takeExact op size).mapped _

theorem readInt16 : Consumes 2 (Wire.readInt16 : DecodeM Int16) :=
  ((readNat _ 2).mapped _).mapped _

theorem readUInt32 : Consumes 4 (Wire.readUInt32 : DecodeM UInt32) := (readNat _ 4).mapped _

theorem readInt32 : Consumes 4 (Wire.readInt32 : DecodeM Int32) := readUInt32.mapped _

theorem readUInt64 : Consumes 8 (Wire.readUInt64 : DecodeM UInt64) := (readNat _ 8).mapped _

theorem readInt64 : Consumes 8 (Wire.readInt64 : DecodeM Int64) := readUInt64.mapped _

theorem readChar (oid : Oid) : Consumes 4 (Wire.readChar oid : DecodeM Char) := by
  refine readUInt32.followed fun code => ?_
  split
  · exact result _
  · exact refusal _

theorem readLength (oid : Oid) : Consumes 4 (Wire.readLength oid : DecodeM Nat) := by
  refine readInt32.followed fun n => ?_
  split
  · exact refusal _
  · exact result _

theorem readChunkLength (oid : Oid) : Consumes 4 (DecodeM.readChunkLength oid) :=
  (readLength oid).guarded oid .missingTerminator

theorem readBool (oid : Oid) : Consumes 1 (Wire.readBool oid : DecodeM Bool) := by
  refine ((readNat _ 1).mapped _).followed fun byte => ?_
  split
  · exact result _
  · exact result _
  · exact refusal _

theorem readText (oid : Oid) : Consumes 4 (Wire.readText oid : DecodeM String) := by
  refine ((readLength oid).followed congruence.readRaw).followed fun bytes => ?_
  split
  · exact result _
  · exact refusal _

theorem readFrame : Consumes 4 DecodeM.readFrame :=
  (readText _).followed fun _ => (congruence.readText _).followed fun _ =>
    congruence.readOptionalText.followed fun _ => congruence.readInt32.followed fun _ => result _

theorem readPieces (before : List (List UInt8)) (last full : Nat) :
    Consumes (full * Wire.pieceLimit + last)
      (Wire.readPieces before last full : DecodeM (List UInt8)) := by
  induction full generalizing before with
  | zero =>
    rw [Nat.zero_mul, Nat.zero_add]
    unfold Wire.readPieces
    split
    case isTrue none => exact none ▸ result _
    case isFalse => exact (takeExact _ _).mapped _
  | succ full ih =>
    rw [Nat.succ_mul, Nat.add_comm (full * _), Nat.add_assoc]
    exact (takeExact _ _).bind fun piece => ih (piece :: before)

theorem readRaw (length : Nat) : Consumes length (Wire.readRaw length : DecodeM (List UInt8)) :=
  (readPieces _ _ _).atLeast (Nat.le_of_eq (Nat.div_add_mod' length _).symm)

/-- Things that take bytes are no more than the bytes that were there. -/
theorem readMany {item : DecodeM α} (h : Consumes least item) (before : List α) (count : Nat) :
    Consumes (count * least) (DecodeM.readMany item before count) := by
  induction count generalizing before with
  | zero => exact (result _).atLeast (Nat.le_of_eq (Nat.zero_mul least))
  | succ count ih =>
    rw [Nat.succ_mul, Nat.add_comm]
    exact h.bind fun a => ih (a :: before)

end Consumes

end TaggedStream
