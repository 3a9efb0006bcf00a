import TaggedStream.Proofs.Acceptance
import TaggedStream.Proofs.Congruence
import TaggedStream.Proofs.Delivery

/-!
Decoders that have less: fewer bytes, or fewer levels.

A decoder that lacks the last bytes of a byte string, or may not open as many levels, follows one
that has all of them: where the latter reads a value, it reads the same value, or it blames an
identifier, or it finds that the bytes have ended. It never reads something else. The relation is a
congruence, so it is proved of the steps and holds of all readers, if the handlers pass errors on.
-/

namespace TaggedStream

/-- The second decoder lacks the bytes `lost` at the end of its byte string. The bounds for levels
may be any. -/
structure Decoder.Shortens (lost : List UInt8) (d d' : Decoder) : Prop where
  source : ∃ input, d.source = .slice (input ++ lost) ∧ d'.source = .slice input
  handlers : d'.scope.handlers = d.scope.handlers
  strict : d.scope.Strict
  extension : d'.extension = d.extension

/-- How reading may end for want of bytes or levels: an identifier is blamed, or the bytes have
ended where some are missing. -/
def StreamError.IsCutoff (lost : List UInt8) (error : StreamError) : Prop :=
  (∃ oid fault, error = .malformed oid fault) ∨ lost ≠ [] ∧ error.isEndOfInput = true

/-- What may come of a step where another one has a result: the same result, or a cutoff. -/
inductive Sequel (lost : List UInt8) {α : Type} (a : α) (after : Decoder) :
    EStateM.Result StreamError Decoder α → Prop
  | ok {after' : Decoder} (shortens : after.Shortens lost after') :
      Sequel lost a after (.ok a after')
  | error {error : StreamError} {after' : Decoder} (cutoff : error.IsCutoff lost) :
      Sequel lost a after (.error error after')

/-- Where the first step has a result, the second one follows on a shortened decoder. -/
def Follows (lost : List UInt8) (α : Type) (m m' : DecodeM α) : Prop :=
  ∀ ⦃d d' : Decoder⦄ ⦃a : α⦄ ⦃after : Decoder⦄, d.Shortens lost d' → m d = .ok a after →
    Sequel lost a after (m' d')

namespace Follows

variable {lost : List UInt8} {α β : Type} {m m' : DecodeM α}

theorem result (a : α) : Follows lost α (pure a) (pure a) := by
  intro d d' b after shortens run
  cases run
  exact .ok shortens

theorem refusal (error : StreamError) : Follows lost α (throw error) (throw error) := by
  intro d d' a after _ run
  cases run

theorem malformed (m : DecodeM α) (oid : Oid) (fault : Fault) :
    Follows lost α m (Wire.malformed oid fault) :=
  fun _ _ _ _ _ _ => .error (.inl ⟨oid, fault, rfl⟩)

theorem sequence {k k' : α → DecodeM β} (first : Follows lost α m m')
    (second : ∀ a, Follows lost β (k a) (k' a)) : Follows lost β (m >>= k) (m' >>= k') := by
  intro d d' b after shortens run
  obtain ⟨a, between, ran, rest⟩ := DecodeM.bind_eq_ok_iff.1 run
  have sequel := first shortens ran
  generalize run' : m' d' = result at sequel
  cases sequel with
  | ok shortens =>
    rw [DecodeM.bind_of_ok run']
    exact second a shortens rest
  | error cutoff =>
    rw [DecodeM.bind_of_error run']
    exact .error cutoff

/-- Bytes that are taken are the same, or they reach into those that are missing. -/
theorem taken (op : String) (size : Nat) :
    Follows lost (List UInt8) (DecodeM.takeExact op size) (DecodeM.takeExact op size) := by
  intro d d' a after shortens run
  obtain ⟨⟨input, source, source'⟩, handlers, strict, extension⟩ := shortens
  unfold DecodeM.takeExact at run ⊢
  rw [source, Source.takeExact_slice] at run
  rw [source', Source.takeExact_slice]
  by_cases short : input.length < size
  · rw [if_pos short]
    refine .error (.inr ⟨fun none => ?_, rfl⟩)
    rw [none, List.append_nil, if_pos short] at run
    cases run
  · have enough : ¬ (input ++ lost).length < size := by
      rw [List.length_append]
      omega
    rw [if_neg enough, List.take_append_of_le_length (Nat.le_of_not_lt short),
      List.drop_append_of_le_length (Nat.le_of_not_lt short)] at run
    rw [if_neg short]
    cases run
    exact .ok ⟨⟨_, rfl, rfl⟩, handlers, strict, extension⟩

/-- Where the first decoder is not at its end, the second one goes on or misses a value. -/
theorem guarded (oid : Oid) (fault : Fault) (h : Follows lost α m m') : Follows lost α
    (do
      if ← DecodeM.atEnd then Wire.malformed oid fault
      m)
    (do
      if ← DecodeM.atEnd then Wire.malformed oid fault
      m') := by
  intro d d' a after shortens run
  obtain ⟨input, source, source'⟩ := shortens.source
  rw [DecodeM.bind_of_ok (DecodeM.atEnd_slice source)] at run
  rw [DecodeM.bind_of_ok (DecodeM.atEnd_slice source')]
  cases input with
  | nil => exact .error (.inl ⟨oid, fault, rfl⟩)
  | cons byte input => exact h shortens run

theorem congruence : DecodeM.Congruence (Follows lost) where
  result := result
  refusal := refusal
  sequence := sequence
  taken := taken
  guarded := fun oid fault _ _ => guarded oid fault

/-- Chunks are read alike however many may be read at most, since too many are malformed. -/
theorem readChunks {chunk chunk' : Nat → DecodeM (List α)}
    (h : ∀ n, Follows lost (List α) (chunk n) (chunk' n)) (oid : Oid) (before : List (List α))
    (fuel fuel' : Nat) : Follows lost (List α) (DecodeM.readChunks oid chunk before fuel)
      (DecodeM.readChunks oid chunk' before fuel') := by
  induction fuel' generalizing fuel before with
  | zero => exact malformed _ oid .missingTerminator
  | succ fuel' ih =>
    cases fuel with
    | zero => exact fun d d' a after _ run => nomatch run
    | succ fuel =>
      apply sequence (congruence.readChunkLength oid)
      intro count
      cases count with
      | zero => exact result _
      | succ count => exact sequence (h _) fun items => ih (items :: before) fuel

theorem itemCongruence : DecodeM.ItemCongruence (Follows lost) where
  toCongruence := congruence
  chunked oid _ _ related := fun d d' _ _ shortens run =>
    readChunks related oid [] (d.source.size + 1) (d'.source.size + 1) shortens run

/-- A step that passes on the error of an attempt. -/
theorem attempted {k k' : Except StreamError α → DecodeM β} (first : Follows lost α m m')
    (passes : ∀ error, k (.error error) = throw error)
    (passes' : ∀ error, k' (.error error) = throw error)
    (second : ∀ a, Follows lost β (k (.ok a)) (k' (.ok a))) :
    Follows lost β (DecodeM.attempt m >>= k) (DecodeM.attempt m' >>= k') := by
  intro d d' b after shortens run
  obtain ⟨a, between, ran, rest⟩ := DecodeM.attempt_bind_eq_ok passes run
  have sequel := first shortens ran
  generalize run' : m' d' = result at sequel
  cases sequel with
  | ok shortens =>
    rw [DecodeM.bind_of_ok (DecodeM.attempt_of_ok run')]
    exact second a shortens rest
  | @error error after' cutoff =>
    have failed : DecodeM.attempt m' d' = .ok (.error error) after' := by
      rw [DecodeM.attempt, run']
    rw [DecodeM.bind_of_ok failed, passes']
    exact .error cutoff

/-- A bracket that both decoders enter and leave as shortened ones. -/
theorem bracketed {enter leave enter' leave' : Decoder → Decoder} {d d' : Decoder} {a : α}
    {after : Decoder} (h : Follows lost α m m') (entering : (enter d).Shortens lost (enter' d'))
    (leaving : ∀ d d' : Decoder, d.Shortens lost d' → (leave d).Shortens lost (leave' d'))
    (run : DecodeM.bracketed enter leave m d = .ok a after) :
    Sequel lost a after (DecodeM.bracketed enter' leave' m' d') := by
  unfold DecodeM.bracketed at run ⊢
  split at run <;> cases run
  case h_1 between ran =>
  have sequel := h entering ran
  generalize m' (enter' d') = result at sequel
  cases sequel with
  | ok shortens => exact .ok (leaving _ _ shortens)
  | error cutoff => exact .error cutoff

/-! ## Values -/

section

variable {element element' : Oid → DecodeM Value}
  (h : ∀ parent, Follows lost Value (element parent) (element' parent))

include h

/-- A handler that passes errors on follows itself. -/
theorem runPlan {plan : ReadPlan α} (strict : plan.Strict) :
    Follows lost α (DecodeM.runPlan element plan) (DecodeM.runPlan element' plan) := by
  -- What is behind an attempt that failed passes the error on.
  have passed (element : Oid → DecodeM Value) {γ : Type} {next : Except StreamError γ → ReadPlan α}
      (passes : ∀ error, next (.error error) = .refuse error) (error : StreamError) :
      DecodeM.runPlan element (next (.error error)) = throw error := by
    rw [passes error]
    rfl
  induction strict with
  | done => exact result _
  | refuse => exact refusal _
  | takeExact passes _ ih => exact attempted (taken _ _) (passed _ passes) (passed _ passes) ih
  | value passes _ ih =>
    intro d d' a after shortens run
    rw [DecodeM.runPlan, DecodeM.get_bind] at run ⊢
    rw [shortens.extension]
    exact attempted (h d.extension) (passed _ passes) (passed _ passes) ih shortens run

theorem readExtension (oid : Oid) : Follows lost Value (DecodeM.readExtension element oid)
    (DecodeM.readExtension element' oid) := by
  intro d d' v after shortens run
  cases registered : d.registry.reader? oid with
  | none =>
    rw [DecodeM.readExtension, DecodeM.get_bind, registered] at run
    cases run
  | some reader =>
    have handled : d.scope.handlers oid = some (reader d.options) :=
      Option.map_eq_some_iff.2 ⟨reader, registered, rfl⟩
    have strict := shortens.strict oid _ handled
    rw [← shortens.handlers] at handled
    obtain ⟨reader', registered', same⟩ := Option.map_eq_some_iff.1 handled
    rw [DecodeM.readExtension_of_registered registered] at run
    rw [DecodeM.readExtension_of_registered registered', same]
    refine bracketed (runPlan h strict) ?_ (fun e e' inside => ?_) run
    · exact ⟨shortens.source, shortens.handlers, shortens.strict, rfl⟩
    · exact ⟨inside.source, inside.handlers, inside.strict, shortens.extension⟩

end

/-- Values are read alike with any number of levels, since one level too many is malformed. -/
theorem decodeNested (levels levels' : Nat) (parent oid : Oid) :
    Follows lost Value (DecodeM.decodeNested levels parent oid)
      (DecodeM.decodeNested levels' parent oid) := by
  induction levels' generalizing levels parent oid with
  | zero => exact fun _ _ _ _ _ _ => .error (.inl ⟨parent, _, rfl⟩)
  | succ levels' ih =>
    intro d d' v after shortens run
    cases levels with
    | zero => cases run
    | succ levels =>
      have inside := itemCongruence.readElement (ih levels)
      have body := itemCongruence.readBody inside (readExtension inside) oid
      rw [DecodeM.decodeNested_succ, DecodeM.nested_eq] at run ⊢
      split at run
      · cases run
      · split
        · exact .error (.inl ⟨parent, _, rfl⟩)
        · have deeper : Decoder.Shortens lost { d with depth := d.depth + 1 }
              { d' with depth := d'.depth + 1 } :=
            ⟨shortens.source, shortens.handlers, shortens.strict, shortens.extension⟩
          refine bracketed body deeper (fun e e' inside => ?_) run
          exact ⟨inside.source, inside.handlers, inside.strict, inside.extension⟩

/-- The next value of a byte string follows, as long as some of its bytes are there. -/
theorem decode {d d' after : Decoder} {v : Value} (shortens : d.Shortens lost d')
    (present : d'.source ≠ .slice []) (run : DecodeM.decode d = .ok (some v) after) :
    Sequel lost (some v) after (DecodeM.decode d') := by
  obtain ⟨input, source, source'⟩ := shortens.source
  cases input with
  | nil => exact absurd source' present
  | cons byte input =>
    rw [DecodeM.decode_of_present source] at run
    rw [DecodeM.decode_of_present source']
    exact sequence congruence.readUInt16
      (fun oid => congruence.mapped (decodeNested _ _ oid oid) some) shortens run

end Follows

end TaggedStream
