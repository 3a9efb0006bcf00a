import TaggedStream.Proofs.Writing

/-!
Settling and writing.

The two phases of the encoder as two functions on values. `settle` decides what must be decided
before a value is written, and returns a copy in which that is done: deferred values are replaced by
ones that are there, and objects that nothing can write by placeholders. `encodeValue` writes such a
copy. It could wait for deferred values by itself, but `settle` goes down as far as it does, so it
never comes to one that is not there already: what it would do then makes no difference.
-/

namespace TaggedStream

namespace EncodeM

/-- The copy of a value in which all is decided that must be before a byte is written. Notes that
are not to be saved end the copy: the value below them is settled by itself. -/
def settle : (fuel : ℕ) → Value → EncodeM Value
  | 0, _ => endless
  | fuel + 1, .future d => do return .future (.ready none (← settle fuel (← resolve d)))
  | fuel + 1, .annotated inner notes => do
    if (← settings).saveMeta then return .annotated (← settle fuel inner) notes
    else return .annotated inner notes
  | _ + 1, .object o => do
    match (← get).registry.writer? o.type with
    | some _ => return .object o
    | none => return .unsupported (← placeholderOf o)
  | _ + 1, .time t => do
    refuseLeapSecond .time t
    return .time t
  | _ + 1, .offsetTime t => do
    refuseLeapSecond .offsetTime t.time
    return .offsetTime t
  | _ + 1, v => return v

/-- Writes a copy that is settled. The values inside are settled before they are written, each by
itself. For a deferred value that is not there, `ask` is asked. -/
def encodeValue (ask : (cell : ℕ) → EncodeM Value) : (fuel : ℕ) → Setting → Value → EncodeM Unit
  | 0, _, _ => endless
  | fuel + 1, setting, v =>
    let item (v : Value) : EncodeM Unit := do
      let setting := (← get).setting
      encodeValue ask fuel setting (← settle fuel v)
    match v with
    | .future (.ready _ v) => do
      tagged .future
      encodeValue ask fuel setting v
    | .future (.shared cell) => do
      let v ← ask cell
      tagged .future
      encodeValue ask fuel setting v
    | .annotated inner notes =>
      if setting.options.saveMeta then do
        tagged .annotated
        writeMap item notes
        encodeValue ask fuel setting inner
      else item inner
    | .object o =>
      match setting.registry.writer? o.type with
      | some writer => do runPlan item (writer (← settings) o)
      | none => do writePlaceholder (← placeholderOf o)
    | .time t => do
      tagged .time
      Wire.writeNanoOfDay t
    | .offsetTime t => do
      tagged .offsetTime
      Wire.writeNanoOfDay t.time
      Wire.writeOffset t.offset
    -- nothing else is decided before it is written
    | v => inTurn (prepareAbove fun v => return item v) v

/-- Settles a value and writes it. -/
def encodeSettled (ask : (cell : ℕ) → EncodeM Value) (fuel : ℕ) (v : Value) : EncodeM Unit := do
  let setting := (← get).setting
  encodeValue ask fuel setting (← settle fuel v)

variable {ask : (cell : ℕ) → EncodeM Value} {e after : Encoder}

/-- Waiting changes nothing but the cells. -/
theorem resolve_eq_ok {d : Deferred Value} {v : Value} (run : resolve d e = .ok v after) :
    (e.store.resolve e.options.derefTimeout d).1 = .ok v ∧
      after = { e with store := (e.store.resolve e.options.derefTimeout d).2 } := by
  have step : onStore (Store.resolve e.options.derefTimeout d) e =
      .ok (e.store.resolve e.options.derefTimeout d).1
        { e with store := (e.store.resolve e.options.derefTimeout d).2 } := rfl
  rw [resolve, settings_bind, bind_of_ok step] at run
  cases came : (e.store.resolve e.options.derefTimeout d).1 with
  | ok u =>
    rw [came] at run
    cases run
    exact ⟨rfl, rfl⟩
  | error failure =>
    rw [came] at run
    cases run

/-- The first phase settles a value. The second one is what is written of the copy. -/
theorem inTurn_of_settle {fuel : ℕ}
    (phases : ∀ v e, prepare fuel v e =
      (settle fuel v >>= fun w => pure (encodeValue ask fuel e.setting w)) e) :
    inTurn (prepare fuel) = encodeSettled ask fuel := by
  funext v e
  cases run : settle fuel v e with
  | ok w after =>
    have prepared : prepare fuel v e = .ok (encodeValue ask fuel e.setting w) after := by
      rw [phases, bind_of_ok run]
      rfl
    rw [inTurn, bind_of_ok prepared, encodeSettled, get_bind, bind_of_ok run]
  | error halt after =>
    have prepared : prepare fuel v e = .error halt after := by rw [phases, bind_of_error run]
    rw [inTurn, bind_of_error prepared, encodeSettled, get_bind, bind_of_error run]

/-- What `ask` does makes no difference: deferred values are there before they are written. -/
theorem prepare_eq (ask : (cell : ℕ) → EncodeM Value) (fuel : ℕ) (v : Value) (e : Encoder) :
    prepare fuel v e =
      (settle fuel v >>= fun w => pure (encodeValue ask fuel e.setting w)) e := by
  induction fuel generalizing v e with
  | zero => rfl
  | succ fuel ih =>
    have item := inTurn_of_settle ih
    cases v with
    | future d =>
      rw [prepare, prepareAbove, settle, bind_assoc]
      cases run : resolve d e with
      | error halt after => rw [bind_of_error run, bind_of_error run]
      | ok u between =>
        have same : between.setting = e.setting := by
          rw [(resolve_eq_ok run).2]
          rfl
        rw [bind_of_ok run, bind_of_ok run, ← same, bind_assoc]
        cases settled : settle fuel u between with
        | ok w after =>
          have prepared : prepare fuel u between = _ := (ih u between).trans (bind_of_ok settled)
          rw [bind_of_ok prepared, bind_of_ok settled]
          rfl
        | error halt after =>
          have prepared : prepare fuel u between = _ := (ih u between).trans (bind_of_error settled)
          rw [bind_of_error prepared, bind_of_error settled]
    | annotated inner notes =>
      rw [prepare, prepareAbove, settle, bind_assoc, settings_bind, settings_bind]
      by_cases saves : e.options.saveMeta = true
      · have second (w : Value) : encodeValue ask (fuel + 1) e.setting (.annotated w notes) =
            (do
              tagged .annotated
              writeMap (inTurn (prepare fuel)) notes
              encodeValue ask fuel e.setting w) := by
          rw [item]
          exact if_pos saves
        rw [if_pos saves, if_pos saves, bind_assoc]
        cases settled : settle fuel inner e with
        | ok w after =>
          have prepared : prepare fuel inner e = _ := (ih inner e).trans (bind_of_ok settled)
          rw [bind_of_ok prepared, bind_of_ok settled, pure_bind, second]
        | error halt after =>
          have prepared : prepare fuel inner e = _ := (ih inner e).trans (bind_of_error settled)
          rw [bind_of_error prepared, bind_of_error settled]
      · have second : encodeValue ask (fuel + 1) e.setting (.annotated inner notes) =
            inTurn (prepare fuel) inner := by
          rw [item]
          exact if_neg saves
        rw [if_neg saves, if_neg saves, pure_bind, second]
    | object o =>
      rw [prepare, prepareAbove, settle, bind_assoc, get_bind, get_bind]
      cases known : e.registry.writer? o.type with
      | some writer =>
        have second : encodeValue ask (fuel + 1) e.setting (.object o) =
            (do runPlan (inTurn (prepare fuel)) (writer (← settings) o)) := by
          have found : e.setting.registry.writer? o.type = some writer := known
          rw [item, encodeValue, found]
          rfl
        dsimp only
        rw [pure_bind, second]
      | none =>
        dsimp only
        rw [bind_assoc]
        rfl
    | time t | offsetTime t =>
      rw [prepare, prepareAbove, settle, bind_assoc]
      rfl
    | _ =>
      change _ = EStateM.Result.ok
        (inTurn (prepareAbove fun v => pure (encodeSettled ask fuel v)) _) e
      rw [← item]
      rfl

end EncodeM

end TaggedStream
