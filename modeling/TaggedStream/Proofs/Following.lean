import TaggedStream.Proofs.Walking

/-!
Encoders that follow a walk.

An encoder that writes a value goes the way of the walk: what it has still to write is what is ahead
in the walk, and its sequences have left what the walk says. So it comes to the end of the walk if
it is not refused, and if there is no object on the way that nothing writes, it is not refused
because of one.
-/

namespace TaggedStream

/-! ## Where a walk has come -/

namespace Walk

/-- What sequences that are being written have left now, and what they will have left in the end. -/
abbrev Held := ℕ → Option (ItemSource × ItemSource)

/-- Sequences have left what a walk says, if they lead to a change. In the middle of a sequence the
walk has already gone through all that will be drawn from it. -/
structure Fits (e : Encoder) (live : ℕ → Bool) (held : Held) (cells : ℕ → ItemSource)
    (store : Store) : Prop where
  present {cell : ℕ} (touched : e.Touches live (.lazySeq cell)) :
    (store.sequences[cell]?).isSome = (e.store.sequences[cell]?).isSome
  free {cell : ℕ} (touched : e.Touches live (.lazySeq cell))
    (idle : store.sequenceIsBusy cell = false) : cells cell = store.source cell
  begun {cell : ℕ} {now final : ItemSource} (touched : e.Touches live (.lazySeq cell))
    (there : (e.store.sequences[cell]?).isSome = true) (begun : held cell = some (now, final)) :
    store.source cell = now ∧ cells cell = final ∧ store.sequenceIsBusy cell = true

namespace Fits

variable {e : Encoder} {live : ℕ → Bool} {held : Held} {cells : ℕ → ItemSource}
  {store store' : Store} {cell : ℕ}

theorem congr (fits : Fits e live held cells store)
    (same : ∀ cell, e.Touches live (.lazySeq cell) →
      store'.sequences[cell]? = store.sequences[cell]?) : Fits e live held cells store' := by
  refine ⟨fun {cell} touched => ?_, fun {cell} touched idle => ?_,
    fun {cell now final} touched there begun => ?_⟩
  · rw [same cell touched]
    exact fits.present touched
  · obtain ⟨source, busy⟩ := Store.source_congr (same cell touched)
    rw [source]
    exact fits.free touched (busy ▸ idle)
  · obtain ⟨source, busy⟩ := Store.source_congr (same cell touched)
    rw [source, busy]
    exact fits.begun touched there begun

/-- What happens in one cell. -/
theorem update (fits : Fits e live held cells store)
    (others : ∀ other, cell ≠ other → store'.sequences[other]? = store.sequences[other]?)
    (present : (store'.sequences[cell]?).isSome = (store.sequences[cell]?).isSome)
    {left : ItemSource} {hold : Option (ItemSource × ItemSource)}
    (free : store'.sequenceIsBusy cell = false → left = store'.source cell)
    (begun : (e.store.sequences[cell]?).isSome = true → ∀ now final, hold = some (now, final) →
      store'.source cell = now ∧ left = final ∧ store'.sequenceIsBusy cell = true) :
    Fits e live (Function.update held cell hold) (Function.update cells cell left) store' := by
  refine ⟨fun {other} touched => ?_, fun {other} touched idle => ?_,
    fun {other now final} touched there holds => ?_⟩
  · by_cases same : cell = other
    · subst same
      exact present.trans (fits.present touched)
    · rw [others other same]
      exact fits.present touched
  · by_cases same : cell = other
    · subst same
      rw [Function.update_self]
      exact free idle
    · obtain ⟨source, busy⟩ := Store.source_congr (others other same)
      rw [Function.update_of_ne (Ne.symm same), source]
      exact fits.free touched (busy ▸ idle)
  · by_cases same : cell = other
    · subst same
      rw [Function.update_self] at holds ⊢
      exact begun there now final holds
    · obtain ⟨source, busy⟩ := Store.source_congr (others other same)
      rw [Function.update_of_ne (Ne.symm same)] at holds ⊢
      rw [source, busy]
      exact fits.begun touched there holds

/-- In the middle of a sequence, or where there is none. -/
theorem now {now final : ItemSource} (fits : Fits e live held cells store)
    (touched : e.Touches live (.lazySeq cell)) (begun : held cell = some (now, final))
    (absent : e.store.sequences[cell]? = none → now = .listed [] ∧ final = .listed []) :
    store.source cell = now ∧ cells cell = final ∧
      store.sequenceIsBusy cell = (e.store.sequences[cell]?).isSome := by
  cases there : e.store.sequences[cell]? with
  | none =>
    obtain ⟨rfl, rfl⟩ := absent there
    have none : store.sequences[cell]? = none := by
      rw [← Option.isNone_iff_eq_none, ← Option.not_isSome, fits.present touched, there]
      rfl
    have source := Store.source_of_none none
    have idle : store.sequenceIsBusy cell = false := by rw [Store.sequenceIsBusy, none]
    exact ⟨source, (fits.free touched idle).trans source, idle⟩
  | some s => exact fits.begun touched (by rw [there]; rfl) begun

end Fits

end Walk

namespace Encoder

/-- A walk through the root has come to what is ahead, and the sequences fit. -/
def Arrived (e : Encoder) (live : ℕ → Bool) (root : Value) (held : Walk.Held) (ahead : List Value)
    (store : Store) : Prop :=
  ∃ cells, e.Walks live root ⟨ahead, cells⟩ ∧ Walk.Fits e live held cells store

variable {e : Encoder} {live : ℕ → Bool} {root : Value} {held : Walk.Held} {ahead : List Value}
  {store store' : Store}

theorem Arrived.congr (arrived : e.Arrived live root held ahead store)
    (same : ∀ cell, e.Touches live (.lazySeq cell) →
      store'.sequences[cell]? = store.sequences[cell]?) :
    e.Arrived live root held ahead store' := by
  obtain ⟨cells, walks, fits⟩ := arrived
  exact ⟨cells, walks, fits.congr same⟩

/-- A step of the walk that leaves the sequences as they are. -/
theorem Arrived.step {behind : List Value} (arrived : e.Arrived live root held ahead store)
    (step : ∀ cells, e.Step live ⟨ahead, cells⟩ ⟨behind, cells⟩) :
    e.Arrived live root held behind store := by
  obtain ⟨cells, walks, fits⟩ := arrived
  exact ⟨cells, walks.tail (step cells), fits⟩

theorem Arrived.start (e : Encoder) (live : ℕ → Bool) (root : Value) :
    e.Arrived live root (fun _ => none) [root] e.store :=
  ⟨e.store.source, .refl, ⟨fun _ => rfl, fun _ _ => rfl, nofun⟩⟩

/-- The value leads to no sequence in which anything was replaced. -/
theorem not_touches {v : Value} (apart : ¬ e.Touches live v) (cell : ℕ)
    (leads : Leads e v (.lazySeq cell)) : live cell = false :=
  Bool.eq_false_iff.2 fun touched => apart ⟨cell, leads, touched⟩

theorem Touches.not_untouched {v : Value} (touched : e.Touches live v) :
    ¬ e.Untouched root live v := by
  obtain ⟨cell, leads, isLive⟩ := touched
  exact fun untouched => Bool.false_ne_true ((untouched.2 cell leads).symm.trans isLive)

end Encoder

/-! ## Relations that also say something about a store -/

section

variable {c : Comparison} {n : ℕ} {E : Encoder → Encoder → Prop} {P : Store → Prop}

theorem EncodeM.store_of_put {op : String} {slice : List UInt8} {e after : Encoder}
    (run : EncodeM.put op slice e = .ok () after) : after.store = e.store := by
  obtain ⟨output, registry, options, scratch, position, store⟩ := e
  rw [EncodeM.put] at run
  split at run <;> cases run
  rfl

/-- Nothing that is put changes a store. -/
theorem Footing.also (footing : Footing c E) : Footing c fun e e' => E e e' ∧ P e'.store where
  failed related := footing.failed related.1
  put op slice e e' related := by
    have both := footing.put op slice related.1
    generalize EncodeM.put op slice e = first at both ⊢
    generalize run : EncodeM.put op slice e' = second at both ⊢
    cases both with
    | ok results after => exact .ok results ⟨after, EncodeM.store_of_put run ▸ related.2⟩
    | refused failed => exact .refused failed
    | endless => exact .endless
  options related := footing.options related.1

theorem Lending.also (lending : Lending E) : Lending fun e e' => E e e' ∧ P e'.store where
  idle related := lending.idle related.1
  lent related clean clean' := ⟨lending.lent related.1 clean clean', related.2⟩

theorem Comparison.Bare.also (bare : c.Bare E) : c.Bare fun e e' => E e e' ∧ P e'.store :=
  ⟨bare.exact, fun related => bare.willing related.1, bare.left, bare.right⟩

/-- Encoders that are related in one of several ways. -/
theorem Footing.some {ι : Type} {p : ι → Prop} {F : ι → Encoder → Encoder → Prop}
    (footing : ∀ i, Footing c (F i)) : Footing c fun e e' => ∃ i, p i ∧ F i e e' where
  failed related := by
    obtain ⟨i, -, related⟩ := related
    exact (footing i).failed related
  put op slice e e' related := by
    obtain ⟨i, holds, related⟩ := related
    exact ((footing i).put op slice related).imp (fun _ _ related => ⟨i, holds, related⟩)
      fun _ _ => id
  options related := by
    obtain ⟨i, -, related⟩ := related
    exact (footing i).options related

theorem Lending.some {ι : Type} {p : ι → Prop} {F : ι → Encoder → Encoder → Prop}
    (lending : ∀ i, Lending (F i)) : Lending fun e e' => ∃ i, p i ∧ F i e e' where
  idle related := by
    obtain ⟨i, -, related⟩ := related
    exact (lending i).idle related
  lent related clean clean' := by
    obtain ⟨i, holds, related⟩ := related
    exact ⟨i, holds, (lending i).lent related clean clean'⟩

end

/-! ## Following a walk -/

namespace Encoder

variable {e : Encoder} {root : Value} {live : ℕ → Bool} {V : Value → Value → Prop}
  {pinned : Pinned} {n : ℕ}

/-- Encoders over cells that hold exchanged values, of which the second one follows a walk. -/
abbrev Heeding (e : Encoder) (root : Value) (live : ℕ → Bool) (V : Value → Value → Prop)
    (pinned : Pinned) (held : Walk.Held) (ahead : List Value) : Encoder → Encoder → Prop :=
  fun s s' => e.Exchanging root live V pinned s s' ∧ e.Arrived live root held ahead s'.store

/-- Deferred values are there or have failed, or else they lead to no sequence in which anything was
replaced. -/
def Resolved (e : Encoder) (live : ℕ → Bool) (root : Value) : Prop :=
  ∀ d, Leads e root (.future d) → (e.store.outcome? d).isSome = true ∨
    ∀ cell, Leads e (.future d) (.lazySeq cell) → live cell = false

namespace Heeding

variable (exchanges : e.Exchanges root V) (held : Walk.Held) (ahead : List Value)

theorem lending : Lending (e.Heeding root live V pinned held ahead) := Kin.lending.also

theorem bare : (Comparison.exchanged e root live V pinned).uneven →
    (Comparison.exchanged e root live V pinned).Bare (e.Heeding root live V pinned held ahead) :=
  fun lost => (Exchanging.bare lost).also

include exchanges

theorem footing : Footing (.exchanged e root live V pinned)
    (e.Heeding root live V pinned held ahead) :=
  exchanges.analogy.toFooting.also

/-- What is done alike while all cells that lead to a change stay as they are is done alike on the
way. -/
theorem aside {α : Type} {m : EncodeM α} {job : ℕ → EncodeM α}
    (apart : ∀ pinned, Tracks
      (.strict (e.Aloof root live) (e.sides e.options.append) pinned false) n
      (Kin (e.Aloof root live) (e.sides e.options.append) pinned) Eq
      (Kin (e.Aloof root live) (e.sides e.options.append) pinned) m job) :
    Tracks (.exchanged e root live V pinned) n (e.Heeding root live V pinned held ahead) Eq
      (e.Heeding root live V pinned held ahead) m job :=
  Exchanging.aside exchanges (P := fun s => e.Arrived live root held ahead s.store)
    (fun _ _ same arrived => arrived.congr fun cell touched => same cell touched.not_untouched)
    apart

/-- Asking for deferred values changes no sequence. -/
theorem asked {W : Value → Value → Prop} {d d' : Deferred Value}
    (ask : ∀ timeout {store store' : Store},
      Deferral.Evolved e.store.deferrals store.deferrals store'.deferrals →
      Outcome.Alike W (store.resolve timeout d).1 (store'.resolve timeout d').1 ∧
        Deferral.Evolved e.store.deferrals (store.resolve timeout d).2.deferrals
          (store'.resolve timeout d').2.deferrals) :
    Tracks (.exchanged e root live V pinned) n (e.Heeding root live V pinned held ahead) W
      (e.Heeding root live V pinned held ahead) (EncodeM.resolve d)
      fun _ => EncodeM.resolve d' := by
  have step (timeout : ℕ) : Tracks (.exchanged e root live V pinned) n
      (e.Heeding root live V pinned held ahead) (Outcome.Alike W)
      (e.Heeding root live V pinned held ahead) (EncodeM.onStore (Store.resolve timeout d))
      fun _ => EncodeM.onStore (Store.resolve timeout d') := by
    refine .steady fun s s' ⟨kin, arrived⟩ => ?_
    have both := ask timeout kin.store.deferrals
    have same := (Store.Kin.resolve_others s'.store timeout d').1
    exact .ok both.1 ⟨kin.restored (kin.store.resolved both.2),
      arrived.congr fun cell _ => congrArg (fun sequences => sequences[cell]?) same⟩
  refine (footing exchanges held ahead).settings fun options append => .bind (step _) ?_
  intro outcome outcome' alike
  cases alike with
  | ok related => exact .result related
  | error failure =>
    exact .refusal _ fun _ _ related => (footing exchanges held ahead).failed related

/-- Values that lead to no change are written alike on the way, and nothing of them is ahead. -/
theorem aloof (strict : e.options.encodeUnsupported = false) :
    Traversal (.exchanged e root live V pinned) (e.sides e.options.append)
      (e.Aloof root live).values
      (fun front : Walk.Held × List Value => e.Heeding root live V pinned front.1 front.2)
      (fun (_ : Unit) (_ : List Value) => e.Heeding root live V pinned held ahead) := by
  have encloses : Encloses e.options e.registry e.store (e.Untouched root live) :=
    encloses_untouched e root live
  have correspondence := Aloof.correspondence e root live
  constructor
  case footing => exact fun _ _ => footing exchanges held ahead
  case start => exact fun _ _ => ⟨(held, ahead), rfl⟩
  case failed => exact fun related => Kin.failed related.1
  case setting => exact fun related => ⟨related.1.setting, related.1.setting'⟩
  case bare => exact fun lost front => bare front.1 front.2 lost
  case lost => exact id
  case counterpart =>
    rintro _ v ⟨rfl, member⟩
    refine (encloses.counterpart (fun _ member => ⟨rfl, member⟩) (fun _ _ _ _ => rfl) member).imp
      id fun rest => ?_
    rcases rest with isAtom | ⟨o, rfl, unknown⟩
    · exact Straight.of_flat (fun _ => .atom isAtom) (fun _ _ _ related => Kin.failed related.1)
        (fun _ _ => footing exchanges held ahead) fun _ _ _ _ => id
    · exact Straight.of_excused fun _ levels _ _ related => related.1.excused unknown strict levels
  case opened => exact fun _ _ _ _ _ => id
  case asked =>
    rintro d d' ⟨same, member⟩
    obtain rfl : d' = d := Value.future.inj same
    refine .inr fun n front => (asked exchanges front.1 front.2 fun timeout _ _ evolved =>
      encloses.deferredAlike.asked member timeout evolved).results fun _ _ related =>
        ⟨related, fun _ _ _ _ => id⟩
  case throwable =>
    rintro t t' ⟨same, member⟩
    obtain rfl : t' = t := Value.throwable.inj same
    exact encloses.beside (fun _ member => ⟨rfl, member⟩) member
  case byteStream =>
    intro cell shared n _ _
    exact aside exchanges held ahead fun pinned => (correspondence pinned).writeByteStream shared
  case lazySeq =>
    intro cell shared n _ _ _
    exact aside exchanges held ahead fun pinned =>
      (correspondence pinned).writeLazySeq
        (fun _ _ related => (correspondence pinned).tracked related) shared
  case plan =>
    intro o plan shared planned inside n _ _ _
    obtain ⟨writer, known, rfl, -⟩ := planned
    exact aside exchanges held ahead (Aloof.runPlan (fun v mentions =>
      encloses shared.2 (.handled known mentions)) n)

/-! ## Sequences on the way -/

/-- In the middle of a sequence: at most `limit` items may still be drawn from it, and those that
were drawn but not written come first. -/
def Drawing (e : Encoder) (root : Value) (live : ℕ → Bool) (V : Value → Value → Prop)
    (pinned : Pinned) (held : Walk.Held) (cell : ℕ) (ahead : List Value) (limit : ℕ)
    (drawn : List Value) : Encoder → Encoder → Prop :=
  fun s s' => ∃ now, (e.store.sequences[cell]? = none → now = .listed []) ∧
    e.Heeding root live V pinned (Function.update held cell (some (now, (now.firsts limit).2)))
      (drawn ++ ((now.firsts limit).1 ++ ahead)) s s'

variable {write : Value → EncodeM Unit} {writes : ℕ → Value → EncodeM Unit}
  (item : ∀ held, Procession (.exchanged e root live V pinned) n V
    (e.Heeding root live V pinned held) write writes)
  {cell : ℕ} (shared : V (.lazySeq cell) (.lazySeq cell))
  (touched : e.Touches live (.lazySeq cell))

include item shared touched in
/-- What is drawn was ahead. -/
theorem drafting : Drafting (.exchanged e root live V pinned) n V cell
    (Drawing e root live V pinned held cell ahead) write writes := by
  constructor
  case procession =>
    refine fun limit => ⟨fun drawn => .some fun now => footing exchanges _ _, ?_⟩
    rintro v w drawn related s s' ⟨now, absent, heeding⟩
    exact ((item _).item v w _ related).imp (fun _ _ => id)
      (fun _ _ heeding => ⟨now, absent, heeding⟩) s s' heeding
  case draw =>
    rintro limit drawn s s' ⟨now, absent, kin, cells, walks, fits⟩
    obtain ⟨items, after⟩ := kin.store.draw exchanges.lawful ⟨shared, id⟩
    refine ⟨items, ?_⟩
    obtain ⟨source, final, busy⟩ := fits.now touched (Function.update_self ..) fun lacking => by
      rw [absent lacking, ItemSource.firsts_empty]
      exact ⟨rfl, rfl⟩
    obtain ⟨drew, left, marked, present⟩ := s'.store.draw_self cell
    rw [source] at drew left
    have gone (lacking : e.store.sequences[cell]? = none) : now.draw = (none, .listed []) := by
      rw [absent lacking]
      rfl
    have ends (idle : (s'.store.draw cell).2.sequenceIsBusy cell = false) :
        (now.firsts (limit + 1)).2 = (s'.store.draw cell).2.source cell := by
      rw [marked, busy, Option.isSome_eq_false_iff, Option.isNone_iff_eq_none] at idle
      rw [left, gone idle, absent idle]
      rfl
    have fits : Walk.Fits e live
        (Function.update (Function.update held cell _) cell
          (some (now.draw.2, (now.firsts (limit + 1)).2)))
        (Function.update cells cell (now.firsts (limit + 1)).2) (s'.store.draw cell).2 :=
      fits.update (fun other ne => s'.store.getElem?_draw_ne ne) present ends
        fun there _ _ same => by
          cases same
          exact ⟨left, rfl, marked.trans (busy.trans there)⟩
    rw [Function.update_idem, ← final, Function.update_eq_self, final] at fits
    rw [drew]
    cases pair : now.draw with
    | mk item rest =>
      rw [pair] at fits
      refine ⟨rest, fun lacking => (Prod.mk.inj (pair.symm.trans (gone lacking))).2,
        kin.restored after, cells, ?_⟩
      cases item with
      | none =>
        rw [ItemSource.firsts_of_none pair] at walks fits
        rw [Option.toList_none, List.append_nil]
        exact ⟨walks, fits⟩
      | some v =>
        rw [ItemSource.firsts_of_some pair] at walks fits
        rw [if_pos (Option.isSome_some), Option.toList_some, List.append_assoc]
        exact ⟨walks, fits⟩

include shared touched in
/-- As many items are drawn as the walk says, if there is an end. -/
theorem drawLimit {now final : ItemSource}
    (absent : e.store.sequences[cell]? = none → now = .listed [] ∧ final = .listed []) :
    Tracks (.exchanged e root live V pinned) n
      (e.Heeding root live V pinned (Function.update held cell (some (now, final))) ahead)
      (fun limit limit' => limit' = limit ∧ limit = now.limit e.options)
      (e.Heeding root live V pinned (Function.update held cell (some (now, final))) ahead)
      (EncodeM.drawLimit cell) fun _ => EncodeM.drawLimit cell := by
  refine .steady fun s s' ⟨kin, cells, walks, fits⟩ => ?_
  have size : s'.store.size? cell = now.size? := by
    rw [Store.size?_eq, (fits.now touched (Function.update_self ..) absent).1]
  have size' : s.store.size? cell = now.size? :=
    (kin.store.size_eq exchanges.lawful ⟨shared, id⟩).symm.trans size
  have options : s.options = e.options := congrArg Setting.options kin.setting
  have options' : s'.options = e.options := congrArg Setting.options kin.setting'
  rw [EncodeM.drawLimit_eq, EncodeM.drawLimit_eq, options, options', size, size']
  cases limited : (e.options.uncountableMaxItems <|> now.size?) with
  | none => exact .endless
  | some limit =>
    refine .ok ⟨rfl, ?_⟩ ⟨kin, cells, walks, fits⟩
    rw [ItemSource.limit, limited, Option.getD_some]

include item shared touched in
/-- The items of a sequence are ahead while it is written, and then it has left what the walk says.
-/
theorem writeUncountable (oid : Oid) {now : ItemSource}
    (absent : e.store.sequences[cell]? = none → now = .listed []) :
    Tracks (.exchanged e root live V pinned) n
      (e.Heeding root live V pinned
        (Function.update held cell (some (now, (now.firsts (now.limit e.options)).2)))
        ((now.firsts (now.limit e.options)).1 ++ ahead))
      Eq (Drawing e root live V pinned held cell ahead 0 [])
      (EncodeM.writeUncountable write oid cell)
      fun levels => EncodeM.writeUncountable (writes levels) oid cell := by
  have absent' (lacking : e.store.sequences[cell]? = none) :
      now = .listed [] ∧ (now.firsts (now.limit e.options)).2 = .listed [] := by
    rw [absent lacking, ItemSource.firsts_empty]
    exact ⟨rfl, rfl⟩
  refine (drafting exchanges held ahead item shared touched).writeUncountable
    (footing exchanges _ _) (lending _ _) (.some fun _ => lending _ _) exchanges.analogy.lending
    ((drawLimit exchanges _ _ shared touched absent').results ?_) oid
  rintro limit _ ⟨rfl, rfl⟩
  exact ⟨rfl, fun _ _ heeding => ⟨now, absent, heeding⟩⟩

omit exchanges in
include touched in
/-- Before a sequence is written, the walk goes through what will be drawn. -/
theorem begins {s s' : Encoder}
    (heeding : e.Heeding root live V pinned held (.lazySeq cell :: ahead) s s')
    (idle : s'.store.sequenceIsBusy cell = false) :
    let now := s'.store.source cell
    (e.store.sequences[cell]? = none → now = .listed []) ∧
      ((e.store.sequences[cell]?).isSome = true → held cell = none) ∧
      e.Arrived live root
        (Function.update held cell (some (now, (now.firsts (now.limit e.options)).2)))
        ((now.firsts (now.limit e.options)).1 ++ ahead) (s'.store.markSequence cell true) := by
  intro now
  obtain ⟨-, cells, walks, fits⟩ := heeding
  have free : cells cell = now := fits.free touched idle
  obtain ⟨source, marked, present⟩ := s'.store.mark_self cell true
  have absent (lacking : e.store.sequences[cell]? = none) : now = .listed [] := by
    have same := fits.present touched
    rw [lacking, Option.isSome_none, Option.isSome_eq_false_iff, Option.isNone_iff_eq_none] at same
    exact Store.source_of_none same
  have walks : e.Walks live root _ := walks.tail (Step.drawn touched)
  rw [free] at walks
  refine ⟨absent, fun there => ?_, _, walks, ?_⟩
  · cases begun : held cell with
    | none => rfl
    | some pair =>
      have busy := (fits.begun touched there begun).2.2
      rw [idle] at busy
      cases busy
  · refine fits.update (fun other ne => s'.store.mark_other true ne) present (fun lacking => ?_)
      fun there _ _ same => ?_
    · rw [marked, Bool.and_true, fits.present touched, Option.isSome_eq_false_iff,
        Option.isNone_iff_eq_none] at lacking
      rw [source, absent lacking, ItemSource.firsts_empty]
      exact (absent lacking).symm
    · cases same
      rw [marked, fits.present touched, there]
      exact ⟨source, rfl, rfl⟩

omit exchanges in
include touched in
/-- When a sequence was written, it has left what the walk says. -/
theorem ends (vacant : (e.store.sequences[cell]?).isSome = true → held cell = none) {s s' : Encoder}
    (drawing : Drawing e root live V pinned held cell ahead 0 [] s s') :
    e.Arrived live root held ahead (s'.store.markSequence cell false) := by
  obtain ⟨now, absent, -, cells, walks, fits⟩ := drawing
  obtain ⟨source, final, -⟩ := fits.now touched (Function.update_self ..) fun lacking =>
    ⟨absent lacking, absent lacking⟩
  obtain ⟨same, marked, present⟩ := s'.store.mark_self cell false
  have fits : Walk.Fits e live (Function.update (Function.update held cell _) cell (held cell))
      (Function.update cells cell now) (s'.store.markSequence cell false) :=
    fits.update (fun other ne => s'.store.mark_other false ne) present
      (fun _ => (same.trans source).symm) fun there _ _ begun => by
        rw [vacant there] at begun
        cases begun
  have kept : Function.update cells cell now = cells := by
    have eq : cells cell = now := final
    rw [← eq, Function.update_eq_self]
  rw [Function.update_idem, Function.update_eq_self, kept] at fits
  exact ⟨cells, walks, fits⟩

include item shared touched in
/-- A sequence that leads to a change is written on the way, and all that is drawn was ahead. -/
theorem writeLazySeq : Tracks (.exchanged e root live V pinned) n
    (e.Heeding root live V pinned held (.lazySeq cell :: ahead)) Eq
    (e.Heeding root live V pinned held ahead) (EncodeM.writeLazySeq write cell)
    fun levels => EncodeM.writeLazySeq (writes levels) cell := by
  have marks (busy : Bool) (s : Encoder) :
      EncodeM.onStore (fun store => ((), store.markSequence cell busy)) s =
        .ok () { s with store := s.store.markSequence cell busy } := rfl
  refine .got fun s s' heeding => ?_
  have both := heeding.1.store.busy_eq exchanges.lawful ⟨shared, id⟩
  dsimp only
  rw [both]
  split
  next => exact Tracks.endless_bind s s' heeding
  next idle =>
    have idle : s'.store.sequenceIsBusy cell = false := both.trans (Bool.eq_false_iff.2 idle)
    obtain ⟨absent, vacant, arrived⟩ := begins held ahead touched heeding idle
    have marked := heeding.1.restored (heeding.1.store.mark exchanges.lawful ⟨shared, id⟩ true)
    refine Tracks.behind (marks true s) (.of_forall fun _ => marks true s') ?_
    refine (?_ : Tracks (.exchanged e root live V pinned) n (e.Heeding root live V pinned _ _) Eq
      (e.Heeding root live V pinned held ahead) _ _) _ _ ⟨marked, arrived⟩
    refine .attempt (writeUncountable exchanges held ahead item shared touched Tag.seq.code absent)
      ?_ ?_ ?_
    · rintro written _ rfl
      have unmarked : Tracks (.exchanged e root live V pinned) n
          (Drawing e root live V pinned held cell ahead 0 []) Eq
          (e.Heeding root live V pinned held ahead)
          (EncodeM.onStore fun store => ((), store.markSequence cell false))
          fun _ => EncodeM.onStore fun store => ((), store.markSequence cell false) := by
        refine .steady fun s s' drawing => ?_
        have arrived := ends held ahead touched vacant drawing
        obtain ⟨now, -, kin, -⟩ := drawing
        rw [marks, marks]
        exact .ok rfl ⟨kin.restored (kin.store.mark exchanges.lawful ⟨shared, id⟩ false), arrived⟩
      exact .bind unmarked fun _ _ _ => .bind (.result rfl) fun _ _ _ => .result rfl
    · intro error
      refine .bind (exchanges.analogy.marked_failed shared id false) fun _ _ _ => ?_
      exact .refusal_bind error fun _ _ => id
    · intro lenient error e
      exact lenient

end Heeding

/-! ## Steps of the walk -/

namespace Heeding

variable (exchanges : e.Exchanges root V) (held : Walk.Held) (ahead : List Value)

include exchanges

/-- A deferred value that comes, or does not, is a step of the walk. -/
theorem came {d d' : Deferred Value} (deferred : V (.future d) (.future d'))
    (known : (e.store.outcome? d').isSome = true) :
    Tracks (.exchanged e root live V pinned) n (e.Heeding root live V pinned held ahead)
      (fun v w => V v w ∧ ∀ (held : Walk.Held) (ahead : List Value) (s s' : Encoder),
        e.Heeding root live V pinned held (.future d' :: ahead) s s' →
          e.Heeding root live V pinned held (w :: ahead) s s')
      (e.Heeding root live V pinned held ahead) (EncodeM.resolve d)
      fun _ => EncodeM.resolve d' := by
  refine asked exchanges held ahead fun timeout store store' evolved => ?_
  obtain ⟨alike, after⟩ := exchanges.asked deferred timeout evolved
  refine ⟨?_, after⟩
  have brings {v : Value} (brought : (store'.resolve timeout d').1 = .ok v) :
      e.store.outcome? d' = some (.ok v) :=
    Store.outcome?_of_resolve evolved.flip known brought
  generalize (store.resolve timeout d).1 = first, (store'.resolve timeout d').1 = second
    at alike brings
  cases alike with
  | ok related =>
    exact .ok ⟨related, fun _ _ _ _ heeding =>
      ⟨heeding.1, heeding.2.step fun _ => .came (brings rfl)⟩⟩
  | error failure => exact .error failure

variable (item : ∀ held, Procession (.exchanged e root live V pinned) n V
  (e.Heeding root live V pinned held) (EncodeM.encodeWithin n) EncodeM.encodeWithin)

include item

/-- Writing a sequence is a step of the walk, whether or not it leads to a change. -/
theorem drawn {cell : ℕ} (shared : V (.lazySeq cell) (.lazySeq cell)) :
    Tracks (.exchanged e root live V pinned) n
      (e.Heeding root live V pinned held (.lazySeq cell :: ahead)) Eq
      (e.Heeding root live V pinned held ahead)
      (EncodeM.writeLazySeq (EncodeM.encodeWithin n) cell)
      fun levels => EncodeM.writeLazySeq (EncodeM.encodeWithin levels) cell := by
  by_cases touched : e.Touches live (.lazySeq cell)
  · exact writeLazySeq exchanges held ahead item shared touched
  · have untouched : e.Untouched root live (.lazySeq cell) :=
      ⟨exchanges.leads shared, not_touches touched⟩
    have correspondence := Aloof.correspondence e root live
    refine Tracks.imp (aside exchanges held ahead fun pinned =>
      (correspondence pinned).writeLazySeq
        (fun _ _ related => (correspondence pinned).tracked related) ⟨rfl, untouched⟩)
      (fun _ _ related => ⟨related.1, related.2.step fun _ => .untouched touched⟩) fun _ _ => id

/-- Calling a handler is a step of the walk: it passes on errors, or nothing that it writes leads to
a change. -/
theorem handled (careful : e.Careful live root) {o : HostObject Value} {writer : ObjectWriter}
    (leads : Leads e root (.object o)) (known : e.registry.writer? o.type = some writer)
    (inside : (writer e.options o).All fun v => V v v) :
    Tracks (.exchanged e root live V pinned) n
      (e.Heeding root live V pinned held (.object o :: ahead)) Eq
      (e.Heeding root live V pinned held ahead)
      (EncodeM.runPlan (EncodeM.encodeWithin n) (writer e.options o))
      fun levels => EncodeM.runPlan (EncodeM.encodeWithin levels) (writer e.options o) := by
  by_cases passes : (writer e.options o).Strict
  · exact ((item held).runPlan passes inside ahead).imp (fun _ _ related =>
      ⟨related.1, related.2.step fun _ => .handled known passes⟩) fun _ _ => id
  · have apart := (careful o writer leads known).resolve_left passes
    have untouched (v : Value) (mentions : (writer e.options o).Mentions v) :
        e.Untouched root live v :=
      ⟨leads.tail (.handled known mentions), apart v mentions⟩
    exact Tracks.imp (aside exchanges held ahead (Aloof.runPlan untouched n))
      (fun _ _ related => ⟨related.1, related.2.step fun _ => .unseen known passes⟩) fun _ _ => id

end Heeding

/-! ## Values with others in place of objects -/

/-- What stands in place of objects is refused as they are, or else none is met. -/
inductive Stops (e : Encoder) (live : ℕ → Bool) (root : Value) :
    (HostObject Value → Value) → Prop
  | refused : Stops e live root fun _ => refusedTime
  | unmet (unmet : ¬ e.Meets live root) : Stops e live root e.placeholder

variable {stand : HostObject Value → Value}

/-- Nothing is to be said where an object that nothing writes has its turn: what stands for it is
refused, or the encoder does not come there. -/
theorem Stops.straight (stops : e.Stops live root stand)
    (strict : e.options.encodeUnsupported = false) {o : HostObject Value}
    (unknown : e.registry.writer? o.type = none) :
    Straight (.exchanged e root live V pinned)
      (fun front : Walk.Held × List Value => e.Heeding root live V pinned front.1 front.2)
      (e.Heeding root live V pinned) (stand o) (.object o) := by
  cases stops with
  | refused =>
    exact Straight.of_excused fun _ levels _ _ _ =>
      excuses_of_refused strict rfl (fun _ => rfl) levels
  | unmet unmet =>
    intro n front held ahead pre pres pending
    cases n with
    | zero => exact .zero (fun _ => rfl) fun _ => rfl
    | succ n =>
      intro s s' heeding
      left
      change Comparison.Excuses _ ((pre >>= fun _ => EncodeM.writePlaceholder _) s)
      rcases pending.tracks s s' heeding with excused | ⟨result, matched, -⟩
      · exact excused.bind
      · generalize run : pre s = first at matched
        cases matched with
        | ok _ heeding =>
          obtain ⟨-, cells, walks, -⟩ := heeding
          exact absurd ⟨o, ahead, cells, walks, unknown⟩ unmet
        | refused =>
          rw [EncodeM.bind_of_error run]
          exact strict
        | endless =>
          rw [EncodeM.bind_of_error run]
          rfl

variable (pinned) in
/-- Values are written on the way as those are that replace them, until an object that nothing
writes is met. -/
theorem Heeding.traversal (strict : e.options.encodeUnsupported = false)
    (careful : e.Careful live root) (resolved : e.Resolved live root)
    (stops : e.Stops live root stand) :
    Traversal (.exchanged e root live (e.Restores root stand) pinned)
      (e.sides e.options.append) (e.Restores root stand)
      (fun front : Walk.Held × List Value =>
        e.Heeding root live (e.Restores root stand) pinned front.1 front.2)
      (e.Heeding root live (e.Restores root stand) pinned) := by
  have exchanges := Restores.exchanges e root stand
  constructor
  case footing => exact footing exchanges
  case start => exact fun held ahead => ⟨(held, ahead), rfl⟩
  case failed => exact fun related => Kin.failed related.1
  case setting => exact fun related => ⟨related.1.setting, related.1.setting'⟩
  case bare => exact fun lost front => bare front.1 front.2 lost
  case lost => exact id
  case counterpart =>
    intro w v related
    have uneven : e.options.saveMeta = false →
        (Comparison.exchanged e root live (e.Restores root stand) pinned).uneven := id
    rcases related.counterpart (fun _ _ => id) uneven with
      counterpart | ⟨isAtom, rfl⟩ | ⟨o, unknown, rfl, rfl | rfl⟩
    · exact .inl counterpart.flip
    · refine .inr (Straight.of_flat (fun _ => .atom isAtom)
        (fun _ _ _ related => Kin.failed related.1) (footing exchanges) ?_)
      exact fun _ _ _ _ related => ⟨related.1, related.2.step fun _ => .atom isAtom⟩
    · exact .inr (Straight.of_excused fun _ levels _ _ related =>
        related.1.excused unknown strict levels)
    · exact .inr (stops.straight strict unknown)
  case opened =>
    exact fun plain _ _ _ _ related => ⟨related.1, related.2.step fun _ => .inside plain⟩
  case asked =>
    intro d d' deferred
    cases known : e.store.outcome? d' with
    | none =>
      -- Nothing of it was replaced, and nothing in it is ahead.
      left
      have unknown (v : Value) : e.store.outcome? d' ≠ some (.ok v) := by simp [known]
      obtain rfl : d = d' := deferred.eq_of_unknown unknown
      have apart := (resolved d deferred.1).resolve_left (by simp [known])
      intro n front held ahead pre pres pending
      exact (aloof exchanges held ahead strict).pended ⟨rfl, deferred.1, apart⟩ front () []
        (pending.imp fun _ _ related => ⟨related.1, related.2.step fun _ => .missing unknown⟩)
    | some outcome =>
      exact .inr fun n front => came exchanges front.1 front.2 deferred (by simp [known])
  case throwable => exact exchanges.beside
  case byteStream =>
    intro cell shared n held ahead
    have untouched : e.Untouched root live (.byteStream cell) := by
      refine ⟨shared.1, fun other leads => ?_⟩
      rcases leads.cases_head with same | ⟨_, part, -⟩
      · cases same
      · cases part
    exact aside exchanges held ahead fun pinned =>
      (Aloof.correspondence e root live pinned).writeByteStream ⟨rfl, untouched⟩
  case lazySeq =>
    exact fun shared _ item held ahead => drawn exchanges held ahead item shared
  case plan =>
    rintro o plan shared ⟨writer, known, rfl, -⟩ inside n item held ahead
    exact handled exchanges held ahead item careful shared.1 known inside

end Encoder

end TaggedStream
