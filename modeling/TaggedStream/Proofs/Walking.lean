import TaggedStream.Proofs.Exchange

/-!
Walks through what is to be written.

A walk goes through a value in the order in which it is written, and through nothing else: not
through notes that are not saved, nor through items beyond those that the settings allow. Sequences
are used up on the way, so if one is reached a second time the walk goes on where it stopped. Of
handlers it is only known what they write if they pass errors on. The others are not looked into,
and neither are sequences that nothing was replaced in.
-/

namespace TaggedStream

/-! ## Sources -/

/-- What a sequence has left. A number without a cell stands for a source that is used up. -/
def Store.source (store : Store) (cell : ℕ) : ItemSource :=
  (store.sequences[cell]?).elim (.listed []) fun s => s.source

namespace ItemSource

/-- The items that are drawn one after another, `most` at most, and what is left then. -/
def firsts (source : ItemSource) : (most : ℕ) → List Value × ItemSource
  | 0 => ([], source)
  | most + 1 =>
    match source.draw with
    | (none, left) => ([], left)
    | (some v, left) => (v :: (left.firsts most).1, (left.firsts most).2)

/-- How many items are written: as many as the settings allow, or all of them. Those of a source
without end never are. -/
def limit (options : Options) (source : ItemSource) : ℕ :=
  (options.uncountableMaxItems <|> source.size?).getD 0

/-- Nothing is drawn from a source that is used up. -/
theorem firsts_empty (most : ℕ) : firsts (.listed []) most = ([], .listed []) := by
  cases most <;> rfl

theorem firsts_of_none {source left : ItemSource} (drew : source.draw = (none, left)) (most : ℕ) :
    source.firsts (most + 1) = ([], left) := by
  rw [firsts, drew]

theorem firsts_of_some {source left : ItemSource} {v : Value} (drew : source.draw = (some v, left))
    (most : ℕ) : source.firsts (most + 1) = (v :: (left.firsts most).1, (left.firsts most).2) := by
  rw [firsts, drew]

end ItemSource

/-- As many items are drawn as may be, if there is an end. -/
theorem EncodeM.drawLimit_eq (cell : ℕ) (e : Encoder) : drawLimit cell e =
    match e.options.uncountableMaxItems <|> e.store.size? cell with
    | some limit => .ok limit e
    | none => .error .endless e := by
  have sized : onStore (fun store => (store.size? cell, store)) e =
      .ok (e.store.size? cell) e := rfl
  rw [drawLimit, settings_bind, bind_of_ok sized]
  cases e.options.uncountableMaxItems with
  | none => cases e.store.size? cell <;> rfl
  | some most => rfl

namespace Store

variable {store : Store} {cell other : ℕ}

theorem source_of_none (absent : store.sequences[cell]? = none) :
    store.source cell = .listed [] := by
  rw [source, absent]
  rfl

theorem source_congr {store' : Store}
    (same : store'.sequences[other]? = store.sequences[other]?) :
    store'.source other = store.source other ∧
      store'.sequenceIsBusy other = store.sequenceIsBusy other := by
  rw [source, source, sequenceIsBusy, sequenceIsBusy, same]
  exact ⟨rfl, rfl⟩

theorem size?_eq (store : Store) (cell : ℕ) : store.size? cell = (store.source cell).size? := by
  unfold size? source
  cases store.sequences[cell]? <;> rfl

/-- Marking changes whether a sequence is being written, if it is there. -/
theorem mark_self (store : Store) (cell : ℕ) (busy : Bool) :
    (store.markSequence cell busy).source cell = store.source cell ∧
      (store.markSequence cell busy).sequenceIsBusy cell =
        ((store.sequences[cell]?).isSome && busy) ∧
      ((store.markSequence cell busy).sequences[cell]?).isSome =
        (store.sequences[cell]?).isSome := by
  rw [source, source, sequenceIsBusy, getElem?_markSequence, if_pos rfl]
  cases store.sequences[cell]? <;> exact ⟨rfl, rfl, rfl⟩

theorem mark_other (store : Store) (busy : Bool) (ne : cell ≠ other) :
    (store.markSequence cell busy).sequences[other]? = store.sequences[other]? := by
  rw [getElem?_markSequence, if_neg ne]

/-- Drawing takes the next item from what is left. -/
theorem draw_self (store : Store) (cell : ℕ) :
    (store.draw cell).1 = (store.source cell).draw.1 ∧
      (store.draw cell).2.source cell = (store.source cell).draw.2 ∧
      (store.draw cell).2.sequenceIsBusy cell = store.sequenceIsBusy cell ∧
      ((store.draw cell).2.sequences[cell]?).isSome = (store.sequences[cell]?).isSome := by
  rw [draw_fst, source, source, sequenceIsBusy, sequenceIsBusy, getElem?_draw_self]
  cases store.sequences[cell]? with
  | none => exact ⟨rfl, rfl, rfl, rfl⟩
  | some s =>
    obtain ⟨source, drawn, busy⟩ := s
    simp only [Option.bind_some, Option.map_some, Option.elim_some, Sequence.draw]
    cases source.draw with
    | mk item left => cases item <;> exact ⟨rfl, rfl, rfl, rfl⟩

end Store

/-! ## Walks -/

/-- What is still ahead, and what the sequences have left. -/
structure Walk where
  ahead : List Value
  cells : ℕ → ItemSource

namespace Encoder

variable {e : Encoder} {live : ℕ → Bool}

/-- The value leads to a sequence in which things were replaced. -/
def Touches (e : Encoder) (live : ℕ → Bool) (v : Value) : Prop :=
  ∃ cell, Leads e v (.lazySeq cell) ∧ live cell = true

/-- One step of a walk: the next value makes way for what is inside. -/
inductive Step (e : Encoder) (live : ℕ → Bool) : Walk → Walk → Prop
  | inside {v : Value} {ahead : List Value} {cells : ℕ → ItemSource} (plain : v.isPlain = true) :
      Step e live ⟨v :: ahead, cells⟩ ⟨v.contents e.options ++ ahead, cells⟩
  | came {d : Deferred Value} {v : Value} {ahead : List Value} {cells : ℕ → ItemSource}
      (known : e.store.outcome? d = some (.ok v)) :
      Step e live ⟨.future d :: ahead, cells⟩ ⟨v :: ahead, cells⟩
  | missing {d : Deferred Value} {ahead : List Value} {cells : ℕ → ItemSource}
      (unknown : ∀ v, e.store.outcome? d ≠ some (.ok v)) :
      Step e live ⟨.future d :: ahead, cells⟩ ⟨ahead, cells⟩
  | drawn {cell : ℕ} {ahead : List Value} {cells : ℕ → ItemSource}
      (touched : e.Touches live (.lazySeq cell)) :
      Step e live ⟨.lazySeq cell :: ahead, cells⟩
        ⟨((cells cell).firsts ((cells cell).limit e.options)).1 ++ ahead,
          Function.update cells cell ((cells cell).firsts ((cells cell).limit e.options)).2⟩
  | untouched {cell : ℕ} {ahead : List Value} {cells : ℕ → ItemSource}
      (apart : ¬ e.Touches live (.lazySeq cell)) :
      Step e live ⟨.lazySeq cell :: ahead, cells⟩ ⟨ahead, cells⟩
  | handled {o : HostObject Value} {writer : ObjectWriter} {ahead : List Value}
      {cells : ℕ → ItemSource} (known : e.registry.writer? o.type = some writer)
      (strict : (writer e.options o).Strict) :
      Step e live ⟨.object o :: ahead, cells⟩ ⟨(writer e.options o).written ++ ahead, cells⟩
  | unseen {o : HostObject Value} {writer : ObjectWriter} {ahead : List Value}
      {cells : ℕ → ItemSource} (known : e.registry.writer? o.type = some writer)
      (lax : ¬ (writer e.options o).Strict) :
      Step e live ⟨.object o :: ahead, cells⟩ ⟨ahead, cells⟩

/-- Nothing is inside an atom. -/
theorem Step.atom {v : Value} (isAtom : v.isAtom = true) {ahead : List Value}
    {cells : ℕ → ItemSource} : Step e live ⟨v :: ahead, cells⟩ ⟨ahead, cells⟩ := by
  cases v with
  | vector | set | map | seq | lazySeq | byteStream | future | throwable | object | annotated =>
    cases isAtom
  | _ => exact .inside rfl

/-- A walk through the value with what the sequences have at the start. -/
def Walks (e : Encoder) (live : ℕ → Bool) (v : Value) : Walk → Prop :=
  Relation.ReflTransGen (e.Step live) ⟨[v], e.store.source⟩

/-- An object that nothing writes is in the part of the value that would be written. -/
def Meets (e : Encoder) (live : ℕ → Bool) (v : Value) : Prop :=
  ∃ o ahead cells, e.Walks live v ⟨.object o :: ahead, cells⟩ ∧ e.registry.writer? o.type = none

/-- A walk can go on in one way only. -/
theorem Step.deterministic : Relator.RightUnique (e.Step live) := by
  intro s t u first second
  cases first with
  | inside plain =>
    cases second with
    | inside => rfl
    | came | missing | drawn | untouched | handled | unseen => cases plain
  | came known =>
    cases second with
    | inside plain => cases plain
    | came known' =>
      rw [known] at known'
      cases known'
      rfl
    | missing unknown => exact absurd known (unknown _)
  | missing unknown =>
    cases second with
    | inside plain => cases plain
    | came known => exact absurd known (unknown _)
    | missing => rfl
  | drawn touched =>
    cases second with
    | inside plain => cases plain
    | drawn => rfl
    | untouched apart => exact absurd touched apart
  | untouched apart =>
    cases second with
    | inside plain => cases plain
    | drawn touched => exact absurd touched apart
    | untouched => rfl
  | handled known strict =>
    cases second with
    | inside plain => cases plain
    | handled known' _ =>
      rw [known] at known'
      cases known'
      rfl
    | unseen known' lax =>
      rw [known] at known'
      cases known'
      exact absurd strict lax
  | unseen known lax =>
    cases second with
    | inside plain => cases plain
    | handled known' strict =>
      rw [known] at known'
      cases known'
      exact absurd strict lax
    | unseen => rfl

/-- A walk with nothing ahead is at its end. -/
theorem Step.not_of_nil {cells : ℕ → ItemSource} {walk : Walk} :
    ¬ e.Step live ⟨[], cells⟩ walk := nofun

/-- A walk does not go on behind an object that nothing writes. -/
theorem Step.not_of_unknown {o : HostObject Value} (unknown : e.registry.writer? o.type = none)
    {ahead : List Value} {cells : ℕ → ItemSource} {walk : Walk} :
    ¬ e.Step live ⟨.object o :: ahead, cells⟩ walk := by
  intro step
  cases step with
  | inside plain => cases plain
  | handled known => exact nomatch unknown.symm.trans known
  | unseen known => exact nomatch unknown.symm.trans known

/-- A walk that comes to an end has not met an object that nothing writes. -/
theorem Walks.not_meets {v : Value} {cells : ℕ → ItemSource} (ends : e.Walks live v ⟨[], cells⟩) :
    ¬ e.Meets live v := by
  rintro ⟨o, ahead, cells', meets, unknown⟩
  rcases Relation.ReflTransGen.total_of_right_unique Step.deterministic ends meets with more | more
  · rcases more.cases_head with same | ⟨_, step, -⟩
    · cases same
    · exact Step.not_of_nil step
  · rcases more.cases_head with same | ⟨_, step, -⟩
    · cases same
    · exact Step.not_of_unknown unknown step

end Encoder

end TaggedStream
