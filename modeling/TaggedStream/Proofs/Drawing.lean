import TaggedStream.Proofs.Laziness
import TaggedStream.Proofs.Streams

/-!
Sequences that no value leads to.

A session that draws values from such a sequence and writes them does what writing the values one
after another does, and nothing else happens to the sequence but that the values are gone. With a
bound, the others stay where they were; and the stream of some values is what writing them behind
its header comes to, over cells that are the same as far as the values lead to them.
-/

namespace TaggedStream

/-! ## The first items -/

namespace Sequence

/-- The items that are drawn one after another, `most` at most, and what is left of the sequence
then. -/
def firsts (s : Sequence) : (most : ℕ) → List Value × Sequence
  | 0 => ([], s)
  | most + 1 =>
    match s.draw with
    | (none, left) => ([], left)
    | (some v, left) => ((v :: (left.firsts most).1), (left.firsts most).2)

theorem firsts_of_listed (items : List Value) (drawn most : ℕ) (busy : Bool) :
    firsts ⟨.listed items, drawn, busy⟩ most =
      (items.take most, ⟨.listed (items.drop most), drawn + min most items.length, busy⟩) := by
  induction most generalizing items drawn with
  | zero => simp [firsts]
  | succ most ih =>
    cases items with
    | nil => rfl
    | cons v rest =>
      change (v :: (firsts ⟨.listed rest, drawn + 1, busy⟩ most).1,
        (firsts ⟨.listed rest, drawn + 1, busy⟩ most).2) = _
      rw [ih]
      simp only [List.take_succ_cons, List.drop_succ_cons, List.length_cons, Nat.succ_min_succ]
      rw [Nat.add_assoc, Nat.add_comm 1]

theorem firsts_of_endless (item : ℕ → Value) {height : ℕ} (bounded : ∀ k, (item k).height ≤ height)
    (next drawn most : ℕ) (busy : Bool) :
    firsts ⟨.endless item height bounded next, drawn, busy⟩ most =
      ((List.range' next most).map item,
        ⟨.endless item height bounded (next + most), drawn + most, busy⟩) := by
  induction most generalizing next drawn with
  | zero => rfl
  | succ most ih =>
    change (item next :: (firsts ⟨.endless item height bounded (next + 1), drawn + 1, busy⟩ most).1,
      (firsts ⟨.endless item height bounded (next + 1), drawn + 1, busy⟩ most).2) = _
    rw [ih, List.range'_succ, List.map_cons, Nat.add_assoc next, Nat.add_assoc drawn,
      Nat.add_comm 1]

/-- As many items are drawn as there are, but not more than may be, and all that are drawn count. -/
theorem firsts_count (s : Sequence) (most : ℕ) :
    (s.firsts most).1.length = s.source.size?.elim most (min most) ∧
      (s.firsts most).2.drawn = s.drawn + (s.firsts most).1.length := by
  obtain ⟨source, drawn, busy⟩ := s
  cases source with
  | listed items =>
    rw [firsts_of_listed, List.length_take]
    exact ⟨rfl, rfl⟩
  | endless item height bounded next =>
    rw [firsts_of_endless, List.length_map, List.length_range']
    exact ⟨rfl, rfl⟩

end Sequence

/-! ## Drawn and written -/

/-- Encoders that are related by what is left of a sequence on the first side draw its items and
write them on this side, and are given the items on the other side. -/
theorem Tracks.encodeDrawn {c : Comparison} {n cell : ℕ} {A : Value → Prop}
    {E : Sequence → Encoder → Encoder → Prop} {write write' : Value → EncodeM Unit}
    (drawn : ∀ {s e e'}, E s e e' → ∃ after, EncodeM.draw cell e = .ok s.draw.1 after ∧
      E s.draw.2 after e')
    (item : ∀ (s : Sequence) (v : Value), A v → Tracks c n (E s) Eq (E s) (write v)
      fun _ => write' v) (most written : ℕ) {s : Sequence}
    (members : ∀ v, s.source.Supplies v → A v) :
    Tracks c n (E s) (fun count _ => count = written + (s.firsts most).1.length)
      (E (s.firsts most).2) (EncodeM.encodeDrawn write cell most written)
      fun _ => (s.firsts most).1.forM write' := by
  induction most generalizing s written with
  | zero => exact .result rfl
  | succ most ih =>
    obtain ⟨supplied, still⟩ := s.supplies_of_draw
    have step (e e' : Encoder) (related : E s e e') : ∃ found after,
        EncodeM.draw cell e = .ok found after ∧ found = s.draw.1 ∧ E s.draw.2 after e' := by
      obtain ⟨after, run, left⟩ := drawn related
      exact ⟨_, after, run, rfl, left⟩
    refine .ahead (· = s.draw.1) step ?_
    rintro _ rfl
    rcases drew : s.draw with ⟨_ | v, left⟩
    · simp only [Sequence.firsts, drew]
      exact .result rfl
    · rw [drew] at supplied still
      simp only [Sequence.firsts, drew, List.length_cons]
      refine .bind (item left v (members v (supplied v rfl))) fun _ _ _ => ?_
      have onward := ih (written + 1) fun w supplies => members w (still w supplies)
      simpa only [Nat.add_assoc, Nat.add_comm 1] using onward

/-- With a bound, as many values of a sequence are written one after another as there are, but not
more than the bound, and no other is drawn. No value leads back to the sequence. -/
theorem encodeAll_of_bound {cell : ℕ} {e : Encoder} (idle : e.Idle) {most : ℕ} {s : Sequence}
    (bound : e.options.uncountableMaxItems = some most)
    (there : e.store.sequences[cell]? = some s)
    (apart : ∀ v, s.source.Supplies v → ¬ Leads e v (.lazySeq cell)) :
    Matches (fun count _ => count = (s.firsts most).1.length)
      (fun after after' => after.SameApartFrom cell after' ∧
        after.store.sequences[cell]? = some (s.firsts most).2)
      (Encoder.SameApartFrom cell)
      (EncodeM.encodeAll cell e) ((s.firsts most).1.forM EncodeM.encode e) := by
  let aside (v : Value) : Prop := ¬ Leads e v (.lazySeq cell)
  let sides := e.sides e.options.append
  have encloses : Encloses e.options e.registry e.store aside :=
    fun member part leads => member (.head part leads)
  have outlets : Outlets (Output.Shared fun _ => True) := .shared fun _ _ _ => trivial
  have deferred : DeferredAlike aside (Deferral.Same aside) :=
    Deferral.Same.alike fun member => encloses member .ready
  have item (s : Sequence) (v : Value) (member : aside v) :
      Tracks (.drawing aside sides e.store cell true) 0 (Encoder.Drawing aside sides e.store cell s)
        Eq (Encoder.Drawing aside sides e.store cell s)
        (EncodeM.deepening (fun n => EncodeM.encodeWithin n v) (v.height + e.store.height))
        fun _ => EncodeM.encode v := by
    have correspondence : Correspondence
        (.strict (.drawing aside cell) sides (.besides e.store cell s) true) sides
        (Encoder.Drawing aside sides e.store cell s) (Kind.drawing aside cell).values := by
      refine encloses.correspondence deferred outlets (fun _ _ _ _ => rfl)
        fun {other} member same => ?_
      have same : other = cell := same
      exact absurd .refl (same ▸ member)
    exact .drawing fun e e' drawing => Tracks.deepening (fun n => .encodeWithin n v)
      (fun n => .encodeWithin n v) (fun n => correspondence.tracked ⟨rfl, member⟩) _ _ e e' drawing
  have limit : EncodeM.drawLimit cell e = .ok most e := by
    rw [EncodeM.drawLimit, EncodeM.settings_bind, bound]
    rfl
  have unfolded : EncodeM.encodeAll cell e = EncodeM.encodeDrawn
      (fun v => EncodeM.deepening (fun n => EncodeM.encodeWithin n v) (v.height + e.store.height))
      cell most 0 e :=
    EncodeM.bind_of_ok limit
  have tracks := Tracks.encodeDrawn (fun drawing => ⟨_, drawing.draw.1, drawing.draw.2⟩) item most 0
    apart
  rw [unfolded]
  have matched := tracks.ended_of_exact (encloses.drawing idle there) rfl id
  simp only [Nat.zero_add] at matched
  exact matched.imp (fun _ _ drawing => ⟨Encoder.Drawn.same ⟨_, drawing⟩, drawing.there⟩)
    fun _ _ drawn => drawn.same

/-! ## Whatever is in the other cells -/

namespace Encoder

variable {kind : Kind} {sides : Sides} {pinned : Pinned} {e e' : Encoder}

/-- Kindred encoders, whatever is in the cells that are left aside. -/
def Akin (kind : Kind) (sides : Sides) (e e' : Encoder) : Prop := Kin kind sides (.of e e') e e'

theorem Kin.akin (kin : Kin kind sides pinned e e') : Akin kind sides e e' :=
  ⟨kin.setting, kin.setting', kin.idle, kin.idle', kin.outputs, kin.store.shared,
    fun _ => ⟨rfl, rfl⟩, kin.store.readers, kin.store.deferrals⟩

/-- The first one of two encoders that are akin has a sequence in a cell. -/
structure Amid (kind : Kind) (sides : Sides) (cell : ℕ) (s : Sequence) (e e' : Encoder) : Prop where
  akin : Akin kind sides e e'
  there : e.store.sequences[cell]? = some s

namespace Amid

variable {cell : ℕ} {s : Sequence} (aside : ¬ kind.Draws cell)

include aside

/-- A cell that is left aside may be drawn from. -/
theorem draw (amid : Amid kind sides cell s e e') : ∃ after,
    EncodeM.draw cell e = .ok s.draw.1 after ∧ Amid kind sides cell s.draw.2 after e' := by
  obtain ⟨akin, there⟩ := amid
  obtain ⟨item, rest⟩ := Store.draw_of_some there
  obtain ⟨readers, deferrals⟩ := e.store.draw_others cell
  refine ⟨{ e with store := (e.store.draw cell).2 }, by rw [← item]; rfl, ?_, rest⟩
  refine ⟨akin.setting, akin.setting', akin.idle, akin.idle', akin.outputs, fun {other} draws => ?_,
    fun _ => ⟨rfl, rfl⟩, akin.store.readers.trans readers.symm, ?_⟩
  · have ne : cell ≠ other := by
      rintro rfl
      exact aside draws
    rw [Store.getElem?_draw_ne _ ne]
    exact akin.store.shared draws
  · change kind.deferrals (e.store.draw cell).2.deferrals e'.store.deferrals
    rw [deferrals]
    exact akin.store.deferrals

end Amid

end Encoder

/-- Encoders that are akin have the same number of levels, and are akin when both were refused. -/
def Comparison.akin (kind : Kind) (sides : Sides) : Comparison where
  exact := true
  lenient := False
  uneven := False
  stuck := kind.stuck
  failed := Encoder.Akin kind sides

/-- What keeps encoders kindred does nothing to a cell that is left aside. -/
theorem Tracks.amid {kind : Kind} {sides : Sides} {n cell : ℕ} {α β : Type} {R : α → β → Prop}
    {m : EncodeM α} {job : ℕ → EncodeM β} {s : Sequence} (aside : ¬ kind.Draws cell)
    (h : ∀ pinned, Tracks (.strict kind sides pinned true) n (Encoder.Kin kind sides pinned) R
      (Encoder.Kin kind sides pinned) m job) :
    Tracks (.akin kind sides) n (Encoder.Amid kind sides cell s) R
      (Encoder.Amid kind sides cell s) m job := by
  intro e e' amid
  have tracks : Tracks (.akin kind sides) n (Encoder.Kin kind sides (.of e e')) R
      (Encoder.Kin kind sides (.of e e')) m job :=
    (h (.of e e')).weaken rfl id fun _ _ failed => (failed.2.2 trivial).akin
  refine tracks.imp (fun _ _ => id) (fun after after' kin => ⟨kin.akin, ?_⟩) e e' amid.akin
  exact (kin.store.kept aside).1.trans amid.there

/-! ## Streams -/

/-- The channel of a sink that takes everything, and a willing output to which the same was written
behind something. -/
def Output.Behind (front : List UInt8) (output : Output) (_ : ℕ) (output' : Output) (_ : ℕ) :
    Prop :=
  output.channel = Output.channel { sink := .unlimited } ∧ output'.Willing ∧
    output'.written = front ++ output.written

theorem Outlets.behind (front : List UInt8) : Outlets (Output.Behind front) := by
  rintro slice output output' position position' ⟨channel, willing', written⟩
  have willing : output.Willing := Output.willing_of_unlimited.of_channel_eq channel
  obtain ⟨after, run, kept, more⟩ := Output.put_of_willing slice willing
  obtain ⟨after', run', kept', more'⟩ := Output.put_of_willing slice willing'
  refine .inl ⟨after, after', run, run', kept.trans channel, willing'.of_channel_eq kept', ?_⟩
  rw [more, more', written, List.append_assoc]

/-- Values of a set are written behind something, over cells that are the same as far as the set
goes. -/
abbrev Kind.behind (A : Value → Prop) (front : List UInt8) : Kind :=
  .same A (fun _ => False) (Deferral.Same A) (Output.Behind front)

section

variable {sides : Sides} {A : Value → Prop} {shown : Store}
  (encloses : Encloses sides.options sides.registry shown A)
  (blind : ∀ o writer, A (.object o) → sides.registry.writer? o.type = some writer →
    writer sides.options' o = writer sides.options o)
  {front : List UInt8} {values : List Value} {store : Store} {e' : Encoder}

include encloses blind

theorem Encloses.correspondence_behind (pinned : Pinned) :
    Correspondence (.strict (.behind A front) sides pinned true) sides
      (Encoder.Kin (.behind A front) sides pinned) (Kind.behind A front).values :=
  encloses.correspondence (Deferral.Same.alike fun member => encloses member .ready)
    (.behind front) blind fun _ => False.elim

/-- The stream of some values is what it begins with and what writing the values one after another
adds, over cells of which the list that is drawn from is none. -/
theorem Encloses.encodeStream (unbounded : sides.options.uncountableMaxItems = none)
    (members : ∀ v ∈ values, A v) (aside : ¬ A (.lazySeq store.sequences.size))
    (akin : ∀ started, (Encoder.fresh sides.registry sides.options { sink := .unlimited }
        (store.addSequence (.listed values)).2).Grows (Header.leading sides.options) started →
      Encoder.Akin (.behind A front) sides started e') :
    (∃ after after', values.forM EncodeM.encode e' = .ok () after' ∧
      TaggedStream.encodeStream sides.registry sides.options values store =
        (.ok after.output.written, after.store) ∧
      store.sequences.size < after.store.sequences.size ∧
      Encoder.Akin (.behind A front) sides after after') ∨
    ∃ halt after', values.forM EncodeM.encode e' = .error halt after' ∧
      (TaggedStream.encodeStream sides.registry sides.options values store).1 = .error halt := by
  obtain ⟨started, grown, unfolded⟩ := encodeStream_eq sides.registry unbounded values store
  let cell := store.sequences.size
  let s : Sequence := { source := .listed values }
  have there : started.store.sequences[cell]? = some s := by
    rw [grown.store_eq]
    exact Array.getElem?_push_size
  have aside : ¬ (Kind.behind A front).Draws cell := fun draws => aside draws.1.2
  have item (s : Sequence) (v : Value) (member : A v) : Tracks (.akin (.behind A front) sides) 0
      (Encoder.Amid (.behind A front) sides cell s) Eq
      (Encoder.Amid (.behind A front) sides cell s)
      (EncodeM.deepening (fun n => EncodeM.encodeWithin n v) (v.height + started.store.height))
      fun _ => EncodeM.encode v :=
    .amid aside fun pinned e e' kin => Tracks.deepening (fun n => .encodeWithin n v)
      (fun n => .encodeWithin n v)
      (fun n => (encloses.correspondence_behind blind pinned).tracked ⟨rfl, member⟩) _ _ e e' kin
  have supplied : ∀ v, s.source.Supplies v → A v := members
  have tracks := Tracks.encodeDrawn (fun amid => amid.draw aside) item values.length 0 supplied
  have all : s.firsts values.length = (values, ⟨.listed [], 0 + values.length, false⟩) := by
    rw [Sequence.firsts_of_listed, List.take_length, List.drop_length, Nat.min_self]
  rw [all] at tracks
  have matched := tracks.ended_of_exact ⟨akin started grown, there⟩ rfl id
  generalize drawn : EncodeM.encodeDrawn _ _ _ _ started = first,
    wrote : values.forM EncodeM.encode e' = second at matched
  cases matched with
  | @ok _ _ after after' _ amid =>
    obtain ⟨whole, received⟩ := EncodeM.flush_of_drawn drawn amid.akin.outputs.1
    refine .inl ⟨after, after', rfl, ?_, (Array.getElem?_eq_some_iff.1 amid.there).1, amid.akin⟩
    rw [unfolded, whole, ← received]
  | refused =>
    refine .inr ⟨_, _, rfl, ?_⟩
    rw [unfolded, EncodeM.bind_of_error drawn]
  | endless =>
    refine .inr ⟨_, _, rfl, ?_⟩
    rw [unfolded, EncodeM.bind_of_error drawn]

end

end TaggedStream
