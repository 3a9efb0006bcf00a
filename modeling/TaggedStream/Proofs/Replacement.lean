import TaggedStream.Proofs.Sessions

/-!
Values with others in place of the objects that nothing writes.

`Encoder.replace` puts values in place of the objects that have no handler, and leaves out notes
that are not to be saved, through aggregates, errors, deferred values that are there, and the items
of sequences. With placeholders in their place this is what the encoder would do on its way, done
beforehand. Objects that have a handler are left as they are, since only the handler looks into them.

A deferred value is asked for in its cell on one side and is there on the other. So the origins of
deferred values do not stay the same on both sides, but they do not go apart either: a promise has
the outcome that it had, and resolvers are asked on both sides.
-/

namespace TaggedStream

/-! ## Maps of what is inside -/

/-- The map with other keys and values, in the same order. -/
def OrderedMap.mapEntries {ν : Type} (f : ν → ν) (m : OrderedMap ν ν) : OrderedMap ν ν :=
  ⟨m.entries.map (Prod.map f f)⟩

namespace Throwable

variable {ν : Type} (f : ν → ν)

mutual

/-- The error with other data in it and in all errors below it. -/
def map : Throwable ν → Throwable ν
  | ⟨message, frames, cause, suppressed, data⟩ =>
    ⟨message, frames, mapCause cause, mapSuppressed suppressed, data.map (OrderedMap.mapEntries f)⟩

/-- The cause with other data. -/
def mapCause : Option (Throwable ν) → Option (Throwable ν)
  | none => none
  | some cause => some (map cause)

/-- The suppressed errors with other data. -/
def mapSuppressed : List (Throwable ν) → List (Throwable ν)
  | [] => []
  | t :: rest => map t :: mapSuppressed rest

end

theorem mapCause_eq (cause : Option (Throwable ν)) : mapCause f cause = cause.map (map f) := by
  cases cause <;> rfl

theorem mapSuppressed_eq (ts : List (Throwable ν)) : mapSuppressed f ts = ts.map (map f) := by
  induction ts with
  | nil => rfl
  | cons t rest ih => rw [mapSuppressed, ih, List.map_cons]

end Throwable

/-- The sequence with other items. One without end keeps its rule. -/
def Sequence.map (f : Value → Value) (s : Sequence) : Sequence :=
  match s.source with
  | .listed items => { s with source := .listed (items.map f) }
  | .endless .. => s

/-! ## Replacing -/

namespace Encoder

/-- The value with others in place of the objects that nothing writes, and without notes that are
not saved, as far down as there are levels. -/
def replace (e : Encoder) (stand : HostObject Value → Value) : (levels : ℕ) → Value → Value
  | 0, v => v
  | levels + 1, v =>
    let below := e.replace stand levels
    match v with
    | .vector items => .vector (items.map below)
    | .set items => .set (items.map below)
    | .seq items => .seq (items.map below)
    | .map m => .map (m.mapEntries below)
    | .throwable t => .throwable (t.map below)
    | .future d =>
      match e.store.outcome? d with
      | some (.ok v) => .future (.ready none (below v))
      | _ => .future d
    | .object o => if (e.registry.writer? o.type).isSome then .object o else stand o
    | .annotated inner notes =>
      if e.options.saveMeta then .annotated (below inner) (notes.mapEntries below) else below inner
    | v => v

/-- The placeholder that stands for an object. -/
def placeholder (e : Encoder) (o : HostObject Value) : Value := .unsupported (e.store.placeholder o)

/-- The value with placeholders in place of the objects that nothing writes, and without notes that
are not saved. -/
def reduce (e : Encoder) (levels : ℕ) (v : Value) : Value := e.replace e.placeholder levels v

/-- The encoder with others in place of objects in the items of some sequences. -/
def replaceIn (e : Encoder) (stand : HostObject Value → Value) (live : ℕ → Bool) (levels : ℕ) :
    Encoder :=
  { e with
    store.sequences := e.store.sequences.mapIdx fun cell s =>
      if live cell then s.map (e.replace stand levels) else s }

/-- The encoder with placeholders in place of objects in the items of some sequences. -/
def reduceIn (e : Encoder) (live : ℕ → Bool) (levels : ℕ) : Encoder :=
  e.replaceIn e.placeholder live levels

end Encoder

/-! ## Origins that were asked on either side -/

/-- An origin, and what it has become on two sides: a promise may have been asked on either side,
and a resolver was asked on both. -/
inductive Deferral.Alike : Option Deferral → Option Deferral → Option Deferral → Prop
  | none : Deferral.Alike none none none
  | promise {p q q' : Promise} (asked : p.Asked q) (asked' : p.Asked q') :
      Deferral.Alike (some (.promise p)) (some (.promise q)) (some (.promise q'))
  | resolver (r : Resolver) (calls : List ℕ) :
      Deferral.Alike (some (.resolver r)) (some (.resolver { r with calls }))
        (some (.resolver { r with calls }))

/-- The origins, and what they have become on two sides. -/
def Deferral.Evolved (origins ds ds' : Array Deferral) : Prop :=
  ∀ cell : ℕ, Deferral.Alike origins[cell]? ds[cell]? ds'[cell]?

namespace Deferral

namespace Alike

variable {origin d d' : Option Deferral}

theorem refl (origin : Option Deferral) : Deferral.Alike origin origin origin := by
  rcases origin with _ | p | r
  · exact .none
  · exact .promise (.inl rfl) (.inl rfl)
  · exact .resolver r r.calls

theorem flip (h : Deferral.Alike origin d d') : Deferral.Alike origin d' d := by
  cases h with
  | none => exact .none
  | promise asked asked' => exact .promise asked' asked
  | resolver r calls => exact .resolver r calls

/-- Asked on both sides, an origin brings the same. -/
theorem resolve (h : Deferral.Alike origin d d') (timeout : ℕ) :
    d'.elim (.error .interrupted) (fun d => (d.resolve timeout).1) =
        d.elim (.error .interrupted) (fun d => (d.resolve timeout).1) ∧
      Deferral.Alike origin (d.map fun d => (d.resolve timeout).2)
        (d'.map fun d => (d.resolve timeout).2) ∧
      ∀ v, d.elim (.error .interrupted) (fun d => (d.resolve timeout).1) = .ok v →
        ∃ o, origin = some o ∧ o.Brings v := by
  cases h with
  | none => exact ⟨rfl, .none, nofun⟩
  | @promise p q q' asked asked' =>
    refine ⟨?_, ?_, fun v came => ?_⟩
    · exact (asked'.resolve_eq timeout).trans (asked.resolve_eq timeout).symm
    · exact .promise (asked.trans (.inr (Promise.resolve_snd timeout q)))
        (asked'.trans (.inr (Promise.resolve_snd timeout q')))
    · have brings : (Deferral.promise q).Brings v := (brings_of_resolve timeout _).1 v came
      change q.receive.1 = some (.ok v) at brings
      rw [asked.receive_eq] at brings
      exact ⟨_, rfl, brings⟩
  | resolver r calls =>
    exact ⟨rfl, .resolver r (timeout :: calls), fun v came => ⟨_, rfl, _, _, came⟩⟩

/-- A promise whose outcome is known may be asked on one side only. -/
theorem settled {p : Promise} {v : Value} (h : Deferral.Alike (some (.promise p)) d d')
    (known : p.receive.1 = some (.ok v)) (timeout : ℕ) :
    d.elim (.error .interrupted) (fun d => (d.resolve timeout).1) = .ok v ∧
      Deferral.Alike (some (.promise p)) (d.map fun d => (d.resolve timeout).2) d' := by
  cases h with
  | @promise _ q q' asked asked' =>
    constructor
    · change (q.resolve timeout).1 = .ok v
      have received : p.receive = (some (.ok v), p.receive.2) := Prod.ext known rfl
      rw [asked.resolve_eq timeout, Promise.resolve, received]
    · exact .promise (asked.trans (.inr (Promise.resolve_snd timeout q))) asked'

/-- Asking changes neither what an origin shows nor how high it is. -/
theorem shown (h : Deferral.Alike origin d d') :
    (d.elim (some (.error .interrupted)) fun d => d.peek.1) =
        (origin.elim (some (.error .interrupted)) fun d => d.peek.1) ∧
      d.elim 0 (fun d => d.height + 1) = origin.elim 0 fun d => d.height + 1 := by
  cases h with
  | none => exact ⟨rfl, rfl⟩
  | @promise p q _ asked _ =>
    have received : q.receive.1 = p.receive.1 := congrArg Prod.fst asked.receive_eq
    exact ⟨received, congrArg (· + 1) (Deferral.Asked.promise asked).height_eq⟩
  | resolver r calls => exact ⟨rfl, rfl⟩

end Alike

namespace Evolved

variable {origins ds ds' : Array Deferral}

theorem refl (origins : Array Deferral) : Evolved origins origins origins := fun _ => .refl _

theorem flip (h : Evolved origins ds ds') : Evolved origins ds' ds := fun cell => (h cell).flip

theorem size_eq (h : Evolved origins ds ds') : ds.size = origins.size := by
  have same (cell : ℕ) : ds.size ≤ cell ↔ origins.size ≤ cell := by
    rw [← Array.getElem?_eq_none_iff, ← Array.getElem?_eq_none_iff]
    have alike := h cell
    generalize origins[cell]? = origin, ds[cell]? = d, ds'[cell]? = d' at alike
    cases alike <;> simp
  exact Nat.le_antisymm ((same _).2 (Nat.le_refl _)) ((same _).1 (Nat.le_refl _))

/-- What happens in one cell. -/
theorem update {after after' : Array Deferral} {cell : ℕ} (h : Evolved origins ds ds')
    (others : ∀ other, cell ≠ other → after[other]? = ds[other]?)
    (others' : ∀ other, cell ≠ other → after'[other]? = ds'[other]?)
    (here : Deferral.Alike origins[cell]? after[cell]? after'[cell]?) :
    Evolved origins after after' := by
  intro other
  by_cases same : cell = other
  · exact same ▸ here
  · rw [others other same, others' other same]
    exact h other

end Evolved

end Deferral

namespace Store

variable {base store store' : Store}
  (evolved : Deferral.Evolved base.deferrals store.deferrals store'.deferrals)

include evolved

/-- A deferred value that is asked for in its cell on both sides. -/
theorem resolve_both (timeout cell : ℕ) :
    (store'.resolve timeout (.shared cell)).1 = (store.resolve timeout (.shared cell)).1 ∧
      Deferral.Evolved base.deferrals (store.resolve timeout (.shared cell)).2.deferrals
        (store'.resolve timeout (.shared cell)).2.deferrals ∧
      ∀ v, (store.resolve timeout (.shared cell)).1 = .ok v →
        ∃ d, base.deferrals[cell]? = some d ∧ d.Brings v := by
  obtain ⟨same, alike, brings⟩ := (evolved cell).resolve timeout
  rw [resolve_shared_fst, resolve_shared_fst]
  refine ⟨same, evolved.update (fun other => getElem?_resolve_ne _ timeout)
    (fun other => getElem?_resolve_ne _ timeout) ?_, brings⟩
  rw [getElem?_resolve_self, getElem?_resolve_self]
  exact alike

/-- A deferred value whose outcome is known is asked for in its cell on one side. -/
theorem resolve_known {cell : ℕ} {v : Value} (known : base.outcome? (.shared cell) = some (.ok v))
    (timeout : ℕ) : (store.resolve timeout (.shared cell)).1 = .ok v ∧
      Deferral.Evolved base.deferrals (store.resolve timeout (.shared cell)).2.deferrals
        store'.deferrals ∧ ∃ d, base.deferrals[cell]? = some d ∧ d.Brings v := by
  rw [outcome?, peek] at known
  rcases there : base.deferrals[cell]? with _ | p | r
  · rw [there] at known
    cases known
  · rw [there] at known
    have alike := evolved cell
    rw [there] at alike
    obtain ⟨came, alike⟩ := alike.settled known timeout
    rw [resolve_shared_fst]
    refine ⟨came, evolved.update (fun other => getElem?_resolve_ne _ timeout) (fun _ _ => rfl) ?_,
      _, rfl, known⟩
    rw [getElem?_resolve_self, there]
    exact alike
  · rw [there] at known
    cases known

/-- If the outcome of a deferred value is known, then this is what comes. -/
theorem outcome?_of_resolve {d : Deferred Value} {v : Value} {timeout : ℕ}
    (known : (base.outcome? d).isSome = true) (came : (store.resolve timeout d).1 = .ok v) :
    base.outcome? d = some (.ok v) := by
  cases d with
  | ready handle w =>
    cases came
    rfl
  | shared cell =>
    rw [resolve_shared_fst] at came
    have alike := evolved cell
    rw [outcome?, peek] at known ⊢
    generalize base.deferrals[cell]? = origin, store.deferrals[cell]? = d,
      store'.deferrals[cell]? = d' at alike came known ⊢
    cases alike with
    | none => cases came
    | @promise p q q' asked asked' =>
      obtain ⟨outcome, received⟩ := Option.isSome_iff_exists.1 known
      have received : p.receive = (some outcome, p.receive.2) := Prod.ext received rfl
      have resolved : (q.resolve timeout).1 = .ok v := came
      rw [asked.resolve_eq timeout, Promise.resolve, received] at resolved
      change p.receive.1 = some (.ok v)
      rw [received]
      exact congrArg some resolved
    | resolver r calls => cases known

/-- Objects are shown as they were. -/
theorem placeholder_of_evolved (o : HostObject Value) :
    store.placeholder o = base.placeholder o := by
  refine placeholder_congr (fun d => ?_) ?_ o
  · cases d with
    | ready => rfl
    | shared cell =>
      have shown := (evolved cell).shown.1
      have peeked (store : Store) : store.outcome? (.shared cell) =
          (store.deferrals[cell]?).elim (some (.error .interrupted)) fun d => d.peek.1 := by
        rw [outcome?, peek]
        cases store.deferrals[cell]? <;> rfl
      rw [peeked, peeked, shown]
  · have levels (store : Store) : store.heightOfDeferrals =
        ∑ cell ∈ Finset.range store.deferrals.size, store.levels cell := store.sum_levels.symm
    rw [levels, levels, evolved.size_eq]
    exact Finset.sum_congr rfl fun cell _ => (evolved cell).shown.2

end Store

/-- Values of a set that contains all parts of its members are asked for alike. -/
theorem Encloses.deferredAlike {options : Options} {registry : Registry} {base : Store}
    {A : Value → Prop} (encloses : Encloses options registry base A) :
    DeferredAlike A (Deferral.Evolved base.deferrals) where
  asked {d} member timeout store store' evolved := by
    cases d with
    | ready handle v => exact ⟨.ok ⟨rfl, encloses member .ready⟩, evolved⟩
    | shared cell =>
      obtain ⟨same, after, brings⟩ := Store.resolve_both evolved timeout cell
      refine ⟨?_, after⟩
      rw [same]
      cases came : (store.resolve timeout (.shared cell)).1 with
      | ok v =>
        obtain ⟨d, there, brings⟩ := brings v came
        exact .ok ⟨rfl, encloses member (.brought there brings)⟩
      | error failure => exact .error failure
  shown evolved o := by
    rw [Store.placeholder_of_evolved evolved, Store.placeholder_of_evolved evolved.flip]

/-! ## Nothing is left to replace -/

namespace Encoder

/-- The value ends within so many levels, deferred values that may come included. Objects and
sequences are not looked into. -/
inductive Within (e : Encoder) : ℕ → Value → Prop
  | object (levels : ℕ) (o : HostObject Value) : Within e (levels + 1) (.object o)
  | lazySeq (levels cell : ℕ) : Within e (levels + 1) (.lazySeq cell)
  | parts {levels : ℕ} {v : Value}
      (below : ∀ w, Part e.options e.registry e.store v w → Within e levels w) :
      Within e (levels + 1) v

/-- No object that nothing writes is in the value, and no notes that are not saved. Deferred values
in it are there, or it is not known what they bring. -/
inductive Settled (e : Encoder) : Value → Prop
  | object {o : HostObject Value} (known : (e.registry.writer? o.type).isSome = true) :
      Settled e (.object o)
  | lazySeq (cell : ℕ) : Settled e (.lazySeq cell)
  | unknown {d : Deferred Value} (unknown : ∀ v, e.store.outcome? d ≠ some (.ok v)) :
      Settled e (.future d)
  | parts {v : Value} (plain : ∀ o, v ≠ .object o) (present : ∀ cell, v ≠ .future (.shared cell))
      (saved : ∀ inner notes, v = .annotated inner notes → e.options.saveMeta = true)
      (below : ∀ w, Part e.options e.registry e.store v w → Settled e w) : Settled e v

variable {e : Encoder} {levels : ℕ}

theorem Within.mono {v : Value} {most : ℕ} (h : e.Within levels v) (le : levels ≤ most) :
    e.Within most v := by
  induction h generalizing most with
  | object levels o =>
    obtain ⟨k, rfl⟩ := Nat.exists_eq_add_of_lt le
    exact .object (levels + k) o
  | lazySeq levels cell =>
    obtain ⟨k, rfl⟩ := Nat.exists_eq_add_of_lt le
    exact .lazySeq (levels + k) cell
  | @parts levels v _ ih =>
    obtain ⟨k, rfl⟩ := Nat.exists_eq_add_of_lt le
    exact .parts fun w part => ih w part (Nat.le_add_right ..)

namespace Settled

/-- What is not an object, deferred or annotated is settled if its parts are. -/
theorem of_parts {v : Value} (plain : ∀ o, v ≠ .object o)
    (present : ∀ d, v ≠ .future d) (bare : ∀ inner notes, v ≠ .annotated inner notes)
    (below : ∀ w, Part e.options e.registry e.store v w → e.Settled w) : e.Settled v :=
  .parts plain (fun _ => present _) (fun inner notes same => absurd same (bare inner notes)) below

theorem of_isAtom {v : Value} (isAtom : v.isAtom = true) : e.Settled v := by
  refine .of_parts ?_ ?_ ?_ fun w part => ?_
  · rintro o rfl
    cases isAtom
  · rintro d rfl
    cases isAtom
  · rintro inner notes rfl
    cases isAtom
  · cases part <;> cases isAtom

/-- A map is settled if its keys and values are. -/
theorem map {f : Value → Value} {most : ℕ} (h : ∀ v, e.Within most v → e.Settled (f v))
    {m : OrderedMap Value Value} (ends : e.Within levels (.map m)) (le : levels ≤ most + 1) :
    e.Settled (.map (m.mapEntries f)) := by
  cases ends with
  | parts below =>
    have entry {v : Value} (part : Part e.options e.registry e.store (.map m) v) :
        e.Settled (f v) := h v ((below v part).mono (Nat.le_of_succ_le_succ le))
    refine .of_parts nofun nofun nofun fun w part => ?_
    cases part with
    | key found =>
      obtain ⟨_, there, rfl⟩ := List.mem_map.1 found
      exact entry (.key there)
    | value found =>
      obtain ⟨_, there, rfl⟩ := List.mem_map.1 found
      exact entry (.value there)

/-- An error is settled if the data in it and in all errors in it is. -/
theorem throwable {f : Value → Value} {most : ℕ} (h : ∀ v, e.Within most v → e.Settled (f v))
    {t : Throwable Value} (ends : e.Within levels (.throwable t)) (le : levels ≤ most + 1) :
    e.Settled (.throwable (t.map f)) := by
  induction levels generalizing t with
  | zero => cases ends
  | succ levels ih =>
    cases ends with
    | parts below =>
      have less : levels ≤ most + 1 := Nat.le_of_succ_le le
      obtain ⟨message, frames, cause, suppressed, data⟩ := t
      rw [Throwable.map, Throwable.mapCause_eq, Throwable.mapSuppressed_eq]
      refine .of_parts nofun nofun nofun fun w part => ?_
      cases part with
      | cause found =>
        obtain ⟨other, there, rfl⟩ := Option.map_eq_some_iff.1 found
        exact ih (below _ (.cause there)) less
      | suppressed found =>
        obtain ⟨other, there, rfl⟩ := List.mem_map.1 found
        exact ih (below _ (.suppressed there)) less
      | data found =>
        obtain ⟨m, there, rfl⟩ := Option.map_eq_some_iff.1 found
        exact .map h (below _ (.data there)) less

end Settled

/-- With as many levels as it takes, nothing is left to replace. -/
theorem Within.settled_reduce {v : Value} (h : e.Within levels v) :
    e.Settled (e.reduce levels v) := by
  induction levels generalizing v with
  | zero => cases h
  | succ levels ih =>
    have item {items : List Value} (below : ∀ v ∈ items, e.Within levels v) (w : Value)
        (inside : w ∈ items.map (e.reduce levels)) : e.Settled w := by
      obtain ⟨v, there, rfl⟩ := List.mem_map.1 inside
      exact ih (below v there)
    have object (o : HostObject Value) : e.Settled (e.reduce (levels + 1) (.object o)) := by
      rw [reduce, replace]
      split
      next known => exact .object known
      next => exact .of_isAtom rfl
    cases h with
    | object _ o => exact object o
    | lazySeq _ cell => exact .lazySeq cell
    | parts below =>
      cases v with
      | vector items =>
        refine .of_parts nofun nofun nofun fun w part => ?_
        cases part with
        | vector inside => exact item (fun v there => below v (.vector there)) w inside
      | set items =>
        refine .of_parts nofun nofun nofun fun w part => ?_
        cases part with
        | set inside => exact item (fun v there => below v (.set there)) w inside
      | seq items =>
        refine .of_parts nofun nofun nofun fun w part => ?_
        cases part with
        | seq inside => exact item (fun v there => below v (.seq there)) w inside
      | map m => exact .map (fun _ => ih) (.parts below) (Nat.le_refl (levels + 1))
      | throwable t =>
        exact .throwable (fun _ => ih) (.parts below) (Nat.le_refl (levels + 1))
      | future d =>
        rw [reduce, replace]
        split
        next v known =>
          have brought : Part e.options e.registry e.store (.future d) v := by
            cases d with
            | ready handle v' =>
              cases known
              exact .ready
            | shared cell =>
              obtain ⟨-, -, d, there, brings⟩ := Store.resolve_known (.refl _) known 0
              exact .brought there brings
          refine .parts nofun nofun nofun fun w part => ?_
          cases part with
          | ready => exact ih (below v brought)
        next unknown => exact .unknown unknown
      | object o => exact object o
      | annotated inner notes =>
        have settled := ih (below inner .inner)
        rw [reduce, replace]
        cases saved : e.options.saveMeta with
        | false => exact settled
        | true =>
          refine .parts nofun nofun (fun _ _ _ => saved) fun w part => ?_
          cases part with
          | inner => exact settled
          | notes => exact .map (fun _ => ih) (below _ .notes) (Nat.le_succ levels)
      | lazySeq cell => exact .lazySeq cell
      | byteStream cell => exact .of_parts nofun nofun nofun nofun
      | _ => exact .of_isAtom rfl

end Encoder

end TaggedStream
