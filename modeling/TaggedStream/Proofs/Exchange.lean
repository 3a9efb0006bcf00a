import TaggedStream.Proofs.Replacement

/-!
Values that were exchanged.

A value is compared with what is left of it when others stand in place of objects. Replacing is not
the same on both sides all the way down, since handlers and deferred values bring values of their
own, and in these nothing was replaced; so a value is compared with itself as well. What stands for
an object is written as the object is, or else it is refused and nothing more is said. With that,
exchanged values correspond to each other.

A handler that goes on after an error may put other bytes on either side, since the error may come
earlier or later. It does the same on both sides if nothing that it writes leads to a change.
-/

namespace TaggedStream

namespace Encoder

/-- The second value is the first one with others in place of objects, and the first one is led to
from a root. -/
def Replaced (e : Encoder) (root : Value) (stand : HostObject Value → Value) (v w : Value) : Prop :=
  Leads e root v ∧ ∃ levels, w = e.replace stand levels v

theorem encloses_leads (e : Encoder) (root : Value) :
    Encloses e.options e.registry e.store (Leads e root) :=
  fun leads part => leads.tail part

namespace Replaced

variable {e : Encoder} {root v w : Value} {stand : HostObject Value → Value}

theorem refl (leads : Leads e root v) : e.Replaced root stand v v := ⟨leads, 0, rfl⟩

/-- What is inside a value is replaced with one level less. -/
theorem part (leads : Leads e root v) (part : Part e.options e.registry e.store v w)
    (levels : ℕ) : e.Replaced root stand w (e.replace stand levels w) :=
  ⟨leads.tail part, levels, rfl⟩

variable {V : Value → Value → Prop} (toward : ∀ v w, e.Replaced root stand v w → V v w)

include toward

theorem items {items : List Value} (parts : ∀ v ∈ items, Leads e root v) (levels : ℕ) :
    List.Forall₂ V items (items.map (e.replace stand levels)) :=
  List.forall₂_map_right_iff.2 (List.forall₂_same.2 fun v inside =>
    toward _ _ ⟨parts v inside, levels, rfl⟩)

theorem entries {m : OrderedMap Value Value} (leads : Leads e root (.map m)) (levels : ℕ) :
    List.Forall₂ (Prod.RProd V V) m.entries (m.mapEntries (e.replace stand levels)).entries :=
  List.forall₂_map_right_iff.2 (List.forall₂_same.2 fun _ inside =>
    ⟨toward _ _ (part leads (.key inside) levels), toward _ _ (part leads (.value inside) levels)⟩)

theorem beside {t t' : Throwable Value}
    (related : e.Replaced root stand (.throwable t) (.throwable t')) : t.Beside V t' := by
  obtain ⟨leads, levels, same⟩ := related
  cases levels with
  | zero =>
    obtain rfl : t' = t := Value.throwable.inj same
    exact Encloses.beside (encloses_leads e root) (fun v leads => toward v v (.refl leads)) leads
  | succ levels =>
    obtain rfl : t' = t.map (e.replace stand levels) := Value.throwable.inj same
    have below (other : Throwable Value)
        (part : Part e.options e.registry e.store (.throwable t) (.throwable other)) :
        V (.throwable other) (.throwable (other.map (e.replace stand levels))) :=
      toward _ _ ⟨leads.tail part, levels + 1, rfl⟩
    have inside (m : OrderedMap Value Value) (there : t.data = some m) : Leads e root (.map m) :=
      leads.tail (.data there)
    have cause := fun other there => below other (.cause there)
    have suppressed := fun other there => below other (.suppressed there)
    obtain ⟨message, frames, above, others, data⟩ := t
    rw [Throwable.map, Throwable.mapCause_eq, Throwable.mapSuppressed_eq]
    refine .mk ?_ ?_ ?_
    · cases above with
      | none => exact .none
      | some other => exact .some (cause other rfl)
    · exact List.forall₂_map_right_iff.2 (List.forall₂_same.2 suppressed)
    · cases data with
      | none => exact .none
      | some m => exact .some (entries toward (inside m rfl) levels)

/-- The second value is built like the first one, unless it stands for an object. -/
theorem counterpart {c : Comparison} (uneven : e.options.saveMeta = false → c.uneven)
    (related : e.Replaced root stand v w) :
    Counterpart c (e.sides e.options.append) V v w ∨ (v.isAtom = true ∧ w = v) ∨
      ∃ o, e.registry.writer? o.type = none ∧ v = .object o ∧ (w = .object o ∨ w = stand o) := by
  obtain ⟨leads, levels, rfl⟩ := related
  have kept : Counterpart c (e.sides e.options.append) V v v ∨ v.isAtom = true ∨
      ∃ o, v = .object o ∧ e.registry.writer? o.type = none :=
    Encloses.counterpart (encloses_leads e root) (fun v leads => toward v v (.refl leads))
      (fun _ _ _ _ => rfl) leads
  cases levels with
  | zero =>
    rcases kept with kept | isAtom | ⟨o, same, unknown⟩
    · exact .inl kept
    · exact .inr (.inl ⟨isAtom, rfl⟩)
    · exact .inr (.inr ⟨o, unknown, same, .inl same⟩)
  | succ levels =>
    cases v with
    | vector items =>
      exact .inl (.vector (Replaced.items toward (fun _ inside => leads.tail (.vector inside))
        levels))
    | set items =>
      exact .inl (.set (Replaced.items toward (fun _ inside => leads.tail (.set inside)) levels))
    | seq items =>
      exact .inl (.seq (Replaced.items toward (fun _ inside => leads.tail (.seq inside)) levels))
    | map m => exact .inl (.map (entries toward leads levels))
    | throwable t => exact .inl (.throwable (toward _ _ ⟨leads, levels + 1, rfl⟩))
    | lazySeq cell => exact .inl (.lazySeq (toward _ _ (.refl leads)))
    | byteStream cell => exact .inl (.byteStream (toward _ _ (.refl leads)))
    | future d =>
      have related := toward _ _ ⟨leads, levels + 1, rfl⟩
      rw [replace] at related ⊢
      split at related <;> exact .inl (.future related)
    | object o =>
      rw [replace]
      cases known : e.registry.writer? o.type with
      | some writer =>
        have handled : Counterpart c (e.sides e.options.append) V (.object o) (.object o) := by
          rcases kept with kept | isAtom | ⟨o, ⟨⟩, unknown⟩
          · exact kept
          · cases isAtom
          · rw [known] at unknown
            cases unknown
        exact .inl handled
      | none => exact .inr (.inr ⟨o, known, rfl, .inr rfl⟩)
    | annotated inner notes =>
      rw [replace]
      cases saved : e.options.saveMeta with
      | false => exact .inl (.left (uneven saved) (toward _ _ (part leads .inner levels)))
      | true =>
        exact .inl (.annotated saved (toward _ _ (part leads .inner levels))
          (entries toward (leads.tail .notes) levels))
    | _ => exact .inr (.inl ⟨rfl, rfl⟩)

omit toward in
/-- A deferred value that is not known to come is left as it is. -/
theorem eq_of_unknown {d d' : Deferred Value}
    (related : e.Replaced root stand (.future d) (.future d'))
    (unknown : ∀ v, e.store.outcome? d ≠ some (.ok v)) : d' = d := by
  obtain ⟨-, levels, same⟩ := related
  cases levels with
  | zero => exact Value.future.inj same
  | succ levels =>
    rw [replace] at same
    split at same
    next v known => exact absurd known (unknown v)
    next => exact Value.future.inj same

omit toward in
/-- A deferred value that is there instead of in its cell is the same to those who ask. -/
theorem asked {d d' : Deferred Value} (related : e.Replaced root stand (.future d) (.future d'))
    (timeout : ℕ) {store store' : Store}
    (evolved : Deferral.Evolved e.store.deferrals store.deferrals store'.deferrals) :
    Outcome.Alike (e.Replaced root stand) (store.resolve timeout d).1
        (store'.resolve timeout d').1 ∧
      Deferral.Evolved e.store.deferrals (store.resolve timeout d).2.deferrals
        (store'.resolve timeout d').2.deferrals := by
  obtain ⟨leads, levels, same⟩ := related
  have kept : Outcome.Alike (e.Replaced root stand) (store.resolve timeout d).1
        (store'.resolve timeout d).1 ∧
      Deferral.Evolved e.store.deferrals (store.resolve timeout d).2.deferrals
        (store'.resolve timeout d).2.deferrals := by
    obtain ⟨outcome, after⟩ :=
      (Encloses.deferredAlike (encloses_leads e root)).asked leads timeout evolved
    refine ⟨?_, after⟩
    generalize (store.resolve timeout d).1 = outcome₁, (store'.resolve timeout d).1 = outcome₂
      at outcome
    cases outcome with
    | ok related =>
      obtain ⟨rfl, leads⟩ := related
      exact .ok (.refl leads)
    | error failure => exact .error failure
  cases levels with
  | zero =>
    obtain rfl : d' = d := Value.future.inj same
    exact kept
  | succ levels =>
    rw [replace] at same
    split at same
    next v known =>
      obtain rfl : d' = .ready none (e.replace stand levels v) := Value.future.inj same
      cases d with
      | ready handle v' =>
        obtain rfl : v' = v := by
          cases known
          rfl
        exact ⟨.ok (part leads .ready levels), evolved⟩
      | shared cell =>
        obtain ⟨came, after, d, there, brings⟩ := Store.resolve_known evolved known timeout
        rw [came]
        exact ⟨.ok (part leads (.brought there brings) levels), after⟩
    next =>
      obtain rfl : d' = d := Value.future.inj same
      exact kept

end Replaced

end Encoder

/-! ## Sequences of related items -/

/-- As many items, each related to the other. -/
inductive ItemSource.Alike (V : Value → Value → Prop) : ItemSource → ItemSource → Prop
  | listed {items items' : List Value} (each : List.Forall₂ V items items') :
      ItemSource.Alike V (.listed items) (.listed items')
  | endless {item : ℕ → Value} {height : ℕ} {bounded : ∀ k, (item k).height ≤ height} {next : ℕ}
      (each : ∀ k, V (item k) (item k)) :
      ItemSource.Alike V (.endless item height bounded next) (.endless item height bounded next)

/-- Both sequences have related items, and both are being written or neither is. -/
structure Sequence.Alike (V : Value → Value → Prop) (s s' : Sequence) : Prop where
  busy : s'.busy = s.busy
  items : s.source.Alike V s'.source

namespace Sequence.Alike

variable {V : Value → Value → Prop} {s s' : Sequence}

theorem of_supplies (same : ∀ v, s.source.Supplies v → V v v) : s.Alike V s := by
  refine ⟨rfl, ?_⟩
  obtain ⟨items | ⟨item, height, bounded, next⟩, drawn, busy⟩ := s
  · exact .listed (List.forall₂_same.2 same)
  · exact .endless fun k => same _ ⟨k, rfl⟩

theorem size_eq (h : s.Alike V s') : s'.source.size? = s.source.size? := by
  have items := h.items
  generalize s.source = source, s'.source = source' at items
  cases items with
  | listed each => exact congrArg some each.length_eq.symm
  | endless each => rfl

theorem draw (h : s.Alike V s') :
    Option.Rel V s.draw.1 s'.draw.1 ∧ s.draw.2.Alike V s'.draw.2 := by
  obtain ⟨busy, items⟩ := h
  obtain ⟨source, drawn, busy'⟩ := s
  obtain ⟨source', drawn', busy''⟩ := s'
  cases items with
  | listed each =>
    cases each with
    | nil => exact ⟨.none, busy, .listed .nil⟩
    | cons head tail => exact ⟨.some head, busy, .listed tail⟩
  | endless each => exact ⟨.some (each _), busy, .endless each⟩

theorem flip (h : s.Alike V s') : s'.Alike (fun v w => V w v) s := by
  refine ⟨h.busy.symm, ?_⟩
  have items := h.items
  generalize s.source = source, s'.source = source' at items
  cases items with
  | listed each => exact .listed each.flip
  | endless each => exact .endless each

end Sequence.Alike

/-! ## Exchanges -/

namespace Encoder

/-- Values that may stand for each other: each stands for itself if a root leads to it, and what is
deferred and what is in errors stands for each other again. -/
structure Exchanges (e : Encoder) (root : Value) (V : Value → Value → Prop) : Prop where
  refl {v : Value} (leads : Leads e root v) : V v v
  leads {v : Value} (shared : V v v) : Leads e root v
  beside {t t' : Throwable Value} (related : V (.throwable t) (.throwable t')) : t.Beside V t'
  asked {d d' : Deferred Value} (related : V (.future d) (.future d')) (timeout : ℕ)
    {store store' : Store}
    (evolved : Deferral.Evolved e.store.deferrals store.deferrals store'.deferrals) :
    Outcome.Alike V (store.resolve timeout d).1 (store'.resolve timeout d').1 ∧
      Deferral.Evolved e.store.deferrals (store.resolve timeout d).2.deferrals
        (store'.resolve timeout d').2.deferrals

/-- Either value is the other one with others in place of objects. -/
def Exchanged (e : Encoder) (root : Value) (f g : HostObject Value → Value) (v w : Value) : Prop :=
  e.Replaced root f v w ∨ e.Replaced root g w v

/-- The value leads to no sequence in which anything was replaced. -/
def Untouched (e : Encoder) (root : Value) (live : ℕ → Bool) (v : Value) : Prop :=
  Leads e root v ∧ ∀ cell, Leads e v (.lazySeq cell) → live cell = false

/-- Handlers that the value leads to pass on errors, or else they write nothing that leads to a
sequence in which anything was replaced. -/
def Careful (e : Encoder) (live : ℕ → Bool) (root : Value) : Prop :=
  ∀ o writer, Leads e root (.object o) → e.registry.writer? o.type = some writer →
    (writer e.options o).Strict ∨ ∀ v, (writer e.options o).Mentions v →
      ∀ cell, Leads e v (.lazySeq cell) → live cell = false

/-- A time that is always refused. -/
def refusedTime : Value := .time ⟨86399, 1500000000, by decide, by decide⟩

/-- What stands in place of objects on the second side and on the first. If objects are written as
placeholders, these are the placeholders. Else objects are refused, and then so is what stands for
them on the first side. -/
inductive Stands (e : Encoder) :
    (HostObject Value → Value) → (HostObject Value → Value) → Prop
  | placeholders (kind : e.options.encodeUnsupported = true) : Stands e e.placeholder e.placeholder
  | refused (strict : e.options.encodeUnsupported = false) (f : HostObject Value → Value) :
      Stands e f fun _ => refusedTime

theorem encloses_untouched (e : Encoder) (root : Value) (live : ℕ → Bool) :
    Encloses e.options e.registry e.store (e.Untouched root live) :=
  fun member part => ⟨member.1.tail part, fun cell leads => member.2 cell (.head part leads)⟩

/-- The first value is what is left of the second one. -/
abbrev Restores (e : Encoder) (root : Value) (stand : HostObject Value → Value) (w v : Value) :
    Prop :=
  e.Replaced root stand v w

theorem Restores.exchanges (e : Encoder) (root : Value) (stand : HostObject Value → Value) :
    e.Exchanges root (e.Restores root stand) where
  refl := .refl
  leads shared := shared.1
  beside related :=
    (related.beside (V := fun v w => e.Replaced root stand v w) fun _ _ => id).flip
  asked related timeout _ _ evolved :=
    have both := related.asked timeout evolved.flip
    ⟨both.1.flip, both.2.flip⟩

theorem Exchanged.exchanges (e : Encoder) (root : Value) (f g : HostObject Value → Value) :
    e.Exchanges root (e.Exchanged root f g) where
  refl leads := .inl (.refl leads)
  leads shared := shared.elim And.left And.left
  beside related := by
    rcases related with related | related
    · exact related.beside fun _ _ => .inl
    · exact (related.beside (V := fun v w => e.Exchanged root f g w v) fun _ _ => .inr).flip
  asked related timeout _ _ evolved := by
    rcases related with related | related
    · obtain ⟨outcome, after⟩ := related.asked timeout evolved
      exact ⟨outcome.imp fun _ _ => .inl, after⟩
    · obtain ⟨outcome, after⟩ := related.asked timeout evolved.flip
      exact ⟨outcome.flip.imp fun _ _ => .inr, after.flip⟩

end Encoder

/-- Values stand for each other, and sequences and deferred values hold such. What leads to no
change is the same on both sides. -/
def Kind.exchanged (e : Encoder) (root : Value) (live : ℕ → Bool) (V : Value → Value → Prop) :
    Kind where
  values := V
  sequences cell s s' := s.Alike V s' ∧ (e.Untouched root live (.lazySeq cell) →
    s' = s ∧ ∀ v, s.source.Supplies v → e.Untouched root live v)
  deferrals := Deferral.Evolved e.store.deferrals
  outputs := Output.Shared Output.Willing
  stuck _ := False

/-- Exchanged values are compared while encoders have as many levels as it takes. Where objects are
refused, nothing is said about what follows. Where notes are saved, encoders are still kindred when
both were refused. -/
abbrev Comparison.exchanged (e : Encoder) (root : Value) (live : ℕ → Bool)
    (V : Value → Value → Prop) (pinned : Pinned) : Comparison :=
  .ofKind (.exchanged e root live V) (e.sides e.options.append) pinned
    (e.options.saveMeta = true) false (e.options.encodeUnsupported = false)
    (e.options.saveMeta = false)

namespace Encoder

variable {e : Encoder} {root : Value} {live : ℕ → Bool} {V : Value → Value → Prop}
  {pinned : Pinned}

/-- Encoders over cells that hold exchanged values. -/
abbrev Exchanging (e : Encoder) (root : Value) (live : ℕ → Bool) (V : Value → Value → Prop)
    (pinned : Pinned) : Encoder → Encoder → Prop :=
  Kin (.exchanged e root live V) (e.sides e.options.append) pinned

namespace Exchanges

variable (exchanges : e.Exchanges root V)

include exchanges

theorem lawful : (Kind.exchanged e root live V).Lawful where
  busy related := related.1.busy
  size related := related.1.size_eq
  marked {cell s s'} related busy :=
    ⟨⟨rfl, related.1.items⟩, fun untouched => by
      obtain ⟨rfl, supplies⟩ := related.2 untouched
      exact ⟨rfl, supplies⟩⟩
  drawn {cell s s'} related := by
    obtain ⟨items, after⟩ := related.1.draw
    refine ⟨items, after, fun untouched => ?_⟩
    obtain ⟨rfl, supplies⟩ := related.2 untouched
    exact ⟨rfl, fun v supplied => supplies v (s'.supplies_of_draw.2 v supplied)⟩
  asked := exchanges.asked
  put := Outlets.shared fun slice _ willing => willing.put slice

theorem analogy :
    Analogy (.exchanged e root live V pinned) V (e.Exchanging root live V pinned) :=
  Kin.analogy exchanges.lawful exchanges.beside fun _ => False.elim

end Exchanges

/-- Where notes are not saved, a refusal may come at another place. -/
theorem Exchanging.bare : (Comparison.exchanged e root live V pinned).uneven →
    (Comparison.exchanged e root live V pinned).Bare (e.Exchanging root live V pinned) := by
  intro lost
  have loose (saved : e.options.saveMeta = true) : False :=
    Bool.noConfusion (saved.symm.trans lost)
  refine ⟨rfl, fun kin => ?_, fun failed _ _ => ?_, fun failed _ _ => ?_⟩
  · obtain ⟨output, -, willing⟩ := kin.outputs
    exact ⟨willing, output.symm ▸ willing⟩
  · exact ⟨failed.1, failed.2.1, fun saved => (loose saved).elim⟩
  · exact ⟨failed.1, failed.2.1, fun saved => (loose saved).elim⟩

/-! ## What stands for objects -/

theorem Exchanging.flat {o : HostObject Value} (unknown : e.registry.writer? o.type = none) :
    Flat (e.Exchanging root live V pinned) (.object o) (.object o) :=
  .unknown (fun _ _ kin => ⟨kin.setting, kin.setting'⟩)
    (fun _ _ kin => (Encloses.deferredAlike (encloses_leads e root)).shown kin.store.deferrals o)
    unknown

/-- The first side has the settings and handlers that were there at the start, and shows objects as
they were shown then. -/
theorem Exchanging.first {s s' : Encoder} (kin : e.Exchanging root live V pinned s s') :
    s.setting = e.setting ∧ ∀ o, s.store.placeholder o = e.store.placeholder o :=
  ⟨kin.setting, Store.placeholder_of_evolved kin.store.deferrals⟩

theorem Exchanging.second {s s' : Encoder} (kin : e.Exchanging root live V pinned s s') :
    s'.setting = e.setting ∧ ∀ o, s'.store.placeholder o = e.store.placeholder o :=
  ⟨kin.setting', Store.placeholder_of_evolved kin.store.deferrals.flip⟩

/-- A placeholder is written as the object is. -/
theorem flat_placeholder {E : Encoder → Encoder → Prop} {o : HostObject Value}
    (before : ∀ s s', E s s' → s.setting = e.setting ∧
      ∀ o, s.store.placeholder o = e.store.placeholder o)
    (unknown : e.registry.writer? o.type = none) (kind : e.options.encodeUnsupported = true) :
    Flat E (.object o) (e.placeholder o) := by
  intro s s' related
  obtain ⟨setting, shown⟩ := before s s' related
  have registry : s.registry = e.registry := congrArg Setting.registry setting
  have options : s.options = e.options := congrArg Setting.options setting
  refine .inl ⟨_, .writePlaceholder (s.store.placeholder o), fun below => ⟨?_, ?_⟩⟩
  · exact EncodeM.prepareAbove_of_unknown (registry ▸ unknown) (options ▸ kind) below
  · rw [shown]
    rfl

/-- A value that is refused whatever is below it. -/
theorem excuses_of_refused {c : Comparison} (lenient : c.lenient) (inexact : c.exact = false)
    {v : Value} {s : Encoder} {error : StreamError}
    (run : ∀ below, EncodeM.prepareAbove below v s = .error (.refused error) s) (levels : ℕ) :
    c.Excuses (EncodeM.prepare levels v s) := by
  cases levels with
  | zero => exact inexact
  | succ levels =>
    rw [EncodeM.prepare, run]
    exact lenient

/-- An object that nothing writes is refused if placeholders are off, and then nothing is to be
said. -/
theorem Exchanging.excused {s s' : Encoder} (kin : e.Exchanging root live V pinned s s')
    {o : HostObject Value} (unknown : e.registry.writer? o.type = none)
    (strict : e.options.encodeUnsupported = false) (levels : ℕ) :
    (Comparison.exchanged e root live V pinned).Excuses (EncodeM.prepare levels (.object o) s) := by
  have registry : s.registry = e.registry := congrArg Setting.registry kin.setting
  have options : s.options = e.options := congrArg Setting.options kin.setting
  exact excuses_of_refused strict rfl
    (EncodeM.prepareAbove_of_unsupported (registry ▸ unknown) (options ▸ strict)) levels

section

variable {f g : HostObject Value → Value}

/-- What stands for an object on the second side is written as the object is, or nothing is to be
said. -/
theorem Stands.second (stands : e.Stands f g) {o : HostObject Value}
    (unknown : e.registry.writer? o.type = none) :
    Flat (e.Exchanging root live V pinned) (.object o) (f o) ∨
      e.options.encodeUnsupported = false ∧ ∀ levels s s', e.Exchanging root live V pinned s s' →
        (Comparison.exchanged e root live V pinned).Excuses
          (EncodeM.prepare levels (.object o) s) := by
  cases stands with
  | placeholders kind => exact .inl (flat_placeholder (fun _ _ kin => kin.first) unknown kind)
  | refused strict => exact .inr ⟨strict, fun levels _ _ kin => kin.excused unknown strict levels⟩

/-- What stands for an object on the first side is written as the object is, or nothing is to be
said. -/
theorem Stands.first (stands : e.Stands f g) {o : HostObject Value}
    (unknown : e.registry.writer? o.type = none) :
    Flat (e.Exchanging root live V pinned) (g o) (.object o) ∨
      e.options.encodeUnsupported = false ∧ ∀ levels s s', e.Exchanging root live V pinned s s' →
        (Comparison.exchanged e root live V pinned).Excuses (EncodeM.prepare levels (g o) s) := by
  cases stands with
  | placeholders kind =>
    have flat : Flat (fun s s' => e.Exchanging root live V pinned s' s) (.object o)
        (e.placeholder o) :=
      flat_placeholder (fun _ _ kin => Exchanging.second kin) unknown kind
    exact .inl flat.flip
  | refused strict =>
    exact .inr ⟨strict, fun levels _ _ _ => excuses_of_refused strict rfl (fun _ => rfl) levels⟩

end

/-! ## What leads to no change -/

/-- Values that lead to no change, over the same cells. -/
abbrev Aloof (e : Encoder) (root : Value) (live : ℕ → Bool) : Kind :=
  .same (e.Untouched root live) (fun _ => False) (Deferral.Evolved e.store.deferrals)
    (Output.Shared Output.Willing)

/-- Values that lead to no change are written alike while all other cells stay as they are. -/
theorem Aloof.correspondence (e : Encoder) (root : Value) (live : ℕ → Bool) (pinned : Pinned) :
    Correspondence (.strict (e.Aloof root live) (e.sides e.options.append) pinned false)
      (e.sides e.options.append) (Kin (e.Aloof root live) (e.sides e.options.append) pinned)
      (e.Aloof root live).values :=
  have encloses : Encloses e.options e.registry e.store (e.Untouched root live) :=
    encloses_untouched e root live
  encloses.correspondence encloses.deferredAlike (.shared fun slice _ willing => willing.put slice)
    (fun _ _ _ _ => rfl) fun _ => False.elim

section

variable (exchanges : e.Exchanges root V)

include exchanges

/-- The cells that lead to no change are the same, and the others are as they are. -/
theorem Exchanging.narrow {s s' : Encoder} (kin : e.Exchanging root live V pinned s s') :
    Kin (e.Aloof root live) (e.sides e.options.append) (.of s s') s s' := by
  refine ⟨kin.setting, kin.setting', kin.idle, kin.idle', kin.outputs, fun {cell} draws => ?_,
    fun _ => ⟨rfl, rfl⟩, kin.store.readers, kin.store.deferrals⟩
  have untouched : e.Untouched root live (.lazySeq cell) := draws.1.2
  have shared : (Kind.exchanged e root live V).Draws cell := ⟨exchanges.refl untouched.1, id⟩
  have both := kin.store.shared shared
  generalize s.store.sequences[cell]? = q, s'.store.sequences[cell]? = q' at both
  cases both with
  | none => exact .none
  | some related => exact .some (related.2 untouched)

/-- What happens to cells that lead to no change leaves all cells related. -/
theorem Exchanging.widen {s s' after after' : Encoder}
    (kin : e.Exchanging root live V pinned s s')
    (narrow : Kin (e.Aloof root live) (e.sides e.options.append) (.of s s') after after') :
    e.Exchanging root live V pinned after after' := by
  have draws {cell : ℕ} (untouched : e.Untouched root live (.lazySeq cell)) :
      (Aloof e root live).Draws cell := ⟨⟨rfl, untouched⟩, id⟩
  refine ⟨narrow.setting, narrow.setting', narrow.idle, narrow.idle', narrow.outputs,
    fun {cell} shared => ?_, fun {cell} aside => ?_, narrow.store.readers, narrow.store.deferrals⟩
  · by_cases untouched : e.Untouched root live (.lazySeq cell)
    · have both := narrow.store.shared (draws untouched)
      generalize after.store.sequences[cell]? = q, after'.store.sequences[cell]? = q' at both
      cases both with
      | none => exact .none
      | some related =>
        obtain ⟨rfl, supplies⟩ := related
        exact .some ⟨.of_supplies fun v supplied => exchanges.refl (supplies v supplied).1,
          fun _ => ⟨rfl, supplies⟩⟩
    · obtain ⟨first, second⟩ := narrow.store.kept fun draws => untouched draws.1.2
      rw [first, second]
      exact kin.store.shared shared
  · have touched : ¬ e.Untouched root live (.lazySeq cell) := fun untouched =>
      aside ⟨exchanges.refl untouched.1, id⟩
    obtain ⟨first, second⟩ := narrow.store.kept fun draws => touched draws.1.2
    rw [first, second]
    exact kin.store.kept aside

/-- What is done alike while all cells that lead to a change stay as they are is done alike. So does
what holds of these cells. -/
theorem Exchanging.aside {n : ℕ} {α : Type} {m : EncodeM α} {job : ℕ → EncodeM α}
    {P : Encoder → Prop}
    (kept : ∀ s s' : Encoder, (∀ cell, ¬ e.Untouched root live (.lazySeq cell) →
      s'.store.sequences[cell]? = s.store.sequences[cell]?) → P s → P s')
    (apart : ∀ pinned, Tracks
      (.strict (e.Aloof root live) (e.sides e.options.append) pinned false) n
      (Kin (e.Aloof root live) (e.sides e.options.append) pinned) Eq
      (Kin (e.Aloof root live) (e.sides e.options.append) pinned) m job) :
    Tracks (.exchanged e root live V pinned) n
      (fun s s' => e.Exchanging root live V pinned s s' ∧ P s') Eq
      (fun s s' => e.Exchanging root live V pinned s s' ∧ P s') m job := by
  rintro s s' ⟨kin, holds⟩
  have failed (after after' : Encoder)
      (failed : (Comparison.strict (e.Aloof root live) (e.sides e.options.append) (.of s s')
        false).failed after after') :
      (Comparison.exchanged e root live V pinned).failed after after' :=
    Kin.failed (kin.widen exchanges (failed.2.2 trivial))
  refine ((apart (.of s s')).weaken (d := .exchanged e root live V pinned) rfl id failed).imp
    (fun _ _ => id) (fun after after' narrow => ⟨kin.widen exchanges narrow, ?_⟩) s s'
    (kin.narrow exchanges)
  exact kept s' after' (fun cell touched =>
    (narrow.store.kept fun draws => touched draws.1.2).2) holds

end

/-- A handler that writes nothing which leads to a change does the same on both sides, whatever it
does after an error. -/
theorem Aloof.runPlan {plan : WritePlan Unit}
    (inside : ∀ v, plan.Mentions v → e.Untouched root live v) (n : ℕ) (pinned : Pinned) :
    Tracks (.strict (e.Aloof root live) (e.sides e.options.append) pinned false) n
      (Kin (e.Aloof root live) (e.sides e.options.append) pinned) Eq
      (Kin (e.Aloof root live) (e.sides e.options.append) pinned)
      (EncodeM.runPlan (EncodeM.encodeWithin n) plan)
      fun levels => EncodeM.runPlan (EncodeM.encodeWithin levels) plan :=
  have alike := Aloof.correspondence e root live pinned
  alike.runPlan_of_tight (fun _ _ related => alike.tracked related)
    (fun _ _ failed => failed.2.2 trivial) False.elim
    (.of_mentions fun v mentions => ⟨rfl, inside v mentions⟩)

/-! ## The correspondence of exchanged values -/

/-- Exchanged values are written alike, if what stands for objects is. -/
theorem Exchanged.correspondence {f g : HostObject Value → Value} (stands : e.Stands f g)
    (careful : e.Careful live root ∨
      e.options.saveMeta = true ∧ e.options.encodeUnsupported = true) :
    Correspondence (.exchanged e root live (e.Exchanged root f g) pinned)
      (e.sides e.options.append) (e.Exchanging root live (e.Exchanged root f g) pinned)
      (e.Exchanged root f g) where
  toAnalogy := (Exchanged.exchanges e root f g).analogy
  setting kin := ⟨kin.setting, kin.setting'⟩
  counterpart {v w} related := by
    have uneven : e.options.saveMeta = false →
        (Comparison.exchanged e root live (e.Exchanged root f g) pinned).uneven := id
    rcases related with related | related
    · have toward (v w : Value) : e.Replaced root f v w → e.Exchanged root f g v w := .inl
      rcases related.counterpart toward uneven with
        counterpart | ⟨isAtom, rfl⟩ | ⟨o, unknown, rfl, rfl | rfl⟩
      · exact .inl counterpart
      · exact .inr (.inl (.atom isAtom))
      · exact .inr (.inl (Exchanging.flat unknown))
      · exact .inr (stands.second unknown)
    · have toward (v w : Value) : e.Replaced root g v w → e.Exchanged root f g w v := .inr
      rcases related.counterpart toward uneven with
        counterpart | ⟨isAtom, rfl⟩ | ⟨o, unknown, rfl, rfl | rfl⟩
      · exact .inl counterpart.flip
      · exact .inr (.inl (.atom isAtom))
      · exact .inr (.inl (Exchanging.flat unknown))
      · exact .inr (stands.first unknown)
  plan {o plan} shared planned inside n h := by
    have exchanges := Exchanged.exchanges e root f g
    have leads := exchanges.leads shared
    rcases careful with careful | ⟨saved, kind⟩
    · obtain ⟨writer, known, rfl, -⟩ := planned
      rcases careful o writer leads known with strict | apart
      · exact exchanges.analogy.runPlan_of_strict h strict inside
      · have untouched (v : Value) (mentions : (writer e.options o).Mentions v) :
            e.Untouched root live v :=
          ⟨leads.tail (.handled known mentions), apart v mentions⟩
        exact (Exchanging.aside exchanges (P := fun _ => True) (fun _ _ _ => id)
          (Aloof.runPlan untouched n)).imp (fun _ _ kin => ⟨kin, trivial⟩) fun _ _ => And.left
    · have severe : ¬ e.options.encodeUnsupported = false := by simp [kind]
      exact exchanges.analogy.runPlan_of_tight h (fun _ _ failed => failed.2.2 saved) severe inside
  bare := Exchanging.bare
  lost := id

/-! ## Both sides at the start -/

theorem getElem?_replaceIn (e : Encoder) (stand : HostObject Value → Value) (live : ℕ → Bool)
    (levels cell : ℕ) : (e.replaceIn stand live levels).store.sequences[cell]? =
      (e.store.sequences[cell]?).map fun s =>
        if live cell then s.map (e.replace stand levels) else s :=
  Array.getElem?_mapIdx

/-- The items of a sequence are replaced, or it is left as it is. -/
theorem Replaced.sequence {stand : HostObject Value → Value}
    (toward : ∀ v w, e.Replaced root stand v w → V v w) {cell : ℕ} {s : Sequence}
    (there : e.store.sequences[cell]? = some s) (leads : Leads e root (.lazySeq cell))
    (live : ℕ → Bool) (levels : ℕ) :
    s.Alike V (if live cell then s.map (e.replace stand levels) else s) := by
  have supplies (v : Value) (supplied : s.source.Supplies v) : Leads e root v :=
    leads.tail (.item there supplied)
  have kept : s.Alike V s := .of_supplies fun v supplied => toward v v (.refl (supplies v supplied))
  split
  · obtain ⟨items | _, drawn, busy⟩ := s
    · exact ⟨rfl, .listed (Replaced.items toward supplies levels)⟩
    · exact kept
  · exact kept

/-- A sequence that leads to no change is left as it is. -/
theorem Untouched.sequence {cell : ℕ} {s : Sequence} (there : e.store.sequences[cell]? = some s)
    (untouched : e.Untouched root live (.lazySeq cell)) :
    live cell = false ∧ ∀ v, s.source.Supplies v → e.Untouched root live v :=
  ⟨untouched.2 cell .refl, fun _ supplied => encloses_untouched e root live untouched
    (.item there supplied)⟩

section

variable {stand : HostObject Value → Value} (exchanges : e.Exchanges root V) (idle : e.Idle)
  (willing : e.output.Willing) (levels : ℕ)

include exchanges idle willing

/-- The second side has others in place of objects. -/
theorem Exchanging.start (toward : ∀ v w, e.Replaced root stand v w → V v w) :
    e.Exchanging root live V (.of e (e.replaceIn stand live levels)) e
      (e.replaceIn stand live levels) := by
  refine ⟨rfl, rfl, idle, idle, ⟨rfl, rfl, willing⟩, fun {cell} draws => ?_, fun _ => ⟨rfl, rfl⟩,
    rfl, .refl _⟩
  have leads : Leads e root (.lazySeq cell) := exchanges.leads draws.1
  rw [getElem?_replaceIn]
  cases there : e.store.sequences[cell]? with
  | none => exact .none
  | some s =>
    refine .some ⟨Replaced.sequence toward there leads live levels, fun untouched => ?_⟩
    obtain ⟨left, supplies⟩ := untouched.sequence there
    exact ⟨by simp [left], supplies⟩

/-- The first side has others in place of objects. -/
theorem Exchanging.start_back (toward : ∀ v w, e.Replaced root stand v w → V w v) :
    e.Exchanging root live V (.of (e.replaceIn stand live levels) e)
      (e.replaceIn stand live levels) e := by
  refine ⟨rfl, rfl, idle, idle, ⟨rfl, rfl, willing⟩, fun {cell} draws => ?_, fun _ => ⟨rfl, rfl⟩,
    rfl, .refl _⟩
  have leads : Leads e root (.lazySeq cell) := exchanges.leads draws.1
  rw [getElem?_replaceIn]
  cases there : e.store.sequences[cell]? with
  | none => exact .none
  | some s =>
    refine .some ⟨(Replaced.sequence (V := fun v w => V w v) toward there leads live levels).flip,
      fun untouched => ?_⟩
    obtain ⟨left, supplies⟩ := untouched.sequence there
    rw [left]
    exact ⟨rfl, supplies⟩

end

end Encoder

end TaggedStream
