import Mathlib.Data.List.Forall2
import Mathlib.Data.Option.Basic
import TaggedStream.Proofs.Handling
import TaggedStream.Proofs.Portable

/-!
What arrives of a value at the other end of a stream.

`Value.Arrives` relates a value to what may be read in its place. Numbers, texts and the like arrive
as they are, and values that hold others arrive with what arrives of these. A deferred value arrives
without its handle, and so does an object, since nothing is shared yet at the other end; a host may
count further objects as equal.

If byte strings stand for what arrives of the values inside, then a payload stands for what arrives
of the value around them.
-/

namespace TaggedStream

/-- Lists whose members are related by a function are related by it. -/
theorem eq_map_of_forall₂ {α β : Type} {R : α → β → Prop} {f : α → β} {items : List α}
    {items' : List β} (related : List.Forall₂ R items items')
    (each : ∀ a ∈ items, ∀ b, R a b → b = f a) : items' = items.map f := by
  induction related with
  | nil => rfl
  | cons head _ ih =>
    rw [List.map_cons, each _ (List.mem_cons_self ..) _ head,
      ih fun a mem => each a (List.mem_cons_of_mem _ mem)]

/-- The same kind of field, with related values inside. -/
inductive HostPart.Related {ν : Type} (R : ν → ν → Prop) : HostPart ν → HostPart ν → Prop
  | integer (i : Int) : Related R (.integer i) (.integer i)
  | text (s : String) : Related R (.text s) (.text s)
  | bytes (content : List UInt8) : Related R (.bytes content) (.bytes content)
  | integers (is : List Int) : Related R (.integers is) (.integers is)
  | value {v w : ν} (related : R v w) : Related R (.value v) (.value w)

namespace Value

/-- The second value may be read where the first one was written, if a host counts the objects that
`same` relates as equal. -/
inductive Arrives (same : HostObject Value → HostObject Value → Prop) : Value → Value → Prop
  | atom {v : Value} (isAtom : v.isAtom = true) : Arrives same v v
  | vector {items items' : List Value} (each : List.Forall₂ (Arrives same) items items') :
      Arrives same (.vector items) (.vector items')
  | set {items items' : List Value} (each : List.Forall₂ (Arrives same) items items') :
      Arrives same (.set items) (.set items')
  | seq {items items' : List Value} (each : List.Forall₂ (Arrives same) items items') :
      Arrives same (.seq items) (.seq items')
  | map {entries entries' : List (Value × Value)}
      (each : List.Forall₂ (Prod.RProd (Arrives same) (Arrives same)) entries entries') :
      Arrives same (.map ⟨entries⟩) (.map ⟨entries'⟩)
  | future {handle : Option Nat} {v w : Value} (inside : Arrives same v w) :
      Arrives same (.future (.ready handle v)) (.future (.ready none w))
  | throwable {message : Option String} {frames : List Frame}
      {cause cause' : Option (Throwable Value)} {suppressed suppressed' : List (Throwable Value)}
      {data data' : Option (OrderedMap Value Value)}
      (below : Option.Rel (fun t t' => Arrives same (.throwable t) (.throwable t')) cause cause')
      (beside : List.Forall₂ (fun t t' => Arrives same (.throwable t) (.throwable t'))
        suppressed suppressed')
      (inside : Option.Rel (fun m m' => Arrives same (.map m) (.map m')) data data') :
      Arrives same (.throwable ⟨message, frames, cause, suppressed, data⟩)
        (.throwable ⟨message, frames, cause', suppressed', data'⟩)
  | object {handle : Option Nat} {type : HostType} {parts parts' : List (HostPart Value)}
      (each : List.Forall₂ (HostPart.Related (Arrives same)) parts parts') :
      Arrives same (.object ⟨handle, type, parts⟩) (.object ⟨none, type, parts'⟩)
  | same {o o' : HostObject Value} (equal : same o o') : Arrives same (.object o) (.object o')
  | annotated {inner inner' : Value} {notes notes' : OrderedMap Value Value}
      (inside : Arrives same inner inner') (beside : Arrives same (.map notes) (.map notes')) :
      Arrives same (.annotated inner notes) (.annotated inner' notes')

namespace Arrives

variable {same : HostObject Value → HostObject Value → Prop} {w : Value}

theorem of_map {m : OrderedMap Value Value} (h : Arrives same (.map m) w) : ∃ m', w = .map m' := by
  cases h with
  | atom isAtom => cases isAtom
  | map => exact ⟨_, rfl⟩

theorem of_throwable {t : Throwable Value} (h : Arrives same (.throwable t) w) :
    ∃ t', w = .throwable t' := by
  cases h with
  | atom isAtom => cases isAtom
  | throwable => exact ⟨_, rfl⟩

end Arrives

end Value

/-- Bytes arrive as they are, and values as what arrives of them. -/
abbrev Cargo.Arrives (same : HostObject Value → HostObject Value → Prop) : Cargo → Cargo → Prop :=
  List.Forall₂ (Sum.LiftRel Eq (Value.Arrives same))

/-! ## Forms of what arrives -/

namespace Form

/-- What stands for a thing in the first form stands for a related thing in the second one. -/
def Turns {α β : Type} (form : Form α) (R : α → β → Prop) (other : Form β) : Prop :=
  ∀ bytes a, form bytes a → ∃ b, R a b ∧ other bytes b

namespace Turns

variable {α β : Type} {form : Form α} {other : Form β} {R : α → β → Prop}

theorem many (h : form.Turns R other) : (many form).Turns (List.Forall₂ R) (many other) := by
  intro bytes items all
  induction all with
  | nil => exact ⟨[], .nil, .nil⟩
  | cons head _ ih =>
    obtain ⟨b, related, isHead⟩ := h _ _ head
    obtain ⟨rest, others, isTail⟩ := ih
    exact ⟨b :: rest, .cons related others, .cons isHead isTail⟩

theorem counted (h : form.Turns R other) :
    (counted form).Turns (List.Forall₂ R) (counted other) := by
  intro bytes items found
  rcases found with ⟨number, all⟩
  obtain ⟨items', related, all'⟩ := h.many _ _ all
  exact ⟨items', related, .mk (related.length_eq ▸ number) all'⟩

theorem chunked (h : form.Turns R other) :
    (chunked (Form.many form)).Turns (List.Forall₂ R) (chunked (Form.many other)) := by
  intro bytes items pieces
  induction pieces with
  | done zero => exact ⟨[], .nil, .done zero⟩
  | chunk number ne_nil head _ ih =>
    obtain ⟨piece, related, isPiece⟩ := h.many _ _ head
    obtain ⟨rest, others, isTail⟩ := ih
    have length := related.length_eq
    refine ⟨piece ++ rest, List.rel_append related others,
      .chunk (length ▸ number) (fun empty => ne_nil ?_) isPiece isTail⟩
    rw [empty, List.length_nil] at length
    exact List.eq_nil_of_length_eq_zero length

theorem optional (h : form.Turns R other) :
    (optional form).Turns (Option.Rel R) (optional other) := by
  intro bytes item found
  cases found with
  | none => exact ⟨none, .none, .none⟩
  | some present =>
    obtain ⟨b, related, isItem⟩ := h _ _ present
    exact ⟨some b, .some related, .some isItem⟩

end Turns

end Form

section

variable {same : HostObject Value → HostObject Value → Prop} {element inner : Form Value}
  (h : element.Turns (Value.Arrives same) inner)

include h

theorem Form.Turns.entry : (Form.pair element element).Turns
    (Prod.RProd (Value.Arrives same) (Value.Arrives same)) (Form.pair inner inner) := by
  intro bytes entry found
  rcases found with ⟨isKey, isValue⟩
  obtain ⟨key, relatedKey, isKey⟩ := h _ _ isKey
  obtain ⟨value, relatedValue, isValue⟩ := h _ _ isValue
  exact ⟨(key, value), ⟨relatedKey, relatedValue⟩, .mk isKey isValue⟩

theorem Form.Turns.cargo : (Form.cargo element).Turns (Cargo.Arrives same) (Form.cargo inner) := by
  apply Form.Turns.many
  intro bytes item found
  cases item with
  | inl byte => exact ⟨.inl byte, .inl rfl, found⟩
  | inr v =>
    obtain ⟨w, related, isValue⟩ := h _ _ found
    exact ⟨.inr w, .inr related, isValue⟩

theorem Form.Turns.mapValue : Form.Turns (fun bytes m => element bytes (.map m))
    (fun m m' => Value.Arrives same (.map m) (.map m')) (fun bytes m => inner bytes (.map m)) := by
  intro bytes m found
  obtain ⟨w, related, isValue⟩ := h _ _ found
  obtain ⟨m', rfl⟩ := related.of_map
  exact ⟨m', related, isValue⟩

theorem Form.Turns.nestedThrowable : Form.Turns (fun bytes t => element bytes (.throwable t))
    (fun t t' => Value.Arrives same (.throwable t) (.throwable t'))
    (fun bytes t => inner bytes (.throwable t)) := by
  intro bytes t found
  obtain ⟨w, related, isValue⟩ := h _ _ found
  obtain ⟨t', rfl⟩ := related.of_throwable
  exact ⟨t', related, isValue⟩

theorem Form.Turns.throwable {data data' : Option (OrderedMap Value Value)}
    (arrives : Option.Rel (fun m m' => Value.Arrives same (.map m) (.map m')) data data') :
    (Form.throwable element data).Turns
      (fun t t' => Value.Arrives same (.throwable t) (.throwable t'))
      (Form.throwable inner data') := by
  intro bytes t found
  rcases found with ⟨message, frames, cause, suppressed, rfl⟩
  obtain ⟨cause', below, isCause⟩ := h.nestedThrowable.optional _ _ cause
  obtain ⟨suppressed', beside, areSuppressed⟩ := h.nestedThrowable.counted _ _ suppressed
  obtain ⟨text, trace, cause, suppressed, data⟩ := t
  exact ⟨⟨text, trace, cause', suppressed', data'⟩, .throwable below beside arrives,
    .mk message frames isCause areSuppressed rfl⟩

/-- If what is inside turns into what arrives of it, so does the payload around it. -/
theorem Payload.turns (tag : Tag) :
    (Payload element tag).Turns (Value.Arrives same) (Payload inner tag) := by
  intro bytes v payload
  cases payload with
  | annotated notes value =>
    obtain ⟨notes', beside, areNotes⟩ := h.mapValue _ _ notes
    obtain ⟨value', inside, isValue⟩ := h _ _ value
    exact ⟨_, .annotated inside beside, .annotated areNotes isValue⟩
  | vector items =>
    obtain ⟨items', each, areItems⟩ := h.counted _ _ items
    exact ⟨_, .vector each, .vector areItems⟩
  | vectorEmpty => exact ⟨_, .vector .nil, .vectorEmpty⟩
  | set items =>
    obtain ⟨items', each, areItems⟩ := h.counted _ _ items
    exact ⟨_, .set each, .set areItems⟩
  | setEmpty => exact ⟨_, .set .nil, .setEmpty⟩
  | map entries =>
    obtain ⟨entries', each, areEntries⟩ := h.entry.counted _ _ entries
    exact ⟨_, .map each, .map areEntries⟩
  | mapEmpty => exact ⟨_, .map .nil, .mapEmpty⟩
  | seq items =>
    obtain ⟨items', each, areItems⟩ := h.chunked _ _ items
    exact ⟨_, .seq each, .seq areItems⟩
  | throwable body =>
    obtain ⟨t', arrives, isBody⟩ := h.throwable .none _ _ body
    exact ⟨_, arrives, .throwable isBody⟩
  | throwableWithData data body =>
    obtain ⟨data', arrives, isData⟩ := h.mapValue _ _ data
    obtain ⟨t', arrives, isBody⟩ := h.throwable (.some arrives) _ _ body
    exact ⟨_, arrives, .throwableWithData isData isBody⟩
  | future value =>
    obtain ⟨value', inside, isValue⟩ := h _ _ value
    exact ⟨_, .future inside, .future isValue⟩
  | number number => exact ⟨_, .atom (by cases number <;> rfl), .number number⟩
  | @constant kind constant => exact ⟨_, .atom (by cases kind <;> rfl), .constant⟩
  | _ => exact ⟨_, .atom rfl, by constructor <;> assumption⟩

end

end TaggedStream
