import TaggedStream.Value.Basic

/-!
Sequences that are drawn from one item at a time.

Each cell counts what was drawn. It is marked while it is being written, because an item that asks
for the very sequence it belongs to would wait for ever.
-/

namespace TaggedStream

/-- The items that a sequence has left: a list, or a rule for item after item without end. -/
inductive ItemSource where
  | listed (items : List Value)
  | endless (item : Nat → Value) (height : Nat) (bounded : ∀ k, (item k).height ≤ height)
      (next : Nat)

namespace ItemSource

instance : Inhabited ItemSource := ⟨.listed []⟩

/-- Draws the next item. A list that is used up stays so. -/
def draw : ItemSource → Option Value × ItemSource
  | .listed [] => (none, .listed [])
  | .listed (item :: rest) => (some item, .listed rest)
  | .endless item height bounded next => (some (item next), .endless item height bounded (next + 1))

/-- How many items are left; `none` when they never end. -/
def size? : ItemSource → Option Nat
  | .listed items => some items.length
  | .endless .. => none

/-- A bound for the height of every item. -/
def height : ItemSource → Nat
  | .listed items => Value.heightOfList items
  | .endless _ height _ _ => height

end ItemSource

/-- A cell of the store that holds a sequence. -/
structure Sequence where
  source : ItemSource
  /-- How many items were drawn so far. -/
  drawn : Nat := 0
  /-- Whether the sequence is being written. -/
  busy : Bool := false
deriving Inhabited

namespace Sequence

/-- Draws the next item and counts it. -/
def draw (sequence : Sequence) : Option Value × Sequence :=
  match sequence.source.draw with
  | (none, source) => (none, { sequence with source })
  | (some item, source) => (some item, { sequence with source, drawn := sequence.drawn + 1 })

end Sequence

end TaggedStream
