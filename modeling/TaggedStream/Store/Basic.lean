import TaggedStream.Channel.Script
import TaggedStream.Store.Deferral
import TaggedStream.Store.Sequence

/-!
The store: all that values refer to by number because it changes.

Cells are never removed, so a number keeps its meaning. A number without a cell stands for a source
that is used up and for a deferred value whose other end is gone.
-/

namespace TaggedStream

/-- The cells behind lazy sequences, byte streams and shared deferred values. -/
structure Store where
  sequences : Array Sequence := #[]
  readers : Array Script := #[]
  deferrals : Array Deferral := #[]

namespace Store

instance : Inhabited Store := ⟨{}⟩

/-- The store without cells. -/
def empty : Store := {}

/-! ## Adding cells -/

/-- Adds a sequence and gives its number. -/
def addSequence (source : ItemSource) (store : Store) : Nat × Store :=
  (store.sequences.size, { store with sequences := store.sequences.push { source } })

/-- Adds a reader and gives its number. -/
def addReader (script : Script) (store : Store) : Nat × Store :=
  (store.readers.size, { store with readers := store.readers.push script })

/-- Adds the origin of a deferred value and gives its number. -/
def addDeferral (deferral : Deferral) (store : Store) : Nat × Store :=
  (store.deferrals.size, { store with deferrals := store.deferrals.push deferral })

/-! ## Sequences and readers -/

/-- Draws an item from a sequence. -/
def draw (cell : Nat) (store : Store) : Option Value × Store :=
  match store.sequences[cell]? with
  | none => (none, store)
  | some sequence =>
    match sequence.draw with
    | (item, sequence) =>
      (item, { store with sequences := store.sequences.setIfInBounds cell sequence })

/-- How many items a sequence has left; `none` when they never end. -/
def size? (cell : Nat) (store : Store) : Option Nat :=
  match store.sequences[cell]? with
  | none => some 0
  | some sequence => sequence.source.size?

/-- How many items were drawn from all sequences together. -/
def drawn (store : Store) : Nat :=
  store.sequences.foldl (fun sum sequence => sum + sequence.drawn) 0

/-- Whether a sequence is being written. -/
def sequenceIsBusy (cell : Nat) (store : Store) : Bool :=
  match store.sequences[cell]? with
  | none => false
  | some sequence => sequence.busy

/-- Marks whether a sequence is being written. -/
def markSequence (cell : Nat) (busy : Bool) (store : Store) : Store :=
  { store with sequences := store.sequences.modify cell fun sequence => { sequence with busy } }

/-- Fills a buffer of `want` bytes from a reader. -/
def fill (cell want : Nat) (store : Store) : Script.Filled × Store :=
  match store.readers[cell]? with
  | none => (.bytes [], store)
  | some script =>
    match script.fill want with
    | (filled, script) =>
      (filled, { store with readers := store.readers.setIfInBounds cell script })

/-- How many bytes a reader has left. -/
def bytesLeft (cell : Nat) (store : Store) : Nat :=
  match store.readers[cell]? with
  | none => 0
  | some script => script.size

/-! ## Deferred values -/

/-- Waits for a deferred value. -/
def resolve (timeout : Nat) (deferred : Deferred Value) (store : Store) : Outcome × Store :=
  match deferred with
  | .ready _ value => (.ok value, store)
  | .shared cell =>
    match store.deferrals[cell]? with
    | none => (.error .interrupted, store)
    | some deferral =>
      match deferral.resolve timeout with
      | (outcome, deferral) =>
        (outcome, { store with deferrals := store.deferrals.setIfInBounds cell deferral })

/-- What a deferred value is, if that is known without waiting. -/
def peek (deferred : Deferred Value) (store : Store) : Option Outcome × Store :=
  match deferred with
  | .ready _ value => (some (.ok value), store)
  | .shared cell =>
    match store.deferrals[cell]? with
    | none => (some (.error .interrupted), store)
    | some deferral =>
      match deferral.peek with
      | (outcome, deferral) =>
        (outcome, { store with deferrals := store.deferrals.setIfInBounds cell deferral })

/-- What peeking at a deferred value shows. -/
def outcome? (store : Store) (deferred : Deferred Value) : Option Outcome := (store.peek deferred).1

/-- Acts on the promise in a cell. -/
def act (cell : Nat) (action : Promise → Promise) (store : Store) : Store :=
  match store.deferrals[cell]? with
  | some (.promise promise) =>
    { store with deferrals := store.deferrals.setIfInBounds cell (.promise (action promise)) }
  | _ => store

/-! ## Height -/

/-- A bound for how far a descent through deferred values goes that enters no cell twice. -/
def heightOfDeferrals (store : Store) : Nat :=
  store.deferrals.foldl (fun sum deferral => sum + deferral.height + 1) 0

/-- A bound for how far a descent through the cells goes that enters no cell twice. -/
def height (store : Store) : Nat :=
  store.sequences.foldl (fun sum sequence => sum + sequence.source.height + 1) 0 +
    store.heightOfDeferrals

end Store

end TaggedStream
