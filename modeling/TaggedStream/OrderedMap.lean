/-!
Maps that remember the order in which their keys arrived.

A map is its list of entries. Keys need only an equality test, so every search is linear. `insert`
replaces the value of a key that is present, in place, and appends a key that is not; `push`
appends without looking, which is how a map that was read keeps repeated keys.
-/

namespace TaggedStream

/-- Entries in order. Maps built with `insert` hold each key once. -/
structure OrderedMap (κ ν : Type) where
  entries : List (κ × ν)
deriving DecidableEq, Repr, Inhabited

namespace OrderedMap

variable {κ ν : Type}

/-- The map without entries. -/
def empty : OrderedMap κ ν := ⟨[]⟩

/-- How many entries there are. -/
def size (m : OrderedMap κ ν) : Nat := m.entries.length

/-- Whether there are no entries. -/
def isEmpty (m : OrderedMap κ ν) : Bool := m.entries.isEmpty

/-- The entries in order. -/
def toList (m : OrderedMap κ ν) : List (κ × ν) := m.entries

/-- The keys in order. -/
def keys (m : OrderedMap κ ν) : List κ := m.entries.map Prod.fst

/-- The values in the order of their keys. -/
def values (m : OrderedMap κ ν) : List ν := m.entries.map Prod.snd

/-- Appends an entry without looking for its key. -/
def push (m : OrderedMap κ ν) (key : κ) (value : ν) : OrderedMap κ ν :=
  ⟨m.entries ++ [(key, value)]⟩

/-- Two maps with the same keys and values in the same order, as two tests see them. -/
def isEqv (sameKey : κ → κ → Bool) (sameValue : ν → ν → Bool) (m n : OrderedMap κ ν) : Bool :=
  m.entries.isEqv n.entries fun a b => sameKey a.1 b.1 && sameValue a.2 b.2

variable [BEq κ]

/-- The value of the first entry whose key equals `key`. -/
def get? (m : OrderedMap κ ν) (key : κ) : Option ν :=
  (m.entries.find? fun entry => entry.1 == key).map Prod.snd

/-- Whether some entry has a key equal to `key`. -/
def contains (m : OrderedMap κ ν) (key : κ) : Bool := (m.get? key).isSome

/-- The entries with the first value of `key` replaced, or with a new entry at the end. -/
def insertEntry (key : κ) (value : ν) : List (κ × ν) → List (κ × ν)
  | [] => [(key, value)]
  | entry :: rest =>
    if entry.1 == key then (entry.1, value) :: rest else entry :: insertEntry key value rest

/-- Sets the value of `key`. A key that was present keeps its place. -/
def insert (m : OrderedMap κ ν) (key : κ) (value : ν) : OrderedMap κ ν :=
  ⟨insertEntry key value m.entries⟩

/-- The entries without the first one whose key equals `key`. -/
def eraseEntry (key : κ) : List (κ × ν) → List (κ × ν)
  | [] => []
  | entry :: rest => if entry.1 == key then rest else entry :: eraseEntry key rest

/-- Removes `key`; the other entries keep their order. -/
def erase (m : OrderedMap κ ν) (key : κ) : OrderedMap κ ν := ⟨eraseEntry key m.entries⟩

/-- The first value of `key`, and the entries that `insertEntry` leaves. -/
def exchangeEntry (key : κ) (value : ν) : List (κ × ν) → Option ν × List (κ × ν)
  | [] => (none, [(key, value)])
  | entry :: rest =>
    if entry.1 == key then (some entry.2, (entry.1, value) :: rest)
    else (exchangeEntry key value rest).map id (entry :: ·)

/-- Sets the value of `key`, and gives the value that it replaces. -/
def getThenInsert? (m : OrderedMap κ ν) (key : κ) (value : ν) : Option ν × OrderedMap κ ν :=
  (exchangeEntry key value m.entries).map id OrderedMap.mk

/-- The first value of `key`, and the entries that `eraseEntry` leaves. -/
def withdrawEntry (key : κ) : List (κ × ν) → Option ν × List (κ × ν)
  | [] => (none, [])
  | entry :: rest =>
    if entry.1 == key then (some entry.2, rest)
    else (withdrawEntry key rest).map id (entry :: ·)

/-- Removes `key`, and gives the value that it had. -/
def getThenErase? (m : OrderedMap κ ν) (key : κ) : Option ν × OrderedMap κ ν :=
  (withdrawEntry key m.entries).map id OrderedMap.mk

/-- Inserts the pairs one by one, so a later value of a key replaces an earlier one. -/
def ofList (pairs : List (κ × ν)) : OrderedMap κ ν :=
  pairs.foldl (fun m pair => m.insert pair.1 pair.2) empty

example : (ofList [(1, 'a'), (2, 'b'), (1, 'c')]).toList = [(1, 'c'), (2, 'b')] := rfl
example : ((ofList [(1, 'x'), (2, 'y'), (3, 'z')]).erase 2).keys = [1, 3] := rfl

end OrderedMap

end TaggedStream
