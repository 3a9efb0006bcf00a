/-!
Sets of characters.

A set is kept as ranges of code points in increasing order, with a code point between any two of
them that is in neither. So two sets with the same members are the same, and a table of the
character database is a short text: the gaps and the lengths of its ranges in turn.
-/

namespace TaggedStream

/-- A set of characters. -/
structure CharSet where
  /-- The first and the last code point of each range. -/
  ranges : List (Nat × Nat)
deriving DecidableEq, Repr, Inhabited

namespace CharSet

/-! ## Ranges -/

/-- Joins the range from `first` to `last` to those behind it that it meets or touches. The ranges
behind it start no earlier. -/
def joined (first last : Nat) : List (Nat × Nat) → List (Nat × Nat)
  | [] => [(first, last)]
  | (start, stop) :: rest =>
    if start ≤ last + 1 then joined first (max last stop) rest
    else (first, last) :: joined start stop rest

/-- The set of all members of some ranges. -/
def ofRanges (ranges : List (Nat × Nat)) : CharSet :=
  match ranges.mergeSort fun a b => a.1 ≤ b.1 with
  | [] => ⟨[]⟩
  | (first, last) :: rest => ⟨joined first last rest⟩

example : ofRanges [(5, 9), (1, 2), (3, 3), (7, 8)] = ⟨[(1, 3), (5, 9)]⟩ := by cbv

/-- The empty set. -/
def empty : CharSet := ⟨[]⟩

/-- All characters: all code points but the surrogates. -/
def all : CharSet := ⟨[(0, 0xD7FF), (0xE000, 0x10FFFF)]⟩

/-! ## Members -/

/-- Whether a code point lies in one of the ranges, which are in increasing order. -/
def inRanges (code : Nat) : List (Nat × Nat) → Bool
  | [] => false
  | (first, last) :: rest => if code < first then false else code ≤ last || inRanges code rest

/-- Whether a character is a member. -/
def contains (c : Char) (set : CharSet) : Bool := inRanges c.toNat set.ranges

/-- Whether there are no members. -/
def isEmpty (set : CharSet) : Bool := set.ranges.isEmpty

/-- Whether all members are characters of seven bits. -/
def isAscii (set : CharSet) : Bool := set.ranges.all fun range => range.2 < 0x80

/-- The member of a set that has just one. -/
def single? (set : CharSet) : Option Char :=
  match set.ranges with
  | [(first, last)] => if first = last then some (Char.ofNat first) else none
  | _ => none

/-! ## Operations -/

/-- The members of one set or the other. -/
def union (a b : CharSet) : CharSet :=
  if b.isEmpty then a else if a.isEmpty then b else ofRanges (a.ranges ++ b.ranges)

/-- The union of many sets. -/
def unions (sets : List CharSet) : CharSet := ofRanges (sets.flatMap ranges)

/-- The common part of two lists of ranges. -/
def common : List (Nat × Nat) → List (Nat × Nat) → List (Nat × Nat)
  | [], _ => []
  | _ :: _, [] => []
  | (a, b) :: left, (c, d) :: right =>
    let rest := if b < d then common left ((c, d) :: right) else common ((a, b) :: left) right
    if max a c ≤ min b d then (max a c, min b d) :: rest else rest
termination_by left right => left.length + right.length

/-- The members of both sets. -/
def inter (a b : CharSet) : CharSet := ⟨common a.ranges b.ranges⟩

/-- The characters whose code points go from `first` to `last`. -/
def range (first last : Nat) : CharSet := inter ⟨[(first, last)]⟩ all

/-- The set of one character. -/
def singleton (c : Char) : CharSet := range c.toNat c.toNat

/-- The characters of seven bits. -/
def ascii : CharSet := range 0 0x7F

/-- The ranges between those of a set, from `start` on. -/
def gaps (start : Nat) : List (Nat × Nat) → List (Nat × Nat)
  | [] => [(start, 0x10FFFF)]
  | (first, last) :: rest =>
    if start < first then (start, first - 1) :: gaps (last + 1) rest else gaps (last + 1) rest

/-- The characters that are no members. -/
def complement (set : CharSet) : CharSet := inter ⟨gaps 0 set.ranges⟩ all

/-- The members of the first set that are not in the second. -/
def diff (a b : CharSet) : CharSet := inter a b.complement

/-- The members of just one of the sets. -/
def symmDiff (a b : CharSet) : CharSet := union (diff a b) (diff b a)

/-! ## Tables -/

/-- The value of a digit of a table, and whether it is the last one of its number. -/
def tableDigit (c : Char) : Nat × Bool :=
  if c ≤ '9' then (c.toNat - '0'.toNat, true)
  else if 'a' ≤ c then (c.toNat - 'a'.toNat + 10, true)
  else (c.toNat - 'G'.toNat, false)

/-- The numbers of a table. They are hexadecimal and stand without blanks between them: the last
digit of a number is one of `0` to `9` and `a` to `f`, the others are the letters from `G` on. -/
def tableNumbers (value : Nat) : List Char → List Nat
  | [] => []
  | c :: rest =>
    match tableDigit c with
    | (digit, true) => (value * 16 + digit) :: tableNumbers 0 rest
    | (digit, false) => tableNumbers (value * 16 + digit) rest

/-- The ranges behind the code point `start`, from the length of the gap before each of them and the
count of its members after the first. -/
def tableRanges (start : Nat) : List Nat → List (Nat × Nat)
  | gap :: more :: rest =>
    (start + gap, start + gap + more) :: tableRanges (start + gap + more + 1) rest
  | _ => []

/-- The set of a table. -/
def ofTable (lines : List String) : CharSet :=
  ⟨tableRanges 0 (tableNumbers 0 (lines.flatMap String.toList))⟩

example : ofTable ["K1H", "96H9"] = ⟨[(0x41, 0x5A), (0x61, 0x7A)]⟩ := by decide +kernel

end CharSet

end TaggedStream
