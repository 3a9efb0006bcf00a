import TaggedStream.Character.Set

/-!
Regular expressions over bytes, as simple as they can be said.

An expression is made with the functions below rather than with its constructors. They leave out
what changes nothing: texts that meet become one, a repetition of nothing is taken at most once,
single characters to choose from become a class, and what all alternatives start with stands in
front of the choice.
-/

namespace TaggedStream.Pattern

/-- What an expression asks of a place in a text. -/
inductive Look where
  | start | stop
  | startOfLine | endOfLine
  | startOfLineReturns | endOfLineReturns
  | wordAscii | noWordAscii | wordStartAscii | wordEndAscii | wordStartHalfAscii | wordEndHalfAscii
  | word | noWord | wordStart | wordEnd | wordStartHalf | wordEndHalf
deriving DecidableEq, Repr, Inhabited

/-- A regular expression. -/
inductive Expression where
  | empty
  | text (bytes : List UInt8)
  | oneOf (set : CharSet)
  | look (look : Look)
  | repeated (least : Nat) (most : Option Nat) (greedy : Bool) (sub : Expression)
  | capture (index : Nat) (sub : Expression)
  | sequence (subs : List Expression)
  | choice (subs : List Expression)
deriving BEq, Inhabited

namespace Expression

/-! ## Lengths -/

mutual

/-- The least number of bytes that a match has. There is none if nothing matches. -/
def minLength : Expression → Option Nat
  | .empty | .look _ => some 0
  | .text bytes => some bytes.length
  | .oneOf set => if set.isEmpty then none else some 1
  | .repeated least _ _ sub => sub.minLength.map (· * least)
  | .capture _ sub => sub.minLength
  | .sequence subs => minLengthOfAll subs
  | .choice subs => minLengthOfAny subs

/-- The least number of bytes of matches of all expressions one after the other. -/
def minLengthOfAll : List Expression → Option Nat
  | [] => some 0
  | e :: rest => do return (← e.minLength) + (← minLengthOfAll rest)

/-- The least number of bytes of a match of any expression, where each has one. -/
def minLengthOfAny : List Expression → Option Nat
  | [] => none
  | [e] => e.minLength
  | e :: rest => do return min (← e.minLength) (← minLengthOfAny rest)

end

mutual

/-- Whether only places match, and no bytes. -/
def isPlace : Expression → Bool
  | .empty | .look _ => true
  | .text bytes => bytes.isEmpty
  | .oneOf _ => false
  | .repeated _ most _ sub => most.isSome && sub.isPlace
  | .capture _ sub => sub.isPlace
  | .sequence subs | .choice subs => arePlaces subs

/-- Whether each of some expressions matches only places. -/
def arePlaces : List Expression → Bool
  | [] => true
  | e :: rest => e.isPlace && arePlaces rest

end

mutual

/-- How many parts an expression has. -/
def size : Expression → Nat
  | .repeated _ _ _ sub | .capture _ sub => sub.size + 1
  | .sequence subs | .choice subs => sizeOfAll subs + 1
  | .empty | .text _ | .oneOf _ | .look _ => 1

/-- How many parts some expressions have together. -/
def sizeOfAll : List Expression → Nat
  | [] => 0
  | e :: rest => e.size + sizeOfAll rest

end

mutual

/-- Whether each match begins at a place of a kind. -/
def beginsAt (place : Look) : Expression → Bool
  | .look l => l = place
  | .repeated least _ _ sub => 0 < least && sub.beginsAt place
  | .capture _ sub => sub.beginsAt place
  | .sequence subs => sequenceBeginsAt place subs
  | .choice subs => allBeginAt place subs
  | .empty | .text _ | .oneOf _ => false

/-- Whether a match of a sequence begins at a place of a kind: one of its first parts does, where
parts that match only places may stand in front. -/
def sequenceBeginsAt (place : Look) : List Expression → Bool
  | [] => false
  | e :: rest => e.beginsAt place || (e.isPlace && sequenceBeginsAt place rest)

/-- Whether matches of all expressions begin at a place of a kind. -/
def allBeginAt (place : Look) : List Expression → Bool
  | [] => true
  | e :: rest => e.beginsAt place && allBeginAt place rest

end

mutual

/-- Whether each match ends at a place of a kind. -/
def endsAt (place : Look) : Expression → Bool
  | .look l => l = place
  | .repeated least _ _ sub => 0 < least && sub.endsAt place
  | .capture _ sub => sub.endsAt place
  | .sequence subs => sequenceEndsAt place subs
  | .choice subs => allEndAt place subs
  | .empty | .text _ | .oneOf _ => false

/-- Whether a match of a sequence ends at a place of a kind: one of its last parts does, where parts
that match only places may stand behind. -/
def sequenceEndsAt (place : Look) : List Expression → Bool
  | [] => false
  | e :: rest => sequenceEndsAt place rest || (arePlaces rest && e.endsAt place)

/-- Whether matches of all expressions end at a place of a kind. -/
def allEndAt (place : Look) : List Expression → Bool
  | [] => true
  | e :: rest => e.endsAt place && allEndAt place rest

end

/-! ## Making expressions -/

/-- The expression that matches one text. -/
def ofBytes (bytes : List UInt8) : Expression := if bytes.isEmpty then .empty else .text bytes

/-- The expression that matches one character. -/
def ofChar (c : Char) : Expression := .text (String.singleton c).toUTF8.toList

/-- The expression that matches one character out of a set. -/
def ofSet (set : CharSet) : Expression :=
  match set.single? with
  | some c => ofChar c
  | none => .oneOf set

/-- An expression repeated. -/
def repeatedly (least : Nat) (most : Option Nat) (greedy : Bool) (sub : Expression) : Expression :=
  let (least, most) :=
    if sub.isPlace then (min least 1, some (min (most.getD 1) 1)) else (least, most)
  if least = 0 ∧ most = some 0 then .empty
  else if least = 1 ∧ most = some 1 then sub
  else .repeated least most greedy sub

/-- The parts of a sequence. -/
def parts : Expression → List Expression
  | .empty => []
  | .sequence subs => subs
  | e => [e]

/-- The bytes of an expression that matches one text. -/
def text? : Expression → Option (List UInt8)
  | .text bytes => some bytes
  | _ => none

/-- Expressions that stand together; if they are texts they make one text. -/
def together (subs : List Expression) : List Expression :=
  match subs.mapM text? with
  | some texts => [.text texts.flatten]
  | none => subs

/-- Expressions one after the other. Texts that meet become one. -/
def inSequence (subs : List Expression) : Expression :=
  let runs := (subs.flatMap parts).splitBy fun a b => a.text?.isSome && b.text?.isSome
  match runs.flatMap together with
  | [] => .empty
  | [e] => e
  | subs => .sequence subs

/-- The only character that an expression matches. -/
def char? : Expression → Option Char
  | .text bytes =>
    match String.fromUTF8? ⟨bytes.toArray⟩ with
    | some decoded =>
      match decoded.toList with
      | [c] => some c
      | _ => none
    | none => none
  | _ => none

/-- The set that an expression chooses one character from. -/
def set? : Expression → Option CharSet
  | .oneOf set => some set
  | _ => none

/-- The alternatives of an expression. -/
def alternatives : Expression → List Expression
  | .choice subs => subs
  | e => [e]

/-- The parts that two sequences both start with. -/
def commonStart : List Expression → List Expression → List Expression
  | a :: left, b :: right => if a == b then a :: commonStart left right else []
  | _, _ => []

/-- The parts of a sequence of at least two. -/
def sequenceParts? : Expression → Option (List Expression)
  | .sequence subs => some subs
  | _ => none

/-- What all of some sequences start with, unless that is nothing, and what is behind it in each. -/
def sharedStart? (subs : List Expression) : Option (List Expression × List (List Expression)) := do
  match ← subs.mapM sequenceParts? with
  | first :: second :: others =>
    let shared := (second :: others).foldl commonStart first
    if shared.isEmpty then none
    else some (shared, (first :: second :: others).map (·.drop shared.length))
  | _ => none

/-- Alternatives to choose from. The fuel bounds how often something is put in front of a choice. -/
def inChoice (fuel : Nat) (subs : List Expression) : Expression :=
  match subs.flatMap alternatives with
  | [] => .oneOf .empty
  | [e] => e
  | subs =>
    match subs.mapM char?, subs.mapM set? with
    | some chars, _ => ofSet (.unions (chars.map CharSet.singleton))
    | _, some sets => ofSet (.unions sets)
    | none, none =>
      match fuel, sharedStart? subs with
      | fuel + 1, some (shared, rests) =>
        inSequence (shared ++ [inChoice fuel (rests.map inSequence)])
      | _, _ => .choice subs

/-- Alternatives to choose from. -/
def anyOf (subs : List Expression) : Expression := inChoice (sizeOfAll subs + 1) subs

end Expression

end TaggedStream.Pattern
