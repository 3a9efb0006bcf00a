import Std.Data.HashMap
import TaggedStream.Pattern.ByteRange
import TaggedStream.Pattern.Expression

/-!
How large the programs are that match an expression.

A program is made of states, and some states have lists: one that goes on by the next byte lists
ranges of bytes, one that goes on without a byte lists other states. A pattern is refused when its
program is too large, read forward or backward. Read forward a program also notes where captures
begin and end; read backward the parts of a sequence come in the opposite order.
-/

namespace TaggedStream.Pattern

/-- The size of a program: its states and the bytes in their lists. -/
structure Program where
  states : Nat := 0
  listed : Nat := 0
deriving DecidableEq, Repr, Inhabited

namespace Program

/-- The bytes of a state, its list apart. -/
def stateBytes : Nat := 32

/-- The bytes of a byte range in a list. -/
def rangeBytes : Nat := 8

/-- The bytes of a state in a list. -/
def linkBytes : Nat := 4

/-- The most bytes that a program may have. -/
def limit : Nat := 10485760

/-- The bytes of a program. -/
def bytes (p : Program) : Nat := stateBytes * p.states + p.listed

/-- Adds states and bytes in lists, unless the program gets too large. -/
def grown? (states listed : Nat) (p : Program) : Option Program :=
  let p : Program := ⟨p.states + states, p.listed + listed⟩
  if p.bytes ≤ limit then some p else none

/-- Adds a state without a list. -/
def plain? (p : Program) : Option Program := p.grown? 1 0

/-- Adds a state that lists some other states. -/
def fork? (links : Nat) (p : Program) : Option Program := p.grown? 1 (linkBytes * links)

/-- Adds a state that goes on by some byte ranges. A single range needs no list. -/
def ranges? (ranges : Nat) (p : Program) : Option Program :=
  p.grown? 1 (if 2 ≤ ranges then rangeBytes * ranges else 0)

/-- Goes on behind a part. A fork at the end of the part lists what is behind it. -/
def behind? (endsInFork : Bool) (p : Program) : Option Program :=
  if endsInFork then p.grown? 0 linkBytes else some p

end Program

/-- A step that adds a part to a program, and tells whether the part ends in a fork. -/
abbrev Emitter := Program → Option (Bool × Program)

namespace Emitter

/-- Adds a state. -/
def state : Emitter := fun p => p.plain?.map (false, ·)

/-- Adds parts one after the other. -/
def inOrder (endsInFork : Bool) : List Emitter → Emitter
  | [], p => some (endsInFork, p)
  | emit :: rest, p =>
    match p.behind? endsInFork with
    | none => none
    | some p =>
      match emit p with
      | none => none
      | some (endsInFork, p) => inOrder endsInFork rest p

/-- Adds a part several times, one after the other. -/
def times (emit : Emitter) (endsInFork : Bool) : Nat → Emitter
  | 0, p => some (endsInFork, p)
  | count + 1, p =>
    match p.behind? endsInFork with
    | none => none
    | some p =>
      match emit p with
      | none => none
      | some (endsInFork, p) => times emit endsInFork count p

/-- Adds a part `count` times; no times is a state that does nothing. -/
def exactly (emit : Emitter) (count : Nat) : Emitter :=
  if count = 0 then state else times emit false count

/-- Adds a part up to `count` times more: a fork in front of each goes on with it or to the end. -/
def upTo (emit : Emitter) (endsInFork : Bool) : Nat → Emitter
  | 0, p => some (endsInFork, p)
  | count + 1, p =>
    match p.fork? 2 with
    | none => none
    | some p =>
      match emit p with
      | none => none
      | some (ends, p) =>
        match p.behind? endsInFork with
        | none => none
        | some p => upTo emit ends count p

/-- Adds a part and a fork that goes on with it or behind it. The fork lists what is behind it when
that is known. -/
def oneOrMore (emit : Emitter) : Emitter := fun p => do
  let (ends, p) ← emit p
  return (true, ← (← p.fork? 1).behind? ends)

/-- Adds a part that may be repeated, given the repetition. A part that always takes bytes may be
left by the fork that repeats it; any other needs a fork of its own for that. -/
def repeatedly (emit : Emitter) (takesBytes : Bool) (least : Nat) (most : Option Nat) : Emitter :=
  match least, most with
  | 0, some 1 => fun p => do
    let (ends, p) ← emit (← p.fork? 2)
    return (false, ← (← p.plain?).behind? ends)
  | 0, none =>
    if takesBytes then fun p => do
      let (ends, p) ← emit (← p.fork? 1)
      return (true, ← p.behind? ends)
    else fun p => do
      let (ends, p) ← emit p
      return (false, ← (← (← (← p.fork? 2).fork? 2).plain?).behind? ends)
  | 1, none => oneOrMore emit
  | least, none => fun p => do
    let (ends, p) ← exactly emit (least - 1) p
    oneOrMore emit (← p.behind? ends)
  | least, some most =>
    if least = most then exactly emit least
    else fun p => do
      let (ends, p) ← exactly emit least p
      let (ends, p) ← upTo emit ends (most - least) (← p.plain?)
      return (false, ← p.behind? ends)

/-- Adds alternatives: a fork to each of them, and a state where they meet. -/
def anyOf (emitters : List Emitter) : Emitter := fun p => do
  let p ← p.grown? 2 (Program.linkBytes * emitters.length)
  let p ← emitters.foldlM (fun p emit => do
    let (ends, p) ← emit p
    p.behind? ends) p
  return (false, p)

end Emitter

/-! ## Alternatives that are texts -/

/-- The texts between the empty ones of a list. In front of the first text that is not empty, empty
ones count once. -/
def betweenEmpty (started ended : Bool) (current : List (List UInt8)) :
    List (List UInt8) → List (List (List UInt8))
  | [] => [current.reverse]
  | [] :: rest =>
    if ended && !started then betweenEmpty started ended current rest
    else current.reverse :: betweenEmpty started true [] rest
  | bytes :: rest => betweenEmpty true ended (bytes :: current) rest

/-- The rests of texts behind their first bytes, for each first byte, where each byte comes once. -/
def byFirstByte (texts : List (List UInt8)) : List (List (List UInt8)) :=
  (texts.filterMap List.head?).eraseDups.map fun byte =>
    texts.filterMap fun
      | [] => none
      | b :: rest => if b = byte then some rest else none

/-- The size of a program that reads one of some texts byte by byte, so that texts share the states
of what they start with. An empty text ends what can be shared by those in front of it. -/
def treeSize : (depth : Nat) → List (List UInt8) → Program
  | 0, _ => {}
  | depth + 1, texts =>
    if texts.all List.isEmpty then {}
    else
      let layers := (betweenEmpty false false [] texts).map byFirstByte
      let full := layers.filter (!·.isEmpty)
      let wide := full.filter (2 ≤ ·.length)
      let listed := wide.map fun layer => Program.rangeBytes * layer.length
      let links := full.length + (layers.length - 1)
      let below := full.flatten.map (treeSize depth)
      { states := full.length + 1 + (below.map (·.states)).sum
        listed := listed.sum + Program.linkBytes * links + (below.map (·.listed)).sum }

/-- Adds alternatives that are texts. -/
def Emitter.texts (texts : List (List UInt8)) : Emitter := fun p => do
  let longest := (texts.map List.length).foldl max 0
  let tree := treeSize (longest + 1) texts
  return (false, ← p.grown? (tree.states + 1) tree.listed)

/-! ## Sets of characters -/

/-- States that can be shared, by what they do: at each place the last one that was put there. -/
abbrev Shared (κ : Type) := Std.HashMap Nat (κ × Nat)

namespace Shared

variable {κ : Type} [DecidableEq κ]

/-- The place of a key that is made of numbers, among `places`. -/
def place (places : Nat) (numbers : List Nat) : Nat :=
  let hash : UInt64 := numbers.foldl
    (fun hash number => (hash ^^^ .ofNat number) * 1099511628211) 14695981039346656037
  hash.toNat % places

/-- The state with a key, which is added unless it is there. -/
def state? (key : κ) (place entries : Nat) (shared : Shared κ) (p : Program) :
    Option (Nat × Shared κ × Program) :=
  let added : Option (Nat × Shared κ × Program) := do
    return (p.states, shared.insert place (key, p.states), ← p.ranges? entries)
  match shared[place]? with
  | some (found, state) => if found = key then some (state, shared, p) else added
  | none => added

end Shared

/-- The ways on of a state: byte ranges, each with the state behind it. -/
abbrev Ways := List (ByteRange × Nat)

/-- The state that reads one of some sequences, which are in increasing order, and goes on to
`target`. States with the same ways on are shared. -/
def sharedTree (target : Nat) :
    (depth : Nat) → List (List ByteRange) → Shared Ways → Program →
      Option (Nat × Shared Ways × Program)
  | 0, _, shared, p => some (target, shared, p)
  | depth + 1, sequences, shared, p =>
    if sequences.all List.isEmpty then some (target, shared, p)
    else do
      let groups := sequences.splitBy fun a b => a.head? == b.head?
      let (ways, shared, p) ← groups.foldlM (fun (ways, shared, p) group => do
        let (state, shared, p) ← sharedTree target depth (group.map List.tail) shared p
        let range := (group.head?.bind List.head?).getD (0, 0)
        return ((range, state) :: ways, shared, p)) (([] : Ways), shared, p)
      let ways := ways.reverse
      let place := Shared.place 10000 (ways.flatMap fun ((a, b), state) => [a, b, state])
      shared.state? ways place ways.length p

/-- The state that reads a sequence of byte ranges, the first one last, and goes on to `target`.
States with the same range and the same state behind it are shared. -/
def sharedPath (target : Nat) : List ByteRange → Shared (Nat × ByteRange) → Program →
    Option (Nat × Shared (Nat × ByteRange) × Program)
  | [], shared, p => some (target, shared, p)
  | range :: rest, shared, p =>
    match shared.state? (target, range) (Shared.place 1000 [target, range.1, range.2]) 1 p with
    | some (state, shared, p) => sharedPath state rest shared p
    | none => none

/-- Adds paths for sequences of byte ranges, each of which a fork lists. -/
def sharedPaths (target : Nat) : List (List ByteRange) → Shared (Nat × ByteRange) → Program →
    Option Program
  | [], _, p => some p
  | sequence :: rest, shared, p =>
    match sharedPath target sequence shared p with
    | none => none
    | some (_, shared, p) =>
      match p.grown? 0 Program.linkBytes with
      | none => none
      | some p => sharedPaths target rest shared p

/-- Adds a part that matches one character out of a set. Characters of seven bits need one state; a
larger set is read forward as a tree, and backward along one path for each sequence. -/
def Emitter.oneOf (backward : Bool) (set : CharSet) : Emitter := fun p => do
  if set.isAscii then return (false, ← (← p.plain?).ranges? set.ranges.length)
  else if backward then
    let p ← p.grown? 2 0
    return (false, ← sharedPaths (p.states - 1) (byteSequences set) {} p)
  else
    let target := p.states
    let (_, _, p) ← sharedTree target 4 (byteSequences set) {} (← p.plain?)
    return (false, p)

/-! ## Expressions -/

mutual

/-- Adds an expression. -/
def Expression.emitter (backward : Bool) : Expression → Emitter
  | .empty | .look _ => .state
  | .text bytes => .exactly .state bytes.length
  | .oneOf set => .oneOf backward set
  | .repeated least most _ sub =>
    .repeatedly (sub.emitter backward) ((sub.minLength.getD 0) != 0) least most
  | .capture _ sub =>
    if backward then sub.emitter backward
    else .inOrder false [.state, sub.emitter backward, .state]
  | .sequence subs =>
    let emitters := Expression.emitters backward [] subs
    .inOrder false (if backward then emitters else emitters.reverse)
  | .choice subs =>
    match subs.mapM Expression.text? with
    | some texts => .texts texts
    | none => .anyOf (Expression.emitters backward [] subs).reverse

/-- The steps that add some expressions, in reverse, in front of those for what was before them. -/
def Expression.emitters (backward : Bool) (before : List Emitter) :
    List Expression → List Emitter
  | [] => before
  | e :: rest => Expression.emitters backward (e.emitter backward :: before) rest

end

/-- The size of the program of an expression, unless it is too large. A match may begin anywhere, so
unless it is bound to the edge of the text a part that skips bytes stands in front. -/
def Expression.program? (backward : Bool) (e : Expression) : Option Program := do
  let isBound := if backward then e.endsAt .stop else e.beginsAt .start
  let p : Program := {}
  let p ← if isBound then p.plain? else p.grown? 3 (2 * Program.linkBytes)
  let (_, p) ← Emitter.inOrder false [(Expression.capture 0 e).emitter backward, .state] p
  return p

/-- How many texts a choice has at least that is looked up without a program. -/
def lookupCount : Nat := 3000

/-- Whether an expression is a choice of so many texts that they are looked up. -/
def Expression.isLookup : Expression → Bool
  | .choice subs => lookupCount ≤ subs.length && (subs.mapM Expression.text?).isSome
  | _ => false

/-- Whether an expression has programs in both directions, or needs none. -/
def Expression.hasPrograms (e : Expression) : Bool :=
  e.isLookup || ((e.program? false).isSome && (e.program? true).isSome)

end TaggedStream.Pattern
