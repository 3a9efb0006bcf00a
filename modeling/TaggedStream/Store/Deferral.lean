import TaggedStream.Value.Basic

/-!
Where deferred values come from: a promise, which sends one message or is given up, or a resolver,
which computes a new answer each time it is asked.

A promise has two ends. Its message can be received once, so whoever receives it, or finds out that
none will come, puts the outcome into the cell, where everyone who asks later finds it. A wait that
ran out leaves no mark.
-/

namespace TaggedStream

/-- Why a deferred value did not come. -/
inductive DeferredFailure where
  /-- The other end went away without a message. -/
  | interrupted
  /-- The other end reported a failure. -/
  | failed (cause : String)
  /-- Nothing came in time. -/
  | timedOut (milliseconds : Nat)
deriving DecidableEq, Repr, Inhabited

/-- The words for a failure. -/
def DeferredFailure.message : DeferredFailure → String
  | .interrupted => "interrupted"
  | .failed cause => "execution failed: " ++ cause
  | .timedOut milliseconds => "timed out after " ++ toString milliseconds ++ "ms"

/-- What asking for a deferred value ends with. -/
abbrev Outcome := Except DeferredFailure Value

/-- The height of the value that came, if one did. -/
def Outcome.height : Outcome → Nat
  | .ok value => value.height
  | .error _ => 0

/-- Both ends of a promise. -/
structure Promise where
  /-- A message on its way: a value, or the cause why there is none. -/
  message : Option (Except String Value) := none
  /-- Whether a message may still be sent. -/
  isOpen : Bool := true
  /-- The outcome, once someone has received it. -/
  settled : Option Outcome := none

namespace Promise

instance : Inhabited Promise := ⟨{}⟩

/-- Sends a value. A promise that is closed sends nothing more. -/
def complete (value : Value) (promise : Promise) : Promise :=
  if promise.isOpen then { promise with message := some (.ok value), isOpen := false } else promise

/-- Sends word that the value could not be made. -/
def fail (cause : String) (promise : Promise) : Promise :=
  if promise.isOpen then { promise with message := some (.error cause), isOpen := false }
  else promise

/-- Gives the promise up. -/
def drop (promise : Promise) : Promise := { promise with isOpen := false }

/-- The outcome that a message stands for. -/
def outcomeOf : Except String Value → Outcome
  | .ok value => .ok value
  | .error cause => .error (.failed cause)

/-- The outcome, if there is one without waiting, and the promise after asking. A message comes
before the news that none will be sent. -/
def receive (promise : Promise) : Option Outcome × Promise :=
  match promise.settled, promise.message with
  | some outcome, _ => (some outcome, promise)
  | none, some message =>
    (some (outcomeOf message),
      { promise with message := none, settled := some (outcomeOf message) })
  | none, none =>
    if promise.isOpen then (none, promise)
    else (some (.error .interrupted), { promise with settled := some (.error .interrupted) })

/-- Waits for the outcome. Nobody acts meanwhile, so a wait for an open promise runs out. -/
def resolve (timeout : Nat) (promise : Promise) : Outcome × Promise :=
  match promise.receive with
  | (some outcome, promise) => (outcome, promise)
  | (none, promise) => (.error (.timedOut timeout), promise)

/-- The height of the value that the promise brings. -/
def height (promise : Promise) : Nat :=
  match promise.receive.1 with
  | some outcome => outcome.height
  | none => 0

end Promise

/-- Computes an answer each time it is asked, from how often it was asked before and how long the
caller waits. It cannot be peeked at. -/
structure Resolver where
  answer : (earlier : Nat) → (timeout : Nat) → Outcome
  /-- A bound for the height of all answers. -/
  height : Nat
  bounded : ∀ earlier timeout, (answer earlier timeout).height ≤ height
  /-- The timeouts of the calls so far, the last one first. -/
  calls : List Nat := []

namespace Resolver

/-- Asks once. -/
def resolve (timeout : Nat) (resolver : Resolver) : Outcome × Resolver :=
  (resolver.answer resolver.calls.length timeout,
    { resolver with calls := timeout :: resolver.calls })

/-- Answers with longs that count up from `first`. -/
def counting (first : Int) : Resolver where
  answer earlier _ := .ok (.long (.ofInt (first + earlier)))
  height := 1
  bounded _ _ := Nat.le_refl 1

/-- Answers with the time that the caller waits. -/
def timeoutEcho : Resolver where
  answer _ timeout := .ok (.long (.ofNat timeout))
  height := 1
  bounded _ _ := Nat.le_refl 1

/-- Fails each time for the same cause. -/
def failing (cause : String) : Resolver where
  answer _ _ := .error (.failed cause)
  height := 0
  bounded _ _ := Nat.le_refl 0

end Resolver

/-- A cell of the store that holds the origin of a deferred value. -/
inductive Deferral where
  | promise (p : Promise)
  | resolver (r : Resolver)

namespace Deferral

instance : Inhabited Deferral := ⟨.promise {}⟩

/-- Waits for the outcome. -/
def resolve (timeout : Nat) : Deferral → Outcome × Deferral
  | .promise p => (p.resolve timeout).map id .promise
  | .resolver r => (r.resolve timeout).map id .resolver

/-- The outcome, if there is one without waiting. -/
def peek : Deferral → Option Outcome × Deferral
  | .promise p => p.receive.map id .promise
  | .resolver r => (none, .resolver r)

/-- A bound for the height of what comes. -/
def height : Deferral → Nat
  | .promise p => p.height
  | .resolver r => r.height

end Deferral

end TaggedStream
