import TaggedStream.Wire.Reader
import TaggedStream.Wire.Writer

/-!
Plans: what the handlers of host types do, as data.

A plan is a tree of steps. Each step names what it needs done and what follows for either outcome,
so a handler may pass an error on or carry on after it. Whoever runs the plan decides what a step
does: to the handler, writing or reading a whole value is one step like any other.
-/

namespace TaggedStream

/-- The steps of a handler that writes. -/
inductive WritePlan (α : Type) where
  | done (result : α)
  | refuse (error : StreamError)
  /-- Puts a slice in the name of the operation `op`. -/
  | put (op : String) (slice : List UInt8) (next : Except StreamError Unit → WritePlan α)
  /-- Writes a value, its identifier included. -/
  | value (v : Value) (next : Except StreamError Unit → WritePlan α)

namespace WritePlan

/-- One plan after another. -/
def bind {α β : Type} (plan : WritePlan α) (rest : α → WritePlan β) : WritePlan β :=
  match plan with
  | .done result => rest result
  | .refuse error => .refuse error
  | .put op slice next => .put op slice fun outcome => (next outcome).bind rest
  | .value v next => .value v fun outcome => (next outcome).bind rest

instance : Monad WritePlan where
  pure := .done
  bind := .bind

/-- The plan that passes on how a step went. -/
def ofOutcome {α : Type} : Except StreamError α → WritePlan α
  | .ok result => .done result
  | .error error => .refuse error

instance : ByteSink WritePlan where
  put op slice := .put op slice ofOutcome
  refuse := .refuse

/-- Writes a value. -/
def writeValue (v : Value) : WritePlan Unit := .value v ofOutcome

end WritePlan

/-- The steps of a handler that reads. -/
inductive ReadPlan (α : Type) where
  | done (result : α)
  | refuse (error : StreamError)
  /-- Takes exactly `size` bytes in the name of the operation `op`. -/
  | takeExact (op : String) (size : Nat) (next : Except StreamError (List UInt8) → ReadPlan α)
  /-- Reads a value, its identifier included. -/
  | value (next : Except StreamError Value → ReadPlan α)

namespace ReadPlan

/-- One plan after another. -/
def bind {α β : Type} (plan : ReadPlan α) (rest : α → ReadPlan β) : ReadPlan β :=
  match plan with
  | .done result => rest result
  | .refuse error => .refuse error
  | .takeExact op size next => .takeExact op size fun outcome => (next outcome).bind rest
  | .value next => .value fun outcome => (next outcome).bind rest

instance : Monad ReadPlan where
  pure := .done
  bind := .bind

/-- The plan that passes on how a step went. -/
def ofOutcome {α : Type} : Except StreamError α → ReadPlan α
  | .ok result => .done result
  | .error error => .refuse error

instance : ByteSource ReadPlan where
  takeExact op size := .takeExact op size ofOutcome
  refuse := .refuse

/-- Reads a value. -/
def readValue : ReadPlan Value := .value ofOutcome

end ReadPlan

end TaggedStream
