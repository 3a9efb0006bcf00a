import TaggedStream.Extension.Registry
import TaggedStream.Proofs.Grammar

/-!
What handlers put and take, and the grammar of the wire with handlers.

A plan is followed along its successful steps: `WritePlan.Puts` says what a plan puts and
`ReadPlan.Takes` what a plan takes, in bytes of its own and in whole values. Which bytes stand for
such a cargo depends on which bytes stand for the values in it. `DerivesUnder` is `Derives` with one
more kind of payload: what a handler takes behind an identifier outside the catalogue.
-/

namespace TaggedStream

/-! ## What goes through a handler -/

/-- What a handler puts or takes, in order: bytes of its own, and whole values. -/
abbrev Cargo := List (UInt8 ⊕ Value)

/-- Bytes of a handler's own. -/
def Cargo.ofBytes (slice : List UInt8) : Cargo := slice.map .inl

theorem Cargo.ofBytes_append (front back : List UInt8) :
    Cargo.ofBytes (front ++ back) = Cargo.ofBytes front ++ Cargo.ofBytes back :=
  List.map_append

/-- When every step succeeds, the plan puts this cargo and ends with this result. -/
inductive WritePlan.Puts {α : Type} : WritePlan α → Cargo → α → Prop
  | done {a : α} : Puts (.done a) [] a
  | put {op : String} {slice : List UInt8} {next : Except StreamError Unit → WritePlan α}
      {cargo : Cargo} {a : α} (rest : Puts (next (.ok ())) cargo a) :
      Puts (.put op slice next) (.ofBytes slice ++ cargo) a
  | value {v : Value} {next : Except StreamError Unit → WritePlan α} {cargo : Cargo} {a : α}
      (rest : Puts (next (.ok ())) cargo a) : Puts (.value v next) (.inr v :: cargo) a

/-- When every step succeeds with what this cargo holds, the plan takes all of the cargo and ends
with this result. -/
inductive ReadPlan.Takes {α : Type} : ReadPlan α → Cargo → α → Prop
  | done {a : α} : Takes (.done a) [] a
  | takeExact {op : String} {size : Nat}
      {next : Except StreamError (List UInt8) → ReadPlan α} {taken : List UInt8} {cargo : Cargo}
      {a : α} (length : taken.length = size) (rest : Takes (next (.ok taken)) cargo a) :
      Takes (.takeExact op size next) (.ofBytes taken ++ cargo) a
  | value {v : Value} {next : Except StreamError Value → ReadPlan α} {cargo : Cargo} {a : α}
      (rest : Takes (next (.ok v)) cargo a) : Takes (.value next) (.inr v :: cargo) a

/-- The plan passes every error on. -/
inductive ReadPlan.Strict {α : Type} : ReadPlan α → Prop
  | done {a : α} : Strict (.done a)
  | refuse {error : StreamError} : Strict (.refuse error)
  | takeExact {op : String} {size : Nat}
      {next : Except StreamError (List UInt8) → ReadPlan α}
      (passes : ∀ error, next (.error error) = .refuse error)
      (rest : ∀ taken, Strict (next (.ok taken))) : Strict (.takeExact op size next)
  | value {next : Except StreamError Value → ReadPlan α}
      (passes : ∀ error, next (.error error) = .refuse error)
      (rest : ∀ v, Strict (next (.ok v))) : Strict (.value next)

/-- The plan passes every error on, and takes no values but bytes of its own. -/
inductive ReadPlan.Bytewise {α : Type} : ReadPlan α → Prop
  | done {a : α} : Bytewise (.done a)
  | refuse {error : StreamError} : Bytewise (.refuse error)
  | takeExact {op : String} {size : Nat}
      {next : Except StreamError (List UInt8) → ReadPlan α}
      (passes : ∀ error, next (.error error) = .refuse error)
      (rest : ∀ taken, Bytewise (next (.ok taken))) : Bytewise (.takeExact op size next)

section

variable {α β : Type}

theorem WritePlan.Puts.bind {plan : WritePlan α} {k : α → WritePlan β} {front back : Cargo} {a : α}
    {b : β} (h : plan.Puts front a) (h' : (k a).Puts back b) :
    (plan >>= k).Puts (front ++ back) b := by
  induction h with
  | done => exact h'
  | put _ ih => exact List.append_assoc .. ▸ .put (ih h')
  | value _ ih => exact .value (ih h')

theorem WritePlan.Puts.byteSink (op : String) (slice : List UInt8) :
    (ByteSink.put op slice : WritePlan Unit).Puts (Cargo.ofBytes slice) () := by
  have whole : (ByteSink.put op slice : WritePlan Unit).Puts (Cargo.ofBytes slice ++ []) () :=
    .put .done
  rwa [List.append_nil] at whole

theorem WritePlan.Puts.writeValue (v : Value) : (WritePlan.writeValue v).Puts [.inr v] () :=
  .value .done

theorem ReadPlan.Takes.bind {plan : ReadPlan α} {k : α → ReadPlan β} {front back : Cargo} {a : α}
    {b : β} (h : plan.Takes front a) (h' : (k a).Takes back b) :
    (plan >>= k).Takes (front ++ back) b := by
  induction h with
  | done => exact h'
  | takeExact length _ ih => exact List.append_assoc .. ▸ .takeExact length (ih h')
  | value _ ih => exact .value (ih h')

theorem ReadPlan.Takes.of_bind {plan : ReadPlan α} {k : α → ReadPlan β} {cargo : Cargo} {b : β}
    (h : (plan >>= k).Takes cargo b) :
    ∃ front back a, cargo = front ++ back ∧ plan.Takes front a ∧ (k a).Takes back b := by
  induction plan generalizing cargo with
  | done a => exact ⟨[], cargo, a, rfl, .done, h⟩
  | refuse => cases h
  | takeExact op size next ih =>
    cases h with
    | @takeExact _ _ _ taken _ _ length rest =>
      obtain ⟨front, back, a, rfl, first, second⟩ := ih _ rest
      exact ⟨Cargo.ofBytes taken ++ front, back, a, (List.append_assoc ..).symm,
        .takeExact length first, second⟩
  | value next ih =>
    cases h with
    | @value v _ _ _ rest =>
      obtain ⟨front, back, a, rfl, first, second⟩ := ih _ rest
      exact ⟨.inr v :: front, back, a, rfl, .value first, second⟩

theorem ReadPlan.Takes.byteSource (op : String) (taken : List UInt8) :
    (ByteSource.takeExact op taken.length : ReadPlan (List UInt8)).Takes (Cargo.ofBytes taken)
      taken := by
  have whole : (ByteSource.takeExact op taken.length : ReadPlan (List UInt8)).Takes
      (Cargo.ofBytes taken ++ []) taken := .takeExact rfl .done
  rwa [List.append_nil] at whole

theorem ReadPlan.Takes.readValue (v : Value) : ReadPlan.readValue.Takes [.inr v] v :=
  .value .done

theorem ReadPlan.Bytewise.bind {plan : ReadPlan α} {k : α → ReadPlan β} (h : plan.Bytewise)
    (h' : ∀ a, (k a).Bytewise) : (plan >>= k).Bytewise := by
  induction h with
  | done => exact h' _
  | refuse => exact .refuse
  | takeExact passes _ ih => exact .takeExact (fun error => by rw [passes error]; rfl) ih

theorem ReadPlan.Bytewise.byteSource (op : String) (size : Nat) :
    (ByteSource.takeExact op size : ReadPlan (List UInt8)).Bytewise :=
  .takeExact (fun _ => rfl) fun _ => .done

theorem ReadPlan.Bytewise.strict {plan : ReadPlan α} (h : plan.Bytewise) : plan.Strict := by
  induction h with
  | done => exact .done
  | refuse => exact .refuse
  | takeExact passes _ ih => exact .takeExact passes ih

theorem ReadPlan.Bytewise.eq_ofBytes {plan : ReadPlan α} (h : plan.Bytewise) {cargo : Cargo}
    {a : α} (takes : plan.Takes cargo a) : ∃ slice, cargo = Cargo.ofBytes slice := by
  induction h generalizing cargo with
  | done =>
    cases takes
    exact ⟨[], rfl⟩
  | refuse => cases takes
  | takeExact _ _ ih =>
    cases takes with
    | @takeExact _ _ _ taken _ _ _ rest =>
      obtain ⟨slice, rfl⟩ := ih taken rest
      exact ⟨taken ++ slice, (Cargo.ofBytes_append ..).symm⟩

end

/-! ## The grammar with handlers -/

/-- A byte stands for itself, and a value has the form of values. -/
def Form.item (element : Form Value) : Form (UInt8 ⊕ Value)
  | bytes, .inl byte => bytes = [byte]
  | bytes, .inr v => element bytes v

/-- What handlers put and take, item after item. -/
abbrev Form.cargo (element : Form Value) : Form Cargo := Form.many (Form.item element)

theorem Form.cargo_ofBytes_append_iff {element : Form Value} {taken bytes : List UInt8}
    {cargo : Cargo} : Form.cargo element bytes (Cargo.ofBytes taken ++ cargo) ↔
      ∃ back, bytes = taken ++ back ∧ Form.cargo element back cargo := by
  induction taken generalizing bytes with
  | nil => simp [Cargo.ofBytes]
  | cons byte taken ih =>
    constructor
    · intro form
      cases form with
      | cons head tail =>
        obtain rfl := head
        obtain ⟨back, rfl, form⟩ := ih.1 tail
        exact ⟨back, rfl, form⟩
    · intro found
      rcases found with ⟨back, rfl, form⟩
      have head : Form.item element [byte] (.inl byte) := rfl
      have whole := Form.many.cons head (ih.2 ⟨back, rfl, form⟩)
      exact whole

/-- The plans of the handlers that read, by identifier. -/
abbrev Handlers := Oid → Option (ReadPlan Value)

/-- The handlers of a registry under some settings. -/
def Registry.handlers (registry : Registry) (options : Options) : Handlers := fun oid =>
  (registry.reader? oid).map (· options)

/-- The bytes of an identifier. -/
def Oid.spelled (oid : Oid) : List UInt8 := BigEndian.encode 2 oid.toNat

/-- What may follow an identifier: a payload of its tag, or what its handler takes. -/
inductive Body (handlers : Handlers) (element : Form Value) : Oid → Form Value
  | tagged {tag : Tag} {bytes : List UInt8} {v : Value} (payload : Payload element tag bytes v) :
      Body handlers element tag.code bytes v
  | extension {oid : Oid} {plan : ReadPlan Value} {cargo : Cargo} {bytes : List UInt8} {v : Value}
      (foreign : Tag.ofCode? oid = none) (handled : handlers oid = some plan)
      (takes : plan.Takes cargo v) (form : Form.cargo element bytes cargo) :
      Body handlers element oid bytes v

/-- An identifier and what may follow it. -/
def Form.identified (handlers : Handlers) (element : Form Value) : Form Value := fun bytes v =>
  ∃ oid payload, bytes = Oid.spelled oid ++ payload ∧ Body handlers element oid payload v

/-- The byte strings that are derivations of a value, at most `levels` levels deep, where values
that handlers take count like all others inside. -/
def DerivesUnder (handlers : Handlers) : (levels : Nat) → Form Value
  | 0 => fun _ _ => False
  | levels + 1 => Form.identified handlers (DerivesUnder handlers levels)

section

variable {handlers : Handlers} {element wider : Form Value}

theorem Form.item.mono (sub : ∀ bytes v, element bytes v → wider bytes v) (bytes : List UInt8)
    (item : UInt8 ⊕ Value) (h : Form.item element bytes item) : Form.item wider bytes item := by
  cases item with
  | inl byte => exact h
  | inr v => exact sub _ _ h

theorem Body.mono (sub : ∀ bytes v, element bytes v → wider bytes v) {oid : Oid}
    {bytes : List UInt8} {v : Value} (h : Body handlers element oid bytes v) :
    Body handlers wider oid bytes v := by
  cases h with
  | tagged payload => exact .tagged (payload.mono sub)
  | extension foreign handled takes form =>
    exact .extension foreign handled takes (form.mono (Form.item.mono sub))

/-- A derivation has the bytes of its identifier. -/
theorem DerivesUnder.ne_nil {levels : Nat} {bytes : List UInt8} {v : Value}
    (h : DerivesUnder handlers levels bytes v) : bytes ≠ [] := by
  cases levels with
  | zero => exact h.elim
  | succ levels =>
    obtain ⟨oid, payload, rfl, -⟩ := h
    rw [Oid.spelled, BigEndian.encode_succ]
    simp

/-- A derivation stays one when more levels are allowed. -/
theorem DerivesUnder.mono {levels more : Nat} (le : levels ≤ more) {bytes : List UInt8} {v : Value}
    (h : DerivesUnder handlers levels bytes v) : DerivesUnder handlers more bytes v := by
  induction more generalizing levels bytes v with
  | zero =>
    obtain rfl := Nat.le_zero.1 le
    exact h
  | succ more ih =>
    cases levels with
    | zero => exact h.elim
    | succ levels =>
      obtain ⟨oid, payload, rfl, body⟩ := h
      exact ⟨oid, payload, rfl, body.mono fun _ _ => ih (Nat.le_of_succ_le_succ le)⟩

/-- A derivation stays one when there are more handlers. -/
theorem DerivesUnder.more {others : Handlers}
    (sub : ∀ oid plan, handlers oid = some plan → others oid = some plan) {levels : Nat}
    {bytes : List UInt8} {v : Value} (h : DerivesUnder handlers levels bytes v) :
    DerivesUnder others levels bytes v := by
  induction levels generalizing bytes v with
  | zero => exact h.elim
  | succ levels ih =>
    obtain ⟨oid, payload, rfl, body⟩ := h
    refine ⟨oid, payload, rfl, ?_⟩
    cases body with
    | tagged isPayload => exact .tagged (isPayload.mono fun _ _ => ih)
    | extension foreign handled takes form =>
      exact .extension foreign (sub _ _ handled) takes
        (form.mono (Form.item.mono fun _ _ => ih))

/-- Without handlers, there are no other derivations than those of the catalogue. -/
theorem derivesUnder_none_iff {levels : Nat} {bytes : List UInt8} {v : Value} :
    DerivesUnder (fun _ => none) levels bytes v ↔ Derives levels bytes v := by
  induction levels generalizing bytes v with
  | zero => exact Iff.rfl
  | succ levels ih =>
    constructor
    · intro h
      obtain ⟨oid, payload, rfl, body⟩ := h
      cases body with
      | tagged payload => exact ⟨_, _, rfl, payload.mono fun _ _ => ih.1⟩
      | extension _ handled _ _ => cases handled
    · intro h
      obtain ⟨tag, payload, rfl, isPayload⟩ := h
      exact ⟨tag.code, payload, rfl, .tagged (isPayload.mono fun _ _ => ih.2)⟩

end

end TaggedStream
