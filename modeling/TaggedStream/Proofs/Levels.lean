import TaggedStream.Proofs.Addresses
import TaggedStream.Proofs.Portable

/-!
The levels that a derivation needs.

A derivation opens a level for each value inside another, so it needs as many levels as its value
has, no matter how the value is spelled. Handlers that take bytes alone, like those of the standard
registry, open no levels of their own.
-/

namespace TaggedStream

/-! ## Things that are all alike -/

namespace Form

variable {α β : Type} {P : α → Prop} {item : Form α} {bytes : List UInt8}

theorem many_and_iff {items : List α} : many (fun bytes a => item bytes a ∧ P a) bytes items ↔
    many item bytes items ∧ ∀ a ∈ items, P a := by
  constructor
  · intro h
    induction h with
    | nil => exact ⟨.nil, by simp⟩
    | cons head _ ih => exact ⟨.cons head.1 ih.1, List.forall_mem_cons.2 ⟨head.2, ih.2⟩⟩
  · intro both
    obtain ⟨h, each⟩ := both
    induction h with
    | nil => exact .nil
    | cons head _ ih =>
      obtain ⟨first, others⟩ := List.forall_mem_cons.1 each
      exact .cons ⟨head, first⟩ (ih others)

theorem counted_and_iff {items : List α} :
    counted (fun bytes a => item bytes a ∧ P a) bytes items ↔
      counted item bytes items ∧ ∀ a ∈ items, P a := by
  constructor
  · intro h
    obtain ⟨number, all⟩ := h
    exact ⟨.mk number (many_and_iff.1 all).1, (many_and_iff.1 all).2⟩
  · intro both
    obtain ⟨⟨number, all⟩, each⟩ := both
    exact .mk number (many_and_iff.2 ⟨all, each⟩)

theorem chunked_and_iff {items : List α} :
    chunked (many fun bytes a => item bytes a ∧ P a) bytes items ↔
      chunked (many item) bytes items ∧ ∀ a ∈ items, P a := by
  constructor
  · intro h
    induction h with
    | done zero => exact ⟨.done zero, by simp⟩
    | chunk number ne_nil head _ ih =>
      obtain ⟨head, first⟩ := many_and_iff.1 head
      exact ⟨.chunk number ne_nil head ih.1, List.forall_mem_append.2 ⟨first, ih.2⟩⟩
  · intro both
    obtain ⟨h, each⟩ := both
    induction h with
    | done zero => exact .done zero
    | chunk number ne_nil head _ ih =>
      obtain ⟨first, others⟩ := List.forall_mem_append.1 each
      exact .chunk number ne_nil (many_and_iff.2 ⟨head, first⟩) (ih others)

theorem optional_and_iff {a : Option α} :
    optional (fun bytes a => item bytes a ∧ P a) bytes a ↔
      optional item bytes a ∧ ∀ b, a = some b → P b := by
  constructor
  · intro h
    cases h with
    | none => exact ⟨.none, by simp⟩
    | some present => exact ⟨.some present.1, by simpa using present.2⟩
  · intro both
    obtain ⟨h, each⟩ := both
    cases h with
    | none => exact .none
    | some present => exact .some ⟨present, each _ rfl⟩

theorem pair_and_iff {Q : β → Prop} {other : Form β} {ab : α × β} :
    pair (fun bytes a => item bytes a ∧ P a) (fun bytes b => other bytes b ∧ Q b) bytes ab ↔
      pair item other bytes ab ∧ P ab.1 ∧ Q ab.2 := by
  constructor
  · intro h
    obtain ⟨left, right⟩ := h
    exact ⟨.mk left.1 right.1, left.2, right.2⟩
  · intro both
    obtain ⟨⟨left, right⟩, first, second⟩ := both
    exact .mk ⟨left, first⟩ ⟨right, second⟩

end Form

/-! ## Levels of payloads -/

/-- The values of a form that have at most `n` levels. -/
def Form.shallow (n : Nat) (element : Form Value) : Form Value := fun bytes v =>
  element bytes v ∧ v.nesting ≤ n

section

variable {element : Form Value} {n : Nat} {bytes : List UInt8}

/-- An error stands one level above what is below it. -/
theorem Form.throwable_shallow_iff {data : Option (OrderedMap Value Value)} {t : Throwable Value} :
    Form.throwable (shallow n element) data bytes t ∧
        (∀ m, data = some m → (Value.map m).nesting ≤ n) ↔
      Form.throwable element data bytes t ∧ (Value.throwable t).nesting ≤ n + 1 := by
  rw [Value.nesting, Nat.add_le_add_iff_right, Value.nestingOfThrowable_le_iff]
  constructor
  · intro both
    obtain ⟨⟨message, frames, cause, suppressed, rfl⟩, inside⟩ := both
    obtain ⟨cause, below⟩ := optional_and_iff.1 cause
    obtain ⟨suppressed, beside⟩ := counted_and_iff.1 suppressed
    exact ⟨.mk message frames cause suppressed rfl, below, beside, inside⟩
  · intro both
    obtain ⟨⟨message, frames, cause, suppressed, rfl⟩, below, beside, inside⟩ := both
    exact ⟨.mk message frames (optional_and_iff.2 ⟨cause, below⟩)
      (counted_and_iff.2 ⟨suppressed, beside⟩) rfl, inside⟩

/-- A payload stands for a value with at most one level more than the values inside. -/
theorem Payload.shallow_iff {tag : Tag} {v : Value} :
    Payload (Form.shallow n element) tag bytes v ↔
      Payload element tag bytes v ∧ v.nesting ≤ n + 1 := by
  have lists {items : List Value} : Value.nestingOfList items + 1 ≤ n + 1 ↔ _ :=
    Nat.add_le_add_iff_right.trans Value.nestingOfList_le_iff
  have maps {entries : List (Value × Value)} : (Value.map ⟨entries⟩).nesting ≤ n + 1 ↔ _ :=
    Nat.add_le_add_iff_right.trans Value.nestingOfEntries_le_iff
  constructor
  · intro h
    refine ⟨h.mono fun _ _ => And.left, ?_⟩
    cases h with
    | annotated notes inner => exact Nat.succ_le_succ (Nat.max_le.2 ⟨inner.2, notes.2⟩)
    | vector items | set items => exact lists.2 (Form.counted_and_iff.1 items).2
    | map entries =>
      exact maps.2 (Form.counted_and_iff.1 (entries.mono fun _ _ => Form.pair_and_iff.1)).2
    | seq items => exact lists.2 (Form.chunked_and_iff.1 items).2
    | throwable body => exact (Form.throwable_shallow_iff.1 ⟨body, by simp⟩).2
    | throwableWithData data body =>
      refine (Form.throwable_shallow_iff.1 ⟨body, ?_⟩).2
      rintro _ ⟨rfl⟩
      exact data.2
    | future inner => exact Nat.succ_le_succ inner.2
    | number body => cases body <;> simp [Value.nesting]
    | @constant kind constant => cases kind <;> simp [DecodeM.constantValue, Value.nesting]
    | vectorEmpty | setEmpty => exact lists.2 (by simp)
    | mapEmpty => exact maps.2 (by simp)
    | _ => simp [Value.nesting]
  · intro both
    obtain ⟨h, le⟩ := both
    cases h with
    | annotated notes inner =>
      have both := Nat.max_le.1 (Nat.le_of_succ_le_succ le)
      exact .annotated ⟨notes, both.2⟩ ⟨inner, both.1⟩
    | vector items => exact .vector (Form.counted_and_iff.2 ⟨items, lists.1 le⟩)
    | set items => exact .set (Form.counted_and_iff.2 ⟨items, lists.1 le⟩)
    | map entries =>
      exact .map ((Form.counted_and_iff.2 ⟨entries, maps.1 le⟩).mono fun _ _ => Form.pair_and_iff.2)
    | seq items => exact .seq (Form.chunked_and_iff.2 ⟨items, lists.1 le⟩)
    | throwable body => exact .throwable (Form.throwable_shallow_iff.2 ⟨body, le⟩).1
    | throwableWithData data body =>
      obtain ⟨body, inside⟩ := Form.throwable_shallow_iff.2 ⟨body, le⟩
      exact .throwableWithData ⟨data, inside _ rfl⟩ body
    | future inner => exact .future ⟨inner, Nat.le_of_succ_le_succ le⟩
    | _ => constructor <;> assumption

end

/-! ## Levels of derivations -/

/-- Handlers that take bytes alone, and make values with nothing inside. -/
def Handlers.Flat (handlers : Handlers) : Prop :=
  ∀ oid plan cargo v, handlers oid = some plan → plan.Takes cargo v →
    (∃ slice, cargo = Cargo.ofBytes slice) ∧ v.nesting = 1

section

variable {handlers : Handlers} {element : Form Value} {m n : Nat} {bytes : List UInt8} {v : Value}

/-- Bytes of a handler's own are the same whatever stands for values. -/
theorem Form.cargo_ofBytes_iff {slice : List UInt8} :
    Form.cargo element bytes (Cargo.ofBytes slice) ↔ bytes = slice := by
  have split : Cargo.ofBytes slice = Cargo.ofBytes slice ++ [] := (List.append_nil _).symm
  rw [split, Form.cargo_ofBytes_append_iff]
  constructor
  · intro found
    rcases found with ⟨back, rfl, none⟩
    cases none
    exact List.append_nil _
  · intro same
    exact ⟨[], by rw [same, List.append_nil], .nil⟩

theorem Body.shallow_iff (flat : handlers.Flat) {oid : Oid} :
    Body handlers (Form.shallow n element) oid bytes v ↔
      Body handlers element oid bytes v ∧ v.nesting ≤ n + 1 := by
  constructor
  · intro h
    cases h with
    | tagged payload =>
      obtain ⟨payload, le⟩ := Payload.shallow_iff.1 payload
      exact ⟨.tagged payload, le⟩
    | extension foreign handled takes form =>
      obtain ⟨⟨slice, rfl⟩, one⟩ := flat _ _ _ _ handled takes
      rw [Form.cargo_ofBytes_iff] at form
      exact ⟨.extension foreign handled takes (Form.cargo_ofBytes_iff.2 form), by omega⟩
  · intro both
    obtain ⟨h, le⟩ := both
    cases h with
    | tagged payload => exact .tagged (Payload.shallow_iff.2 ⟨payload, le⟩)
    | extension foreign handled takes form =>
      obtain ⟨⟨slice, rfl⟩, -⟩ := flat _ _ _ _ handled takes
      rw [Form.cargo_ofBytes_iff] at form
      exact .extension foreign handled takes (Form.cargo_ofBytes_iff.2 form)

/-- Of the derivations that open at most `m` levels, those that open at most `n` are the ones of
values with at most `n` levels. -/
theorem derivesUnder_iff_of_le (flat : handlers.Flat) (le : n ≤ m) :
    DerivesUnder handlers n bytes v ↔ DerivesUnder handlers m bytes v ∧ v.nesting ≤ n := by
  induction m generalizing n bytes v with
  | zero =>
    obtain rfl := Nat.le_zero.1 le
    exact ⟨fun h => h.elim, fun h => h.1.elim⟩
  | succ m ih =>
    cases n with
    | zero => exact ⟨fun h => h.elim, fun h => absurd v.nesting_pos (Nat.not_lt.2 h.2)⟩
    | succ n =>
      -- The values inside are the shallow ones among those of the wider derivation.
      have inside : DerivesUnder handlers n = Form.shallow n (DerivesUnder handlers m) := by
        funext bytes v
        exact propext (ih (Nat.le_of_succ_le_succ le))
      rw [DerivesUnder, DerivesUnder, inside]
      simp only [Form.identified, Body.shallow_iff flat, ← and_assoc, exists_and_right]

/-- No derivation stands for a value with more levels than it opens. -/
theorem DerivesUnder.nesting_le (flat : handlers.Flat) (h : DerivesUnder handlers n bytes v) :
    v.nesting ≤ n :=
  ((derivesUnder_iff_of_le flat (Nat.le_refl n)).1 h).2

/-- A derivation stays one as long as the levels of its value may be opened. -/
theorem DerivesUnder.of_nesting_le (flat : handlers.Flat) (h : DerivesUnder handlers m bytes v)
    (le : v.nesting ≤ n) : DerivesUnder handlers n bytes v := by
  have fewest : DerivesUnder handlers v.nesting bytes v :=
    (derivesUnder_iff_of_le flat (h.nesting_le flat)).2 ⟨h, Nat.le_refl _⟩
  exact fewest.mono le

end

/-! ## The standard registry -/

/-- The handlers of the standard registry open no levels. -/
theorem Registry.flat_standard (options : Options) :
    (Registry.standard.handlers options).Flat := by
  intro oid plan cargo v handled takes
  obtain ⟨type, parts, rfl, -⟩ := Registry.isAddress_of_takes handled takes
  exact ⟨(Registry.bytewise_standard handled).eq_ofBytes takes, by simp [Value.nesting]⟩

theorem Decoder.flat_of_standard {d : Decoder} (standard : d.registry = .standard) :
    d.scope.handlers.Flat := by
  rw [scope, standard]
  exact Registry.flat_standard _

end TaggedStream
