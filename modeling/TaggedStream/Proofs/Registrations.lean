import TaggedStream.Extension.Sample
import TaggedStream.Proofs.Conservation

/-!
Registrations in place.

A registry is changed where it stands, so a registration that stops half-way would leave what it has
done. None does: the identifier is looked at before anything is changed. After any calls the
registry has the last handler of each type and of each identifier, and no others. The handler that
it finds for an object is the one of its type, so the check in front of a handler never fails, in no
value that any encoder writes.
-/

namespace TaggedStream

/-! ## Calls -/

/-- A call that registers handlers. -/
inductive Registration where
  | writing (type : HostType) (writer : ObjectWriter)
  | reading (oid : Oid) (reader : ObjectReader)
  | both (type : HostType) (oid : Oid) (writer : ObjectWriter) (reader : ObjectReader)

/-- Changes to a registry that may stop. What was changed before stays changed. -/
abbrev RegistryM := EStateM StreamError Registry

namespace RegistryM

/-- Puts in the handler that writes objects of a type. -/
def setWriter (type : HostType) (writer : ObjectWriter) : RegistryM Unit :=
  modify fun registry => registry.registerWriter type writer

/-- Puts in the handler that reads what follows an identifier. -/
def setReader (oid : Oid) (reader : ObjectReader) : RegistryM Unit := do
  if oid.isBuiltin then throw (.oidConflict oid)
  modify fun registry => { registry with readers := registry.readers.insert oid reader }

/-- The end of a change that gives a new registry, or leaves the one there was. -/
def ofExcept (registry : Registry) :
    Except StreamError Registry → EStateM.Result StreamError Registry Unit
  | .ok after => .ok () after
  | .error error => .error error registry

end RegistryM

namespace Registration

/-- Carries a call out where the registry stands, one handler after the other. -/
def perform : Registration → RegistryM Unit
  | writing type writer => RegistryM.setWriter type writer
  | reading oid reader => RegistryM.setReader oid reader
  | both type oid writer reader => do
    RegistryM.setReader oid reader
    RegistryM.setWriter type writer

/-- The registry that a call leaves, whatever came of it. -/
def leave (call : Registration) (registry : Registry) : Registry :=
  match call.perform registry with
  | .ok () after => after
  | .error _ after => after

/-- The registry that a call gives. -/
def apply : Registration → Registry → Except StreamError Registry
  | writing type writer, registry => .ok (registry.registerWriter type writer)
  | reading oid reader, registry => registry.registerReader oid reader
  | both type oid writer reader, registry => registry.register type oid writer reader

/-- The handler that a call brings for objects of a type. -/
def writer? : Registration → Option (HostType × ObjectWriter)
  | writing type writer => some (type, writer)
  | reading .. => none
  | both type _ writer _ => some (type, writer)

/-- The handler that a call brings for what follows an identifier. -/
def reader? : Registration → Option (Oid × ObjectReader)
  | writing .. => none
  | reading oid reader => some (oid, reader)
  | both _ oid _ reader => some (oid, reader)

/-- Whether a call names no identifier of the catalogue. -/
def isAllowed (call : Registration) : Bool := call.reader?.all fun pair => !pair.1.isBuiltin

/-- The registry with the handlers that a call brings. -/
def enter (call : Registration) (registry : Registry) : Registry where
  writers := call.writer?.elim registry.writers fun pair =>
    registry.writers.insert pair.1 (Registry.guarded pair.1 pair.2)
  readers := call.reader?.elim registry.readers fun pair =>
    registry.readers.insert pair.1 pair.2

end Registration

/-- The handlers of one sort that calls brought, without those of calls that were refused. -/
def brought {α : Type} (handler? : Registration → Option α) (calls : List Registration) : List α :=
  (calls.filter Registration.isAllowed).filterMap handler?

/-- The last handler that calls brought for objects of a type. -/
def lastWriter? (calls : List Registration) (type : HostType) : Option ObjectWriter :=
  ((brought Registration.writer? calls).reverse.find? fun pair => pair.1 == type).map Prod.snd

/-- The last handler that calls brought for what follows an identifier. -/
def lastReader? (calls : List Registration) (oid : Oid) : Option ObjectReader :=
  ((brought Registration.reader? calls).reverse.find? fun pair => pair.1 == oid).map Prod.snd

namespace Registry

/-- A type with a handler behind a check. -/
def guardedPair (pair : HostType × ObjectWriter) : HostType × ObjectWriter :=
  (pair.1, guarded pair.1 pair.2)

/-- The registry after one call after another. -/
def afterCalls (calls : List Registration) (registry : Registry) : Registry :=
  calls.foldl (fun registry call => call.leave registry) registry

/-- The registry has the last handlers that calls brought, each once and behind a check of the type
if it writes, and no others. -/
structure Reflects (calls : List Registration) (registry : Registry) : Prop where
  distinct_types : registry.writers.keys.Nodup
  distinct_oids : registry.readers.keys.Nodup
  writer?_eq (type : HostType) :
    registry.writer? type = (lastWriter? calls type).map (guarded type)
  reader?_eq (oid : Oid) : registry.reader? oid = lastReader? calls oid
  mem_writers (type : HostType) (writer : ObjectWriter) :
    (type, writer) ∈ registry.writers.toList ↔
      ∃ bare, lastWriter? calls type = some bare ∧ guarded type bare = writer
  mem_readers (oid : Oid) (reader : ObjectReader) :
    (oid, reader) ∈ registry.readers.toList ↔ lastReader? calls oid = some reader

/-- The registries that a host begins with. -/
inductive Origin where
  | new
  | standard

/-- The registry at first. -/
def Origin.registry : Origin → Registry
  | new => .empty
  | standard => .standard

/-- The calls that led to the registry at first. -/
def Origin.calls : Origin → List Registration
  | new => []
  | standard =>
    [.both Address.ipv4Type Oid.ipv4 Address.writeIpv4 Address.readIpv4,
      .both Address.ipv6Type Oid.ipv6 Address.writeIpv6 Address.readIpv6,
      .both Address.socketV4Type Oid.socketV4 Address.writeSocketV4 Address.readSocketV4]

end Registry

/-! ## One call -/

theorem RegistryM.setReader_eq (oid : Oid) (reader : ObjectReader) (registry : Registry) :
    setReader oid reader registry = ofExcept registry (registry.registerReader oid reader) := by
  unfold setReader Registry.registerReader
  cases oid.isBuiltin <;> rfl

namespace Registration

/-- In place a call does what it does to a registry that is given and taken back. So it changes
everything or nothing. -/
theorem perform_eq (call : Registration) (registry : Registry) :
    call.perform registry = RegistryM.ofExcept registry (call.apply registry) := by
  cases call with
  | writing type writer => rfl
  | reading oid reader => exact RegistryM.setReader_eq oid reader registry
  | both type oid writer reader =>
    change EStateM.bind (RegistryM.setReader oid reader)
      (fun _ => RegistryM.setWriter type writer) registry = _
    rw [EStateM.bind, RegistryM.setReader_eq, apply, Registry.register]
    cases registry.registerReader oid reader <;> rfl

/-- A call that names an identifier of the catalogue is refused. -/
theorem apply_of_builtin {call : Registration} {oid : Oid} {reader : ObjectReader}
    (named : call.reader? = some (oid, reader)) (builtin : oid.isBuiltin = true)
    (registry : Registry) : call.apply registry = .error (.oidConflict oid) := by
  have refused : registry.registerReader oid reader = .error (.oidConflict oid) := if_pos builtin
  cases call with
  | writing type writer => cases named
  | reading oid reader =>
    cases named
    exact refused
  | both type oid writer reader =>
    cases named
    rw [apply, Registry.register, refused]
    rfl

/-- Any other call is accepted. -/
theorem apply_of_allowed {call : Registration} (allowed : call.isAllowed = true)
    (registry : Registry) : call.apply registry = .ok (call.enter registry) := by
  have accepted {oid : Oid} (foreign : (!oid.isBuiltin) = true) (reader : ObjectReader) :
      registry.registerReader oid reader =
        .ok { registry with readers := registry.readers.insert oid reader } :=
    if_neg (by simpa using foreign)
  cases call with
  | writing type writer => rfl
  | reading oid reader => exact accepted allowed reader
  | both type oid writer reader =>
    rw [apply, Registry.register, accepted allowed]
    rfl

theorem exists_reader?_of_not_allowed {call : Registration} (refused : call.isAllowed = false) :
    ∃ oid reader, call.reader? = some (oid, reader) ∧ oid.isBuiltin = true := by
  unfold isAllowed at refused
  cases named : call.reader? with
  | none =>
    rw [named] at refused
    cases refused
  | some pair =>
    rw [named] at refused
    exact ⟨pair.1, pair.2, rfl, by simpa using refused⟩

theorem leave_of_allowed {call : Registration} (allowed : call.isAllowed = true)
    (registry : Registry) : call.leave registry = call.enter registry := by
  rw [leave, perform_eq, apply_of_allowed allowed]
  rfl

theorem leave_of_not_allowed {call : Registration} (refused : call.isAllowed = false)
    (registry : Registry) : call.leave registry = registry := by
  obtain ⟨oid, reader, named, builtin⟩ := exists_reader?_of_not_allowed refused
  rw [leave, perform_eq, apply_of_builtin named builtin]
  rfl

end Registration

/-! ## Any calls -/

namespace Registry

theorem Origin.registry_eq (origin : Origin) :
    origin.registry = afterCalls origin.calls .empty := by
  cases origin <;> rfl

theorem brought_append_singleton {α : Type} (handler? : Registration → Option α)
    (calls : List Registration) (call : Registration) :
    brought handler? (calls ++ [call]) =
      brought handler? calls ++ if call.isAllowed then (handler? call).toList else [] := by
  rw [brought, List.filter_append, List.filterMap_append, brought]
  cases allowed : call.isAllowed with
  | false =>
    rw [List.filter_cons_of_neg (by simp [allowed])]
    rfl
  | true =>
    rw [List.filter_cons_of_pos allowed]
    cases found : handler? call <;> simp [found]

theorem afterCalls_append_singleton (calls : List Registration) (call : Registration)
    (registry : Registry) :
    afterCalls (calls ++ [call]) registry = call.leave (afterCalls calls registry) := by
  rw [afterCalls, List.foldl_append]
  rfl

/-- The tables are built from what the calls brought, one pair after the other. -/
theorem afterCalls_empty (calls : List Registration) :
    afterCalls calls .empty =
      { writers := .ofList ((brought Registration.writer? calls).map guardedPair)
        readers := .ofList (brought Registration.reader? calls) } := by
  induction calls using List.reverseRecOn with
  | nil => rfl
  | append_singleton calls call ih =>
    rw [afterCalls_append_singleton, ih, brought_append_singleton, brought_append_singleton]
    cases allowed : call.isAllowed with
    | false =>
      rw [Registration.leave_of_not_allowed allowed, if_neg Bool.false_ne_true,
        if_neg Bool.false_ne_true, List.append_nil, List.append_nil]
    | true =>
      rw [Registration.leave_of_allowed allowed, if_pos rfl, if_pos rfl, List.map_append,
        ← Option.toList_map, OrderedMap.ofList_append_toList, OrderedMap.ofList_append_toList,
        Registration.enter]
      cases call.writer? <;> rfl

/-- The handler that is found for a type is the last one, behind a check of the type. -/
theorem writer?_afterCalls (calls : List Registration) (type : HostType) :
    (afterCalls calls .empty).writer? type = (lastWriter? calls type).map (guarded type) := by
  rw [afterCalls_empty, writer?, OrderedMap.get?_ofList, ← List.map_reverse, List.find?_map,
    lastWriter?]
  have same : (fun pair : HostType × ObjectWriter => pair.1 == type) ∘ guardedPair =
      fun pair => pair.1 == type := rfl
  rw [same]
  cases found : (brought Registration.writer? calls).reverse.find? fun pair => pair.1 == type with
  | none => rfl
  | some pair =>
    obtain rfl : pair.1 = type := by simpa using List.find?_some found
    rfl

theorem reader?_afterCalls (calls : List Registration) (oid : Oid) :
    (afterCalls calls .empty).reader? oid = lastReader? calls oid := by
  rw [afterCalls_empty]
  exact OrderedMap.get?_ofList _ oid

theorem reflects_afterCalls (calls : List Registration) :
    (afterCalls calls .empty).Reflects calls := by
  have types : (afterCalls calls .empty).writers.keys.Nodup := by
    rw [afterCalls_empty]
    exact (OrderedMap.follows_ofList _).distinct
  have oids : (afterCalls calls .empty).readers.keys.Nodup := by
    rw [afterCalls_empty]
    exact (OrderedMap.follows_ofList _).distinct
  refine ⟨types, oids, writer?_afterCalls calls, reader?_afterCalls calls, fun type writer => ?_,
    fun oid reader => ?_⟩
  · rw [← Option.map_eq_some_iff, ← writer?_afterCalls]
    exact OrderedMap.mem_entries_iff types
  · rw [← reader?_afterCalls]
    exact OrderedMap.mem_entries_iff oids

theorem afterCalls_origin (origin : Origin) (calls : List Registration) :
    afterCalls calls origin.registry = afterCalls (origin.calls ++ calls) .empty := by
  rw [origin.registry_eq, afterCalls, afterCalls, afterCalls, List.foldl_append]

theorem Reached.leave {registry : Registry} (reached : registry.Reached) (call : Registration) :
    (call.leave registry).Reached := by
  rw [Registration.leave, Registration.perform_eq]
  cases run : call.apply registry with
  | error error => exact reached
  | ok after =>
    cases call with
    | writing type writer =>
      cases run
      exact reached.registerWriter type writer
    | reading oid reader => exact reached.registerReader run
    | both type oid writer reader => exact reached.register run

theorem Reached.afterCalls {registry : Registry} (reached : registry.Reached)
    (calls : List Registration) : (afterCalls calls registry).Reached := by
  induction calls generalizing registry with
  | nil => exact reached
  | cons call calls ih => exact ih (reached.leave call)

end Registry

/-! ## Encoders that run handlers without a check -/

namespace EncodeM

/-- The first phase of an encoder that is given the handlers themselves, without a check in front of
them, and looks them up in no registry. -/
def prepareBare (handlers : HostType → Option ObjectWriter) :
    (fuel : ℕ) → Value → EncodeM (EncodeM Unit)
  | 0, _ => endless
  | fuel + 1, .object o =>
    match handlers o.type with
    | some writer => return do
      runPlan (inTurn (prepareBare handlers fuel)) (writer (← settings) o)
    | none => do
      let placeholder ← placeholderOf o
      return writePlaceholder placeholder
  | fuel + 1, v => prepareAbove (prepareBare handlers fuel) v

/-- The check lets the object pass that its handler was looked up for. -/
theorem prepareAbove_of_guarded {handlers : HostType → Option ObjectWriter} {e : Encoder}
    (found : ∀ type, e.registry.writer? type = (handlers type).map (Registry.guarded type))
    (fuel : ℕ) (v : Value) :
    prepareAbove (prepareBare handlers fuel) v e = prepareBare handlers (fuel + 1) v e := by
  cases v with
  | object o =>
    rw [prepareAbove, get_bind, found, prepareBare]
    cases handlers o.type with
    | none => rfl
    | some writer =>
      have passes (options : Options) :
          Registry.guarded o.type writer options o = writer options o := if_pos rfl
      simp only [Option.map_some, passes]
  | _ => rfl

end EncodeM

namespace Encoder

variable {outputs : Output → ℕ → Output → ℕ → Prop} {sides : Sides} {n : ℕ}
  {handlers : HostType → Option ObjectWriter}

theorem Twin.prepareBare (outlets : Outlets outputs)
    (blind : ∀ o writer, sides.registry.writer? o.type = some writer →
      writer sides.options' o = writer sides.options o)
    (found : ∀ type, sides.registry.writer? type = (handlers type).map (Registry.guarded type))
    (fuel : ℕ) (v : Value) :
    Tracks (.twins outputs sides) n (Twin outputs sides)
      (Twin.Writes outputs sides n) (Twin outputs sides) (EncodeM.prepare fuel v)
      fun _ => EncodeM.prepareBare handlers fuel v := by
  induction fuel generalizing v with
  | zero => exact .endless
  | succ fuel ih =>
    refine (Twin.prepareAbove outlets blind ih v).congr (fun _ _ _ => rfl) fun e e' twin _ => ?_
    have registry := ((Twin.correspondence outlets blind).registry_eq twin).2
    exact (EncodeM.prepareAbove_of_guarded (registry ▸ found) fuel v).symm

/-- An idle encoder whose registry has these handlers behind checks writes any value as if there
were no checks: at no depth is a handler given an object that is not of its type. -/
theorem Idle.bare {e : Encoder} (idle : e.Idle)
    (found : ∀ type, e.registry.writer? type = (handlers type).map (Registry.guarded type))
    (fuel : ℕ) (v : Value) :
    Matches Eq ApartFromBuffer ApartFromBuffer (EncodeM.encodeWithin fuel v e)
      (EncodeM.inTurn (EncodeM.prepareBare handlers fuel) v e) := by
  have outlets : Outlets (Output.Shared fun _ => True) := .shared fun _ _ _ => trivial
  exact idle.apart (.bind (Twin.prepareBare outlets (fun _ _ _ => rfl) found fuel v)
    fun _ _ same => same)

end Encoder

/-- The last registration counts, and a registration does all or nothing. Whatever calls were made
on a new registry or on the standard one, it has for each type and for each identifier the last
handler that an accepted call brought, and no other. A call that names an identifier of the
catalogue is refused with it and leaves the registry exactly as it was; any other call puts in what
it brings. No identifier of the catalogue has a handler. And a handler that is found for an object
is one for its type: the check in front of it passes, and an encoder writes every value as if there
were none. -/
theorem Registry.last_registration_counts (origin : Registry.Origin) (calls : List Registration) :
    let registry := Registry.afterCalls calls origin.registry
    let history := origin.calls ++ calls
    registry.Reflects history ∧
    (∀ call : Registration,
      call.perform registry = RegistryM.ofExcept registry (call.apply registry)) ∧
    (∀ (call : Registration) (oid : Oid) (reader : ObjectReader),
      call.reader? = some (oid, reader) → oid.isBuiltin = true →
        call.perform registry = .error (.oidConflict oid) registry) ∧
    (∀ call : Registration, call.isAllowed = true →
      call.perform registry = .ok () (call.enter registry)) ∧
    (∀ oid : Oid, oid.isBuiltin = true → registry.reader? oid = none) ∧
    (∀ (o : HostObject Value) (writer : ObjectWriter), registry.writer? o.type = some writer →
      ∃ bare, lastWriter? history o.type = some bare ∧
        ∀ options, writer options o = bare options o) ∧
    ∀ e : Encoder, e.registry = registry → e.Idle → ∀ (levels : ℕ) (v : Value),
      Matches Eq Encoder.ApartFromBuffer Encoder.ApartFromBuffer (EncodeM.encodeWithin levels v e)
        (EncodeM.inTurn (EncodeM.prepareBare (lastWriter? history) levels) v e) := by
  intro registry history
  have reflects : registry.Reflects history := by
    have same : registry = Registry.afterCalls history .empty :=
      Registry.afterCalls_origin origin calls
    rw [same]
    exact Registry.reflects_afterCalls history
  have reached : registry.Reached := by
    have first : origin.registry.Reached := by
      cases origin with
      | new => exact .empty
      | standard => exact .standard
    exact first.afterCalls calls
  refine ⟨reflects, fun call => call.perform_eq registry, fun call oid reader named builtin => ?_,
    fun call allowed => ?_, fun oid builtin => reached.reader?_of_builtin builtin,
    fun o writer known => ?_, fun e equipped idle levels v => ?_⟩
  · rw [Registration.perform_eq, Registration.apply_of_builtin named builtin]
    rfl
  · rw [Registration.perform_eq, Registration.apply_of_allowed allowed]
    rfl
  · rw [reflects.writer?_eq, Option.map_eq_some_iff] at known
    obtain ⟨bare, last, rfl⟩ := known
    exact ⟨bare, last, fun options => if_pos rfl⟩
  · exact idle.bare (fun type => equipped ▸ reflects.writer?_eq type) levels v

/-- The handlers of points are replaced by a call for one of them, and a call under the identifier
of texts fails behind it. -/
theorem Registry.last_registration_counts_for_points :
    let point := Sample.pointType "host"
    let refused := .both point Tag.string.code Sample.writeWidePoint (Sample.readWidePoint "host")
    let calls := [
      .both point 0x8001 Sample.writeWidePoint (Sample.readPoint "host"),
      .writing point Sample.writePoint,
      refused]
    let registry := Registry.afterCalls calls .standard
    let e := Encoder.fresh registry {} { sink := .unlimited } {}
    let o : HostObject Value := { type := point, parts := [.integer 1, .integer 2] }
    registry.writer? point = some (Registry.guarded point Sample.writePoint) ∧
    registry.reader? 0x8001 = some (Sample.readPoint "host") ∧
    refused.perform registry = .error (.oidConflict Tag.string.code) registry ∧
    (∃ after, (Registration.writing point Sample.writeWidePoint).perform registry =
      .ok () after) ∧
    registry.reader? Tag.string.code = none ∧
    (∀ options, Registry.guarded point Sample.writePoint options o =
      Sample.writePoint options o) ∧
    ∃ handlers, handlers point = some Sample.writePoint ∧
      Matches Eq Encoder.ApartFromBuffer Encoder.ApartFromBuffer
        (EncodeM.encodeWithin 1 (.object o) e)
        (EncodeM.inTurn (EncodeM.prepareBare handlers 1) (.object o) e) := by
  intro point refused calls registry e o
  obtain ⟨reflects, -, refusal, acceptance, builtin, passes, bare⟩ :=
    Registry.last_registration_counts .standard calls
  have last : lastWriter? (Registry.Origin.standard.calls ++ calls) point =
    some Sample.writePoint := rfl
  have known := (reflects.writer?_eq point).trans (congrArg (Option.map _) last)
  obtain ⟨writer, found, same⟩ := passes o _ known
  cases last.symm.trans found
  exact ⟨known, reflects.reader?_eq 0x8001, refusal refused _ _ rfl (by decide),
    ⟨_, acceptance _ rfl⟩, builtin _ (by decide), same, _, last,
    bare e rfl (Encoder.Idle.fresh _ _ _ _) 1 (.object o)⟩

end TaggedStream
