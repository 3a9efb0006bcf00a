import TaggedStream.Proofs.Buffering

/-!
The end of a stream, looked for again.

A decoder looks for the end anew at each call, and a reader that showed its end may have more to
give later. So what is sticky depends on who asks: an iteration that has ended stays ended, whatever
the source does, because it remembers; a plain call for the next value finds the end again exactly
as long as the source is silent.
-/

namespace TaggedStream

/-! ## Silence -/

/-- A look through an empty buffer of this capacity shows the end, now and ever after: the turns
that are left hold no bytes and no failure, or the buffer can hold nothing of the bytes that come
next. -/
def Script.Silent (capacity : Nat) : Script → Prop
  | [] => True
  | .interrupted :: rest => Silent capacity rest
  | .bytes [] :: rest => Silent capacity rest
  | .bytes (_ :: _) :: _ => capacity = 0
  | .failure _ :: _ => False

/-- Nothing is left, and nothing more will come. -/
def Source.Silent : Source → Prop
  | .slice rest => rest = []
  | .buffered capacity buffer script => buffer = [] ∧ script.Silent capacity

namespace Script

variable {capacity : Nat} {script after : Script}

theorem readThrough_empty (capacity : Nat) (rest : Script) :
    Script.readThrough capacity (.bytes [] :: rest) = (.bytes [], rest) := by
  rw [readThrough_bytes, List.take_nil, List.drop_nil, resume, if_pos rfl]

/-- Interruptions are passed over. -/
theorem readThrough_ne_interrupted (capacity : Nat) (script after : Script) :
    script.readThrough capacity ≠ (.interrupted, after) := by
  intro run
  induction script with
  | nil => cases run
  | cons turn rest ih =>
    cases turn with
    | interrupted => exact ih run
    | failure text => cases run
    | bytes piece =>
      rw [readThrough_bytes] at run
      cases run

/-- A piece that shows nothing is empty, or the buffer can hold nothing. -/
theorem eq_nil_or_zero_of_readThrough {piece : List UInt8} {rest : Script}
    (run : Script.readThrough capacity (.bytes piece :: rest) = (.bytes [], after)) :
    piece = [] ∨ capacity = 0 := by
  rw [readThrough_bytes] at run
  exact (List.take_eq_nil_iff.1 (Turn.bytes.inj (Prod.mk.inj run).1)).symm

theorem Silent.readThrough (h : Silent capacity script) :
    ∃ after, script.readThrough capacity = (.bytes [], after) ∧ Silent capacity after := by
  induction script with
  | nil => exact ⟨[], rfl, trivial⟩
  | cons turn rest ih =>
    cases turn with
    | interrupted => exact ih h
    | failure text => exact h.elim
    | bytes piece =>
      cases piece with
      | nil => exact ⟨rest, readThrough_empty capacity rest, h⟩
      | cons byte piece =>
        obtain rfl : capacity = 0 := h
        exact ⟨.bytes (byte :: piece) :: rest, by rw [readThrough_bytes]; rfl, rfl⟩

/-- A look that finds the end uses up a turn unless the reader is silent. A reader that is silent
afterwards was silent before. -/
theorem after_readThrough (run : script.readThrough capacity = (.bytes [], after)) :
    (Silent capacity script ∨ after.length < script.length) ∧
      (Silent capacity after → Silent capacity script) := by
  induction script with
  | nil => exact ⟨.inl trivial, fun _ => trivial⟩
  | cons turn rest ih =>
    cases turn with
    | interrupted => exact ⟨(ih run).1.imp id Nat.lt_succ_of_lt, (ih run).2⟩
    | failure text => cases run
    | bytes piece =>
      cases piece with
      | nil =>
        rw [readThrough_empty] at run
        cases run
        exact ⟨.inr (Nat.lt_succ_self _), id⟩
      | cons byte piece =>
        rcases eq_nil_or_zero_of_readThrough run with none | zero
        · cases none
        · exact ⟨.inl zero, fun _ => zero⟩

end Script

namespace Source

variable {source after : Source}

theorem Silent.atEnd (h : source.Silent) :
    ∃ after : Source, source.atEnd = (.ok true, after) ∧ after.Silent := by
  cases source with
  | slice rest =>
    obtain rfl : rest = [] := h
    exact ⟨_, rfl, rfl⟩
  | buffered capacity buffer script =>
    obtain ⟨rfl, silent⟩ := h
    obtain ⟨left, run, silent'⟩ := silent.readThrough
    exact ⟨.buffered capacity [] left, by rw [Source.atEnd, run]; rfl, rfl, silent'⟩

/-- How many turns are left. -/
def turns : Source → Nat
  | .slice _ => 0
  | .buffered _ _ script => script.length

/-- A look that finds the end uses up a turn unless the source is silent. A source that is silent
afterwards was silent before. -/
theorem after_atEnd (run : source.atEnd = (.ok true, after)) :
    (source.Silent ∨ after.turns < source.turns) ∧ (after.Silent → source.Silent) := by
  cases source with
  | slice rest =>
    have ended : rest = [] := List.isEmpty_iff.1 (Except.ok.inj (Prod.mk.inj run).1)
    exact ⟨.inl ended, fun _ => ended⟩
  | buffered capacity buffer script =>
    cases buffer with
    | cons byte buffer => cases run
    | nil =>
      rw [Source.atEnd] at run
      split at run
      next piece left found =>
        obtain ⟨ended, rfl⟩ := Prod.mk.inj run
        obtain rfl : piece = [] := List.isEmpty_iff.1 (Except.ok.inj ended)
        obtain ⟨shorter, before⟩ := Script.after_readThrough found
        exact ⟨shorter.imp (⟨rfl, ·⟩) id, fun h => ⟨rfl, before h.2⟩⟩
      next => cases run
      next left found => exact absurd found (Script.readThrough_ne_interrupted capacity script left)

end Source

/-! ## One call -/

namespace DecodeM

variable {d after : Decoder}

/-- A call finds the end exactly if the look in front of the value does. -/
theorem decode_eq_none_iff :
    decode d = .ok none after ↔
      ∃ source, d.source.atEnd = (.ok true, source) ∧ after = { d with source } := by
  constructor
  · intro run
    unfold decode at run
    obtain ⟨ended, between, look, run⟩ := bind_eq_ok_iff.1 run
    cases ended with
    | true =>
      rw [atEnd] at look
      split at look
      next source found =>
        cases look
        cases run
        exact ⟨source, found, rfl⟩
      next => cases look
    | false =>
      obtain ⟨oid, _, -, run⟩ := bind_eq_ok_iff.1 run
      rw [settings_bind] at run
      obtain ⟨v, _, -, run⟩ := bind_eq_ok_iff.1 run
      cases run
  · intro found
    rcases found with ⟨source, found, rfl⟩
    have look : atEnd d = .ok true { d with source } := by rw [atEnd, found]
    unfold decode
    rw [bind_of_ok look]
    rfl

theorem decode_of_silent (silent : d.source.Silent) :
    ∃ after, decode d = .ok none after ∧ after.source.Silent := by
  obtain ⟨source, found, silent'⟩ := silent.atEnd
  exact ⟨_, decode_eq_none_iff.2 ⟨source, found, rfl⟩, silent'⟩

theorem next_of_done (ended : d.done = true) : next d = .ok none d := by
  rw [next, get_bind, ended]
  rfl

theorem next_of_silent (silent : d.source.Silent) :
    ∃ after, next d = .ok none after ∧ after.source.Silent := by
  by_cases ended : d.done = true
  · exact ⟨d, next_of_done ended, silent⟩
  · obtain ⟨after, run, silent'⟩ := decode_of_silent silent
    refine ⟨{ after with done := true }, ?_, silent'⟩
    rw [next, get_bind, if_neg ended, bind_of_ok (attempt_of_ok run)]
    rfl

/-- An iteration that gives nothing more, or an error, has ended. -/
theorem done_of_next
    (run : next d = .ok none after ∨ ∃ error, next d = .error error after) :
    after.done = true := by
  by_cases ended : d.done = true
  · rw [next_of_done ended] at run
    rcases run with run | ⟨error, run⟩
    · cases run
      exact ended
    · cases run
  · rw [next, get_bind, if_neg ended] at run
    cases one : decode d with
    | error error between =>
      rw [bind_of_ok (attempt_of_error one)] at run
      rcases run with run | ⟨error, run⟩
      · cases run
      · cases run
        rfl
    | ok answer between =>
      rw [bind_of_ok (attempt_of_ok one)] at run
      cases answer with
      | none =>
        rcases run with run | ⟨error, run⟩
        · cases run
          rfl
        · cases run
      | some v =>
        rcases run with run | ⟨error, run⟩
        · cases run
        · cases run

end DecodeM

/-! ## Ended iterations -/

/-- The same decoder, whose iteration has ended. -/
def Decoder.Ended (d d' : Decoder) : Prop :=
  d' = d ∧ d.done = true

namespace Decoder.Ended

theorem likeness : Likeness Ended where
  options_eq ended := by rw [ended.1]
  registry_eq ended := by rw [ended.1]
  extension_eq ended := by rw [ended.1]
  size_eq ended := by rw [ended.1]
  extended ended oid := ⟨by rw [ended.1], ended.2⟩
  taken op size := by
    intro d d' ended
    obtain ⟨rfl, done⟩ := ended
    unfold DecodeM.takeExact
    split
    · exact .ok _ ⟨rfl, done⟩
    · exact .error _ ⟨rfl, done⟩
  ending := by
    intro d d' ended
    obtain ⟨rfl, done⟩ := ended
    unfold DecodeM.atEnd
    split
    · exact .ok _ ⟨rfl, done⟩
    · exact .error _ ⟨rfl, done⟩

theorem decodeNested (levels : Nat) (parent oid : Oid) : Lockstep Ended Value
    (DecodeM.decodeNested levels parent oid) (DecodeM.decodeNested levels parent oid) :=
  likeness.decodeNested (fun ended => by rw [ended.1])
    (fun depth ended => ⟨by rw [ended.1], ended.2⟩) levels parent oid

/-- Whatever is asked of a decoder, an iteration that has ended stays ended. -/
theorem lockstep (call : Call) : Lockstep Ended (Option Value) call.run call.run := by
  refine call.lockstepAlong likeness decodeNested fun d d' ended => ?_
  obtain ⟨rfl, done⟩ := ended
  rw [DecodeM.next_of_done done]
  exact .ok none ⟨rfl, done⟩

end Decoder.Ended

/-! ## Calls one after another -/

/-- The calls of a client that reads values and runs no handler of its own. -/
def Call.Plain (call : Call) : Prop :=
  call = .decode ∨ call = .next

namespace Decoder

/-- Among these calls, those of this kind are all answered with nothing. -/
def FindsEnd (call : Call) (calls : List Call) (d : Decoder) : Prop :=
  ∀ answer position, (call, answer, position) ∈ calls.zip (d.transcript calls) → answer = .ok none

variable {d after : Decoder} {call first : Call} {calls : List Call}

theorem findsEnd_nil (call : Call) (d : Decoder) : FindsEnd call [] d :=
  fun _ _ member => by cases member

/-- The first answer, and the others. -/
theorem findsEnd_cons {answer : Except StreamError (Option Value)} {position : Nat}
    (run : transcript (first :: calls) d = (answer, position) :: transcript calls after) :
    FindsEnd call (first :: calls) d ↔
      (first = call → answer = .ok none) ∧ FindsEnd call calls after := by
  unfold FindsEnd
  rw [run, List.zip_cons_cons]
  constructor
  · intro all
    constructor
    · rintro rfl
      exact all _ _ (List.mem_cons_self ..)
    · exact fun answer position member => all _ _ (List.mem_cons_of_mem _ member)
  · rintro ⟨now, later⟩ answer position member
    rcases List.mem_cons.1 member with here | there
    · cases here
      exact now rfl
    · exact later _ _ there

theorem findsEnd_cons_of_ok {answer : Option Value} (run : first.run d = .ok answer after) :
    FindsEnd call (first :: calls) d ↔
      (first = call → answer = none) ∧ FindsEnd call calls after := by
  have answers : transcript (first :: calls) d =
      (.ok answer, after.position) :: transcript calls after := by rw [transcript, run]
  rw [findsEnd_cons answers, Except.ok.injEq]

theorem findsEnd_cons_of_error {error : StreamError} (run : first.run d = .error error after) :
    FindsEnd call (first :: calls) d ↔
      first ≠ call ∧ FindsEnd call calls after := by
  have answers : transcript (first :: calls) d =
      (.error error, after.position) :: transcript calls after := by rw [transcript, run]
  rw [findsEnd_cons answers]
  exact and_congr_left' ⟨fun none same => (by cases none same), fun other same => (other same).elim⟩

/-- A source that is silent gives nothing, however often it is asked. -/
theorem findsEnd_of_silent (plain : ∀ call ∈ calls, call.Plain) (silent : d.source.Silent) :
    FindsEnd .decode calls d := by
  induction calls generalizing d with
  | nil => exact findsEnd_nil _ d
  | cons call calls ih =>
    obtain ⟨here, there⟩ := List.forall_mem_cons.1 plain
    have found : ∃ after, call.run d = .ok none after ∧ after.source.Silent := by
      rcases here with rfl | rfl
      · exact DecodeM.decode_of_silent silent
      · exact DecodeM.next_of_silent silent
    obtain ⟨after, run, silent'⟩ := found
    exact (findsEnd_cons_of_ok run).2 ⟨fun _ => rfl, ih there silent'⟩

/-- If more calls than turns are left all find the end, then the source is silent: each call uses up
a turn otherwise. -/
theorem silent_of_findsEnd {count : Nat} (enough : d.source.turns < count)
    (all : FindsEnd .decode (List.replicate count .decode) d) : d.source.Silent := by
  induction count generalizing d with
  | zero => exact absurd enough (Nat.not_lt_zero _)
  | succ count ih =>
    rw [List.replicate_succ] at all
    cases run : Call.decode.run d with
    | error error after =>
      exact absurd rfl ((findsEnd_cons_of_error run).1 all).1
    | ok answer after =>
      obtain ⟨here, later⟩ := (findsEnd_cons_of_ok run).1 all
      obtain rfl : answer = none := here rfl
      obtain ⟨source, found, rfl⟩ := DecodeM.decode_eq_none_iff.1 run
      obtain ⟨progress, before⟩ := Source.after_atEnd found
      rcases progress with silent | shorter
      · exact silent
      · have left : source.turns < count :=
          Nat.lt_of_lt_of_le shorter (Nat.le_of_lt_succ enough)
        exact before (ih left later)

/-- An iteration that has ended stays ended. -/
theorem findsEnd_of_done (ended : d.done = true) (calls : List Call) :
    FindsEnd .next calls d := by
  induction calls generalizing d with
  | nil => exact findsEnd_nil _ d
  | cons call calls ih =>
    have both := Ended.lockstep call d d ⟨rfl, ended⟩
    generalize run : call.run d = result at both
    cases both with
    | error error left =>
      refine (findsEnd_cons_of_error run).2 ⟨?_, ih left.2⟩
      rintro rfl
      rw [Call.run, DecodeM.next_of_done ended] at run
      cases run
    | ok answer left =>
      refine (findsEnd_cons_of_ok run).2 ⟨?_, ih left.2⟩
      rintro rfl
      rw [Call.run, DecodeM.next_of_done ended] at run
      cases run
      rfl

/-- What stays when the end was found. Every further look for a value finds it again, in between
whatever calls for values, exactly if the source was silent. An iteration that gave nothing, or an
error, gives nothing more, whatever the source holds and whatever else is done with the decoder. -/
theorem end_stays_iff (d after : Decoder) :
    (DecodeM.decode d = .ok none after →
      ((∀ calls : List Call, (∀ call ∈ calls, call.Plain) → FindsEnd .decode calls after) ↔
        d.source.Silent)) ∧
    ((DecodeM.next d = .ok none after ∨ ∃ error, DecodeM.next d = .error error after) →
      ∀ calls : List Call, FindsEnd .next calls after) := by
  constructor
  · intro run
    constructor
    · intro all
      have silent : after.source.Silent :=
        silent_of_findsEnd (Nat.lt_succ_self _) (all _ fun call member =>
          .inl (List.eq_of_mem_replicate member))
      obtain ⟨source, found, rfl⟩ := DecodeM.decode_eq_none_iff.1 run
      exact (Source.after_atEnd found).2 silent
    · intro silent calls plain
      obtain ⟨left, run', silent'⟩ := DecodeM.decode_of_silent silent
      obtain rfl : after = left := by
        rw [run] at run'
        exact (EStateM.Result.ok.inj run').2
      exact findsEnd_of_silent plain silent'
  · exact fun ended calls => findsEnd_of_done (DecodeM.done_of_next ended) calls

/-- A reader shows the end behind the header and then a value: the end is gone at the next look, and
the iteration over the same stream stays ended. -/
theorem end_of_growing_stream :
    let header : List UInt8 := [0x00, 0x01] ++ List.replicate Header.gap 0
    let source : Source := .ofScript 8192 [.bytes header, .bytes [], .bytes [0x00, 0x30]]
    let d : Decoder := .started {} {} source header
    DecodeM.start (.fresh {} {} source) = .ok () d ∧
      (∃ after, DecodeM.decode d = .ok none after ∧
        after.transcript [.decode] = [(.ok (some (.bool true)), 34)] ∧
        ¬ ∀ calls : List Call, (∀ call ∈ calls, call.Plain) → FindsEnd .decode calls after) ∧
      ∃ after, DecodeM.next d = .ok none after ∧
        ∀ calls : List Call, FindsEnd .next calls after := by
  intro header source d
  refine ⟨rfl, ⟨_, rfl, rfl, fun all => ?_⟩, _, rfl, (end_stays_iff d _).2 (.inl rfl)⟩
  have silent : d.source.Silent := ((end_stays_iff d _).1 rfl).1 all
  have unbuffered : 8192 = 0 := silent.2
  exact absurd unbuffered (by decide)

end Decoder

end TaggedStream
