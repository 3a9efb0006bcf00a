import Mathlib.Tactic.Common
import TaggedStream.Channel.Source

/-!
Readers that deliver a byte string, and what a source in front of one gives.

A reader delivers a byte string if its turns hold just these bytes, in pieces of any size, with any
number of interruptions between them, and if none of its reads gives nothing before the last byte
has come. What a source gives then depends on the bytes that are left alone, not on the pieces, nor
on the capacity of the buffer, with one exception: a buffer that can hold nothing sees the end
everywhere.
-/

namespace TaggedStream

/-- The turns hold exactly these bytes. Empty turns come after the last byte only. -/
inductive Script.Delivers : List UInt8 → Script → Prop
  | done : Delivers [] []
  | interrupted {bytes : List UInt8} {script : Script} (rest : Delivers bytes script) :
      Delivers bytes (.interrupted :: script)
  | piece {piece bytes : List UInt8} {script : Script} (nonempty : piece ≠ [])
      (rest : Delivers bytes script) : Delivers (piece ++ bytes) (.bytes piece :: script)
  | pause {script : Script} (rest : Delivers [] script) : Delivers [] (.bytes [] :: script)

/-- The turns after a read has left some bytes of the current one. -/
def Script.resume (left : List UInt8) (rest : Script) : Script :=
  if left = [] then rest else .bytes left :: rest

theorem Script.readThrough_bytes (want : Nat) (piece : List UInt8) (rest : Script) :
    Script.readThrough want (.bytes piece :: rest) =
      (.bytes (piece.take want), Script.resume (piece.drop want) rest) := by
  rw [Script.readThrough, Script.read, Script.resume]
  · cases cut : piece.drop want with
    | nil => rw [List.take_of_length_le (List.drop_eq_nil_iff.1 cut), if_pos rfl]
    | cons byte left => rw [if_neg (List.cons_ne_nil _ _)]
  · intro _ found
    cases found

/-- A turn that holds enough ends a request. -/
theorem Source.takeThrough_of_enough {capacity want : Nat} {piece : List UInt8} (some : piece ≠ [])
    (enough : want ≤ piece.length) (before : List (List UInt8)) (rest : Script) :
    Source.takeThrough capacity before want (.bytes piece :: rest) =
      (.ok (piece.take want :: before).reverse.flatten,
        .buffered capacity ((piece.take (max want capacity)).drop want)
          (Script.resume (piece.drop (max want capacity)) rest)) := by
  have full : ¬ (piece.take (max want capacity)).length < want := by
    rw [List.length_take]
    omega
  have first : (piece.take (max want capacity)).take want = piece.take want := by
    rw [List.take_take, Nat.min_eq_left (Nat.le_max_left ..)]
  rw [Source.takeThrough, if_neg full, first, Script.resume]
  · cases cut : piece.drop (max want capacity) with
    | nil => rw [if_pos rfl]
    | cons byte left => rw [if_neg (List.cons_ne_nil _ _)]
  · exact some

/-- A turn that holds too little leaves the rest of the request to the turns behind it. -/
theorem Source.takeThrough_of_few {capacity want : Nat} {piece : List UInt8} (some : piece ≠ [])
    (few : piece.length < want) (before : List (List UInt8)) (rest : Script) :
    Source.takeThrough capacity before want (.bytes piece :: rest) =
      Source.takeThrough capacity (piece :: before) (want - piece.length) rest := by
  have whole : piece.take (max want capacity) = piece :=
    List.take_of_length_le (Nat.le_trans (Nat.le_of_lt few) (Nat.le_max_left ..))
  rw [Source.takeThrough, whole, if_pos few]
  exact some

/-- A buffer that holds too little is used up, and the reader is asked for the rest. -/
theorem Source.takeExact_of_few {want : Nat} {buffer : List UInt8} (few : buffer.length < want)
    (capacity : Nat) (script : Script) :
    Source.takeExact want (.buffered capacity buffer script) =
      Source.takeThrough capacity [buffer] (want - buffer.length) script := by
  have whole : buffer.take want = buffer := List.take_of_length_le (Nat.le_of_lt few)
  rw [Source.takeExact, List.splitAt_eq, whole]
  exact if_pos few

theorem Source.takeExact_of_enough {want : Nat} {buffer : List UInt8}
    (enough : want ≤ buffer.length) (capacity : Nat) (script : Script) :
    Source.takeExact want (.buffered capacity buffer script) =
      (.ok (buffer.take want), .buffered capacity (buffer.drop want) script) := by
  have full : ¬ (buffer.take want).length < want := by
    rw [List.length_take]
    omega
  rw [Source.takeExact, List.splitAt_eq]
  exact if_neg full

theorem Source.takeExact_slice (want : Nat) (bytes : List UInt8) :
    Source.takeExact want (.slice bytes) =
      (if bytes.length < want then .error .shortRead else .ok (bytes.take want),
        .slice (bytes.drop want)) := by
  have same : (bytes.take want).length < want ↔ bytes.length < want := by
    rw [List.length_take]
    omega
  rw [Source.takeExact, List.splitAt_eq]
  by_cases short : bytes.length < want
  · rw [if_pos short, List.drop_eq_nil_of_le (Nat.le_of_lt short)]
    exact if_pos (same.2 short)
  · rw [if_neg short]
    exact if_neg (mt same.1 short)

namespace Script.Delivers

variable {bytes : List UInt8} {script : Script}

theorem size_eq (h : Delivers bytes script) : script.size = bytes.length := by
  induction h with
  | done => rfl
  | interrupted rest ih => exact ih
  | piece nonempty rest ih => rw [size, ih, List.length_append]
  | pause rest ih => rw [size, ih, List.length_nil]

theorem resume (rest : Delivers bytes script) (left : List UInt8) :
    Delivers (left ++ bytes) (Script.resume left script) := by
  unfold Script.resume
  split
  next none => rwa [none]
  next some => exact .piece some rest

/-- A read that waits for interruptions to pass gives the next bytes, and at least one of them if it
may and some are left. -/
theorem readThrough (h : Delivers bytes script) (want : Nat) :
    ∃ piece left after, script.readThrough want = (.bytes piece, after) ∧ bytes = piece ++ left ∧
      Delivers left after ∧ piece.length ≤ want ∧ (0 < want → piece = [] → bytes = []) := by
  induction h with
  | done => exact ⟨[], [], [], rfl, rfl, .done, Nat.zero_le _, fun _ _ => rfl⟩
  | interrupted rest ih => exact ih
  | @piece piece bytes script nonempty rest ih =>
    refine ⟨_, piece.drop want ++ bytes, _, readThrough_bytes .., ?_, rest.resume _,
      List.length_take_le .., ?_⟩
    · rw [← List.append_assoc, List.take_append_drop]
    · intro some empty
      rcases List.take_eq_nil_iff.1 empty with zero | none
      · exact absurd zero (Nat.ne_of_gt some)
      · exact absurd none nonempty
  | @pause script rest ih =>
    exact ⟨_, [], _, readThrough_bytes .., by simp, by simpa using rest.resume [], by simp,
      fun _ _ => rfl⟩

/-- A request through an empty buffer gives the next bytes, or finds the end when there are too few.
What is left is in the buffer and in the turns behind it. -/
theorem takeThrough (h : Delivers bytes script) (capacity : Nat) {want : Nat} (some : 0 < want)
    (before : List (List UInt8)) :
    ∃ buffer left after,
      Source.takeThrough capacity before want script =
        (if bytes.length < want then .error .shortRead
          else .ok (before.reverse.flatten ++ bytes.take want), .buffered capacity buffer after) ∧
      Delivers left after ∧ buffer ++ left = bytes.drop want := by
  -- A piece that is too short joins those before it, and the request shrinks by its length.
  induction h generalizing want before with
  | done => exact ⟨[], [], [], by rw [List.length_nil, if_pos some]; rfl, .done, by simp⟩
  | interrupted rest ih => exact ih some before
  | @piece piece bytes script nonempty rest ih =>
    by_cases few : piece.length < want
    · obtain ⟨buffer, left, after, run, delivers, kept⟩ :=
        ih (Nat.sub_pos_of_lt few) (piece :: before)
      refine ⟨buffer, left, after, ?_, delivers, ?_⟩
      · have short : bytes.length < want - piece.length ↔ (piece ++ bytes).length < want := by
          rw [List.length_append]
          omega
        rw [Source.takeThrough_of_few nonempty few, run, List.take_append,
          List.take_of_length_le (Nat.le_of_lt few)]
        simp only [short, List.reverse_cons, List.flatten_append, List.flatten_singleton,
          List.append_assoc]
      · rw [kept, List.drop_append, List.drop_eq_nil_of_le (Nat.le_of_lt few), List.nil_append]
    · have enough := Nat.le_of_not_lt few
      refine ⟨(piece.take (max want capacity)).drop want,
        piece.drop (max want capacity) ++ bytes, _, ?_, rest.resume _, ?_⟩
      · rw [Source.takeThrough_of_enough nonempty enough, List.length_append,
          if_neg (Nat.not_lt.2 (Nat.le_add_right_of_le enough)),
          List.take_append_of_le_length enough, List.reverse_cons, List.flatten_append,
          List.flatten_singleton]
      · have inside : want ≤ (piece.take (max want capacity)).length := by
          rw [List.length_take]
          omega
        rw [← List.append_assoc, ← List.drop_append_of_le_length inside, List.take_append_drop,
          List.drop_append_of_le_length enough]
  | @pause script rest ih =>
    exact ⟨[], [], script, by rw [List.length_nil, if_pos some]; rfl, rest, by simp⟩

end Script.Delivers

/-! ## Sources -/

/-- The source has exactly these bytes left. -/
inductive Source.Holds : Source → List UInt8 → Prop
  | slice (bytes : List UInt8) : Source.Holds (.slice bytes) bytes
  | buffered {bytes : List UInt8} {script : Script} (capacity : Nat) (buffer : List UInt8)
      (rest : Script.Delivers bytes script) :
      Source.Holds (.buffered capacity buffer script) (buffer ++ bytes)

/-- The source sees whether bytes are left. -/
def Source.Sees : Source → Prop
  | .slice _ => True
  | .buffered capacity _ _ => 0 < capacity

namespace Source.Holds

variable {source : Source} {bytes : List UInt8}

theorem size_eq (h : source.Holds bytes) : source.size = bytes.length := by
  cases h with
  | slice => rfl
  | buffered capacity buffer rest => rw [Source.size, rest.size_eq, List.length_append]

/-- A request takes the next bytes, or all of them when they are too few. -/
theorem takeExact (h : source.Holds bytes) (want : Nat) :
    ∃ after : Source, source.takeExact want =
        (if bytes.length < want then .error .shortRead else .ok (bytes.take want), after) ∧
      after.Holds (bytes.drop want) ∧ (source.Sees → after.Sees) := by
  cases h with
  | slice bytes => exact ⟨_, Source.takeExact_slice want bytes, .slice _, id⟩
  | @buffered bytes script capacity buffer rest =>
    by_cases few : buffer.length < want
    · obtain ⟨buffer', left, after, run, delivers, kept⟩ :=
        rest.takeThrough capacity (Nat.sub_pos_of_lt few) [buffer]
      refine ⟨.buffered capacity buffer' after, ?_, ?_, id⟩
      · have short : bytes.length < want - buffer.length ↔ (buffer ++ bytes).length < want := by
          rw [List.length_append]
          omega
        rw [Source.takeExact_of_few few, run, List.take_append,
          List.take_of_length_le (Nat.le_of_lt few)]
        simp only [short, List.reverse_singleton, List.flatten_singleton]
      · rw [List.drop_append, List.drop_eq_nil_of_le (Nat.le_of_lt few), List.nil_append, ← kept]
        exact .buffered capacity buffer' delivers
    · have enough := Nat.le_of_not_lt few
      refine ⟨.buffered capacity (buffer.drop want) script, ?_, ?_, id⟩
      · rw [Source.takeExact_of_enough enough, List.length_append,
          if_neg (Nat.not_lt.2 (Nat.le_add_right_of_le enough)),
          List.take_append_of_le_length enough]
      · rw [List.drop_append_of_le_length enough]
        exact .buffered capacity _ rest

theorem takeExact_snd (h : source.Holds bytes) (want : Nat) :
    (source.takeExact want).2.Holds (bytes.drop want) := by
  obtain ⟨after, run, holds, -⟩ := h.takeExact want
  rw [run]
  exact holds

theorem sees_takeExact (h : source.Holds bytes) (want : Nat) (sees : source.Sees) :
    (source.takeExact want).2.Sees := by
  obtain ⟨after, run, -, kept⟩ := h.takeExact want
  rw [run]
  exact kept sees

/-- A source that sees, or has nothing left to see, tells whether it is at its end. -/
theorem atEnd (h : source.Holds bytes) (sees : source.Sees ∨ bytes = []) :
    ∃ after : Source, source.atEnd = (.ok bytes.isEmpty, after) ∧ after.Holds bytes ∧
      (source.Sees → after.Sees) := by
  cases h with
  | slice bytes => exact ⟨_, rfl, .slice bytes, id⟩
  | @buffered bytes script capacity buffer rest =>
    cases buffer with
    | cons byte buffer => exact ⟨_, rfl, .buffered capacity (byte :: buffer) rest, id⟩
    | nil =>
      obtain ⟨piece, left, after, run, rfl, delivers, -, found⟩ := rest.readThrough capacity
      refine ⟨.buffered capacity piece after, ?_, .buffered capacity piece delivers, id⟩
      have same : piece.isEmpty = (piece ++ left).isEmpty := by
        cases piece with
        | cons byte piece => rfl
        | nil =>
          have none : left = [] := by
            rcases sees with sees | none
            · exact found sees rfl
            · exact none
          rw [none]
          rfl
      rw [Source.atEnd, run]
      exact congrArg (fun ended => (Except.ok ended, _)) same

end Source.Holds

/-! ## Buffers that can hold nothing -/

/-- The source is behind a buffer that can hold nothing. -/
def Source.Blind (source : Source) : Prop := ∃ script, source = .buffered 0 [] script

theorem Source.blind_takeThrough (before : List (List UInt8)) (want : Nat) (script : Script) :
    (Source.takeThrough 0 before want script).2.Blind := by
  induction script generalizing before want with
  | nil => exact ⟨[], rfl⟩
  | cons turn rest ih =>
    cases turn with
    | interrupted => exact ih before want
    | failure text => exact ⟨rest, rfl⟩
    | bytes piece =>
      by_cases none : piece = []
      · subst none
        exact ⟨rest, rfl⟩
      · by_cases few : piece.length < want
        · rw [takeThrough_of_few none few]
          exact ih _ _
        · have nothing : (piece.take (max want 0)).drop want = [] :=
            List.drop_eq_nil_of_le (by rw [Nat.max_zero]; exact List.length_take_le ..)
          rw [takeThrough_of_enough none (Nat.le_of_not_lt few), nothing]
          exact ⟨_, rfl⟩

/-- Nothing is left in the buffer. -/
theorem Source.Blind.takeExact {source : Source} (h : source.Blind) (want : Nat) :
    (source.takeExact want).2.Blind := by
  obtain ⟨script, rfl⟩ := h
  cases want with
  | zero => exact ⟨script, rfl⟩
  | succ want =>
    rw [takeExact_of_few (Nat.succ_pos want)]
    exact blind_takeThrough ..

/-- The end is seen, wherever it is. -/
theorem Source.Blind.atEnd {source : Source} {bytes : List UInt8} (h : source.Blind)
    (holds : source.Holds bytes) : ∃ after : Source, source.atEnd = (.ok true, after) := by
  obtain ⟨script, rfl⟩ := h
  cases holds with
  | buffered _ _ rest =>
    obtain ⟨piece, left, after, run, -, -, short, -⟩ := rest.readThrough 0
    have none : piece = [] := List.eq_nil_of_length_eq_zero (Nat.le_zero.1 short)
    rw [Source.atEnd, run, none]
    exact ⟨_, rfl⟩

end TaggedStream
