import TaggedStream.Proofs.Acceptance
import TaggedStream.Proofs.Deposits

/-!
Byte streams do not depend on how the reader cuts its bytes.

What counts of a reader is its stretch: the bytes that it gives up to the first read that gives
nothing, or that fails. Interruptions are passed over, and the pieces in which the bytes come leave
no trace: the stretch is cut anew, into chunks of the size that the settings say.
-/

namespace TaggedStream

/-! ## Readers -/

namespace Script

/-- What a reader gives up to the first read that gives nothing or fails. -/
structure Stretch where
  content : List UInt8
  /-- The text of the failure, unless the reader ended with a read of nothing. -/
  failure : Option String
  /-- The turns behind the read that ended the stretch. -/
  rest : Script

/-- The stretch that a reader begins with. -/
def stretch : Script → Stretch
  | [] => ⟨[], none, []⟩
  | .interrupted :: rest => stretch rest
  | .failure text :: rest => ⟨[], some text, rest⟩
  | .bytes [] :: rest => ⟨[], none, rest⟩
  | .bytes piece :: rest =>
    ⟨piece ++ (stretch rest).content, (stretch rest).failure, (stretch rest).rest⟩

example : stretch [.bytes [1], .interrupted, .bytes [2, 3], .bytes [], .bytes [4]] =
    ⟨[1, 2, 3], none, [.bytes [4]]⟩ := rfl

theorem stretch_piece {piece : List UInt8} (some : piece ≠ []) (rest : Script) :
    stretch (.bytes piece :: rest) =
      ⟨piece ++ (stretch rest).content, (stretch rest).failure, (stretch rest).rest⟩ := by
  rw [stretch]
  exact some

/-- A stretch holds no more than the script. -/
theorem length_stretch_le (script : Script) : script.stretch.content.length ≤ script.size := by
  induction script with
  | nil => exact Nat.le_refl _
  | cons turn rest ih =>
    cases turn with
    | interrupted => exact ih
    | failure text => exact Nat.zero_le _
    | bytes piece =>
      by_cases empty : piece = []
      · subst empty
        exact Nat.zero_le _
      · rw [stretch_piece empty, List.length_append, size]
        exact Nat.add_le_add_left ih _

theorem fillAfter_zero (before : List (List UInt8)) (script : Script) :
    script.fillAfter before 0 = (.bytes before.reverse.flatten, script) := by
  cases script with
  | nil => rw [fillAfter]
  | cons turn rest =>
    unfold fillAfter
    exact if_pos rfl

/-- A turn with bytes fills the buffer and leaves the others, or leaves the buffer to the turns
behind it. -/
theorem fillAfter_piece (before : List (List UInt8)) {want : Nat} (some : 0 < want)
    {piece : List UInt8} (nonempty : piece ≠ []) (rest : Script) :
    fillAfter before want (.bytes piece :: rest) =
      if piece.length ≤ want then fillAfter (piece :: before) (want - piece.length) rest
      else (.bytes (before.reverse.flatten ++ piece.take want),
        .bytes (piece.drop want) :: rest) := by
  obtain ⟨byte, others, rfl⟩ := List.exists_cons_of_ne_nil nonempty
  conv_lhs => unfold fillAfter
  rw [if_neg (Nat.ne_of_gt some)]
  dsimp only
  by_cases short : (byte :: others).length ≤ want
  · rw [if_pos short, List.drop_eq_nil_iff.2 short]
  · have left : (byte :: others).drop want ≠ [] := fun none => short (List.drop_eq_nil_iff.1 none)
    obtain ⟨next, behind, cut⟩ := List.exists_cons_of_ne_nil left
    rw [if_neg short, cut]
    simp

/-- A buffer that the stretch can fill is filled with its first bytes, and leaves the others. -/
theorem fillAfter_of_enough (before : List (List UInt8)) {want : Nat} {script : Script}
    (enough : want ≤ script.stretch.content.length) :
    ∃ left, script.fillAfter before want =
        (.bytes (before.reverse.flatten ++ script.stretch.content.take want), left) ∧
      left.stretch =
        ⟨script.stretch.content.drop want, script.stretch.failure, script.stretch.rest⟩ := by
  induction script generalizing before want with
  | nil =>
    obtain rfl := Nat.le_zero.1 enough
    exact ⟨[], by simp [fillAfter, stretch], rfl⟩
  | cons turn rest ih =>
    rcases Nat.eq_zero_or_pos want with rfl | pos
    · exact ⟨turn :: rest, by simp [fillAfter_zero], by simp⟩
    cases turn with
    | interrupted =>
      obtain ⟨left, filled, same⟩ := ih before enough
      refine ⟨left, ?_, same⟩
      unfold fillAfter
      rw [if_neg (Nat.ne_of_gt pos)]
      exact filled
    | failure text => exact absurd enough (Nat.not_le.2 pos)
    | bytes piece =>
      by_cases empty : piece = []
      · subst empty
        exact absurd enough (Nat.not_le.2 pos)
      rw [stretch_piece empty] at enough ⊢
      rw [List.length_append] at enough
      rw [fillAfter_piece before pos empty]
      split
      case isTrue short =>
        have enough' : want - piece.length ≤ (stretch rest).content.length := by omega
        obtain ⟨left, filled, same⟩ := ih (piece :: before) enough'
        refine ⟨left, ?_, ?_⟩
        · rw [filled, List.take_append, List.take_of_length_le short]
          simp
        · rw [same, List.drop_append, List.drop_eq_nil_iff.2 short]
          simp
      case isFalse long =>
        have fits : want ≤ piece.length := by omega
        have left : piece.drop want ≠ [] := fun none => long (List.drop_eq_nil_iff.1 none)
        refine ⟨.bytes (piece.drop want) :: rest, ?_, ?_⟩
        · rw [List.take_append_of_le_length fits]
        · rw [stretch_piece left, List.drop_append_of_le_length fits]

/-- A buffer that the stretch cannot fill takes all of it. -/
theorem fillAfter_of_few (before : List (List UInt8)) {want : Nat} {script : Script}
    (few : script.stretch.content.length < want) :
    script.fillAfter before want =
      (match script.stretch.failure with
        | none => .bytes (before.reverse.flatten ++ script.stretch.content)
        | some text => .failure text (want - script.stretch.content.length),
      script.stretch.rest) := by
  induction script generalizing before want with
  | nil => simp [fillAfter, stretch]
  | cons turn rest ih =>
    have pos : want ≠ 0 := by omega
    cases turn with
    | interrupted =>
      unfold fillAfter
      rw [if_neg pos]
      exact ih before few
    | failure text =>
      unfold fillAfter
      exact if_neg pos
    | bytes piece =>
      by_cases empty : piece = []
      · subst empty
        unfold fillAfter
        rw [if_neg pos]
        simp [stretch]
      rw [stretch_piece empty] at few ⊢
      rw [List.length_append] at few
      have few' : (stretch rest).content.length < want - piece.length := by omega
      rw [fillAfter_piece before (Nat.pos_of_ne_zero pos) empty, if_pos (by omega),
        ih (piece :: before) few']
      cases (stretch rest).failure with
      | none => simp
      | some text => simp [Nat.sub_sub]

end Script

/-! ## Steps that put bytes -/

/-- The error of a read from a byte stream. -/
def Halt.ofRead (missing : Nat) (cause : IoCause) : Halt :=
  .refused (.io "read byte stream" missing cause)

/-- The step puts exactly these bytes, unless a sink is not willing, and it does not fail in the name
of a read. -/
structure Puts (m : EncodeM Unit) (bytes : List UInt8) : Prop where
  deposits : Deposits m bytes
  writes : ∀ setting, Writes setting m bytes
  noRead : ∀ {e after : Encoder} {halt : Halt}, m e = .error halt after →
    ∀ missing cause, halt ≠ .ofRead missing cause

namespace Puts

variable {m m' : EncodeM Unit} {front back : List UInt8}

theorem bind (h : Puts m front) (h' : Puts m' back) : Puts (do m; m') (front ++ back) where
  deposits := h.deposits.bind h'.deposits
  writes setting := (h.writes setting).bind (h'.writes setting)
  noRead {e after halt} run := by
    cases first : m e with
    | ok u between =>
      rw [EncodeM.bind_of_ok first] at run
      exact h'.noRead run
    | error halt' between =>
      rw [EncodeM.bind_of_error first] at run
      cases run
      exact h.noRead first

theorem put {op : String} (isWrite : op ≠ "read byte stream") (slice : List UInt8) :
    Puts (EncodeM.put op slice) slice where
  deposits := .put op slice
  writes _ := .put op slice
  noRead {e after halt} run := by
    rw [EncodeM.put] at run
    split at run <;> cases run
    intro missing cause found
    cases found
    exact isWrite rfl

theorem writeLength (oid : Oid) {n : Nat} (fits : n ≤ Form.maxLength) :
    Puts (Wire.writeLength oid n) (BigEndian.encode 4 n) := by
  rw [EncodeM.writeLength_of_fits oid fits]
  exact put (by decide) _

theorem writeBytes (oid : Oid) {content : List UInt8} (fits : content.length ≤ Form.maxLength) :
    Puts (Wire.writeBytes oid content) (BigEndian.encode 4 content.length ++ content) :=
  (writeLength oid fits).bind (put (by decide) content)

theorem tagged (tag : Tag) : Puts (EncodeM.tagged tag) tag.spelled := put (by decide) _

theorem writeTerminator : Puts EncodeM.writeTerminator (BigEndian.encode 4 0) :=
  put (by decide) _

/-- A step that puts bytes does so, or stops at a sink that is not willing. -/
theorem outcome (h : Puts m front) (e : Encoder) :
    (∃ after, m e = .ok () after ∧ e.Deposited front after ∧
        (e.output.Willing → after.output.Willing)) ∨
      ∃ halt after, m e = .error halt after ∧ (∀ missing cause, halt ≠ .ofRead missing cause) ∧
        ¬ e.output.Willing := by
  cases run : m e with
  | ok u after =>
    refine .inl ⟨after, rfl, h.deposits e after run, fun willing => ?_⟩
    obtain ⟨after', run', grown⟩ := h.writes e.setting e rfl willing
    cases run.symm.trans run'
    exact grown.willing
  | error halt after =>
    refine .inr ⟨halt, after, rfl, h.noRead run, fun willing => ?_⟩
    obtain ⟨after', run', -⟩ := h.writes e.setting e rfl willing
    cases run.symm.trans run'

end Puts

/-! ## Encoders over a reader -/

namespace Encoder

/-- The script of a reader. A number without a cell stands for a reader that gives nothing. -/
def reader (cell : Nat) (e : Encoder) : Script := e.store.readers[cell]?.getD []

/-- The encoder with another script in a cell, if it has this cell. -/
def withReader (cell : Nat) (script : Script) (e : Encoder) : Encoder :=
  { e with store := { e.store with readers := e.store.readers.setIfInBounds cell script } }

variable {cell : Nat} {left rest : Script} {e between after : Encoder} {bytes : List UInt8}

theorem withReader_withReader :
    (e.withReader cell left).withReader cell rest = e.withReader cell rest := by
  simp [withReader]

theorem reader_withReader (some : e.reader cell ≠ []) :
    (e.withReader cell left).reader cell = left := by
  have inBounds : cell < e.store.readers.size := by
    by_contra outside
    exact some (by simp [reader, Array.getElem?_eq_none (Nat.le_of_not_lt outside)])
  simp [reader, withReader, inBounds]

theorem withReader_of_missing (missing : e.store.readers[cell]? = none) :
    e.withReader cell rest = e := by
  have outside : e.store.readers.size ≤ cell := by simpa using missing
  simp [withReader, Array.setIfInBounds_eq_of_size_le outside]

/-- Bytes are put beside a reader. -/
theorem Deposited.withReader (h : e.Deposited bytes after) (cell : Nat) (rest : Script) :
    (e.withReader cell rest).Deposited bytes (after.withReader cell rest) := by
  refine ⟨?_, h.written⟩
  conv_lhs => rw [h.frame]
  rfl

theorem Deposited.reader_eq (h : e.Deposited bytes after) : after.reader cell = e.reader cell := by
  rw [h.frame]
  rfl

end Encoder

namespace EncodeM

variable {size cell fuel copied : Nat} {e : Encoder}

theorem onStore_fill (cell want : Nat) (e : Encoder) :
    onStore (Store.fill cell want) e =
      .ok ((e.reader cell).fill want).1 (e.withReader cell ((e.reader cell).fill want).2) := by
  cases found : e.store.readers[cell]? with
  | none =>
    have gone : e.reader cell = [] := by
      rw [Encoder.reader, found]
      rfl
    have same : e.store.fill cell want = (.bytes [], e.store) := by rw [Store.fill, found]
    rw [onStore, same, gone, Encoder.withReader_of_missing found]
    rfl
  | some script =>
    have here : e.reader cell = script := by
      rw [Encoder.reader, found]
      rfl
    rw [onStore, Store.fill, found, here]
    rfl

/-- Filling a buffer from a reader changes the reader and nothing else. -/
theorem fill_eq (cell want : Nat) (e : Encoder) :
    fill cell want e =
      match ((e.reader cell).fill want).1 with
      | .bytes content => .ok content (e.withReader cell ((e.reader cell).fill want).2)
      | .failure text missing =>
        .error (.ofRead missing { text }) (e.withReader cell ((e.reader cell).fill want).2) := by
  rw [fill, bind_of_ok (onStore_fill cell want e)]
  cases ((e.reader cell).fill want).1 <;> rfl

/-- A full chunk is taken off the reader. -/
theorem fill_of_enough (enough : size ≤ (e.reader cell).stretch.content.length) :
    ∃ left, fill cell size e =
        .ok ((e.reader cell).stretch.content.take size) (e.withReader cell left) ∧
      left.stretch = ⟨(e.reader cell).stretch.content.drop size, (e.reader cell).stretch.failure,
        (e.reader cell).stretch.rest⟩ := by
  obtain ⟨left, filled, same⟩ := Script.fillAfter_of_enough [] enough
  refine ⟨left, ?_, same⟩
  rw [fill_eq, Script.fill, filled]
  rfl

/-- What is left of the stretch is taken off the reader, or the failure behind it is met. -/
theorem fill_of_few (few : (e.reader cell).stretch.content.length < size) :
    fill cell size e =
      match (e.reader cell).stretch.failure with
      | none => .ok (e.reader cell).stretch.content
          (e.withReader cell (e.reader cell).stretch.rest)
      | some text => .error (.ofRead (size - (e.reader cell).stretch.content.length) { text })
          (e.withReader cell (e.reader cell).stretch.rest) := by
  rw [fill_eq, Script.fill, Script.fillAfter_of_few [] few]
  cases (e.reader cell).stretch.failure <;> rfl

theorem copyBytes_of_filled {content : List UInt8} {filled : Encoder}
    (run : fill cell size e = .ok content filled) (some : content ≠ []) :
    copyBytes size cell (fuel + 1) copied e =
      (do
        Wire.writeBytes Tag.byteStream.code content
        if content.length < size then return copied + content.length
        else copyBytes size cell fuel (copied + content.length) : EncodeM Nat) filled := by
  rw [copyBytes, bind_of_ok run]
  cases content with
  | nil => exact absurd rfl some
  | cons => rfl

end EncodeM

/-! ## Copying -/

/-- Chunks, each behind its count. -/
def framed (pieces : List (List UInt8)) : List UInt8 :=
  (pieces.map fun piece => BigEndian.encode 4 piece.length ++ piece).flatten

theorem framed_cons (piece : List UInt8) (pieces : List (List UInt8)) :
    framed (piece :: pieces) = BigEndian.encode 4 piece.length ++ piece ++ framed pieces :=
  rfl

/-- What copying from a reader comes to: all of the stretch, or its full chunks up to a failure, is
put in chunks behind `front` and in front of `back`; or a sink is not willing. -/
inductive Copied (size cell copied : Nat) (front back : List UInt8) (e : Encoder) :
    EStateM.Result Halt Encoder Nat → Prop
  | whole {after : Encoder} (ended : (e.reader cell).stretch.failure = none)
      (put : (e.withReader cell (e.reader cell).stretch.rest).Deposited
        (front ++ (framed (chunks size (e.reader cell).stretch.content) ++ back)) after)
      (willing : e.output.Willing → after.output.Willing) :
      Copied size cell copied front back e
        (.ok (copied + (e.reader cell).stretch.content.length) after)
  | failed {text : String} {part : List UInt8} {after : Encoder} (pieces : List (List UInt8))
      (failed : (e.reader cell).stretch.failure = some text)
      (full : ∀ piece ∈ pieces, piece.length = size) (short : part.length < size)
      (cut : (e.reader cell).stretch.content = pieces.flatten ++ part)
      (put : (e.withReader cell (e.reader cell).stretch.rest).Deposited
        (front ++ framed pieces) after) :
      Copied size cell copied front back e (.error (.ofRead (size - part.length) { text }) after)
  | stopped {halt : Halt} {after : Encoder} (other : ∀ missing cause, halt ≠ .ofRead missing cause)
      (unwilling : ¬ e.output.Willing) : Copied size cell copied front back e (.error halt after)

namespace Copied

variable {size cell copied : Nat} {front back : List UInt8} {e between : Encoder}
  {result : EStateM.Result Halt Encoder Nat}

/-- Behind a full chunk that was taken off the reader, the reader gives the rest of the stretch. -/
theorem reader_behind_chunk {left : Script} {bytes : List UInt8} (pos : 0 < size)
    (enough : size ≤ (e.reader cell).stretch.content.length)
    (same : left.stretch = ⟨(e.reader cell).stretch.content.drop size,
      (e.reader cell).stretch.failure, (e.reader cell).stretch.rest⟩)
    (put : (e.withReader cell left).Deposited bytes between) :
    (between.reader cell).stretch = ⟨(e.reader cell).stretch.content.drop size,
      (e.reader cell).stretch.failure, (e.reader cell).stretch.rest⟩ := by
  have nonempty : e.reader cell ≠ [] := by
    intro none
    rw [none] at enough
    exact absurd enough (Nat.not_le.2 pos)
  rw [put.reader_eq, Encoder.reader_withReader nonempty, same]

/-- Behind a full chunk that was taken off the reader and put, the rest of the stretch is copied. -/
theorem behind_chunk {left : Script} (pos : 0 < size)
    (enough : size ≤ (e.reader cell).stretch.content.length)
    (same : left.stretch = ⟨(e.reader cell).stretch.content.drop size,
      (e.reader cell).stretch.failure, (e.reader cell).stretch.rest⟩)
    (put : (e.withReader cell left).Deposited
      (BigEndian.encode 4 size ++ (e.reader cell).stretch.content.take size) between)
    (willing : e.output.Willing → between.output.Willing)
    (h : Copied size cell (copied + size) [] back between result) :
    Copied size cell copied [] back e result := by
  have turned := reader_behind_chunk pos enough same put
  have first : (e.withReader cell (e.reader cell).stretch.rest).Deposited
      (BigEndian.encode 4 size ++ (e.reader cell).stretch.content.take size)
      (between.withReader cell (e.reader cell).stretch.rest) := by
    have beside := put.withReader cell (e.reader cell).stretch.rest
    rwa [Encoder.withReader_withReader] at beside
  have taken : ((e.reader cell).stretch.content.take size).length = size := by
    rw [List.length_take, Nat.min_eq_left enough]
  cases h with
  | @whole after ended rest still =>
    rw [turned] at ended rest ⊢
    have all := first.trans rest
    have total : copied + size + ((e.reader cell).stretch.content.drop size).length =
        copied + (e.reader cell).stretch.content.length := by
      rw [List.length_drop]
      omega
    rw [total]
    refine .whole ended ?_ (still ∘ willing)
    rw [chunks_of_enough pos enough, framed_cons, taken]
    simpa using all
  | @failed text part after pieces failed full short cut rest =>
    rw [turned] at failed cut rest
    refine .failed ((e.reader cell).stretch.content.take size :: pieces) failed
      (List.forall_mem_cons.2 ⟨taken, full⟩) short ?_ ?_
    · rw [List.flatten_cons, List.append_assoc, ← cut, List.take_append_drop]
    · rw [framed_cons, taken]
      exact first.trans rest
  | stopped other unwilling => exact .stopped other fun ok => unwilling (willing ok)

end Copied

/-- With less than a full chunk left, one more turn comes to the end of the stretch. -/
theorem copied_copyBytes_of_few {size cell : Nat} {e : Encoder} (fits : size ≤ Form.maxLength)
    (few : (e.reader cell).stretch.content.length < size) (fuel copied : Nat) :
    Copied size cell copied [] [] e (EncodeM.copyBytes size cell (fuel + 1) copied e) := by
  have filled := EncodeM.fill_of_few few
  cases failure : (e.reader cell).stretch.failure with
  | some text =>
    rw [failure] at filled
    rw [EncodeM.copyBytes, EncodeM.bind_of_error filled]
    exact .failed [] failure (by simp) few rfl (.refl _)
  | none =>
    rw [failure] at filled
    by_cases empty : (e.reader cell).stretch.content = []
    · rw [EncodeM.copyBytes, EncodeM.bind_of_ok filled, empty]
      have nothing : Copied size cell copied [] [] e
          (.ok (copied + (e.reader cell).stretch.content.length)
            (e.withReader cell (e.reader cell).stretch.rest)) :=
        .whole failure (by rw [empty]; exact .refl _) id
      rwa [empty] at nothing
    · rw [EncodeM.copyBytes_of_filled filled empty]
      have small : (e.reader cell).stretch.content.length ≤ Form.maxLength := by omega
      rcases (Puts.writeBytes _ small).outcome _ with
        ⟨after, run, put, willing⟩ | ⟨halt, after, run, other, unwilling⟩
      · rw [EncodeM.bind_of_ok run, if_pos few]
        refine .whole failure ?_ willing
        rw [chunks_of_few few empty]
        simpa [framed] using put
      · rw [EncodeM.bind_of_error run]
        exact .stopped other unwilling

theorem copied_copyBytes {size cell : Nat} (pos : 0 < size) (fits : size ≤ Form.maxLength)
    (fuel copied : Nat) (e : Encoder) (enough : (e.reader cell).stretch.content.length < fuel) :
    Copied size cell copied [] [] e (EncodeM.copyBytes size cell fuel copied e) := by
  induction fuel generalizing copied e with
  | zero => exact absurd enough (Nat.not_lt_zero _)
  | succ fuel ih =>
    rcases Nat.lt_or_ge (e.reader cell).stretch.content.length size with few | many
    · exact copied_copyBytes_of_few fits few fuel copied
    · obtain ⟨left, filled, same⟩ := EncodeM.fill_of_enough many
      have taken : ((e.reader cell).stretch.content.take size).length = size := by
        rw [List.length_take, Nat.min_eq_left many]
      have some : (e.reader cell).stretch.content.take size ≠ [] :=
        List.ne_nil_of_length_pos (by omega)
      rw [EncodeM.copyBytes_of_filled filled some]
      have chunk := Puts.writeBytes Tag.byteStream.code (taken.trans_le fits)
      rcases chunk.outcome (e.withReader cell left) with
        ⟨after, run, put, willing⟩ | ⟨halt, after, run, other, unwilling⟩
      · rw [EncodeM.bind_of_ok run, if_neg (by omega)]
        rw [taken] at put ⊢
        apply Copied.behind_chunk pos many same put willing
        apply ih
        rw [Copied.reader_behind_chunk pos many same put, List.length_drop]
        omega
      · rw [EncodeM.bind_of_error run]
        exact .stopped other unwilling

namespace EncodeM

theorem bytesLeft_eq (cell : Nat) (e : Encoder) :
    e.store.bytesLeft cell = (e.reader cell).size := by
  rw [Store.bytesLeft, Encoder.reader]
  cases e.store.readers[cell]? <;> rfl

/-- Behind the identifier, the reader is copied as often as it holds bytes, and once more. -/
theorem encodeByteStream_of_tagged {cell : Nat} {e started : Encoder}
    (run : tagged .byteStream e = .ok () started) :
    encodeByteStream cell e =
      (do
        let copied ← copyBytes started.options.byteChunkSize cell
          ((started.reader cell).size + 1) 0
        writeTerminator
        return copied : EncodeM Nat) started := by
  rw [encodeByteStream, writeByteStream, bind_of_ok run, settings_bind, get_bind, bytesLeft_eq]

end EncodeM

/-- A byte stream is its identifier, the chunks of the stretch and a zero. -/
theorem copied_encodeByteStream (cell : Nat) (e : Encoder)
    (fits : e.options.byteChunkSize ≤ Form.maxLength) :
    Copied e.options.byteChunkSize cell 0 Tag.byteStream.spelled (BigEndian.encode 4 0) e
      (EncodeM.encodeByteStream cell e) := by
  rcases (Puts.tagged .byteStream).outcome e with
    ⟨started, run, put, willing⟩ | ⟨halt, after, run, other, unwilling⟩
  case inr =>
    rw [EncodeM.encodeByteStream, EncodeM.writeByteStream, EncodeM.bind_of_error run]
    exact .stopped other unwilling
  have options : started.options = e.options := by rw [put.frame]
  have reader : started.reader cell = e.reader cell := put.reader_eq
  have first := put.withReader cell (e.reader cell).stretch.rest
  rw [EncodeM.encodeByteStream_of_tagged run, options]
  have copying := copied_copyBytes e.options.byteChunkSize_pos fits
    ((started.reader cell).size + 1) 0 started (Nat.lt_succ_of_le (Script.length_stretch_le _))
  generalize EncodeM.copyBytes e.options.byteChunkSize cell ((started.reader cell).size + 1) 0 =
    copyBytes at copying
  generalize ran : copyBytes started = outcome at copying
  cases copying with
  | @whole after ended chunks still =>
    rw [reader] at ended chunks ran
    rw [EncodeM.bind_of_ok ran]
    rcases Puts.writeTerminator.outcome after with
      ⟨last, run', zero, still'⟩ | ⟨halt, last, run', other, unwilling⟩
    · rw [EncodeM.bind_of_ok run']
      refine .whole ended ?_ (still' ∘ still ∘ willing)
      have all := first.trans (chunks.trans zero)
      simpa using all
    · rw [EncodeM.bind_of_error run']
      exact .stopped other fun ok => unwilling (still (willing ok))
  | @failed text part after pieces failed full short cut chunks =>
    rw [reader] at failed cut chunks
    rw [EncodeM.bind_of_error ran]
    exact .failed pieces failed full short cut (first.trans chunks)
  | stopped other unwilling =>
    rw [EncodeM.bind_of_error ran]
    exact .stopped other fun ok => unwilling (willing ok)

/-! ## Byte streams -/

/-- Chunks that are not empty and a zero are read as what they hold together. -/
theorem chunked_framed {pieces : List (List UInt8)}
    (bounds : ∀ piece ∈ pieces, piece ≠ [] ∧ piece.length ≤ Form.maxLength) :
    Form.chunked Form.raw (framed pieces ++ BigEndian.encode 4 0) pieces.flatten := by
  induction pieces with
  | nil => exact .done ⟨Nat.zero_le _, rfl⟩
  | cons piece rest ih =>
    obtain ⟨ne_nil, fits⟩ := bounds piece (List.mem_cons_self ..)
    have tail := ih fun piece mem => bounds piece (List.mem_cons_of_mem _ mem)
    rw [framed_cons, List.flatten_cons, List.append_assoc, List.append_assoc]
    exact .chunk ⟨fits, rfl⟩ ne_nil rfl tail

/-- Full pieces, and fewer items than another one needs, are cut apart again. -/
theorem chunks_flatten_append {α : Type} {size : Nat} (pos : 0 < size) {pieces : List (List α)}
    (full : ∀ piece ∈ pieces, piece.length = size) (part : List α) :
    chunks size (pieces.flatten ++ part) = pieces ++ chunks size part := by
  induction pieces with
  | nil => rfl
  | cons piece rest ih =>
    have first : piece.length = size := full piece (List.mem_cons_self ..)
    have others := ih fun piece mem => full piece (List.mem_cons_of_mem _ mem)
    rw [List.flatten_cons, List.append_assoc, chunks_of_enough pos (by simp [first]),
      List.take_left' first, List.drop_left' first, others]
    rfl

theorem length_flatten_of_full {α : Type} {size : Nat} {pieces : List (List α)}
    (full : ∀ piece ∈ pieces, piece.length = size) :
    pieces.flatten.length = size * pieces.length := by
  rw [List.length_flatten, List.map_congr_left full, List.map_const', List.sum_replicate,
    Nat.mul_comm]
  rfl

/-- The full pieces of a list are its first chunks. -/
theorem take_chunks_of_full {α : Type} {size : Nat} {pieces : List (List α)} {part : List α}
    (full : ∀ piece ∈ pieces, piece.length = size) (short : part.length < size) :
    (chunks size (pieces.flatten ++ part)).take ((pieces.flatten ++ part).length / size) = pieces ∧
      (pieces.flatten ++ part).length % size = part.length := by
  have pos : 0 < size := Nat.zero_lt_of_lt short
  have length : (pieces.flatten ++ part).length = size * pieces.length + part.length := by
    rw [List.length_append, length_flatten_of_full full]
  have quotient : (pieces.flatten ++ part).length / size = pieces.length := by
    rw [length, Nat.mul_add_div pos, Nat.div_eq_of_lt short, Nat.add_zero]
  constructor
  · rw [quotient, chunks_flatten_append pos full part, List.take_left]
  · rw [length, Nat.mul_add_mod, Nat.mod_eq_of_lt short]

namespace Copied

variable {size cell copied : Nat} {front back : List UInt8} {e after : Encoder}

theorem of_ok {count : Nat} (h : Copied size cell copied front back e (.ok count after)) :
    (e.reader cell).stretch.failure = none ∧
      count = copied + (e.reader cell).stretch.content.length ∧
      (e.withReader cell (e.reader cell).stretch.rest).Deposited
        (front ++ (framed (chunks size (e.reader cell).stretch.content) ++ back)) after := by
  cases h with
  | whole ended put => exact ⟨ended, rfl, put⟩

/-- A read that failed lacks what the chunk that was begun has not got yet. -/
theorem of_ofRead {missing : Nat} {cause : IoCause}
    (h : Copied size cell copied front back e (.error (.ofRead missing cause) after)) :
    (∃ text, (e.reader cell).stretch.failure = some text ∧ cause = { text }) ∧
      missing = size - (e.reader cell).stretch.content.length % size ∧
      (e.withReader cell (e.reader cell).stretch.rest).Deposited
        (front ++ framed ((chunks size (e.reader cell).stretch.content).take
          ((e.reader cell).stretch.content.length / size))) after := by
  generalize ended : EStateM.Result.error (Halt.ofRead missing cause) after = result at h
  cases h with
  | whole => cases ended
  | @failed text part _ pieces failed full short cut put =>
    cases ended
    obtain ⟨whole, rest⟩ := take_chunks_of_full full short
    rw [cut, whole, rest]
    exact ⟨⟨text, failed, rfl⟩, rfl, put⟩
  | stopped other =>
    cases ended
    exact absurd rfl (other missing cause)

/-- Over a sink that is willing, it is the reader that decides whether copying succeeds. -/
theorem of_willing {result : EStateM.Result Halt Encoder Nat}
    (h : Copied size cell copied front back e result) (willing : e.output.Willing) :
    ((e.reader cell).stretch.failure = none → ∃ count after, result = .ok count after) ∧
      ∀ text, (e.reader cell).stretch.failure = some text →
        ∃ missing after, result = .error (.ofRead missing { text }) after := by
  cases h with
  | whole ended =>
    refine ⟨fun _ => ⟨_, _, rfl⟩, fun text failed => ?_⟩
    cases ended.symm.trans failed
  | failed pieces failed =>
    refine ⟨fun ended => ?_, fun text failed' => ?_⟩
    · cases ended.symm.trans failed
    · cases failed.symm.trans failed'
      exact ⟨_, _, rfl⟩
  | stopped _ unwilling => exact absurd willing unwilling

end Copied

/-- The byte stream of some content: its identifier, its chunks and a zero. -/
def byteStreamOf (size : Nat) (content : List UInt8) : List UInt8 :=
  Tag.byteStream.spelled ++ (framed (chunks size content) ++ BigEndian.encode 4 0)

/-- A byte stream is decoded as its content. -/
theorem DecodeM.decode_byteStreamOf {size : Nat} {content rest : List UInt8} {d : Decoder}
    (pos : 0 < size) (fits : size ≤ Form.maxLength)
    (source : d.source = .slice (byteStreamOf size content ++ rest))
    (room : d.depth < d.options.maxDepth) :
    decode d = .ok (some (.bytes content)) (d.past (byteStreamOf size content) rest) := by
  have bounds : ∀ piece ∈ chunks size content, piece ≠ [] ∧ piece.length ≤ Form.maxLength := by
    intro piece mem
    obtain ⟨ne_nil, short⟩ := bounds_chunks pos mem
    exact ⟨ne_nil, (Nat.le_trans short (Nat.min_le_left ..)).trans fits⟩
  have chunked := chunked_framed bounds
  rw [flatten_chunks] at chunked
  apply decode_of_derives source
  obtain ⟨levels, left⟩ : ∃ levels, d.scope.levels = levels + 1 :=
    ⟨d.options.maxDepth - d.depth - 1, by change _ - _ = _; omega⟩
  rw [left]
  exact ⟨Tag.byteStream.code, _, rfl, .tagged (.byteStream chunked)⟩

/-- Byte streams do not depend on how the reader cuts its bytes. Whatever the reader, let `content`
be what it gives up to the first read that gives nothing or fails. It is cut into full chunks and a
last one with the rest, if there is one.

A byte stream that succeeds counts `content` and puts its chunks; it leaves the reader right behind
the read that gave nothing, and changes nothing else. One that a read fails has put the chunks that
were full, and says how much of the next one is missing. Over a willing sink there is nothing else.
What is put is decoded as `content`. -/
theorem encodeByteStream_of_stretch (cell : Nat) (e : Encoder)
    (fits : e.options.byteChunkSize ≤ Form.maxLength) :
    let size := e.options.byteChunkSize
    let stretch := (e.reader cell).stretch
    let content := stretch.content
    ((chunks size content).flatten = content ∧
      (chunks size content).map List.length =
        List.replicate (content.length / size) size ++
          if content.length % size = 0 then [] else [content.length % size]) ∧
    (∀ copied after, EncodeM.encodeByteStream cell e = .ok copied after →
      stretch.failure = none ∧ copied = content.length ∧
        (e.withReader cell stretch.rest).Deposited (byteStreamOf size content) after) ∧
    (∀ missing cause after,
      EncodeM.encodeByteStream cell e = .error (.ofRead missing cause) after →
      (∃ text, stretch.failure = some text ∧ cause = { text }) ∧
        missing = size - content.length % size ∧
        (e.withReader cell stretch.rest).Deposited
          (Tag.byteStream.spelled ++ framed ((chunks size content).take (content.length / size)))
          after) ∧
    (e.output.Willing →
      (stretch.failure = none →
        ∃ copied after, EncodeM.encodeByteStream cell e = .ok copied after) ∧
      ∀ text, stretch.failure = some text → ∃ missing after,
        EncodeM.encodeByteStream cell e = .error (.ofRead missing { text }) after) ∧
    ∀ (d : Decoder) (behind : List UInt8),
      d.source = .slice (byteStreamOf size content ++ behind) → d.depth < d.options.maxDepth →
      DecodeM.decode d =
        .ok (some (.bytes content)) (d.past (byteStreamOf size content) behind) := by
  intro size stretch content
  have pos := e.options.byteChunkSize_pos
  have outcome := copied_encodeByteStream cell e fits
  refine ⟨⟨flatten_chunks _ _, lengths_chunks pos _⟩, ?_, ?_, ?_, ?_⟩
  · intro copied after run
    obtain ⟨ended, total, put⟩ := (run ▸ outcome).of_ok
    exact ⟨ended, total.trans (Nat.zero_add _), put⟩
  · intro missing cause after run
    exact (run ▸ outcome).of_ofRead
  · exact outcome.of_willing
  · intro d behind source room
    exact DecodeM.decode_byteStreamOf pos fits source room

/-- Three bytes in two pieces, in chunks of two; and a reader that fails behind them. -/
theorem encodeByteStream_of_two_pieces :
    let options := Options.withByteChunkSize {} 2
    let piecemeal : Encoder := .fresh {} options { sink := .unlimited }
      { readers := #[[.bytes [1], .interrupted, .bytes [2, 3], .bytes [], .bytes [9]]] }
    let failing : Encoder := .fresh {} options { sink := .unlimited }
      { readers := #[[.bytes [1, 2, 3], .failure "no"]] }
    (∃ after, EncodeM.encodeByteStream 0 piecemeal = .ok 3 after ∧
      (piecemeal.withReader 0 [.bytes [9]]).Deposited (byteStreamOf 2 [1, 2, 3]) after) ∧
    ∃ after, EncodeM.encodeByteStream 0 failing = .error (.ofRead 1 { text := "no" }) after ∧
      (failing.withReader 0 []).Deposited (Tag.byteStream.spelled ++ framed [[1, 2]]) after := by
  intro options piecemeal failing
  have fits : options.byteChunkSize ≤ Form.maxLength := by decide
  obtain ⟨-, success, -, total, -⟩ := encodeByteStream_of_stretch 0 piecemeal fits
  obtain ⟨-, -, failure, total', -⟩ := encodeByteStream_of_stretch 0 failing fits
  obtain ⟨copied, after, run⟩ := (total Output.willing_of_unlimited).1 rfl
  obtain ⟨missing, after', run'⟩ := (total' Output.willing_of_unlimited).2 "no" rfl
  obtain ⟨-, rfl, put⟩ := success copied after run
  obtain ⟨-, lacking, put'⟩ := failure missing _ after' run'
  obtain rfl : missing = 1 := lacking.trans (by decide)
  have full : (chunks 2 [1, 2, 3]).take (3 / 2) = ([[1, 2]] : List (List UInt8)) := by decide
  change Encoder.Deposited _ (_ ++ framed ((chunks 2 [1, 2, 3]).take (3 / 2))) after' at put'
  rw [full] at put'
  exact ⟨⟨after, run, put⟩, after', run', put'⟩

end TaggedStream
