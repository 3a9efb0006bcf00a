import TaggedStream.Proofs.Delivery
import TaggedStream.Proofs.Reading
import TaggedStream.Proofs.Writing
import TaggedStream.Wire.Queue

/-!
Byte strings behind their length.

The bytes are taken piece by piece. When all are there, that comes to one request for all of them;
when too few are there, it fails at the first piece that is not, behind the pieces that were. Only
what a request does to its context counts, so this is proved of any context that feeds a reader, and
holds of plain byte strings and of decoders over any source alike. The prefix of a length is
accepted where it is written and refused where it is not.
-/

namespace TaggedStream

namespace Wire

/-! ## The loop -/

section Loop

variable {m : Type → Type} [Monad m] [ByteSource m]

/-- Takes pieces, the largest that are allowed, while fewer than `length` bytes are there; `start`
says how many, and `before` holds their pieces, the last one first. -/
def readFrom (length start : Nat) (before : List (List UInt8)) : m (List UInt8) :=
  if start < length then do
    let size := min (length - start) pieceLimit
    let piece ← ByteSource.takeExact "read bytes" size
    readFrom length (start + size) (piece :: before)
  else return before.reverse.flatten
termination_by length - start
decreasing_by
  have some : 0 < pieceLimit := by decide
  omega

theorem readFrom_of_lt {length start : Nat} (lt : start < length) (before : List (List UInt8)) :
    (readFrom length start before : m (List UInt8)) =
      ByteSource.takeExact "read bytes" (min (length - start) pieceLimit) >>= fun piece =>
        readFrom length (start + min (length - start) pieceLimit) (piece :: before) := by
  rw [readFrom, if_pos lt]

theorem readFrom_self (length : Nat) (before : List (List UInt8)) :
    (readFrom length length before : m (List UInt8)) = return before.reverse.flatten := by
  rw [readFrom, if_neg (Nat.lt_irrefl length)]

/-- The pieces of the loop are full ones and then what is left. -/
theorem readPieces_eq_readFrom {length start full last : Nat} (before : List (List UInt8))
    (missing : length = start + (full * pieceLimit + last)) (small : last < pieceLimit) :
    (readPieces before last full : m (List UInt8)) = readFrom length start before := by
  induction full generalizing start before with
  | zero =>
    unfold readPieces
    by_cases none : last = 0
    · obtain rfl : length = start := by omega
      rw [if_pos none, readFrom_self]
    · have size : min (length - start) pieceLimit = last := by omega
      have done : start + last = length := by omega
      rw [if_neg none, readFrom_of_lt (by omega), size, done]
      simp only [readFrom_self]
  | succ full ih =>
    rw [Nat.succ_mul] at missing
    have size : min (length - start) pieceLimit = pieceLimit := by omega
    have some : 0 < pieceLimit := by decide
    rw [readPieces, readFrom_of_lt (by omega), size]
    refine congrArg _ (funext fun piece => ih (piece :: before) ?_)
    omega

theorem readRaw_eq_readFrom (length : Nat) :
    (readRaw length : m (List UInt8)) = readFrom length 0 [] := by
  refine readPieces_eq_readFrom [] ?_ (Nat.mod_lt length (by decide))
  rw [Nat.zero_add, Nat.div_add_mod']

end Loop

/-! ## Contexts that feed a reader -/

/-- A context whose states hold bytes. A request takes the next ones, or all of them when they are
too few, and then it has not moved. -/
structure Feeds {σ : Type} [ByteSource (EStateM StreamError σ)] (Holds : σ → List UInt8 → Prop)
    (Moved : σ → Nat → σ → Prop) : Prop where
  takeExact {s : σ} {bytes : List UInt8} (holds : Holds s bytes) (op : String) (size : Nat) :
    ∃ after, (ByteSource.takeExact op size : EStateM StreamError σ (List UInt8)) s =
        (if bytes.length < size then .error (.io op size .shortRead) after
          else .ok (bytes.take size) after) ∧
      Holds after (bytes.drop size) ∧ Moved s (if bytes.length < size then 0 else size) after
  refuse {α : Type} (error : StreamError) (s : σ) :
    (ByteSource.refuse error : EStateM StreamError σ α) s = .error error s
  still (s : σ) : Moved s 0 s
  trans {s t u : σ} {a b : Nat} (first : Moved s a t) (second : Moved t b u) : Moved s (a + b) u

/-- The failure of a reader that wants `length` bytes of which `available` are there: it is at the
first piece that is not, and of its size. -/
def shortage (length available : Nat) : StreamError :=
  .io "read bytes" (min pieceLimit (length - pieceLimit * (available / pieceLimit))) .shortRead

/-- A byte string behind its length. -/
def framed (content : List UInt8) : List UInt8 := BigEndian.encode 4 content.length ++ content

/-! ## Prefixes -/

theorem toInt32_of_le {n : UInt32} (small : n.toNat ≤ Form.maxLength) :
    ¬ n.toInt32 < 0 ∧ n.toInt32.toNatClampNeg = n.toNat := by
  have below : n.toNat < 2 ^ 31 := Nat.lt_succ_of_le small
  have same : n.toInt32 = Int32.ofNat n.toNat := by
    rw [← UInt32.toInt32_ofNat', UInt32.ofNat_toNat]
  rw [same]
  exact ⟨Int32.not_lt.2 (Form.nonneg_ofNat below), Int32.toNatClampNeg_ofNat_of_lt below⟩

theorem toInt32_neg_of_lt {n : UInt32} (large : Form.maxLength < n.toNat) : n.toInt32 < 0 := by
  have top : ¬ 2 * n.toNat < 2 ^ 32 := by
    unfold Form.maxLength at large
    omega
  have negative : n.toInt32.toInt = n.toNat - (2 ^ 32 : Nat) := by
    change n.toBitVec.toInt = _
    rw [BitVec.toInt_eq_toNat_cond]
    exact if_neg top
  have bound := n.toNat_lt
  rw [Int32.lt_iff_toInt_lt, negative]
  change (n.toNat : Int) - (2 ^ 32 : Nat) < 0
  omega

end Wire

section Steps

variable {σ α β : Type} {m : EStateM StreamError σ α} {k : α → EStateM StreamError σ β}
  {s after : σ}

theorem bind_of_run_ok {a : α} (first : m s = .ok a after) : (m >>= k) s = k a after := by
  change EStateM.bind m k s = _
  rw [EStateM.bind, first]

theorem bind_of_run_error {error : StreamError} (first : m s = .error error after) :
    (m >>= k) s = .error error after := by
  change EStateM.bind m k s = _
  rw [EStateM.bind, first]

end Steps

namespace Wire.Feeds

variable {σ : Type} [ByteSource (EStateM StreamError σ)] {Holds : σ → List UInt8 → Prop}
  {Moved : σ → Nat → σ → Prop} {s : σ} {bytes : List UInt8}

section

variable (feeds : Feeds Holds Moved)

include feeds

theorem take_of_enough (holds : Holds s bytes) (op : String) {size : Nat}
    (enough : size ≤ bytes.length) :
    ∃ after, (ByteSource.takeExact op size : EStateM StreamError σ _) s =
        .ok (bytes.take size) after ∧ Holds after (bytes.drop size) ∧ Moved s size after := by
  obtain ⟨after, run, left, moved⟩ := feeds.takeExact holds op size
  rw [if_neg (Nat.not_lt.2 enough)] at run moved
  exact ⟨after, run, left, moved⟩

theorem take_of_few (holds : Holds s bytes) (op : String) {size : Nat}
    (few : bytes.length < size) :
    ∃ after, (ByteSource.takeExact op size : EStateM StreamError σ _) s =
        .error (.io op size .shortRead) after ∧ Holds after [] ∧ Moved s 0 after := by
  obtain ⟨after, run, left, moved⟩ := feeds.takeExact holds op size
  rw [if_pos few] at run moved
  rw [List.drop_eq_nil_of_le (Nat.le_of_lt few)] at left
  exact ⟨after, run, left, moved⟩

/-! ### Pieces -/

theorem readPieces_of_enough (holds : Holds s bytes) (before : List (List UInt8)) {full last : Nat}
    (enough : full * pieceLimit + last ≤ bytes.length) :
    ∃ after, (readPieces before last full : EStateM StreamError σ _) s =
        .ok (before.reverse.flatten ++ bytes.take (full * pieceLimit + last)) after ∧
      Holds after (bytes.drop (full * pieceLimit + last)) ∧
      Moved s (full * pieceLimit + last) after := by
  induction full generalizing s bytes before with
  | zero =>
    rw [Nat.zero_mul, Nat.zero_add] at enough ⊢
    unfold readPieces
    by_cases none : last = 0
    · subst none
      rw [if_pos rfl]
      exact ⟨s, by simp; rfl, holds, feeds.still s⟩
    · obtain ⟨after, run, left, moved⟩ := feeds.take_of_enough holds "read bytes" enough
      rw [if_neg none, bind_of_run_ok run]
      exact ⟨after, by simp; rfl, left, moved⟩
  | succ full ih =>
    have size : (full + 1) * pieceLimit + last = pieceLimit + (full * pieceLimit + last) := by
      rw [Nat.succ_mul]
      omega
    rw [size] at enough ⊢
    obtain ⟨mid, run, left, moved⟩ :=
      feeds.take_of_enough holds "read bytes" (Nat.le_trans (Nat.le_add_right ..) enough)
    have rest : full * pieceLimit + last ≤ (bytes.drop pieceLimit).length := by
      rw [List.length_drop]
      omega
    obtain ⟨after, run', left', moved'⟩ := ih left (bytes.take pieceLimit :: before) rest
    refine ⟨after, ?_, ?_, feeds.trans moved moved'⟩
    · rw [readPieces, bind_of_run_ok run, run', List.reverse_cons, List.flatten_append,
        List.flatten_singleton, List.append_assoc, ← List.take_add]
    · rwa [List.drop_drop] at left'

theorem readPieces_of_short (holds : Holds s bytes) (before : List (List UInt8)) {full last : Nat}
    (small : last < pieceLimit) (short : bytes.length < full * pieceLimit + last) :
    ∃ after, (readPieces before last full : EStateM StreamError σ _) s =
        .error (shortage (full * pieceLimit + last) bytes.length) after ∧ Holds after [] ∧
      Moved s (pieceLimit * (bytes.length / pieceLimit)) after := by
  induction full generalizing s bytes before with
  | zero =>
    rw [Nat.zero_mul, Nat.zero_add] at short ⊢
    obtain ⟨after, run, left, moved⟩ := feeds.take_of_few holds "read bytes" short
    have none : bytes.length / pieceLimit = 0 := Nat.div_eq_of_lt (Nat.lt_trans short small)
    have some : ¬ last = 0 := by omega
    rw [shortage, none, Nat.mul_zero, Nat.sub_zero, Nat.min_eq_right (Nat.le_of_lt small)]
    unfold readPieces
    rw [if_neg some, bind_of_run_error run]
    exact ⟨after, rfl, left, moved⟩
  | succ full ih =>
    rw [Nat.succ_mul] at short ⊢
    by_cases few : bytes.length < pieceLimit
    · obtain ⟨after, run, left, moved⟩ := feeds.take_of_few holds "read bytes" few
      have size : min pieceLimit (full * pieceLimit + pieceLimit + last) = pieceLimit := by omega
      rw [shortage, Nat.div_eq_of_lt few, Nat.mul_zero, Nat.sub_zero, size, readPieces,
        bind_of_run_error run]
      exact ⟨after, rfl, left, moved⟩
    · have enough : pieceLimit ≤ bytes.length := Nat.le_of_not_lt few
      obtain ⟨mid, run, left, moved⟩ := feeds.take_of_enough holds "read bytes" enough
      have rest : (bytes.drop pieceLimit).length = bytes.length - pieceLimit := List.length_drop
      obtain ⟨after, run', left', moved'⟩ :=
        ih left (bytes.take pieceLimit :: before) (by rw [rest]; omega)
      -- one piece more was there
      have pieces : pieceLimit * (bytes.length / pieceLimit) =
          pieceLimit + pieceLimit * ((bytes.length - pieceLimit) / pieceLimit) := by
        rw [Nat.div_eq_sub_div (by decide) enough, Nat.mul_succ, Nat.add_comm]
      have same : full * pieceLimit + pieceLimit + last - pieceLimit * (bytes.length / pieceLimit) =
          full * pieceLimit + last -
            pieceLimit * ((bytes.length - pieceLimit) / pieceLimit) := by
        omega
      rw [rest] at run' moved'
      rw [readPieces, bind_of_run_ok run, run', shortage, shortage, same, pieces]
      exact ⟨after, rfl, left', feeds.trans moved moved'⟩

/-! ### Bytes without a prefix -/

/-- When the bytes are there, they are what is read. -/
theorem readRaw_of_enough (holds : Holds s bytes) {length : Nat} (enough : length ≤ bytes.length) :
    ∃ after, (readRaw length : EStateM StreamError σ _) s = .ok (bytes.take length) after ∧
      Holds after (bytes.drop length) ∧ Moved s length after := by
  have whole := Nat.div_add_mod' length pieceLimit
  rw [← whole] at enough
  have pieces := feeds.readPieces_of_enough holds [] enough
  rwa [whole] at pieces

/-- When bytes are missing, the reader has moved behind the full pieces that are there. -/
theorem readRaw_of_short (holds : Holds s bytes) {length : Nat} (short : bytes.length < length) :
    ∃ after, (readRaw length : EStateM StreamError σ _) s =
        .error (shortage length bytes.length) after ∧ Holds after [] ∧
      Moved s (pieceLimit * (bytes.length / pieceLimit)) after := by
  have whole := Nat.div_add_mod' length pieceLimit
  rw [← whole] at short
  have pieces := feeds.readPieces_of_short holds [] (Nat.mod_lt length (by decide)) short
  rwa [whole] at pieces

/-! ### Lengths -/

theorem readLength_of_few (holds : Holds s bytes) (few : bytes.length < 4) (oid : Oid) :
    ∃ after, (readLength oid : EStateM StreamError σ _) s =
        .error (.io "read u32" 4 .shortRead) after ∧ Holds after [] ∧ Moved s 0 after := by
  obtain ⟨after, run, left, moved⟩ := feeds.take_of_few holds "read u32" few
  have number : (readNat "read u32" 4 : EStateM StreamError σ _) s = .error _ after :=
    bind_of_run_error run
  have unsigned : (readUInt32 : EStateM StreamError σ _) s = .error _ after :=
    bind_of_run_error number
  have signed : (readInt32 : EStateM StreamError σ _) s = .error _ after :=
    bind_of_run_error unsigned
  exact ⟨after, bind_of_run_error signed, left, moved⟩

/-- A prefix is accepted when its sign bit is clear, and then it is the length. -/
theorem readLength_of_prefix {n : UInt32} {rest : List UInt8}
    (holds : Holds s (BigEndian.encode 4 n.toNat ++ rest)) (oid : Oid) :
    ∃ after, (readLength oid : EStateM StreamError σ _) s =
        (if n.toNat ≤ Form.maxLength then .ok n.toNat after
          else .error (.malformed oid (.negativeLength n.toInt32)) after) ∧
      Holds after rest ∧ Moved s 4 after := by
  have size : (BigEndian.encode 4 n.toNat).length = 4 := BigEndian.length_encode ..
  have enough : 4 ≤ (BigEndian.encode 4 n.toNat ++ rest).length := by
    rw [List.length_append, size]
    exact Nat.le_add_right ..
  obtain ⟨after, run, left, moved⟩ := feeds.take_of_enough holds "read u32" enough
  rw [List.take_left' size] at run
  rw [List.drop_left' size] at left
  have number : (readNat "read u32" 4 : EStateM StreamError σ _) s = .ok n.toNat after := by
    rw [readNat, bind_of_run_ok run, BigEndian.decode_encode n.toNat_lt]
    rfl
  have unsigned : (readUInt32 : EStateM StreamError σ _) s = .ok n after := by
    rw [readUInt32, bind_of_run_ok number, UInt32.ofNat_toNat]
    rfl
  have signed : (readInt32 : EStateM StreamError σ _) s = .ok n.toInt32 after := by
    rw [readInt32, bind_of_run_ok unsigned]
    rfl
  refine ⟨after, ?_, left, moved⟩
  rw [readLength, bind_of_run_ok signed]
  by_cases small : n.toNat ≤ Form.maxLength
  · obtain ⟨nonneg, same⟩ := toInt32_of_le small
    rw [if_neg nonneg, if_pos small, same]
    rfl
  · rw [if_pos (toInt32_neg_of_lt (Nat.lt_of_not_le small)), if_neg small]
    exact feeds.refuse _ after

/-! ### Byte strings -/

/-- Behind its prefix a byte string is read as bytes without one. -/
theorem readBytes_of_prefix {n : UInt32} {rest : List UInt8}
    (holds : Holds s (BigEndian.encode 4 n.toNat ++ rest)) (oid : Oid) :
    ∃ mid, (readBytes oid : EStateM StreamError σ _) s =
        (if n.toNat ≤ Form.maxLength then (readRaw n.toNat : EStateM StreamError σ _) mid
          else .error (.malformed oid (.negativeLength n.toInt32)) mid) ∧
      Holds mid rest ∧ Moved s 4 mid := by
  obtain ⟨mid, run, left, moved⟩ := feeds.readLength_of_prefix holds oid
  refine ⟨mid, ?_, left, moved⟩
  by_cases small : n.toNat ≤ Form.maxLength
  · rw [if_pos small] at run ⊢
    exact bind_of_run_ok run
  · rw [if_neg small] at run ⊢
    exact bind_of_run_error run

/-- A byte string that was written is read back, and what is behind it stays. -/
theorem readBytes_of_framed {content suffix : List UInt8} (fits : content.length ≤ Form.maxLength)
    (holds : Holds s (framed content ++ suffix)) (oid : Oid) :
    ∃ after, (readBytes oid : EStateM StreamError σ _) s = .ok content after ∧
      Holds after suffix ∧ Moved s (framed content).length after := by
  have size : (UInt32.ofNat content.length).toNat = content.length :=
    UInt32.toNat_ofNat_of_lt' (Nat.lt_of_le_of_lt fits (by decide))
  have whole : (framed content).length = 4 + content.length := by
    rw [framed, List.length_append, BigEndian.length_encode]
  rw [framed, List.append_assoc, ← size] at holds
  obtain ⟨mid, run, left, moved⟩ := feeds.readBytes_of_prefix holds oid
  rw [size, if_pos fits] at run
  have enough : content.length ≤ (content ++ suffix).length := by
    rw [List.length_append]
    exact Nat.le_add_right ..
  obtain ⟨after, run', left', moved'⟩ := feeds.readRaw_of_enough left enough
  rw [List.take_left] at run'
  rw [List.drop_left] at left'
  exact ⟨after, run.trans run', left', whole ▸ feeds.trans moved moved'⟩

/-! ### What byte strings spell -/

/-- A text takes the bytes of a byte string, and is refused behind them if they spell none. -/
theorem readText_of_bytes {content : List UInt8} {after : σ} {oid : Oid}
    (run : (readBytes oid : EStateM StreamError σ _) s = .ok content after) :
    (∃ text, content = Text.Utf8.encode text ∧
      (readText oid : EStateM StreamError σ _) s = .ok text after) ∨
    ∃ fault, (∀ text, content ≠ Text.Utf8.encode text) ∧
      (readText oid : EStateM StreamError σ _) s =
        .error (.malformed oid (.illFormedText fault)) after := by
  cases decoded : Text.Utf8.decode content with
  | ok text =>
    refine .inl ⟨text, Text.Utf8.decode_eq_ok_iff.1 decoded, ?_⟩
    rw [readText, bind_of_run_ok run, decoded]
    rfl
  | error fault =>
    refine .inr ⟨fault, fun text same => ?_, ?_⟩
    · cases decoded.symm.trans (Text.Utf8.decode_eq_ok_iff.2 same)
    · rw [readText, bind_of_run_ok run, decoded]
      exact feeds.refuse _ after

/-- An integer takes the bytes of a byte string, and is refused behind them if there are none. -/
theorem readInteger_of_bytes {content : List UInt8} {after : σ} {oid : Oid}
    (run : (readBytes oid : EStateM StreamError σ _) s = .ok content after) :
    (∃ i, TwosComplement.Spells content i ∧
      (readInteger oid : EStateM StreamError σ _) s = .ok i after) ∨
    content = [] ∧ (readInteger oid : EStateM StreamError σ _) s =
      .error (.malformed oid .emptyInteger) after := by
  cases content with
  | nil =>
    refine .inr ⟨rfl, ?_⟩
    rw [readInteger, bind_of_run_ok run]
    exact feeds.refuse _ after
  | cons byte content =>
    refine .inl ⟨_, TwosComplement.spells_decode (List.cons_ne_nil byte content), ?_⟩
    rw [readInteger, bind_of_run_ok run]
    rfl

end

end Wire.Feeds

namespace Wire

/-- What readers of byte strings come to in a context, by the bytes that are left in it. -/
structure ReadsBlobs {σ : Type} [ByteSource (EStateM StreamError σ)]
    (Holds : σ → List UInt8 → Prop) (Moved : σ → Nat → σ → Prop) : Prop where
  /-- A byte string that was written comes back, and what is behind it stays. -/
  framed {s : σ} {content suffix : List UInt8} (oid : Oid)
    (fits : content.length ≤ Form.maxLength) (holds : Holds s (framed content ++ suffix)) :
    ∃ after, (readBytes oid : EStateM StreamError σ _) s = .ok content after ∧
      Holds after suffix ∧ Moved s (framed content).length after
  /-- Any four bytes are a length, unless their first bit is set. -/
  length {s : σ} {n : UInt32} {rest : List UInt8} (oid : Oid)
    (holds : Holds s (BigEndian.encode 4 n.toNat ++ rest)) :
    ∃ after, (readLength oid : EStateM StreamError σ _) s =
        (if n.toNat ≤ Form.maxLength then .ok n.toNat after
          else .error (.malformed oid (.negativeLength n.toInt32)) after) ∧
      Holds after rest ∧ Moved s 4 after
  /-- Fewer bytes are none. -/
  lengthMissing {s : σ} {bytes : List UInt8} (oid : Oid) (holds : Holds s bytes)
    (few : bytes.length < 4) :
    ∃ after, (readLength oid : EStateM StreamError σ _) s =
        .error (.io "read u32" 4 .shortRead) after ∧ Holds after [] ∧ Moved s 0 after
  /-- When the bytes are there, they are what is read. -/
  raw {s : σ} {bytes : List UInt8} {length : Nat} (holds : Holds s bytes)
    (enough : length ≤ bytes.length) :
    ∃ after, (readRaw length : EStateM StreamError σ _) s = .ok (bytes.take length) after ∧
      Holds after (bytes.drop length) ∧ Moved s length after
  /-- When bytes are missing, the reader stops behind the full pieces that are there. -/
  rawMissing {s : σ} {bytes : List UInt8} {length : Nat} (holds : Holds s bytes)
    (short : bytes.length < length) :
    ∃ error after, (readRaw length : EStateM StreamError σ _) s = .error error after ∧
      error = .io "read bytes"
        (min pieceLimit (length - pieceLimit * (bytes.length / pieceLimit))) .shortRead ∧
      error.isEndOfInput = true ∧ Holds after [] ∧
      Moved s (pieceLimit * (bytes.length / pieceLimit)) after
  /-- Behind a prefix a byte string is read as bytes without one. -/
  bytes {s : σ} {n : UInt32} {rest : List UInt8} (oid : Oid)
    (holds : Holds s (BigEndian.encode 4 n.toNat ++ rest)) :
    ∃ mid, (readBytes oid : EStateM StreamError σ _) s =
        (if n.toNat ≤ Form.maxLength then (readRaw n.toNat : EStateM StreamError σ _) mid
          else .error (.malformed oid (.negativeLength n.toInt32)) mid) ∧
      Holds mid rest ∧ Moved s 4 mid
  /-- A text takes the bytes of a byte string, and is refused behind them if they spell none. -/
  text {s after : σ} {oid : Oid} {content : List UInt8}
    (run : (readBytes oid : EStateM StreamError σ _) s = .ok content after) :
    (∃ text, content = Text.Utf8.encode text ∧
      (readText oid : EStateM StreamError σ _) s = .ok text after) ∨
    ∃ fault, (∀ text, content ≠ Text.Utf8.encode text) ∧
      (readText oid : EStateM StreamError σ _) s =
        .error (.malformed oid (.illFormedText fault)) after
  /-- An integer takes the bytes of a byte string, and is refused behind them if there are none. -/
  integer {s after : σ} {oid : Oid} {content : List UInt8}
    (run : (readBytes oid : EStateM StreamError σ _) s = .ok content after) :
    (∃ i, TwosComplement.Spells content i ∧
      (readInteger oid : EStateM StreamError σ _) s = .ok i after) ∨
    content = [] ∧ (readInteger oid : EStateM StreamError σ _) s =
      .error (.malformed oid .emptyInteger) after
  /-- Neither is read where a byte string is not. -/
  passedOn {s after : σ} {oid : Oid} {error : StreamError}
    (run : (readBytes oid : EStateM StreamError σ _) s = .error error after) :
    (readText oid : EStateM StreamError σ _) s = .error error after ∧
      (readInteger oid : EStateM StreamError σ _) s = .error error after

theorem Feeds.readsBlobs {σ : Type} [ByteSource (EStateM StreamError σ)]
    {Holds : σ → List UInt8 → Prop} {Moved : σ → Nat → σ → Prop} (feeds : Feeds Holds Moved) :
    ReadsBlobs Holds Moved where
  framed oid fits holds := feeds.readBytes_of_framed fits holds oid
  length oid holds := feeds.readLength_of_prefix holds oid
  lengthMissing oid holds few := feeds.readLength_of_few holds few oid
  raw holds enough := feeds.readRaw_of_enough holds enough
  rawMissing holds short := by
    obtain ⟨after, run, left, moved⟩ := feeds.readRaw_of_short holds short
    exact ⟨_, after, run, rfl, rfl, left, moved⟩
  bytes oid holds := feeds.readBytes_of_prefix holds oid
  text run := feeds.readText_of_bytes run
  integer run := feeds.readInteger_of_bytes run
  passedOn run := ⟨bind_of_run_error run, bind_of_run_error run⟩

end Wire

/-! ## Writing -/

namespace Wire

/-- A length is put as four bytes if readers accept it, and refused if not. -/
theorem writeLength_eq {m : Type → Type} [Monad m] [ByteSink m] (oid : Oid) (length : Nat) :
    (writeLength oid length : m Unit) =
      if length ≤ Form.maxLength then ByteSink.put "write u32" (BigEndian.encode 4 length)
      else ByteSink.refuse (.malformed oid (.lengthTooLong length)) := by
  by_cases small : length ≤ Form.maxLength
  · have prefixed : wireLength? length = some (.ofNat length) := if_pos small
    have same : (UInt32.ofNat length).toNat = length :=
      UInt32.toNat_ofNat_of_lt' (Nat.lt_of_le_of_lt small (by decide))
    rw [writeLength, prefixed, if_pos small]
    exact congrArg (fun n => ByteSink.put "write u32" (BigEndian.encode 4 n)) same
  · have refused : wireLength? length = none := if_neg small
    rw [writeLength, refused, if_neg small]

end Wire

namespace QueueM

/-- The byte string holds these bytes: all of them. -/
def Holds (queue bytes : List UInt8) : Prop := queue = bytes

/-- A byte string does not count what was taken. -/
def Advanced (_ : List UInt8) (_ : Nat) (_ : List UInt8) : Prop := True

theorem feeds : Wire.Feeds Holds Advanced where
  takeExact := by
    rintro queue _ rfl op size
    refine ⟨queue.drop size, ?_, rfl, trivial⟩
    have taken := Source.takeExact_slice size queue
    by_cases short : queue.length < size
    · rw [if_pos short] at taken ⊢
      simp only [ByteSource.takeExact, taken]
      rfl
    · rw [if_neg short] at taken ⊢
      simp only [ByteSource.takeExact, taken]
      rfl
  refuse _ _ := rfl
  still _ := trivial
  trans _ _ := trivial

/-- A byte string that is not too long goes to the end behind its length; of another one nothing is
written. -/
theorem writeBytes_eq (oid : Oid) (content queue : List UInt8) :
    (Wire.writeBytes oid content : QueueM Unit) queue =
      if content.length ≤ Form.maxLength then .ok () (queue ++ Wire.framed content)
      else .error (.malformed oid (.lengthTooLong content.length)) queue := by
  rw [Wire.writeBytes, Wire.writeLength_eq, Wire.framed, ← List.append_assoc]
  split <;> rfl

end QueueM

namespace Decoder

/-- The source of the decoder holds these bytes. -/
def Holds (d : Decoder) (bytes : List UInt8) : Prop := d.source.Holds bytes

/-- The decoder has taken more bytes, and is otherwise as it was. -/
def Advanced (d : Decoder) (n : Nat) (after : Decoder) : Prop :=
  after = { d with source := after.source, position := d.position + n }

theorem feeds : Wire.Feeds Holds Advanced where
  takeExact := by
    intro d bytes holds op size
    obtain ⟨source, taken, left, -⟩ := Source.Holds.takeExact holds size
    by_cases short : bytes.length < size
    · rw [if_pos short] at taken
      refine ⟨{ d with source }, ?_, left, ?_⟩
      · rw [if_pos short]
        change DecodeM.takeExact op size d = _
        rw [DecodeM.takeExact, taken]
      · rw [if_pos short]
        rfl
    · rw [if_neg short] at taken
      refine ⟨{ d with source, position := d.position + size }, ?_, left, ?_⟩
      · rw [if_neg short]
        change DecodeM.takeExact op size d = _
        rw [DecodeM.takeExact, taken]
      · rw [if_neg short]
        rfl
  refuse _ _ := rfl
  still _ := rfl
  trans := by
    intro d t u a b first second
    unfold Advanced at first second ⊢
    rw [second, first, Nat.add_assoc]

end Decoder

/-- A willing encoder appends a byte string behind its length. -/
theorem EncodeM.writes_framed (setting : Setting) (oid : Oid) {content : List UInt8}
    (fits : content.length ≤ Form.maxLength) :
    Writes setting (Wire.writeBytes oid content) (Wire.framed content) := by
  rw [Wire.writeBytes, Wire.writeLength_eq, if_pos fits]
  exact Writes.bind (.put _ _) (.put _ _)

/-- Both sides agree on byte strings. A length is written as four bytes when readers accept it, and
refused with nothing written when they do not; behind it a byte string is put as it stands. The loop
of the reader ends, whatever it is given, and reads what a single request would: byte strings that
were written come back and what is behind them stays, other lengths are refused, and when bytes are
missing the loop fails at the first piece that is not there, behind those that are. Texts and
integers take the same bytes, and what is wrong with them is found behind these. All this holds of
byte strings and of decoders over any source that has just these bytes left. -/
theorem Wire.blobs_agree :
    (∀ (m : Type → Type) [Monad m] [ByteSink m] (oid : Oid) (length : Nat),
      (writeLength oid length : m Unit) =
        if length ≤ Form.maxLength then ByteSink.put "write u32" (BigEndian.encode 4 length)
        else ByteSink.refuse (.malformed oid (.lengthTooLong length))) ∧
    (∀ (oid : Oid) (length : Nat) (queue : List UInt8) (e : Encoder), Form.maxLength < length →
      (writeLength oid length : QueueM Unit) queue =
        .error (.malformed oid (.lengthTooLong length)) queue ∧
      (writeLength oid length : EncodeM Unit) e =
        .error (.refused (.malformed oid (.lengthTooLong length))) e) ∧
    (∀ (oid : Oid) (content queue : List UInt8),
      (writeBytes oid content : QueueM Unit) queue =
        if content.length ≤ Form.maxLength then .ok () (queue ++ framed content)
        else .error (.malformed oid (.lengthTooLong content.length)) queue) ∧
    (∀ (oid : Oid) (content : List UInt8) (e : Encoder),
      (content.length ≤ Form.maxLength → e.output.Willing →
        ∃ after, (writeBytes oid content : EncodeM Unit) e = .ok () after ∧
          e.Extends (framed content) after) ∧
      (Form.maxLength < content.length →
        (writeBytes oid content : EncodeM Unit) e =
          .error (.refused (.malformed oid (.lengthTooLong content.length))) e)) ∧
    (∀ (m : Type → Type) [Monad m] [ByteSource m] (length : Nat),
      (readRaw length : m (List UInt8)) = readFrom length 0 []) ∧
    ReadsBlobs QueueM.Holds QueueM.Advanced ∧ ReadsBlobs Decoder.Holds Decoder.Advanced := by
  refine ⟨fun m _ _ oid length => writeLength_eq oid length,
    fun oid length queue e large => ⟨?_, ?_⟩, QueueM.writeBytes_eq,
    fun oid content e => ⟨fun fits willing => ?_, fun large => ?_⟩,
    fun m _ _ length => readRaw_eq_readFrom length, QueueM.feeds.readsBlobs,
    Decoder.feeds.readsBlobs⟩
  · rw [writeLength_eq, if_neg (Nat.not_le.2 large)]
    rfl
  · rw [writeLength_eq, if_neg (Nat.not_le.2 large)]
    rfl
  · obtain ⟨after, run, grown⟩ := EncodeM.writes_framed e.setting oid fits e rfl willing
    exact ⟨after, run, grown.toExtends⟩
  · rw [writeBytes, writeLength_eq, if_neg (Nat.not_le.2 large)]
    rfl

/-- A decoder that wants two pieces and more, over a source that ends within the second one, and one
that reads a byte string back that was written into a byte string. -/
theorem Wire.blobs_agree_at_two_pieces :
    (∃ error after, (readRaw 140000 : DecodeM _)
        (.fresh {} {} (.slice (List.replicate 70000 7))) = .error error after ∧
      error = .io "read bytes" 65536 .shortRead ∧ error.isEndOfInput = true ∧
      after.position = 65536) ∧
    ∃ queue, (writeBytes 0x51 [1, 2, 3] : QueueM Unit) [] = .ok () queue ∧
      (∃ rest, (readBytes 0x51 : QueueM _) (queue ++ [9]) = .ok [1, 2, 3] rest ∧ rest = [9]) ∧
      ∃ after, (writeBytes 0x51 [1, 2, 3] : EncodeM Unit)
        (.fresh {} {} { sink := .unlimited } {}) = .ok () after ∧ after.output.written = queue := by
  obtain ⟨-, -, queued, encoded, -, queues, decoders⟩ := blobs_agree
  have fits : [(1 : UInt8), 2, 3].length ≤ Form.maxLength := by decide
  have size : (List.replicate 70000 (7 : UInt8)).length = 70000 := List.length_replicate
  have short : (List.replicate 70000 (7 : UInt8)).length < 140000 := by
    rw [size]
    decide
  have queue : QueueM.Holds (framed [1, 2, 3] ++ [9]) (framed [1, 2, 3] ++ [9]) := rfl
  refine ⟨?_, framed [1, 2, 3], ?_, ?_, ?_⟩
  · obtain ⟨error, after, run, same, ended, -, moved⟩ :=
      decoders.rawMissing (s := .fresh {} {} _) (.slice (List.replicate 70000 7)) short
    rw [size] at same moved
    exact ⟨error, after, run, same, ended, by rw [moved]; rfl⟩
  · exact (queued 0x51 [1, 2, 3] []).trans (if_pos fits)
  · obtain ⟨rest, run, left, -⟩ := queues.framed 0x51 fits queue
    exact ⟨rest, run, left⟩
  · obtain ⟨after, run, extended⟩ :=
      (encoded 0x51 [1, 2, 3] (.fresh {} {} { sink := .unlimited } {})).1 fits
        Output.willing_of_unlimited
    exact ⟨after, run, extended.written⟩

end TaggedStream
