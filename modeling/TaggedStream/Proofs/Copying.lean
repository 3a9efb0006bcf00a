import Mathlib
import TaggedStream.Proofs.Answering
import TaggedStream.Proofs.Settling

/-!
Each deferred value is asked for once.

What is written of a value is what is written of a copy of it, in which the answers stand in the
places of the deferred values that were asked for. The copy has no notes that are not saved and no
items beyond the cap, and each of its deferred values that stands for one in a cell has an answer of
its own: the calls that were made are those, one for each, and no others.
-/

namespace TaggedStream

/-! ## Copies -/

/-- Things are related one by one. The answers in them follow each other. -/
inductive Each {α β : Type} (R : α → β → List Answer → Prop) : List α → List β → List Answer → Prop
  | nil : Each R [] [] []
  | cons {a : α} {b : β} {as : List α} {bs : List β} {here later : List Answer}
      (head : R a b here) (tail : Each R as bs later) :
      Each R (a :: as) (b :: bs) (here ++ later)

/-- Keys and values are related one by one. -/
inductive EachEntry (R : Value → Value → List Answer → Prop) :
    List (Value × Value) → List (Value × Value) → List Answer → Prop
  | nil : EachEntry R [] [] []
  | cons {key key' value value' : Value} {rest rest' : List (Value × Value)}
      {first second later : List Answer} (head : R key key' first) (content : R value value' second)
      (tail : EachEntry R rest rest' later) :
      EachEntry R ((key, value) :: rest) ((key', value') :: rest') (first ++ (second ++ later))

/-- What an encoder writes of the first value it writes of the second one, when the cells give these
answers to the deferred values that are reached, in the order in which these are written. -/
inductive Copies (e : Encoder) : Value → Value → List Answer → Prop
  | atom {v : Value} (isAtom : v.isAtom = true) : Copies e v v []
  | byteStream {cell : ℕ} : Copies e (.byteStream cell) (.byteStream cell) []
  | vector {items items' : List Value} {answers : List Answer}
      (each : Each (Copies e) items items' answers) :
      Copies e (.vector items) (.vector items') answers
  | set {items items' : List Value} {answers : List Answer}
      (each : Each (Copies e) items items' answers) : Copies e (.set items) (.set items') answers
  | map {m m' : OrderedMap Value Value} {answers : List Answer}
      (each : EachEntry (Copies e) m.entries m'.entries answers) :
      Copies e (.map m) (.map m') answers
  /-- Items beyond the cap are left out. -/
  | seq {items items' : List Value} {answers : List Answer}
      (each : Each (Copies e) (items.take (e.options.limitOf items)) items' answers) :
      Copies e (.seq items) (.seq items') answers
  /-- As many items are drawn as the cap allows, or all that are left. -/
  | lazySeq {cell before limit : ℕ} {s : Sequence} {items' : List Value} {answers : List Answer}
      (there : e.store.sequences[cell]? = some s)
      (most : (e.options.uncountableMaxItems <|> (s.firsts before).2.source.size?) = some limit)
      (each : Each (Copies e) ((s.firsts before).2.firsts limit).1 items' answers) :
      Copies e (.lazySeq cell) (.seq items') answers
  | usedUp {cell : ℕ} (gone : e.store.sequences[cell]? = none) :
      Copies e (.lazySeq cell) (.seq []) []
  | ready {handle : Option ℕ} {v w : Value} {answers : List Answer}
      (content : Copies e v w answers) :
      Copies e (.future (.ready handle v)) (.future (.ready none w)) answers
  /-- The answer stands in the place of the deferred value. -/
  | asked {cell : ℕ} {v w : Value} {answers : List Answer} (content : Copies e v w answers) :
      Copies e (.future (.shared cell)) (.future (.ready none w)) (⟨cell, v⟩ :: answers)
  | annotated {inner inner' : Value} {notes notes' : OrderedMap Value Value}
      {first second : List Answer} (saves : e.options.saveMeta = true)
      (beside : EachEntry (Copies e) notes.entries notes'.entries first)
      (content : Copies e inner inner' second) :
      Copies e (.annotated inner notes) (.annotated inner' notes') (first ++ second)
  /-- Notes that are not saved are left out. -/
  | dropped {inner inner' : Value} {notes : OrderedMap Value Value} {answers : List Answer}
      (loses : e.options.saveMeta = false) (content : Copies e inner inner' answers) :
      Copies e (.annotated inner notes) (.annotated inner' ⟨[]⟩) answers
  | throwable {message : Option String} {frames : List Frame}
      {cause cause' : Option (Throwable Value)}
      {suppressed suppressed' : List (Throwable Value)}
      {data data' : Option (OrderedMap Value Value)} {first second third : List Answer}
      (inside : Each (Copies e) (data.toList.map .map) (data'.toList.map .map) first)
      (below : Each (Copies e) (cause.toList.map .throwable) (cause'.toList.map .throwable) second)
      (beside : Each (Copies e) (suppressed.map .throwable) (suppressed'.map .throwable) third) :
      Copies e (.throwable ⟨message, frames, cause, suppressed, data⟩)
        (.throwable ⟨message, frames, cause', suppressed', data'⟩) (first ++ (second ++ third))
  /-- An object that nothing writes has a placeholder. -/
  | placeholder {o : HostObject Value} {p : Placeholder}
      (unknown : e.registry.writer? o.type = none) : Copies e (.object o) (.unsupported p) []

namespace Each

variable {α β : Type} {R : α → β → List Answer → Prop}

theorem length_eq {as : List α} {bs : List β} {answers : List Answer} (h : Each R as bs answers) :
    bs.length = as.length := by
  induction h with
  | nil => rfl
  | cons _ _ ih => rw [List.length_cons, List.length_cons, ih]

theorem eq_nil {bs : List β} {answers : List Answer} (h : Each R [] bs answers) :
    bs = [] ∧ answers = [] := by
  cases h
  exact ⟨rfl, rfl⟩

/-- What is related to a list with one more thing at its end ends with what is related to that. -/
theorem of_concat {as : List α} {a : α} {bs : List β} {answers : List Answer}
    (h : Each R (as ++ [a]) bs answers) : ∃ front b first second, bs = front ++ [b] ∧
      answers = first ++ second ∧ Each R as front first ∧ R a b second := by
  induction as generalizing bs answers with
  | nil =>
    cases h with
    | cons head tail =>
      cases tail
      exact ⟨[], _, [], _, rfl, List.append_nil _, .nil, head⟩
  | cons head as ih =>
    cases h with
    | @cons _ b _ bs here later head tail =>
      obtain ⟨front, last, first, second, rfl, rfl, each, related⟩ := ih tail
      exact ⟨b :: front, last, here ++ first, second, rfl, (List.append_assoc ..).symm,
        .cons head each, related⟩

/-- Copies of pieces are the pieces of a copy. -/
theorem of_chunksBehind (size : ℕ)
    {current items : List α} {room : ℕ} {pieces : List (List β)} {answers : List Answer}
    (h : Each (Each R) (chunksBehind size current room items) pieces answers) :
    ∃ current' items' first second, answers = first ++ second ∧
      Each R current.reverse current'.reverse first ∧ Each R items items' second ∧
      pieces = chunksBehind size current' room items' := by
  induction items generalizing current room pieces answers with
  | nil =>
    cases current with
    | nil =>
      cases h
      exact ⟨[], [], [], [], rfl, .nil, .nil, rfl⟩
    | cons a rest =>
      cases h with
      | @cons _ piece _ _ first _ head tail =>
        cases tail
        have count := head.length_eq
        refine ⟨piece.reverse, [], first, [], rfl, by rwa [List.reverse_reverse], .nil, ?_⟩
        have some : piece.reverse.isEmpty = false := by
          cases piece with
          | nil => simp at count
          | cons => simp
        simp [chunksBehind, some]
  | cons item rest ih =>
    unfold chunksBehind at h
    split at h
    next full =>
      cases h with
      | @cons _ piece _ others here later head tail =>
        rw [List.reverse_cons] at head
        obtain ⟨front, b, first, second, rfl, rfl, before, last⟩ := head.of_concat
        obtain ⟨current', items', third, fourth, rfl, none, each, rfl⟩ := ih tail
        obtain ⟨empty, rfl⟩ := none.eq_nil
        obtain rfl := List.reverse_eq_nil_iff.1 empty
        refine ⟨front.reverse, b :: items', first, second ++ fourth, ?_, ?_, .cons last each, ?_⟩
        · rw [List.nil_append, List.append_assoc]
        · rwa [List.reverse_reverse]
        · rw [chunksBehind, if_pos full, List.reverse_cons, List.reverse_reverse]
    next more =>
      obtain ⟨current', items', first, second, rfl, before, each, rfl⟩ := ih h
      rw [List.reverse_cons] at before
      obtain ⟨front, b, third, fourth, last, rfl, before, related⟩ := before.of_concat
      obtain rfl : current' = b :: front.reverse := by
        rw [← List.reverse_reverse current', last, List.reverse_append]
        rfl
      refine ⟨front.reverse, b :: items', third, fourth ++ second, List.append_assoc .., ?_,
        .cons related each, ?_⟩
      · rwa [List.reverse_reverse]
      · rw [chunksBehind, if_neg more]

theorem of_chunks {size : ℕ} {items : List α}
    {pieces : List (List β)} {answers : List Answer}
    (h : Each (Each R) (chunks size items) pieces answers) :
    ∃ items', Each R items items' answers ∧ pieces = chunks size items' := by
  obtain ⟨current, items', first, second, rfl, none, each, rfl⟩ := h.of_chunksBehind
  obtain ⟨empty, rfl⟩ := none.eq_nil
  obtain rfl := List.reverse_eq_nil_iff.1 empty
  exact ⟨items', each, rfl⟩

end Each

theorem EachEntry.length_eq {R : Value → Value → List Answer → Prop}
    {entries entries' : List (Value × Value)} {answers : List Answer}
    (h : EachEntry R entries entries' answers) : entries'.length = entries.length := by
  induction h with
  | nil => rfl
  | cons _ _ _ ih => rw [List.length_cons, List.length_cons, ih]

/-! ## Steps beside each other -/

/-- The second encoder puts what the first one puts. It may have other cells, apart from readers. -/
structure Encoder.Beside (e f : Encoder) : Prop where
  setting : f.setting = e.setting
  output : f.output = e.output
  position : f.position = e.position
  readers : f.store.readers = e.store.readers

namespace Encoder.Beside

variable {e f : Encoder} (beside : e.Beside f)

include beside

theorem options_eq : f.options = e.options := congrArg Setting.options beside.setting

/-- Neither the buffer nor the other cells count. -/
theorem update {scratch : Option Scratch} {store : Store}
    (readers : store.readers = e.store.readers) : Beside { e with scratch, store } f :=
  ⟨beside.setting, beside.output, beside.position, beside.readers.trans readers.symm⟩

end Encoder.Beside

namespace EncodeM

variable {α β : Type} {m : EncodeM α} {k : α → EncodeM β} {e after : Encoder}

/-- What went well behind an attempt went well. -/
theorem attempt_eq_ok {a : α} (run : attempt m e = .ok (.ok a) after) : m e = .ok a after := by
  unfold attempt at run
  split at run
  next step =>
    cases run
    exact step
  next => cases run
  next => cases run

/-- A step that neither asks for anything nor draws. It goes the same beside. -/
def Plain (m : EncodeM α) : Prop := ∀ e a after, m e = .ok a after →
  Encoder.Spends none e [] after ∧ ∀ f, e.Beside f → ∃ f', m f = .ok a f' ∧ after.Beside f'

namespace Plain

theorem result (a : α) : Plain (pure a : EncodeM α) := by
  intro e _ _ run
  cases run
  exact ⟨.refl e, fun f beside => ⟨f, rfl, beside⟩⟩

theorem refusal (error : StreamError) : Plain (refuse error : EncodeM α) := by
  intro _ _ _ run
  cases run

theorem bind (first : Plain m) (second : ∀ a, Plain (k a)) : Plain (m >>= k) := by
  intro e b after run
  obtain ⟨a, between, step, run⟩ := bind_eq_ok run
  obtain ⟨spends, same⟩ := first e a between step
  obtain ⟨spends', same'⟩ := second a between b after run
  refine ⟨spends.trans spends', fun f beside => ?_⟩
  obtain ⟨f', ran, beside⟩ := same f beside
  obtain ⟨f'', ran', beside⟩ := same' f' beside
  exact ⟨f'', (bind_of_ok ran).trans ran', beside⟩

theorem put (op : String) (slice : List UInt8) : Plain (EncodeM.put op slice) := by
  intro e _ after run
  unfold EncodeM.put at run
  cases taken : e.output.put slice with
  | mk cause output =>
    simp only [taken] at run
    cases cause with
    | some cause => cases run
    | none =>
      cases run
      refine ⟨.of_store rfl id rfl rfl, fun f beside => ?_⟩
      have same : f.output.put slice = (none, output) := beside.output ▸ taken
      refine ⟨{ f with output, position := f.position + slice.length }, ?_, beside.setting, rfl,
        congrArg (· + slice.length) beside.position, beside.readers⟩
      simp only [EncodeM.put, same]

theorem putting {m : EncodeM α} (h : Putting m) : Plain m := by
  induction h with
  | result a => exact .result a
  | refusal error => exact .refusal error
  | put op slice => exact .put op slice
  | bind _ _ first second => exact .bind first second

theorem tagged (tag : Tag) : Plain (EncodeM.tagged tag) := put _ _

theorem settings : Plain EncodeM.settings := by
  intro e _ _ run
  cases run
  exact ⟨.refl e, fun f beside => ⟨f, by rw [← beside.options_eq]; rfl, beside⟩⟩

/-- Bytes are read beside as they are read here. -/
theorem fill (cell want : ℕ) : Plain (EncodeM.fill cell want) := by
  have step : Plain (onStore (Store.fill cell want)) := by
    intro e _ after run
    cases run
    have cells : (e.store.fill cell want).2.deferrals = e.store.deferrals ∧
        (e.store.fill cell want).2.sequences = e.store.sequences := by
      unfold Store.fill
      cases e.store.readers[cell]? <;> exact ⟨rfl, rfl⟩
    refine ⟨.of_store rfl id cells.1 cells.2, fun f beside => ?_⟩
    have same : (f.store.fill cell want).1 = (e.store.fill cell want).1 ∧
        (f.store.fill cell want).2.readers = (e.store.fill cell want).2.readers := by
      unfold Store.fill
      rw [beside.readers]
      cases e.store.readers[cell]? with
      | none => exact ⟨rfl, beside.readers⟩
      | some script => exact ⟨rfl, rfl⟩
    refine ⟨{ f with store := (f.store.fill cell want).2 }, ?_, beside.setting, beside.output,
      beside.position, same.2⟩
    change EStateM.Result.ok (f.store.fill cell want).1 _ = .ok (e.store.fill cell want).1 _
    rw [same.1]
    rfl
  refine bind step fun filled => ?_
  cases filled with
  | bytes content => exact .result content
  | failure text missing => exact .refusal _

theorem copyBytes (size cell fuel copied : ℕ) :
    Plain (EncodeM.copyBytes size cell fuel copied) := by
  induction fuel generalizing copied with
  | zero => exact .result copied
  | succ fuel ih =>
    refine bind (fill cell size) fun content => ?_
    cases content with
    | nil => exact .result copied
    | cons byte content =>
      refine bind (putting (.writeBytes _ _)) fun _ => ?_
      split
      · exact .result _
      · exact ih _

/-- A step that looks at something first that is the same beside. -/
theorem got {γ : Type} {look : Encoder → γ} (same : ∀ e f, e.Beside f → look f = look e)
    {k : γ → EncodeM β} (h : ∀ seen, Plain (k seen)) : Plain (get >>= fun e => k (look e)) := by
  intro e b after run
  obtain ⟨spends, goes⟩ := h (look e) e b after run
  refine ⟨spends, fun f beside => ?_⟩
  rw [get_bind, same e f beside]
  exact goes f beside

theorem writeByteStream (cell : ℕ) : Plain (EncodeM.writeByteStream cell) := by
  have left (e f : Encoder) (beside : e.Beside f) :
      f.store.bytesLeft cell = e.store.bytesLeft cell := by
    rw [Store.bytesLeft, beside.readers, ← Store.bytesLeft]
  exact bind (tagged .byteStream) fun _ => bind settings fun options => got left fun most =>
    bind (copyBytes options.byteChunkSize cell (most + 1) 0) fun copied =>
      bind (putting (.put _ _)) fun _ => result copied

end Plain

/-! ## Stretches that are copied -/

/-- A stretch of a run, with the answers that it had for what it wrote, in whatever order they came.
Beside, the writer of a copy puts the same. -/
structure Accounts (own : Option ℕ) (e after : Encoder) (answers : List Answer)
    (copy : EncodeM Unit) : Prop where
  spends : ∃ log, log.Perm answers ∧ Encoder.Spends own e log after
  copied : ∀ f, e.Beside f → ∃ f', copy f = .ok () f' ∧ after.Beside f'

/-- A stretch of a run writes something of which there is a copy of a sort. -/
def Copied {κ : Type} (own : Option ℕ) (C : κ → List Answer → Prop) (copy : κ → EncodeM Unit)
    (e after : Encoder) : Prop :=
  ∃ k answers, C k answers ∧ Accounts own e after answers (copy k)

section

variable {κ ι : Type} {own : Option ℕ} {C : κ → List Answer → Prop} {D : ι → List Answer → Prop}
  {copy : κ → EncodeM Unit} {copy' : ι → EncodeM Unit} {answers later : List Answer}
  {m m' : EncodeM Unit} {between : Encoder}

theorem Accounts.trans (first : Accounts own e between answers m)
    (second : Accounts own between after later m') :
    Accounts own e after (answers ++ later) (do m; m') := by
  obtain ⟨⟨log, perm, spends⟩, copied⟩ := first
  obtain ⟨⟨log', perm', spends'⟩, copied'⟩ := second
  refine ⟨⟨log ++ log', perm.append perm', spends.trans spends'⟩, fun f beside => ?_⟩
  obtain ⟨f', run, beside⟩ := copied f beside
  obtain ⟨f'', run', beside⟩ := copied' f' beside
  exact ⟨f'', (bind_of_ok run).trans run', beside⟩

/-- A step on one side alone, without an answer. -/
theorem Accounts.ahead {scratch : Option Scratch} {store : Store}
    (spends : Encoder.Spends own e [] { e with scratch, store })
    (readers : store.readers = e.store.readers)
    (rest : Accounts own { e with scratch, store } after answers m) :
    Accounts own e after answers m := by
  obtain ⟨⟨log, perm, spends'⟩, copied⟩ := rest
  exact ⟨⟨log, perm, spends.trans spends'⟩, fun f beside => copied f (beside.update readers)⟩

theorem Accounts.widen (h : Accounts none e after answers m) : Accounts own e after answers m := by
  obtain ⟨⟨log, perm, spends⟩, copied⟩ := h
  exact ⟨⟨log, perm, spends.widen⟩, copied⟩

theorem Plain.accounts (plain : Plain m) (run : m e = .ok () after) :
    Accounts own e after [] m := by
  obtain ⟨spends, copied⟩ := plain e () after run
  exact ⟨⟨[], .nil, spends.widen⟩, copied⟩

theorem Copied.imp (h : Copied own C copy e after) (toward : ∀ k answers, C k answers →
    ∃ l, D l answers ∧ ∀ f, e.Beside f → copy' l f = copy k f) : Copied own D copy' e after := by
  obtain ⟨k, answers, holds, spends, copied⟩ := h
  obtain ⟨l, holds, same⟩ := toward k answers holds
  exact ⟨l, answers, holds, spends, fun f beside => same f beside ▸ copied f beside⟩

theorem Copied.ahead {scratch : Option Scratch} {store : Store}
    (spends : Encoder.Spends own e [] { e with scratch, store })
    (readers : store.readers = e.store.readers)
    (rest : Copied own C copy { e with scratch, store } after) : Copied own C copy e after := by
  obtain ⟨k, answers, holds, accounts⟩ := rest
  exact ⟨k, answers, holds, accounts.ahead spends readers⟩

theorem Copied.widen (h : Copied none C copy e after) : Copied own C copy e after := by
  obtain ⟨k, answers, holds, accounts⟩ := h
  exact ⟨k, answers, holds, accounts.widen⟩

/-- A plain step in front of a stretch is taken on both sides. -/
theorem Copied.behind {α : Type} {m : EncodeM α} {k : α → EncodeM Unit}
    {copy : κ → α → EncodeM Unit} (plain : Plain m) (run : (m >>= k) e = .ok () after)
    (rest : ∀ a between, Encoder.Spends none e [] between → k a between = .ok () after →
      Copied own C (copy · a) between after) :
    Copied own C (fun x => m >>= copy x) e after := by
  obtain ⟨a, between, step, run⟩ := bind_eq_ok run
  obtain ⟨spends, same⟩ := plain e a between step
  obtain ⟨x, answers, holds, ⟨log, perm, spends'⟩, copied⟩ := rest a between spends run
  refine ⟨x, answers, holds, ⟨log, perm, spends.widen.trans spends'⟩, fun f beside => ?_⟩
  obtain ⟨f', ran, beside⟩ := same f beside
  obtain ⟨f'', ran', beside⟩ := copied f' beside
  exact ⟨f'', (bind_of_ok ran).trans ran', beside⟩

/-- A plain step behind a stretch is taken on both sides. -/
theorem Copied.followed {m last : EncodeM Unit} (plain : Plain last)
    (run : (do m; last) e = .ok () after)
    (first : ∀ between, m e = .ok () between → Copied own C copy e between) :
    Copied own C (fun x => do copy x; last) e after := by
  obtain ⟨⟨⟩, between, step, run⟩ := bind_eq_ok run
  obtain ⟨x, answers, holds, accounts⟩ := first between step
  refine ⟨x, answers, holds, ?_⟩
  rw [← List.append_nil answers]
  exact accounts.trans (plain.accounts run)

/-- Copies of one sort and then of another. -/
def Both (C : κ → List Answer → Prop) (D : ι → List Answer → Prop) (pair : κ × ι)
    (answers : List Answer) : Prop :=
  ∃ first second, answers = first ++ second ∧ C pair.1 first ∧ D pair.2 second

/-- One stretch after another. -/
theorem Copied.bind {m : EncodeM Unit} {k : Unit → EncodeM Unit} {origin : Encoder}
    {A : Value → Prop} (under : origin.Under A e) (run : (m >>= k) e = .ok () after)
    (first : ∀ between, m e = .ok () between → Copied own C copy e between)
    (second : ∀ between, origin.Under A between → k () between = .ok () after →
      Copied own D copy' between after) :
    Copied own (Both C D) (fun pair => do copy pair.1; copy' pair.2) e after := by
  obtain ⟨⟨⟩, between, step, run⟩ := bind_eq_ok run
  obtain ⟨x, answers, holds, accounts⟩ := first between step
  obtain ⟨log, perm, spends⟩ := accounts.spends
  obtain ⟨y, later, holds', accounts'⟩ := second between (under.spends spends) run
  exact ⟨(x, y), _, ⟨_, _, rfl, holds, holds'⟩, accounts.trans accounts'⟩

end

/-! ## Aggregates that are copied -/

section

variable {origin : Encoder} {A : Value → Prop} {write write' : Value → EncodeM Unit}

/-- Values of a set that are written have copies that are written the same. -/
def CopiesItems (origin : Encoder) (A : Value → Prop) (write write' : Value → EncodeM Unit) :
    Prop :=
  ∀ {v : Value} {e after : Encoder}, A v → origin.Under A e → write v e = .ok () after →
    Copied none (Copies origin v) write' e after

variable (item : CopiesItems origin A write write')

include item

theorem copied_writeAll {items : List Value} (members : ∀ v ∈ items, A v) (under : origin.Under A e)
    (run : writeAll write items e = .ok () after) :
    Copied none (Each (Copies origin) items) (writeAll write') e after := by
  induction items generalizing e with
  | nil =>
    cases run
    exact ⟨[], [], .nil, Plain.accounts (.result ()) rfl⟩
  | cons v rest ih =>
    have both := Copied.bind under run (fun _ => item (members v (List.mem_cons_self ..)) under)
      fun _ under => ih (fun w inside => members w (List.mem_cons_of_mem _ inside)) under
    refine both.imp fun pair answers copies => ?_
    obtain ⟨first, second, rfl, head, tail⟩ := copies
    exact ⟨pair.1 :: pair.2, .cons head tail, fun _ _ => rfl⟩

theorem copied_writeEntries {entries : List (Value × Value)}
    (members : ∀ entry ∈ entries, A entry.1 ∧ A entry.2) (under : origin.Under A e)
    (run : writeEntries write entries e = .ok () after) :
    Copied none (EachEntry (Copies origin) entries) (writeEntries write') e after := by
  induction entries generalizing e with
  | nil =>
    cases run
    exact ⟨[], [], .nil, Plain.accounts (.result ()) rfl⟩
  | cons entry rest ih =>
    obtain ⟨here, later⟩ := List.forall_mem_cons.1 members
    have both := Copied.bind under run (fun _ => item here.1 under) fun _ under run =>
      Copied.bind under run (fun _ => item here.2 under) fun _ under => ih later under
    refine both.imp fun triple answers copies => ?_
    obtain ⟨first, _, rfl, key, second, third, rfl, value, tail⟩ := copies
    exact ⟨(triple.1, triple.2.1) :: triple.2.2, .cons key value tail, fun _ _ => rfl⟩

theorem copied_writeCountable (oid : Oid) {items : List Value} (members : ∀ v ∈ items, A v)
    (under : origin.Under A e) (run : writeCountable write oid items e = .ok () after) :
    Copied none (Each (Copies origin) items) (writeCountable write' oid) e after := by
  have whole := Copied.behind (.put _ _) run fun _ between spends run => Copied.behind
    (.putting (.writeLength _ _)) run fun _ between spends' run =>
      copied_writeAll item members ((under.spends spends).spends spends') run
  refine whole.imp fun items' answers each => ⟨items', each, fun f _ => ?_⟩
  rw [writeCountable, each.length_eq]
  rfl

theorem copied_collection {tag emptyTag : Tag} {items : List Value} (members : ∀ v ∈ items, A v)
    (under : origin.Under A e)
    (run : (if items.isEmpty then tagged emptyTag else writeCountable write tag.code items) e =
      .ok () after) :
    Copied none (Each (Copies origin) items) (fun items' =>
      if items'.isEmpty then tagged emptyTag else writeCountable write' tag.code items') e
      after := by
  have same {items' : List Value} {answers : List Answer}
      (each : Each (Copies origin) items items' answers) : items'.isEmpty = items.isEmpty := by
    cases each <;> rfl
  cases empty : items.isEmpty with
  | true =>
    rw [if_pos empty] at run
    obtain rfl := List.isEmpty_iff.1 empty
    exact ⟨[], [], .nil, (Plain.tagged emptyTag).accounts run⟩
  | false =>
    rw [if_neg (Bool.eq_false_iff.1 empty)] at run
    refine (copied_writeCountable item tag.code members under run).imp fun items' answers each =>
      ⟨items', each, fun f _ => ?_⟩
    rw [if_neg (Bool.eq_false_iff.1 ((same each).trans empty))]

theorem copied_writeMap {m : OrderedMap Value Value}
    (members : ∀ entry ∈ m.entries, A entry.1 ∧ A entry.2) (under : origin.Under A e)
    (run : writeMap write m e = .ok () after) :
    Copied none (fun m' => EachEntry (Copies origin) m.entries m'.entries) (writeMap write') e
      after := by
  obtain ⟨entries⟩ := m
  cases entries with
  | nil => exact ⟨⟨[]⟩, [], .nil, (Plain.tagged .mapEmpty).accounts run⟩
  | cons entry rest =>
    have whole := Copied.behind (.tagged .map) run fun _ between spends run =>
      Copied.behind (.putting (.writeLength _ _)) run fun _ between spends' run =>
        copied_writeEntries item members ((under.spends spends).spends spends') run
    refine whole.imp fun entries' answers each => ⟨⟨entries'⟩, each, fun f _ => ?_⟩
    have count := each.length_eq
    cases entries' with
    | nil => cases count
    | cons entry' rest' =>
      change (tagged .map >>= fun _ => Wire.writeLength Tag.map.code (entry' :: rest').length >>=
        fun _ => _) f = _
      rw [count]
      rfl

/-! ### Chunks -/

theorem copied_writeChunk (oid : Oid) {items : List Value} (members : ∀ v ∈ items, A v)
    (under : origin.Under A e) (run : writeChunk write oid items e = .ok () after) :
    Copied none (Each (Copies origin) items) (writeChunk write' oid) e after := by
  have whole := Copied.behind (.putting (.writeLength _ _)) run fun _ _ spends run =>
    copied_writeAll item members (under.spends spends) run
  refine whole.imp fun items' answers each => ⟨items', each, fun f _ => ?_⟩
  rw [writeChunk, each.length_eq]

theorem copied_writeChunks (oid : Oid) {pieces : List (List Value)}
    (members : ∀ piece ∈ pieces, ∀ v ∈ piece, A v) (under : origin.Under A e)
    (run : writeChunks write oid pieces e = .ok () after) :
    Copied none (Each (Each (Copies origin)) pieces) (writeChunks write' oid) e after := by
  induction pieces generalizing e with
  | nil =>
    cases run
    exact ⟨[], [], .nil, Plain.accounts (.result ()) rfl⟩
  | cons piece rest ih =>
    obtain ⟨here, later⟩ := List.forall_mem_cons.1 members
    have both := Copied.bind under run (fun _ => copied_writeChunk item oid here under)
      fun _ under => ih later under
    refine both.imp fun pair answers copies => ?_
    obtain ⟨first, second, rfl, head, tail⟩ := copies
    exact ⟨pair.1 :: pair.2, .cons head tail, fun _ _ => rfl⟩

end

/-- No more items are left out of what is short enough. -/
theorem take_limitOf {options : Options} {items : List Value}
    (short : ∀ most, options.uncountableMaxItems = some most → items.length ≤ most) :
    items.take (options.limitOf items) = items := by
  apply List.take_of_length_le
  unfold Options.limitOf
  cases cap : options.uncountableMaxItems with
  | none => exact Nat.le_refl _
  | some most => exact short most cap

section

variable {origin : Encoder} {A : Value → Prop} {write write' : Value → EncodeM Unit}
  (item : CopiesItems origin A write write')

include item

theorem copied_writeSeq {items : List Value} (members : ∀ v ∈ items, A v)
    (under : origin.Under A e) (run : writeSeq write items e = .ok () after) :
    Copied none (Each (Copies origin) (items.take (origin.options.limitOf items)))
      (writeSeq write') e after := by
  have options : e.options = origin.options := congrArg Setting.options under.setting
  rw [writeSeq_taken, options] at run
  let pieces := chunks origin.options.objectChunkSize (items.take (origin.options.limitOf items))
  have inside : ∀ piece ∈ pieces, ∀ v ∈ piece, A v := by
    intro piece isPiece v mem
    have taken : v ∈ pieces.flatten := List.mem_flatten.2 ⟨piece, isPiece, mem⟩
    rw [flatten_chunks] at taken
    exact members v (List.mem_of_mem_take taken)
  have whole := Copied.behind (.tagged .seq) run fun _ _ spends run =>
    .followed (.put _ _) run fun _ => copied_writeChunks item _ inside (under.spends spends)
  refine whole.imp fun pieces' answers cut => ?_
  obtain ⟨items', each, rfl⟩ := cut.of_chunks
  refine ⟨items', each, fun f beside => ?_⟩
  have short : ∀ most, origin.options.uncountableMaxItems = some most → items'.length ≤ most := by
    intro most cap
    rw [each.length_eq, Options.limitOf, cap]
    exact List.length_take_le ..
  rw [writeSeq_taken, beside.options_eq, options, take_limitOf short]
  rfl

/-! ### Sequences that are drawn from -/

omit item in
/-- The first items of the sequence in a cell, if there is one. -/
def firstsOf (store : Store) (cell limit : ℕ) : List Value :=
  (store.sequences[cell]?).elim [] fun s => (s.firsts limit).1

omit item in
/-- The first item is drawn, and then the others. -/
theorem firstsOf_succ (store : Store) (cell limit : ℕ) :
    firstsOf store cell (limit + 1) =
      match (store.draw cell).1 with
      | none => []
      | some v => v :: firstsOf (store.draw cell).2 cell limit := by
  unfold firstsOf
  rw [Store.draw_fst, Store.getElem?_draw_self]
  cases store.sequences[cell]? with
  | none => rfl
  | some s =>
    rcases drew : s.draw with ⟨_ | v, left⟩ <;>
      simp only [Option.elim_some, Option.bind_some, Option.map_some, Sequence.firsts, drew]

omit item in
/-- A stretch may draw from a sequence that it is in the middle of. -/
theorem spends_draw (e : Encoder) (cell : ℕ) :
    Encoder.Spends (some cell) e [] { e with store := (e.store.draw cell).2 } where
  setting := rfl
  idle := id
  answers := (e.store.draw_others cell).2 ▸ .none _
  drawn other := by
    by_cases same : cell = other
    · subst same
      refine ⟨1, ?_, fun foreign => absurd rfl foreign⟩
      rw [Store.getElem?_draw_self]
      cases e.store.sequences[cell]? with
      | none => rfl
      | some s =>
        rcases drew : s.draw with ⟨_ | v, left⟩ <;>
          simp only [Option.map_some, Sequence.firsts, drew]
    · refine ⟨0, ?_, fun _ _ => rfl⟩
      rw [Store.getElem?_draw_ne _ same]
      cases e.store.sequences[other]? <;> rfl

/-- The items that are left in the buffer are the last piece. -/
theorem copied_writeRest (oid : Oid) (size room : ℕ) {written count : ℕ} {chunk chunk' : Scratch}
    (members : ∀ v ∈ chunk.items.toList, A v) (under : origin.Under A e)
    (run : writeRest write oid written chunk e = .ok (.ok count, chunk') after) :
    Copied none (Each (Each (Copies origin))
        (chunksBehind size chunk.items.toList.reverse room [])) (writeChunks write' oid) e after ∧
      chunk'.items = #[] := by
  unfold writeRest at run
  split at run
  next empty =>
    cases run
    have none := Array.isEmpty_iff.1 empty
    rw [none]
    exact ⟨⟨[], [], .nil, Plain.accounts (.result ()) rfl⟩, rfl⟩
  next some =>
    obtain ⟨outcome, between, step, run⟩ := bind_eq_ok run
    cases outcome with
    | error error => cases run
    | ok =>
      cases run
      have pieces : chunksBehind size chunk.items.toList.reverse room [] =
          [chunk.items.toList] := by
        have some : chunk.items ≠ #[] := by simpa using some
        simp [chunksBehind, some]
      rw [pieces]
      refine ⟨?_, rfl⟩
      have wrote := copied_writeChunk item oid members under (attempt_eq_ok step)
      refine wrote.imp fun piece answers each => ?_
      refine ⟨[piece], ?_, fun f _ => ?_⟩
      · rw [← List.append_nil answers]
        exact .cons each .nil
      · exact congrFun (bind_pure_unit (m := EncodeM)) f

/-- The items are drawn one after another, and each chunk is written when it is full. -/
theorem copied_drawChunks (oid : Oid) {size cell : ℕ} (limit written : ℕ) {count : ℕ}
    {chunk chunk' : Scratch} (room : chunk.items.size < size)
    (members : ∀ v ∈ chunk.items.toList, A v) (inside : A (.lazySeq cell))
    (busy : ∀ s, e.store.sequences[cell]? = some s → s.busy = true) (under : origin.Under A e)
    (run : drawChunks write oid size cell limit written chunk e = .ok (.ok count, chunk') after) :
    Copied (some cell) (Each (Each (Copies origin)) (chunksBehind size chunk.items.toList.reverse
        (size - chunk.items.size) (firstsOf e.store cell limit))) (writeChunks write' oid) e after ∧
      chunk'.items = #[] := by
  induction limit generalizing written chunk e with
  | zero =>
    have none : firstsOf e.store cell 0 = [] := by
      unfold firstsOf
      cases e.store.sequences[cell]? <;> rfl
    rw [none]
    have rest := copied_writeRest item oid size (size - chunk.items.size) members under run
    exact ⟨rest.1.widen, rest.2⟩
  | succ limit ih =>
    let between : Encoder := { e with store := (e.store.draw cell).2 }
    have spends : Encoder.Spends (some cell) e [] between := spends_draw e cell
    have still := spends.marked busy
    have under' := under.spends spends
    have drew : draw cell e = .ok (e.store.draw cell).1 between := rfl
    rw [drawChunks, bind_of_ok drew] at run
    rw [firstsOf_succ]
    cases found : (e.store.draw cell).1 with
    | none =>
      rw [found] at run
      have rest := copied_writeRest item oid size (size - chunk.items.size) members under' run
      exact ⟨.ahead spends (e.store.draw_others cell).1 rest.1.widen, rest.2⟩
    | some v =>
      rw [found] at run
      have member : A v := by
        rw [Store.draw_fst] at found
        obtain ⟨s, there, supplied⟩ := Option.bind_eq_some_iff.1 found
        exact under.encloses inside (.item there (s.supplies_of_draw.1 v supplied))
      have items : (chunk.push v).items.toList = chunk.items.toList ++ [v] := Array.toList_push
      have pushed : ∀ w ∈ (chunk.push v).items.toList, A w := by
        rw [items]
        intro w mem
        rcases List.mem_append.1 mem with mem | mem
        · exact members w mem
        · exact List.mem_singleton.1 mem ▸ member
      have count : (chunk.push v).items.size = chunk.items.size + 1 := Array.size_push ..
      dsimp only at run
      split at run
      next full =>
        obtain ⟨outcome, last, step, run⟩ := bind_eq_ok run
        cases outcome with
        | error error => cases run
        | ok =>
          obtain ⟨piece, answers, head, accounts⟩ :=
            copied_writeChunk item oid pushed under' (attempt_eq_ok step)
          obtain ⟨log, perm, spends'⟩ := accounts.spends
          obtain ⟨⟨pieces, later, tail, accounts'⟩, empty⟩ := ih (written + 1)
            (Nat.lt_of_le_of_lt (Nat.zero_le _) room) (fun _ mem => by cases mem)
            (spends'.marked still)
            (under'.spends spends') run
          refine ⟨.ahead spends (e.store.draw_others cell).1 ⟨piece :: pieces, answers ++ later, ?_,
            accounts.widen.trans accounts'⟩, empty⟩
          have cut : chunksBehind size chunk.items.toList.reverse (size - chunk.items.size)
              (v :: firstsOf between.store cell limit) = (chunk.push v).items.toList ::
                chunksBehind size [] size (firstsOf last.store cell limit) := by
            have last : size - chunk.items.size ≤ 1 := by omega
            rw [chunksBehind, if_pos last, List.reverse_cons, List.reverse_reverse, items, firstsOf,
              firstsOf, spends'.kept still]
          rw [cut]
          exact .cons head tail
      next more =>
        obtain ⟨⟨pieces, answers, each, accounts⟩, empty⟩ :=
          ih (written + 1) (by omega) pushed still under' run
        refine ⟨.ahead spends (e.store.draw_others cell).1 ⟨pieces, answers, ?_, accounts⟩, empty⟩
        have less : ¬ size - chunk.items.size ≤ 1 := by omega
        rw [chunksBehind, if_neg less]
        rwa [items, List.reverse_append, count, Nat.sub_add_eq] at each

omit item in
/-- As many items are drawn as may be, or as there are. -/
theorem drawLimit_eq_ok {cell limit : ℕ} (run : drawLimit cell e = .ok limit after) :
    after = e ∧ (e.options.uncountableMaxItems <|> e.store.size? cell) = some limit := by
  have step : onStore (fun store => (store.size? cell, store)) e = .ok (e.store.size? cell) e := rfl
  rw [drawLimit, settings_bind, bind_of_ok step] at run
  cases cap : e.options.uncountableMaxItems with
  | some most =>
    simp only [cap] at run
    cases run
    exact ⟨rfl, rfl⟩
  | none =>
    cases size : e.store.size? cell with
    | some size =>
      simp only [cap, size] at run
      cases run
      exact ⟨rfl, rfl⟩
    | none =>
      simp only [cap, size] at run
      cases run

omit item in
/-- The steps of an uncountable aggregate that succeeds. -/
theorem writeUncountable_eq_ok {oid : Oid} {cell count : ℕ}
    (run : writeUncountable write oid cell e = .ok count after) :
    ∃ opened limit chunk lent chunk' finished back,
      (Wire.writeOid oid : EncodeM Unit) e = .ok () opened ∧
      (opened.options.uncountableMaxItems <|> opened.store.size? cell) = some limit ∧
      rent opened = .ok chunk lent ∧
      drawChunks write oid opened.options.objectChunkSize cell limit 0 chunk lent =
        .ok (.ok count, chunk') finished ∧
      giveBack chunk' finished = .ok () back ∧ writeTerminator back = .ok () after := by
  obtain ⟨⟨⟩, opened, opening, behind⟩ := bind_eq_ok run
  obtain ⟨limit, _, limited, rest⟩ := bind_eq_ok behind
  obtain ⟨rfl, most⟩ := drawLimit_eq_ok limited
  rw [settings_bind] at rest
  obtain ⟨chunk, lent, rented, rest⟩ := bind_eq_ok rest
  obtain ⟨⟨outcome, chunk'⟩, finished, loop, rest⟩ := bind_eq_ok rest
  obtain ⟨⟨⟩, back, returned, rest⟩ := bind_eq_ok rest
  obtain ⟨written, _, conclusion, rest⟩ := bind_eq_ok rest
  obtain ⟨⟨⟩, _, ending, rest⟩ := bind_eq_ok rest
  cases rest
  cases outcome with
  | error error => cases conclusion
  | ok _ =>
    cases conclusion
    exact ⟨_, limit, chunk, lent, chunk', finished, back, opening, most, rented, loop, returned,
      ending⟩

omit item in
/-- A shared sequence that is written was free, and is marked meanwhile. -/
theorem writeLazySeq_eq_ok {cell : ℕ} (run : writeLazySeq write cell e = .ok () after) :
    e.store.sequenceIsBusy cell = false ∧ ∃ count last,
      writeUncountable write Tag.seq.code cell { e with store := e.store.markSequence cell true } =
        .ok count last ∧
      after = { last with store := last.store.markSequence cell false } := by
  unfold writeLazySeq at run
  rw [get_bind] at run
  cases busy : e.store.sequenceIsBusy cell with
  | true =>
    rw [if_pos busy] at run
    cases run
  | false =>
    simp only [busy] at run
    let marked : Encoder := { e with store := e.store.markSequence cell true }
    have mark : onStore (fun store => ((), store.markSequence cell true)) e = .ok () marked := rfl
    obtain ⟨⟨⟩, _, marking, run⟩ := bind_eq_ok run
    cases mark.symm.trans marking
    obtain ⟨outcome, last, attempted, run⟩ := bind_eq_ok run
    obtain ⟨⟨⟩, _, unmarking, run⟩ := bind_eq_ok run
    cases unmarking
    obtain ⟨count, _, conclusion, run⟩ := bind_eq_ok run
    cases run
    cases outcome with
    | error error => cases conclusion
    | ok count =>
      cases conclusion
      exact ⟨rfl, count, last, attempt_eq_ok attempted, rfl⟩

theorem copied_writeUncountable (oid : Oid) {cell count : ℕ} (inside : A (.lazySeq cell))
    (busy : ∀ s, e.store.sequences[cell]? = some s → s.busy = true) (under : origin.Under A e)
    (run : writeUncountable write oid cell e = .ok count after) :
    ∃ limit, (e.options.uncountableMaxItems <|> e.store.size? cell) = some limit ∧
      Copied (some cell) (Each (Copies origin) (firstsOf e.store cell limit))
        (fun items => do
          Wire.writeOid oid
          writeChunks write' oid (chunks origin.options.objectChunkSize items)
          writeTerminator) e after := by
  obtain ⟨opened, limit, chunk, _, chunk', last, back, opening, most, rented, loop, returned,
    ending⟩ := writeUncountable_eq_ok run
  have plain : Plain (Wire.writeOid oid : EncodeM Unit) := .put _ _
  have spends := (plain e () opened opening).1
  have same := spends.kept busy
  have under' := under.spends spends
  have options : opened.options = origin.options := congrArg Setting.options under'.setting
  refine ⟨limit, ?_, ?_⟩
  · rwa [spends.options_eq, Store.size?, same] at most
  rw [options] at loop
  obtain ⟨_, rented', empty⟩ := rent_of_idle under'.idle
  cases rented'.symm.trans rented
  let lent : Encoder := { opened with scratch := none }
  have lending : Encoder.Spends (some cell) opened [] lent :=
    .of_store rfl (fun _ _ there => by cases there) rfl rfl
  have room : chunk.items.size < origin.options.objectChunkSize := by
    rw [empty]
    exact origin.options.objectChunkSize_pos
  have marked : ∀ s, lent.store.sequences[cell]? = some s → s.busy = true := by
    intro s there
    rw [same] at there
    exact busy s there
  have none : ∀ v ∈ chunk.items.toList, A v := by
    rw [empty]
    exact fun _ mem => by cases mem
  obtain ⟨⟨pieces, answers, cut, accounts⟩, empty'⟩ := copied_drawChunks item oid limit 0 room
    none inside marked (under'.spends lending) loop
  have drawn : firstsOf lent.store cell limit = firstsOf e.store cell limit := by
    rw [firstsOf, firstsOf, same]
  rw [empty, drawn] at cut
  obtain ⟨items, each, rfl⟩ := cut.of_chunks
  obtain ⟨log, -, spends'⟩ := accounts.spends
  obtain ⟨scratch, gave, clean⟩ :=
    giveBack_of_idle ((under'.spends lending).spends spends').idle empty'
  cases gave.symm.trans returned
  have giving : Encoder.Spends (some cell) last [] { last with scratch } :=
    .of_store rfl (fun _ => clean) rfl rfl
  have closing : Accounts (some cell) { last with scratch } after [] writeTerminator :=
    Plain.accounts (.put _ _) ending
  have whole := (plain.accounts opening).trans
    ((accounts.ahead lending rfl).trans (closing.ahead giving rfl))
  rw [List.nil_append, List.append_nil] at whole
  exact ⟨items, answers, each, whole⟩

/-- A sequence that is drawn from is copied as one in memory. -/
theorem copied_writeLazySeq {cell : ℕ} (inside : A (.lazySeq cell)) (under : origin.Under A e)
    (run : writeLazySeq write cell e = .ok () after) :
    Copied none (fun items => Copies origin (.lazySeq cell) (.seq items)) (writeSeq write') e
      after := by
  obtain ⟨busy, count, last, ran, rfl⟩ := writeLazySeq_eq_ok run
  let marked : Encoder := { e with store := e.store.markSequence cell true }
  have stays : ∀ s, marked.store.sequences[cell]? = some s → s.busy = true := by
    intro s there
    have here := Store.getElem?_markSequence e.store cell cell true
    rw [if_pos rfl] at here
    obtain ⟨before, -, rfl⟩ := Option.map_eq_some_iff.1 (here.symm.trans there)
    rfl
  obtain ⟨limit, most, items, answers, each, ⟨log, perm, spends⟩, copied⟩ :=
    copied_writeUncountable item Tag.seq.code inside stays (under.mark cell true) ran
  have options : e.options = origin.options := congrArg Setting.options under.setting
  have short : ∀ most, origin.options.uncountableMaxItems = some most →
      items.length ≤ most := by
    intro cap capped
    change (e.options.uncountableMaxItems <|> _) = _ at most
    rw [options, capped] at most
    obtain rfl : cap = limit := Option.some.inj most
    rw [each.length_eq, firstsOf]
    cases marked.store.sequences[cell]? with
    | none => exact Nat.zero_le _
    | some s => exact s.firsts_length_le cap
  refine ⟨items, answers, ?_, ⟨log, perm, spends.unmarked busy⟩, fun f beside => ?_⟩
  · obtain ⟨before, mark, here⟩ := under.later cell
    have there := Store.getElem?_markSequence e.store cell cell true
    rw [if_pos rfl, here] at there
    change (e.options.uncountableMaxItems <|> marked.store.size? cell) = _ at most
    rw [options, Store.size?, there] at most
    rw [firstsOf, there] at each
    cases source : origin.store.sequences[cell]? with
    | none =>
      rw [source] at each
      obtain ⟨rfl, rfl⟩ := each.eq_nil
      exact .usedUp source
    | some s =>
      rw [source] at each most
      simp only [Option.map_some, Option.elim_some, Sequence.firsts_mark] at each
      exact .lazySeq source most each
  · rw [writeSeq_taken, beside.options_eq, options, take_limitOf short]
    obtain ⟨f', wrote, beside'⟩ := copied f (beside.update rfl)
    exact ⟨f', wrote, beside'.update rfl⟩

end

/-! ### Errors -/

mutual

theorem copied_writeThrowable {origin : Encoder} {A : Value → Prop}
    {write write' : Value → EncodeM Unit} (item : CopiesItems origin A write write')
    (t : Throwable Value) {e after : Encoder} (member : A (.throwable t))
    (under : origin.Under A e) (run : writeThrowable write t e = .ok () after) :
    Copied none (fun t' => Copies origin (.throwable t) (.throwable t')) (writeThrowable write') e
      after := by
  obtain ⟨message, frames, cause, suppressed, data⟩ := t
  have below {e : Encoder} (under : origin.Under A e)
      (run : (do
        writeOptionalText message
        Wire.writeLength Tag.throwable.code frames.length
        frames.forM writeFrame
        writeCause write cause
        Wire.writeLength Tag.throwable.code suppressed.length
        writeSuppressed write suppressed) e = .ok () after) :
      Copied none (Both
          (fun cause' : Option (Throwable Value) => Each (Copies origin)
            (cause.toList.map .throwable) (cause'.toList.map .throwable))
          fun suppressed' : List (Throwable Value) => Each (Copies origin)
            (suppressed.map .throwable) (suppressed'.map .throwable))
        (fun pair => do
          writeOptionalText message
          Wire.writeLength Tag.throwable.code frames.length
          frames.forM writeFrame
          writeCause write' pair.1
          Wire.writeLength Tag.throwable.code suppressed.length
          writeSuppressed write' pair.2) e after :=
    .behind (.putting (.writeOptionalText _)) run fun _ _ spends run =>
      .behind (.putting (.writeLength _ _)) run fun _ _ spends' run =>
        .behind (.putting (.forM Putting.writeFrame _)) run fun _ _ spends'' run =>
          have under := ((under.spends spends).spends spends').spends spends''
          .bind under run
            (fun _ => copied_writeCause item cause (fun t below =>
              under.encloses member (.cause below)) under)
            fun _ under run => .behind (.putting (.writeLength _ _)) run fun _ _ spends run =>
              copied_writeSuppressed item suppressed (fun t beside =>
                under.encloses member (.suppressed beside)) (under.spends spends) run
  have count {suppressed' : List (Throwable Value)} {answers : List Answer}
      (each : Each (Copies origin) (suppressed.map .throwable) (suppressed'.map .throwable)
        answers) :
      suppressed'.length = suppressed.length := by
    have same := each.length_eq
    rwa [List.length_map, List.length_map] at same
  cases data with
  | none =>
    have whole := Copied.behind (.tagged .throwable) run fun _ _ spends run =>
      below (under.spends spends) run
    refine whole.imp fun pair answers copies => ?_
    obtain ⟨first, second, rfl, cause, suppressed⟩ := copies
    have nothing : Each (Copies origin) ((none : Option (OrderedMap Value Value)).toList.map .map)
        ((none : Option (OrderedMap Value Value)).toList.map .map) [] := .nil
    refine ⟨⟨message, frames, pair.1, pair.2, none⟩, .throwable nothing cause suppressed,
      fun f _ => ?_⟩
    rw [writeThrowable, count suppressed]
  | some m =>
    have inside := under.encloses member (.data rfl)
    have whole := Copied.behind (.tagged .throwableWithData) run fun _ _ spends run =>
      have under := under.spends spends
      .bind under run (fun _ => copied_writeMap item (fun entry mem =>
        ⟨under.encloses inside (.key mem), under.encloses inside (.value mem)⟩) under)
        fun _ under run => below under run
    refine whole.imp fun triple answers copies => ?_
    obtain ⟨first, _, rfl, entries, second, third, rfl, cause, suppressed⟩ := copies
    have data : Each (Copies origin) ((some m).toList.map .map) ((some triple.1).toList.map .map)
        first := by
      rw [← List.append_nil first]
      exact .cons (.map entries) .nil
    refine ⟨⟨message, frames, triple.2.1, triple.2.2, some triple.1⟩,
      .throwable data cause suppressed, fun f _ => ?_⟩
    rw [writeThrowable, count suppressed]

theorem copied_writeCause {origin : Encoder} {A : Value → Prop}
    {write write' : Value → EncodeM Unit} (item : CopiesItems origin A write write')
    (cause : Option (Throwable Value)) {e after : Encoder}
    (members : ∀ t, cause = some t → A (.throwable t)) (under : origin.Under A e)
    (run : writeCause write cause e = .ok () after) :
    Copied none (fun cause' : Option (Throwable Value) => Each (Copies origin)
      (cause.toList.map .throwable) (cause'.toList.map .throwable)) (writeCause write') e
      after := by
  cases cause with
  | none => exact ⟨none, [], .nil, Plain.accounts (.put _ _) run⟩
  | some t =>
    have whole := Copied.behind (.put _ _) run fun _ _ spends run =>
      copied_writeThrowable item t (members t rfl) (under.spends spends) run
    refine whole.imp fun t' answers copies => ⟨some t', ?_, fun _ _ => rfl⟩
    rw [← List.append_nil answers]
    exact .cons copies .nil

theorem copied_writeSuppressed {origin : Encoder} {A : Value → Prop}
    {write write' : Value → EncodeM Unit} (item : CopiesItems origin A write write')
    (ts : List (Throwable Value)) {e after : Encoder}
    (members : ∀ t ∈ ts, A (.throwable t)) (under : origin.Under A e)
    (run : writeSuppressed write ts e = .ok () after) :
    Copied none (fun ts' : List (Throwable Value) => Each (Copies origin)
      (ts.map .throwable) (ts'.map .throwable)) (writeSuppressed write') e after := by
  cases ts with
  | nil => exact ⟨[], [], .nil, Plain.accounts (.result ()) run⟩
  | cons t rest =>
    obtain ⟨here, later⟩ := List.forall_mem_cons.1 members
    have both := Copied.bind under run (fun _ => copied_writeThrowable item t here under)
      fun _ under => copied_writeSuppressed item rest later under
    refine both.imp fun pair answers copies => ?_
    obtain ⟨first, second, rfl, head, tail⟩ := copies
    exact ⟨pair.1 :: pair.2, .cons head tail, fun _ _ => rfl⟩

end

/-! ## Both phases -/

/-- The answer that a deferred value is asked for, if it is in a cell. -/
def Answer.to (v : Value) : Deferred Value → List Answer
  | .ready .. => []
  | .shared cell => [⟨cell, v⟩]

/-- What is asked for is part of the value, and asking for it is all that is done. -/
theorem spends_resolve {d : Deferred Value} {v : Value} (run : resolve d e = .ok v after) :
    Encoder.Spends none e (Answer.to v d) after ∧ (∀ f, e.Beside f → after.Beside f) ∧
      ∀ {options registry}, Part options registry e.store (.future d) v := by
  obtain ⟨came, rfl⟩ := resolve_eq_ok run
  cases d with
  | ready handle u =>
    cases came
    exact ⟨.refl e, fun _ => id, .ready⟩
  | shared cell =>
    cases there : e.store.deferrals[cell]? with
    | none =>
      rw [Store.resolve_shared_of_none there] at came
      cases came
    | some d =>
      simp only [Store.resolve_shared there] at came ⊢
      refine ⟨⟨rfl, id, .asked there came (.none _), fun other => ⟨0, ?_, fun _ _ => rfl⟩⟩,
        fun f beside => beside.update rfl,
        .brought there ((Deferral.brings_of_resolve _ d).1 v came)⟩
      cases e.store.sequences[other]? <;> rfl

section

variable {origin : Encoder} {A : Value → Prop} {v : Value}

/-- A second phase comes to what the second phase of a copy comes to. The first phase had answers
for it already. -/
def Finishes (origin : Encoder) (A : Value → Prop) (fuel : ℕ) (v : Value) (log : List Answer)
    (write : EncodeM Unit) : Prop :=
  ∀ {e after : Encoder}, origin.Under A e → write e = .ok () after →
    ∃ w answers later write', Copies origin v w answers ∧ (log ++ later).Perm answers ∧
      Encoder.Spends none e later after ∧
      (∀ f, f.setting = origin.setting → prepare fuel w f = .ok write' f) ∧
      ∀ f, e.Beside f → ∃ f', write' f = .ok () f' ∧ after.Beside f'

/-- The first phase decides nothing. -/
theorem Finishes.immediate {κ : Type} {fuel : ℕ} {rebuild : κ → Value} {write : EncodeM Unit}
    {copy : κ → EncodeM Unit}
    (second : ∀ k f, f.setting = origin.setting → prepare fuel (rebuild k) f = .ok (copy k) f)
    (h : ∀ {e after : Encoder}, origin.Under A e → write e = .ok () after →
      Copied none (fun k => Copies origin v (rebuild k)) copy e after) :
    Finishes origin A fuel v [] write := by
  intro e after under run
  obtain ⟨k, answers, copies, ⟨log, perm, spends⟩, copied⟩ := h under run
  exact ⟨rebuild k, answers, log, copy k, copies, perm, spends, second k, copied⟩

/-- What the first phase of a value asks for, and what the second phase comes to then. -/
def CopiesBoth (origin : Encoder) (A : Value → Prop) (fuel : ℕ) (v : Value) : Prop :=
  ∀ (e between : Encoder) (write : EncodeM Unit), origin.Under A e →
    prepare fuel v e = .ok write between →
    ∃ log, Encoder.Spends none e log between ∧ (∀ f, e.Beside f → between.Beside f) ∧
      Finishes origin A fuel v log write

/-- The values of a set are copied in both phases. -/
def CopiesPhases (origin : Encoder) (A : Value → Prop) (fuel : ℕ) : Prop :=
  ∀ v, A v → CopiesBoth origin A fuel v

/-- Both phases together write a copy. -/
theorem CopiesPhases.item {fuel : ℕ} (phases : CopiesPhases origin A fuel) :
    CopiesItems origin A (encodeWithin fuel) (encodeWithin fuel) := by
  intro v e after member under run
  obtain ⟨write, between, prepared, run⟩ := bind_eq_ok run
  obtain ⟨log, spends, still, finishes⟩ := phases v member e between write under prepared
  obtain ⟨w, answers, later, write', copies, perm, spends', second, copied⟩ :=
    finishes (under.spends spends) run
  refine ⟨w, answers, copies, ⟨log ++ later, perm, spends.trans spends'⟩, fun f beside => ?_⟩
  have first := second f (beside.setting.trans under.setting)
  obtain ⟨f', run', beside'⟩ := copied f (still f beside)
  exact ⟨f', (bind_of_ok first).trans run', beside'⟩

/-- Most values are not looked into before the second phase. -/
theorem CopiesBoth.immediate {κ : Type} {fuel : ℕ} {write : EncodeM Unit}
    {copy : κ → EncodeM Unit} (rebuild : κ → Value)
    (first : ∀ {e}, origin.Under A e → prepare fuel v e = .ok write e)
    (second : ∀ k f, f.setting = origin.setting → prepare fuel (rebuild k) f = .ok (copy k) f)
    (h : ∀ {e after : Encoder}, origin.Under A e → write e = .ok () after →
      Copied none (fun k => Copies origin v (rebuild k)) copy e after) :
    CopiesBoth origin A fuel v := by
  intro e between write under prepared
  cases (first under).symm.trans prepared
  exact ⟨[], .refl e, fun _ => id, Finishes.immediate second h⟩

/-- The answer is prepared where the deferred value was, and asked for before anything in it. -/
theorem CopiesPhases.future {fuel : ℕ} (phases : CopiesPhases origin A fuel) {d : Deferred Value}
    (member : A (.future d)) : CopiesBoth origin A (fuel + 1) (.future d) := by
  intro e between write under prepared
  obtain ⟨u, asked, waited, rest⟩ := bind_eq_ok prepared
  obtain ⟨write', _, below, last⟩ := bind_eq_ok rest
  cases last
  obtain ⟨spends, still, part⟩ := spends_resolve waited
  obtain ⟨log, spends', still', finishes⟩ :=
    phases _ (under.encloses member part) _ _ _ (under.spends spends) below
  refine ⟨_, spends.trans spends', fun f beside => still' f (still f beside), ?_⟩
  intro e after under run
  obtain ⟨⟨⟩, started, opening, run⟩ := bind_eq_ok run
  obtain ⟨spends, opened⟩ := Plain.tagged .future e () started opening
  obtain ⟨w, answers, later, copy, copies, perm, spends', second, copied⟩ :=
    finishes (under.spends spends) run
  have deferred : Copies origin (.future d) (.future (.ready none w))
      (Answer.to u d ++ answers) := by
    cases d with
    | ready handle v =>
      cases (resolve_eq_ok waited).1
      exact .ready copies
    | shared cell => exact .asked copies
  refine ⟨_, _, later, do tagged .future; copy, deferred, ?_, spends.trans spends', ?_, ?_⟩
  · rw [List.append_assoc]
    exact perm.append_left _
  · intro f same
    exact (bind_of_ok (second f same)).trans rfl
  · intro f beside
    obtain ⟨f', run, beside⟩ := opened f beside
    obtain ⟨f'', run', beside⟩ := copied f' beside
    exact ⟨f'', (bind_of_ok run).trans run', beside⟩

/-- Notes that are saved are written before the value, which is prepared before they are. -/
theorem CopiesPhases.annotated {fuel : ℕ} (phases : CopiesPhases origin A fuel) {inner : Value}
    {notes : OrderedMap Value Value} (saves : origin.options.saveMeta = true)
    (member : A (.annotated inner notes)) :
    CopiesBoth origin A (fuel + 1) (.annotated inner notes) := by
  intro e between write under prepared
  have saved {f : Encoder} (same : f.setting = origin.setting) : f.options.saveMeta = true :=
    (congrArg (·.options.saveMeta) same).trans saves
  rw [prepare, prepareAbove, settings_bind, if_pos (saved under.setting)] at prepared
  obtain ⟨write', _, below, last⟩ := bind_eq_ok prepared
  cases last
  obtain ⟨log, spends, still, finishes⟩ :=
    phases _ (under.encloses member .inner) _ _ _ under below
  refine ⟨log, spends, still, ?_⟩
  intro e after under run
  obtain ⟨⟨⟩, started, opening, run⟩ := bind_eq_ok run
  obtain ⟨⟨⟩, noted, noting, run⟩ := bind_eq_ok run
  obtain ⟨spends, opened⟩ := Plain.tagged .annotated e () started opening
  have under := under.spends spends
  have inside := under.encloses member .notes
  obtain ⟨notes', noteAnswers, each, ⟨noteLog, notePerm, spends'⟩, wrote⟩ :=
    copied_writeMap phases.item (fun entry mem =>
      ⟨under.encloses inside (.key mem), under.encloses inside (.value mem)⟩) under noting
  obtain ⟨w, answers, later, copy, copies, perm, spends'', second, copied⟩ :=
    finishes (under.spends spends') run
  refine ⟨.annotated w notes', _, noteLog ++ later,
    do tagged .annotated; writeMap (encodeWithin fuel) notes'; copy,
    .annotated saves each copies, ?_, spends.trans (spends'.trans spends''), ?_, ?_⟩
  · calc
      (log ++ (noteLog ++ later)).Perm (noteLog ++ (log ++ later)) :=
        List.perm_append_comm_assoc ..
      List.Perm _ (noteAnswers ++ answers) := notePerm.append perm
  · intro f same
    rw [prepare, prepareAbove, settings_bind, if_pos (saved same)]
    exact (bind_of_ok (second f same)).trans rfl
  · intro f beside
    obtain ⟨f', run, beside⟩ := opened f beside
    obtain ⟨g, run', beside⟩ := wrote f' beside
    obtain ⟨g', run'', beside⟩ := copied g beside
    exact ⟨g', (bind_of_ok run).trans ((bind_of_ok run').trans run''), beside⟩

/-- A value under notes that are not saved is prepared when it is written. -/
theorem CopiesPhases.dropped {fuel : ℕ} (phases : CopiesPhases origin A fuel) {inner : Value}
    {notes : OrderedMap Value Value} (loses : origin.options.saveMeta = false)
    (member : A (.annotated inner notes)) :
    CopiesBoth origin A (fuel + 1) (.annotated inner notes) := by
  have first (inner : Value) (notes : OrderedMap Value Value) (f : Encoder)
      (same : f.setting = origin.setting) :
      prepare (fuel + 1) (.annotated inner notes) f = .ok (encodeWithin fuel inner) f := by
    have lost : f.options.saveMeta = false := (congrArg (·.options.saveMeta) same).trans loses
    rw [prepare, prepareAbove, settings_bind, if_neg (Bool.eq_false_iff.1 lost)]
    rfl
  refine .immediate (.annotated · ⟨[]⟩) (fun under => first inner notes _ under.setting)
    (fun inner' => first inner' ⟨[]⟩) fun under run => ?_
  exact (phases.item (under.encloses member .inner) under run).imp fun inner' answers copies =>
    ⟨inner', .dropped loses copies, fun _ _ => rfl⟩

/-- A placeholder is made of what is there. -/
theorem placeholderOf_eq_ok {o : HostObject Value} {p : Placeholder}
    (run : placeholderOf o e = .ok p after) : after = e := by
  rw [placeholderOf, settings_bind] at run
  split at run
  next =>
    cases run
    rfl
  next => cases run

/-- The placeholder of an object is the copy of it. -/
theorem CopiesBoth.placeholder {fuel : ℕ} {o : HostObject Value}
    (unknown : origin.registry.writer? o.type = none) :
    CopiesBoth origin A (fuel + 1) (.object o) := by
  intro e between write under prepared
  have unhandled : e.registry.writer? o.type = none :=
    (congrArg (·.registry.writer? o.type) under.setting).trans unknown
  rw [prepare, prepareAbove, get_bind, unhandled] at prepared
  obtain ⟨p, _, placed, last⟩ := bind_eq_ok prepared
  cases last
  obtain rfl := placeholderOf_eq_ok placed
  have second (_ : Unit) (f : Encoder) (_ : f.setting = origin.setting) :
      prepare (fuel + 1) (.unsupported p) f = .ok (writePlaceholder p) f := rfl
  refine ⟨[], .refl _, fun _ => id, Finishes.immediate second ?_⟩
  intro e after _ run
  exact ⟨(), [], .placeholder unknown, (Plain.putting (.writePlaceholder p)).accounts run⟩

/-- All values without objects that are handled are copied, whatever they lead to. -/
theorem copiesPhases (unhandled : ∀ o, A (.object o) → origin.registry.writer? o.type = none)
    (fuel : ℕ) : CopiesPhases origin A fuel := by
  induction fuel with
  | zero =>
    intro _ _ _ _ _ _ prepared
    cases prepared
  | succ fuel ih =>
    intro v member
    have item : CopiesItems origin A (encodeWithin fuel) (encodeWithin fuel) := ih.item
    by_cases isAtom : v.isAtom = true
    · rcases prepareAbove_atom isAtom with ⟨write, putting, first⟩ | ⟨error, refused⟩
      · refine .immediate (fun _ : Unit => v) (fun _ => first _ _) (fun _ _ _ => first _ _)
          fun _ run => ?_
        exact ⟨(), [], .atom isAtom, (Plain.putting putting).accounts run⟩
      · intro _ _ _ _ prepared
        cases (refused _ _).symm.trans prepared
    cases v with
    | future d => exact ih.future member
    | annotated inner notes =>
      cases saves : origin.options.saveMeta with
      | true => exact ih.annotated saves member
      | false => exact ih.dropped saves member
    | object o => exact .placeholder (unhandled o member)
    | vector items =>
      refine .immediate .vector (fun _ => rfl) (fun _ _ _ => rfl) fun under run => ?_
      exact (copied_collection item (fun v mem => under.encloses member (.vector mem)) under
        run).imp fun items' answers each => ⟨items', .vector each, fun _ _ => rfl⟩
    | set items =>
      refine .immediate .set (fun _ => rfl) (fun _ _ _ => rfl) fun under run => ?_
      exact (copied_collection item (fun v mem => under.encloses member (.set mem)) under
        run).imp fun items' answers each => ⟨items', .set each, fun _ _ => rfl⟩
    | map m =>
      refine .immediate .map (fun _ => rfl) (fun _ _ _ => rfl) fun under run => ?_
      exact (copied_writeMap item (fun entry mem => ⟨under.encloses member (.key mem),
        under.encloses member (.value mem)⟩) under run).imp fun m' answers each =>
          ⟨m', .map each, fun _ _ => rfl⟩
    | seq items =>
      refine .immediate .seq (fun _ => rfl) (fun _ _ _ => rfl) fun under run => ?_
      exact (copied_writeSeq item (fun v mem => under.encloses member (.seq mem)) under run).imp
        fun items' answers each => ⟨items', .seq each, fun _ _ => rfl⟩
    | lazySeq cell =>
      exact .immediate .seq (fun _ => rfl) (fun _ _ _ => rfl) fun under run =>
        copied_writeLazySeq item member under run
    | byteStream cell =>
      refine .immediate (fun _ : Unit => .byteStream cell) (fun _ => rfl) (fun _ _ _ => rfl)
        fun _ run => ?_
      have plain : Plain (do let _ ← EncodeM.writeByteStream cell : EncodeM Unit) :=
        .bind (.writeByteStream cell) fun _ => .result ()
      exact ⟨(), [], .byteStream, plain.accounts run⟩
    | throwable t =>
      exact .immediate .throwable (fun _ => rfl) (fun _ _ _ => rfl) fun under run =>
        copied_writeThrowable item t member under run
    | _ => exact absurd rfl isAtom

end

/-- A value that is written, whatever it leads to apart from objects that are handled, has a copy
that is written the same where there are no cells to ask. Each deferred value of the copy that was
in a cell before holds the answer to a call of its own: every resolver was called as often as there
are such values, with the timeout of the settings each time, and the answers are those that it gave.
Deferred values that do not stand in the copy were not asked for. The second phase of the encoder
never asks at all: what it would ask does not matter. -/
theorem encode_resolves_once {e e' : Encoder} (idle : e.Idle) {v : Value}
    (unhandled : ∀ o, Leads e v (.object o) → e.registry.writer? o.type = none)
    (run : encode v e = .ok () e') :
    (∃ w answers, Copies e v w answers ∧
      (∀ cell r, e.store.deferrals[cell]? = some (.resolver r) →
        let came := Answer.from cell answers
        e'.store.deferrals[cell]? = some (.resolver { r with
          calls := List.replicate came.length e.options.derefTimeout ++ r.calls }) ∧
        (came.map Except.ok).Perm ((List.range' r.calls.length came.length).map
          (r.answer · e.options.derefTimeout))) ∧
      ∃ after, encode w { e with store := { readers := e.store.readers } } = .ok () after ∧
        after.output = e'.output ∧ after.position = e'.position) ∧
    ∀ ask fuel, encodeWithin fuel v = encodeSettled ask fuel v := by
  refine ⟨?_, fun ask fuel => congrFun (inTurn_of_settle (prepare_eq ask fuel)) v⟩
  obtain ⟨fuel, same⟩ := exists_eq_deepening (fun fuel => encodeWithin fuel v)
    (v.height + e.store.height) e
  have under : e.Under (Leads e v) e := .refl idle fun leads part => leads.tail part
  obtain ⟨w, answers, copies, ⟨log, perm, spends⟩, copied⟩ :=
    (copiesPhases unhandled fuel).item .refl under (same.trans run)
  refine ⟨w, answers, copies, fun cell r there => ?_, ?_⟩
  · obtain ⟨calls, given⟩ := spends.answers.of_resolver there
    have came : (Answer.from cell log).Perm (Answer.from cell answers) :=
      (perm.filter _).map _
    dsimp only
    rw [← came.length_eq, ← given]
    exact ⟨calls, came.symm.map _⟩
  · obtain ⟨after, ran, beside⟩ :=
      copied { e with store := { readers := e.store.readers } } ⟨rfl, rfl, rfl, rfl⟩
    refine ⟨after, ?_, beside.output, beside.position⟩
    exact (encode_of_enough fun _ endless => by cases ran.symm.trans endless).trans ran

/-- A resolver stands in a vector twice. It answers with another one, under notes that are not saved
and hold a third one. -/
theorem encode_resolves_once_of_chain :
    let chained : Resolver :=
      { answer := fun _ _ => .ok (.annotated (.future (.shared 1)) ⟨[(.null, .future (.shared 2))]⟩)
        height := 4
        bounded := fun _ _ => by decide }
    let e := Encoder.fresh {} { saveMeta := false } { sink := .unlimited }
      { deferrals := #[.resolver chained, .resolver (.counting 7), .resolver (.counting 0)] }
    let v : Value := .vector [.future (.shared 0), .future (.shared 0)]
    ∃ e' w answers, encode v e = .ok () e' ∧ Copies e v w answers ∧
      (Answer.from 0 answers).length = 2 ∧ (Answer.from 1 answers).length = 2 ∧
      Answer.from 2 answers = [] := by
  intro chained e v
  obtain ⟨e', run, chain, first, last⟩ : ∃ e', encodeWithin 6 v e = .ok () e' ∧
      e'.store.deferrals[0]? = some (.resolver { chained with calls := [5000, 5000] }) ∧
      e'.store.deferrals[1]? = some (.resolver { Resolver.counting 7 with calls := [5000, 5000] }) ∧
      e'.store.deferrals[2]? = some (.resolver (.counting 0)) :=
    ⟨_, by cbv, by cbv, by cbv, by cbv⟩
  have whole : encode v e = .ok () e' :=
    (encode_of_enough fun _ endless => by cases run.symm.trans endless).trans run
  obtain ⟨⟨w, answers, copies, calls, -⟩, -⟩ :=
    encode_resolves_once (Encoder.Idle.fresh _ _ _ _) (fun _ _ => rfl) whole
  have count {cell : ℕ} {r r' : Resolver} (there : e.store.deferrals[cell]? = some (.resolver r))
      (fresh : r.calls = []) (after : e'.store.deferrals[cell]? = some (.resolver r')) :
      (Answer.from cell answers).length = r'.calls.length := by
    have same := (calls cell r there).1.symm.trans after
    cases same
    rw [fresh, List.append_nil, List.length_replicate]
  refine ⟨e', w, answers, whole, copies, count rfl rfl chain, count rfl rfl first, ?_⟩
  exact List.eq_nil_of_length_eq_zero (count rfl rfl last)

end EncodeM

end TaggedStream
