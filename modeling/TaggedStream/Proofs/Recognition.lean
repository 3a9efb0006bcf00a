import Mathlib.Tactic.Common
import TaggedStream.Decoder.Item
import TaggedStream.Proofs.Handling

/-!
Readers that recognise a form.

`Recognises scope m form` says, for decoders over byte strings with the levels and the handlers of
a scope, that `m` reads whatever starts with a byte string of the form, takes exactly this byte
string, and accepts nothing else. The first half holds for all handlers and whatever follows; the
second half is about handlers that pass errors on, since one that carries on after an error may
accept what it likes.

There is one lemma for each way in which readers are put together, and then one for each reader.
-/

namespace TaggedStream

/-- What a reader may use below it: how many more levels may be opened, and the handlers that read.
-/
structure Scope where
  levels : Nat
  handlers : Handlers

/-- Every handler passes errors on. -/
def Scope.Strict (scope : Scope) : Prop :=
  ∀ oid plan, scope.handlers oid = some plan → plan.Strict

namespace Decoder

/-- The levels that are left, and the plans of the handlers under the settings. -/
def scope (d : Decoder) : Scope where
  levels := d.options.maxDepth - d.depth
  handlers := d.registry.handlers d.options

/-- The decoder after it took some bytes off a byte string of which `rest` is left. -/
def past (bytes rest : List UInt8) (d : Decoder) : Decoder :=
  { d with source := .slice rest, position := d.position + bytes.length }

theorem past_past (front back middle rest : List UInt8) (d : Decoder) :
    (d.past front middle).past back rest = d.past (front ++ back) rest := by
  simp [past, Nat.add_assoc]

theorem past_nil {rest : List UInt8} {d : Decoder} (source : d.source = .slice rest) :
    d.past [] rest = d := by
  cases d
  cases source
  rfl

/-- A level that is left may be opened. -/
theorem depth_lt {d : Decoder} {levels : Nat} {handlers : Handlers}
    (room : d.scope = ⟨levels + 1, handlers⟩) : d.depth < d.options.maxDepth :=
  Nat.lt_of_sub_eq_succ (congrArg Scope.levels room)

/-- One level deeper, one level less is left. -/
theorem scope_deeper {d : Decoder} {levels : Nat} {handlers : Handlers}
    (room : d.scope = ⟨levels + 1, handlers⟩) :
    scope { d with depth := d.depth + 1 } = ⟨levels, handlers⟩ := by
  have left : d.options.maxDepth - d.depth = levels + 1 := congrArg Scope.levels room
  have kept : d.scope.handlers = handlers := congrArg Scope.handlers room
  rw [← kept]
  exact congrArg (Scope.mk · d.scope.handlers) (by simp only; omega)

end Decoder

/-- The reader takes what has the form, and nothing else. -/
structure Recognises {α : Type} (scope : Scope) (m : DecodeM α) (form : Form α) : Prop where
  /-- Whatever starts with a byte string of the form is read up to the end of that byte string. -/
  complete : ∀ {d : Decoder} {bytes rest : List UInt8} {a : α}, d.scope = scope →
    d.source = .slice (bytes ++ rest) → form bytes a → m d = .ok a (d.past bytes rest)
  /-- Whatever is read starts with a byte string of the form, and this is what was taken. -/
  sound : ∀ {d d' : Decoder} {input : List UInt8} {a : α}, d.scope = scope →
    scope.Strict → d.source = .slice input → m d = .ok a d' →
      ∃ bytes rest, input = bytes ++ rest ∧ form bytes a ∧ d' = d.past bytes rest

namespace DecodeM

variable {α β : Type} {d d' : Decoder} {m : DecodeM α} {k : α → DecodeM β}

theorem bind_of_ok {a : α} (first : m d = .ok a d') : (m >>= k) d = k a d' := by
  change EStateM.bind m k d = k a d'
  simp [EStateM.bind, first]

theorem bind_of_error {error : StreamError} (first : m d = .error error d') :
    (m >>= k) d = .error error d' := by
  change EStateM.bind m k d = .error error d'
  simp [EStateM.bind, first]

theorem get_bind (k : Decoder → DecodeM β) : (get >>= k) d = k d d := rfl

theorem settings_bind (k : Options → DecodeM β) : (settings >>= k) d = k d.options d := rfl

/-- A look for the end of a byte string. -/
theorem atEnd_slice {input : List UInt8} (source : d.source = .slice input) :
    atEnd d = .ok input.isEmpty d := by
  obtain ⟨_, _, _, _, _, _, _, _⟩ := d
  cases source
  rfl

/-- A sequence of two steps succeeds when both do. -/
theorem bind_eq_ok_iff {b : β} :
    (m >>= k) d = .ok b d' ↔ ∃ a between, m d = .ok a between ∧ k a between = .ok b d' := by
  constructor
  · intro run
    cases first : m d with
    | ok a between => exact ⟨a, between, rfl, by rwa [bind_of_ok first] at run⟩
    | error error between => rw [bind_of_error first] at run; cases run
  · intro found
    rcases found with ⟨a, between, first, second⟩
    rw [bind_of_ok first, second]

theorem attempt_of_ok {a : α} (run : m d = .ok a d') : attempt m d = .ok (.ok a) d' := by
  rw [attempt, run]

theorem attempt_of_error {error : StreamError} (run : m d = .error error d') :
    attempt m d = .ok (.error error) d' := by
  rw [attempt, run]

/-- A step that passes on the error of an attempt succeeds only behind one that succeeds. -/
theorem attempt_bind_eq_ok {k : Except StreamError α → DecodeM β} {b : β}
    (passes : ∀ error, k (.error error) = throw error) (run : (attempt m >>= k) d = .ok b d') :
    ∃ a between, m d = .ok a between ∧ k (.ok a) between = .ok b d' := by
  obtain ⟨outcome, between, first, second⟩ := bind_eq_ok_iff.1 run
  unfold attempt at first
  split at first <;> cases first
  case h_1 a ran => exact ⟨a, between, ran, second⟩
  case h_2 error _ =>
    rw [passes error] at second
    cases second

/-- A registered handler runs under its identifier. -/
theorem readExtension_of_registered {element : Oid → DecodeM Value} {oid : Oid}
    {reader : ObjectReader} (registered : d.registry.reader? oid = some reader) :
    readExtension element oid d =
      bracketed ({ · with extension := oid }) ({ · with extension := d.extension })
        (runPlan element (reader d.options)) d := by
  rw [readExtension, get_bind, registered]
  rfl

/-- Reads one level deeper, for a value that `parent` needs, unless that is too deep. -/
def nested (parent : Oid) (body : DecodeM Value) : DecodeM Value := do
  let most := (← settings).maxDepth
  if most ≤ (← get).depth then Wire.malformed parent (.tooDeep most)
  bracketed (fun d => { d with depth := d.depth + 1 }) (fun d => { d with depth := d.depth - 1 })
    body

/-- What a value needs before its payload is read: a level that may still be opened. -/
theorem nested_eq (parent : Oid) (body : DecodeM Value) (d : Decoder) :
    nested parent body d =
      if d.options.maxDepth ≤ d.depth then
        .error (.malformed parent (.tooDeep d.options.maxDepth)) d
      else
        bracketed (fun d => { d with depth := d.depth + 1 })
          (fun d => { d with depth := d.depth - 1 }) body d := by
  rw [nested, settings_bind, get_bind]
  split <;> rfl

theorem decodeNested_succ (levels : Nat) (parent oid : Oid) :
    decodeNested (levels + 1) parent oid =
      nested parent (readBody (readElement (decodeNested levels)) oid) :=
  rfl

end DecodeM

namespace Recognises

variable {α β γ : Type} {scope : Scope} {m : DecodeM α} {form : Form α}

/-! ## Ways to put readers together -/

theorem congr {other : Form α} (h : Recognises scope m form)
    (same : ∀ bytes a, form bytes a ↔ other bytes a) : Recognises scope m other := by
  obtain rfl : form = other := by
    funext bytes a
    exact propext (same bytes a)
  exact h

/-- A result that was there already is taken from no bytes. -/
theorem pure (a : α) : Recognises scope (pure a) (fun bytes b => bytes = [] ∧ b = a) := by
  constructor
  · intro d bytes rest b _ source found
    rcases found with ⟨rfl, rfl⟩
    exact congrArg (EStateM.Result.ok b) (Decoder.past_nil source).symm
  · intro d d' input b _ _ source run
    cases run
    exact ⟨[], input, rfl, ⟨rfl, rfl⟩, (Decoder.past_nil source).symm⟩

/-- A reader behind another takes what follows what the other took. -/
theorem bind {k : α → DecodeM β} {next : α → Form β} (h : Recognises scope m form)
    (rest : ∀ a, Recognises scope (k a) (next a)) :
    Recognises scope (m >>= k)
      (fun bytes b => ∃ front back a, bytes = front ++ back ∧ form front a ∧ next a back b) := by
  constructor
  · intro d bytes after b room source found
    rcases found with ⟨front, back, a, rfl, isFront, isBack⟩
    rw [List.append_assoc] at source
    have first := h.complete room source isFront
    have second := (rest a).complete (d := d.past front (back ++ after)) room rfl isBack
    rw [DecodeM.bind_of_ok first, second, Decoder.past_past]
  · intro d d' input b room strict source run
    obtain ⟨a, between, first, second⟩ := DecodeM.bind_eq_ok_iff.1 run
    obtain ⟨front, middle, rfl, isFront, rfl⟩ := h.sound room strict source first
    obtain ⟨back, after, rfl, isBack, rfl⟩ :=
      (rest a).sound (d := d.past front middle) room strict rfl second
    exact ⟨front ++ back, after, (List.append_assoc ..).symm,
      ⟨front, back, a, rfl, isFront, isBack⟩, Decoder.past_past ..⟩

/-- A check of what was read either goes on to a result or refuses it. -/
theorem checked {k : α → DecodeM β} {result : Form β} (h : Recognises scope m form)
    (into : ∀ {bytes b}, result bytes b → ∃ a, form bytes a ∧ k a = Pure.pure b)
    (out : ∀ {bytes a}, form bytes a →
      (∃ b, k a = Pure.pure b ∧ result bytes b) ∨ ∃ error, k a = throw error) :
    Recognises scope (m >>= k) result := by
  constructor
  · intro d bytes rest b room source isResult
    obtain ⟨a, isForm, passed⟩ := into isResult
    rw [DecodeM.bind_of_ok (h.complete room source isForm), passed]
    rfl
  · intro d d' input b room strict source run
    obtain ⟨a, between, first, second⟩ := DecodeM.bind_eq_ok_iff.1 run
    obtain ⟨bytes, rest, rfl, isForm, rfl⟩ := h.sound room strict source first
    rcases out isForm with ⟨b', passed, isResult⟩ | ⟨error, refused⟩
    · rw [passed] at second
      cases second
      exact ⟨bytes, rest, rfl, isResult, rfl⟩
    · rw [refused] at second
      cases second

/-- A result made from what was read. -/
theorem as {f : α → β} {result : Form β} (h : Recognises scope m form)
    (into : ∀ {bytes b}, result bytes b → ∃ a, form bytes a ∧ f a = b)
    (out : ∀ {bytes a}, form bytes a → result bytes (f a)) :
    Recognises scope (m >>= fun a => Pure.pure (f a)) result := by
  apply h.checked
  · intro bytes b isResult
    obtain ⟨a, isForm, rfl⟩ := into isResult
    exact ⟨a, isForm, rfl⟩
  · intro bytes a isForm
    exact .inl ⟨f a, rfl, out isForm⟩

/-- A result that wraps what was read. -/
theorem wrapped (h : Recognises scope m form) (f : α → β) :
    Recognises scope (m >>= fun a => Pure.pure (f a))
      (fun bytes b => ∃ a, form bytes a ∧ b = f a) := by
  apply h.as
  · intro bytes b found
    rcases found with ⟨a, isForm, rfl⟩
    exact ⟨a, isForm, rfl⟩
  · intro bytes a isForm
    exact ⟨a, isForm, rfl⟩

/-- Two readers, one behind the other. -/
theorem pair {m' : DecodeM β} {second : Form β} (h : Recognises scope m form)
    (h' : Recognises scope m' second) :
    Recognises scope (do let a ← m; let b ← m'; return (a, b)) (Form.pair form second) := by
  refine (h.bind fun a => h'.bind fun b => .pure (a, b)).congr fun bytes ab => ?_
  constructor
  · intro found
    rcases found with ⟨front, _, a, rfl, isFront, back, _, b, rfl, isBack, rfl, rfl⟩
    rw [List.append_nil]
    exact .mk isFront isBack
  · intro found
    rcases found with ⟨isFront, isBack⟩
    exact ⟨_, _, _, rfl, isFront, _, [], _, (List.append_nil _).symm, isBack, rfl, rfl⟩

/-- A check of two things that were read one behind the other. -/
theorem pairChecked {m' : DecodeM β} {second : Form β} {k : α → β → DecodeM γ} {result : Form γ}
    (h : Recognises scope m form) (h' : Recognises scope m' second)
    (into : ∀ {bytes c}, result bytes c →
      ∃ a b, Form.pair form second bytes (a, b) ∧ k a b = Pure.pure c)
    (out : ∀ {bytes a b}, Form.pair form second bytes (a, b) →
      (∃ c, k a b = Pure.pure c ∧ result bytes c) ∨ ∃ error, k a b = throw error) :
    Recognises scope (do let a ← m; let b ← m'; k a b) result := by
  have whole : Recognises scope
      ((do let a ← m; let b ← m'; return (a, b)) >>= fun ab => k ab.1 ab.2) result := by
    apply (h.pair h').checked
    · intro bytes c isResult
      obtain ⟨a, b, both, passed⟩ := into isResult
      exact ⟨(a, b), both, passed⟩
    · rintro bytes ⟨a, b⟩ both
      exact out both
  simpa only [bind_assoc, pure_bind] using whole

/-- A result made from two things that were read one behind the other. -/
theorem pairAs {m' : DecodeM β} {second : Form β} {f : α → β → γ} {result : Form γ}
    (h : Recognises scope m form) (h' : Recognises scope m' second)
    (into : ∀ {bytes c}, result bytes c → ∃ a b, Form.pair form second bytes (a, b) ∧ f a b = c)
    (out : ∀ {bytes a b}, Form.pair form second bytes (a, b) → result bytes (f a b)) :
    Recognises scope (do let a ← m; let b ← m'; return f a b) result := by
  apply h.pairChecked h'
  · intro bytes c isResult
    obtain ⟨a, b, both, rfl⟩ := into isResult
    exact ⟨a, b, both, rfl⟩
  · intro bytes a b both
    exact .inl ⟨f a b, rfl, out both⟩

/-- A look for the end changes nothing for a reader that needs at least one byte. -/
theorem notAtEnd (h : Recognises scope m form) (nonempty : ∀ a, ¬ form [] a)
    (error : StreamError) :
    Recognises scope (do
      if ← DecodeM.atEnd then throw error
      m) form := by
  constructor
  · intro d bytes rest a room source isForm
    have present : (bytes ++ rest).isEmpty = false := by
      cases bytes with
      | nil => exact absurd isForm (nonempty a)
      | cons byte bytes => rfl
    rw [DecodeM.bind_of_ok (DecodeM.atEnd_slice source), present]
    exact h.complete room source isForm
  · intro d d' input a room strict source run
    rw [DecodeM.bind_of_ok (DecodeM.atEnd_slice source)] at run
    cases empty : input.isEmpty with
    | true => rw [empty] at run; cases run
    | false =>
      rw [empty] at run
      exact h.sound room strict source run

end Recognises

end TaggedStream
