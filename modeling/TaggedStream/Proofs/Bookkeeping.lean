import Mathlib
import TaggedStream.Proofs.Acceptance
import TaggedStream.Proofs.Streams

/-!
The books of a decoder.

While a value is read, the decoder keeps books on how many values are open and whose handler is
running. A decoder without books is told both by its callers: the reader of a value gets the number
of open values, and a handler knows its own identifier. Both decoders give the same answers, the
same errors and the same positions, whatever the source is and whatever the handlers do with the
errors that they meet. So the books are in order on every path, also behind one that failed.
-/

namespace TaggedStream

namespace DecodeM

/-! ## A decoder without books -/

section

variable (element : Oid → DecodeM Value)

/-- Runs the plan of the handler of `own`. A value that it asks for is needed by `own`. -/
def runPlanOf {α : Type} (own : Oid) : ReadPlan α → DecodeM α
  | .done result => return result
  | .refuse error => throw error
  | .takeExact op size next => do runPlanOf own (next (← attempt (takeExact op size)))
  | .value next => do runPlanOf own (next (← attempt (element own)))

/-- Reads what follows an identifier outside the catalogue. -/
def readExtensionOf (oid : Oid) : DecodeM Value := do
  match (← get).registry.reader? oid with
  | none => throw (.unknownOid oid)
  | some reader => runPlanOf element oid (reader (← settings))

/-- Reads what follows an identifier. -/
def readBodyOf (oid : Oid) : DecodeM Value :=
  match Tag.ofCode? oid with
  | some tag => readTagged element tag
  | none => readExtensionOf element oid

end

/-- Reads what follows the identifier `oid` of a value that `parent` needs, inside `opened` values
that are open. -/
def decodeNestedIn (opened : Nat) : (levels : Nat) → (parent oid : Oid) → DecodeM Value
  | 0, parent, _ => do Wire.malformed parent (.tooDeep (← settings).maxDepth)
  | levels + 1, parent, oid => do
    let most := (← settings).maxDepth
    if most ≤ opened then Wire.malformed parent (.tooDeep most)
    readBodyOf (readElement (decodeNestedIn (opened + 1) levels)) oid

/-- Reads the next value, inside `opened` values that are open. -/
def decodeIn (opened : Nat) : DecodeM (Option Value) := do
  if ← atEnd then return none
  let oid ← Wire.readOid
  return some (← decodeNestedIn opened (← settings).maxDepth oid oid)

end DecodeM

/-- However a step ends, as many values are open as before, and the same handler is running. -/
def DecodeM.Restores {α : Type} (m : DecodeM α) (d : Decoder) : Prop :=
  match m d with
  | .ok _ after => after.depth = d.depth ∧ after.extension = d.extension
  | .error _ after => after.depth = d.depth ∧ after.extension = d.extension

/-! ## Both decoders side by side -/

/-- The first decoder has books that say how many values are open and whose handler is running. The
second one is the same but for its books, which it never opens: they say what is in `idle`. -/
structure Decoder.Booked (idle : Nat × Oid) (opened : Nat) (own : Oid) (d d' : Decoder) : Prop where
  same : d' = { d with depth := idle.1, extension := idle.2 }
  depth : d.depth = opened
  extension : d.extension = own

namespace Decoder.Booked

open DecodeM

variable {idle : Nat × Oid} {opened : Nat} {own : Oid}

theorem taken (op : String) (size : Nat) : Lockstep (Booked idle opened own) (List UInt8)
    (DecodeM.takeExact op size) (DecodeM.takeExact op size) := by
  intro d d' h
  obtain ⟨rfl, depth, extension⟩ := h
  unfold DecodeM.takeExact
  dsimp only
  split
  · exact .ok _ ⟨rfl, depth, extension⟩
  · exact .error _ ⟨rfl, depth, extension⟩

theorem ending : Lockstep (Booked idle opened own) Bool DecodeM.atEnd DecodeM.atEnd := by
  intro d d' h
  obtain ⟨rfl, depth, extension⟩ := h
  unfold DecodeM.atEnd
  dsimp only
  split
  · exact .ok _ ⟨rfl, depth, extension⟩
  · exact .error _ ⟨rfl, depth, extension⟩

theorem congruence : ItemCongruence (Lockstep (Booked idle opened own)) :=
  Lockstep.itemCongruence (Lockstep.congruence taken ending) fun h => by rw [h.same]

theorem settings {α : Type} {k k' : Options → DecodeM α}
    (h : ∀ options, Lockstep (Booked idle opened own) α (k options) (k' options)) :
    Lockstep (Booked idle opened own) α (DecodeM.settings >>= k) (DecodeM.settings >>= k') := by
  intro d d' related
  have sameOptions : d'.options = d.options := by rw [related.same]
  rw [settings_bind, settings_bind, sameOptions]
  exact h _ d d' related

/-- An entry in the books for as long as a step takes, whether or not it fails. -/
theorem bracketed {α : Type} {m m' : DecodeM α} {opened' : Nat} {own' : Oid}
    {enter leave : Decoder → Decoder} (h : Lockstep (Booked idle opened' own') α m m')
    {d d' : Decoder} (entering : Booked idle opened' own' (enter d) d')
    (leaving : ∀ {d d'}, Booked idle opened' own' d d' → Booked idle opened own (leave d) d') :
    Matching (Booked idle opened own) (DecodeM.bracketed enter leave m d) (m' d') := by
  have both := h _ _ entering
  unfold DecodeM.bracketed
  generalize m (enter d) = result, m' d' = result' at both
  cases both with
  | ok a related => exact .ok a (leaving related)
  | error error related => exact .error error (leaving related)

section

variable {element element' : Oid → DecodeM Value}
  (h : ∀ own parent, Lockstep (Booked idle opened own) Value (element parent) (element' parent))

include h

/-- The handler that the books name is the one whose plan runs. -/
theorem runPlan {α : Type} (plan : ReadPlan α) : Lockstep (Booked idle opened own) α
    (DecodeM.runPlan element plan) (runPlanOf element' own plan) := by
  induction plan with
  | done a => exact .result a
  | refuse error => exact .refusal error
  | takeExact op size next ih => exact .sequence (.attempt (taken op size)) ih
  | value next ih =>
    intro d d' related
    rw [DecodeM.runPlan, get_bind, related.extension]
    exact Lockstep.sequence (.attempt (h own own)) ih d d' related

/-- A handler that starts is entered into the books, and the one outside it is back when it ends. -/
theorem readExtension (oid : Oid) : Lockstep (Booked idle opened own) Value
    (DecodeM.readExtension element oid) (readExtensionOf element' oid) := by
  intro d d' related
  have sameRegistry : d'.registry = d.registry := by rw [related.same]
  rw [readExtensionOf, get_bind, sameRegistry]
  cases found : d.registry.reader? oid with
  | none =>
    rw [DecodeM.readExtension, get_bind, found]
    exact .error _ related
  | some reader =>
    have sameOptions : d'.options = d.options := by rw [related.same]
    rw [readExtension_of_registered found]
    dsimp only
    rw [settings_bind, sameOptions]
    have inside : Lockstep (Booked idle opened oid) Value _ _ := runPlan h (reader d.options)
    refine bracketed inside ⟨related.same, related.depth, rfl⟩ fun after => ?_
    exact ⟨after.same, after.depth, related.extension⟩

theorem readBody (oid : Oid) : Lockstep (Booked idle opened own) Value
    (DecodeM.readBody element oid) (readBodyOf element' oid) := by
  unfold DecodeM.readBody readBodyOf
  cases Tag.ofCode? oid with
  | some tag => exact congruence.readTagged (h own) tag
  | none => exact readExtension h oid

end

/-- A value that is opened is entered into the books, and it is out of them when its reader
returns. -/
theorem decodeNested (levels : Nat) (parent oid : Oid) :
    Lockstep (Booked idle opened own) Value (DecodeM.decodeNested levels parent oid)
      (decodeNestedIn opened levels parent oid) := by
  induction levels generalizing opened own parent oid with
  | zero => exact settings fun options => .refusal _
  | succ levels ih =>
    refine settings fun options d d' related => ?_
    rw [get_bind, related.depth]
    split
    case isTrue => exact .error _ related
    case isFalse =>
      have inside (own parent : Oid) : Lockstep (Booked idle (opened + 1) own) Value
          (readElement (DecodeM.decodeNested levels) parent)
          (readElement (decodeNestedIn (opened + 1) levels) parent) :=
        congruence.readElement ih parent
      have body : Lockstep (Booked idle (opened + 1) own) Value _ _ := readBody inside oid
      refine bracketed body ?_ fun after => ?_
      · exact ⟨related.same, congrArg (· + 1) related.depth, related.extension⟩
      · exact ⟨after.same, congrArg (· - 1) after.depth, after.extension⟩

theorem decode : Lockstep (Booked idle opened own) (Option Value) DecodeM.decode
    (decodeIn opened) := by
  apply Lockstep.sequence ending
  intro ended
  cases ended with
  | true => exact .result none
  | false =>
    refine .sequence congruence.readUInt16 fun oid => settings fun options => ?_
    exact .sequence (decodeNested _ oid oid) fun v => .result (some v)

/-- A step that goes along with one that opens no books leaves them as they were, and nothing else
tells the two apart. -/
theorem unbooked {α : Type} {m : DecodeM α} {m' : Oid → DecodeM α}
    (h : ∀ idle own, Lockstep (Booked idle opened own) α m (m' own)) {d : Decoder}
    (depth : d.depth = opened) : m d = m' d.extension d ∧ Restores m d := by
  have both := h (d.depth, d.extension) d.extension d d ⟨rfl, depth, rfl⟩
  unfold Restores
  generalize m d = result, m' d.extension d = result' at both ⊢
  cases both with
  | ok a related =>
    obtain ⟨rfl, kept, running⟩ := related
    subst depth
    exact ⟨by rw [← kept, ← running], kept, running⟩
  | error error related =>
    obtain ⟨rfl, kept, running⟩ := related
    subst depth
    exact ⟨by rw [← kept, ← running], kept, running⟩

end Decoder.Booked

/-! ## Between calls -/

/-- The same decoder, with this registry and these settings. -/
structure Decoder.Outfitted (registry : Registry) (options : Options) (d d' : Decoder) : Prop where
  same : d' = d
  registry_eq : d.registry = registry
  options_eq : d.options = options

namespace Decoder.Outfitted

variable {registry : Registry} {options : Options}

theorem likeness : Likeness (Outfitted registry options) where
  options_eq h := by rw [h.same]
  registry_eq h := by rw [h.same]
  extension_eq h := by rw [h.same]
  size_eq h := by rw [h.same]
  extended h oid := ⟨by rw [h.same], h.registry_eq, h.options_eq⟩
  taken op size := by
    intro d d' h
    obtain ⟨rfl, registry, options⟩ := h
    unfold DecodeM.takeExact
    split
    · exact .ok _ ⟨rfl, registry, options⟩
    · exact .error _ ⟨rfl, registry, options⟩
  ending := by
    intro d d' h
    obtain ⟨rfl, registry, options⟩ := h
    unfold DecodeM.atEnd
    split
    · exact .ok _ ⟨rfl, registry, options⟩
    · exact .error _ ⟨rfl, registry, options⟩

/-- No call changes the registry or the settings. -/
theorem lockstep (call : Call) :
    Lockstep (Outfitted registry options) (Option Value) call.run call.run := by
  have nested := likeness.decodeNested (R := Outfitted registry options)
    (fun h => by rw [h.same]) fun depth h => ⟨by rw [h.same], h.registry_eq, h.options_eq⟩
  exact call.lockstepAlong likeness nested (likeness.next nested (fun h => by rw [h.same])
    fun h => ⟨by rw [h.same], h.registry_eq, h.options_eq⟩)

end Decoder.Outfitted

/-- The same but for what no reader looks at. -/
structure Decoder.Peer (d d' : Decoder) : Prop where
  same : d' = { d with version := d'.version, position := d'.position, done := d'.done }

namespace Decoder.Peer

theorem likeness : Likeness Peer where
  options_eq h := by rw [h.same]
  registry_eq h := by rw [h.same]
  extension_eq h := by rw [h.same]
  size_eq h := by rw [h.same]
  extended h oid := ⟨by rw [h.same]⟩
  taken op size := by
    intro d d' h
    obtain ⟨same⟩ := h
    unfold DecodeM.takeExact
    rw [same]
    dsimp only
    split
    · exact .ok _ ⟨rfl⟩
    · exact .error _ ⟨rfl⟩
  ending := by
    intro d d' h
    obtain ⟨same⟩ := h
    unfold DecodeM.atEnd
    rw [same]
    dsimp only
    split
    · exact .ok _ ⟨rfl⟩
    · exact .error _ ⟨rfl⟩

theorem decode : Lockstep Peer (Option Value) DecodeM.decode DecodeM.decode :=
  likeness.decode (likeness.decodeNested (fun h => by rw [h.same]) fun depth h => ⟨by rw [h.same]⟩)

end Decoder.Peer

namespace Decoder

/-- The decoder after a client called it. -/
def afterCalls : List Call → Decoder → Decoder
  | [], d => d
  | call :: calls, d =>
    match call.run d with
    | .ok _ after => afterCalls calls after
    | .error _ after => afterCalls calls after

end Decoder

/-- Whatever is asked of a decoder, its books are as before. -/
theorem Call.restores (call : Call) (d : Decoder) : DecodeM.Restores call.run d := by
  have values : DecodeM.Restores DecodeM.decode d :=
    (Decoder.Booked.unbooked (fun _ _ => Decoder.Booked.decode) rfl).2
  cases call with
  | decode => exact values
  | next =>
    unfold DecodeM.Restores at values ⊢
    rw [run, DecodeM.next, DecodeM.get_bind]
    by_cases ended : d.done
    · rw [if_pos ended]
      exact ⟨rfl, rfl⟩
    · rw [if_neg ended]
      cases ran : DecodeM.decode d with
      | error error between =>
        rw [ran] at values
        rw [DecodeM.bind_of_ok (DecodeM.attempt_of_error ran)]
        exact values
      | ok found between =>
        rw [ran] at values
        rw [DecodeM.bind_of_ok (DecodeM.attempt_of_ok ran)]
        cases found <;> exact values
  | plan p =>
    let planOf (own : Oid) : DecodeM (Option Value) := do
      let levels := (← DecodeM.settings).maxDepth
      return some (← DecodeM.runPlanOf
        (DecodeM.readElement (DecodeM.decodeNestedIn d.depth levels)) own p)
    have both (idle : Nat × Oid) (own : Oid) :
        Lockstep (Decoder.Booked idle d.depth own) (Option Value) (plan p).run (planOf own) := by
      refine Decoder.Booked.settings fun options => .sequence ?_ fun v => .result (some v)
      exact Decoder.Booked.runPlan (fun own parent =>
        Decoder.Booked.congruence.readElement (Decoder.Booked.decodeNested _) parent) p
    exact (Decoder.Booked.unbooked both rfl).2

namespace Decoder

variable {registry : Registry} {options : Options}

/-- Between calls, no value is open and no handler is running. -/
theorem afterCalls_books (calls : List Call) (d : Decoder) :
    (d.afterCalls calls).depth = d.depth ∧ (d.afterCalls calls).extension = d.extension ∧
      (d.afterCalls calls).registry = d.registry ∧ (d.afterCalls calls).options = d.options := by
  induction calls generalizing d with
  | nil => exact ⟨rfl, rfl, rfl, rfl⟩
  | cons call calls ih =>
    have books := call.restores d
    have outfit := Outfitted.lockstep call d d ⟨rfl, rfl, rfl⟩
    unfold DecodeM.Restores at books
    rw [afterCalls]
    generalize call.run d = result at books outfit
    cases outfit with
    | ok a kept | error a kept =>
      obtain ⟨depth, extension, registry, options⟩ := ih _
      exact ⟨depth.trans books.1, extension.trans books.2, registry.trans kept.registry_eq,
        options.trans kept.options_eq⟩

/-- Headers are read alike if it does not matter which version is kept. -/
theorem congruence_start {R : (α : Type) → DecodeM α → DecodeM α → Prop}
    (c : DecodeM.Congruence R) (versioned : ∀ version : UInt16,
      R Unit (modify ({ · with version })) (modify ({ · with version }))) :
    R Unit DecodeM.start DecodeM.start := by
  have header : R Header Header.read Header.read :=
    c.sequence c.readUInt16 fun version =>
      c.sequence (c.sequence (c.readRaw _) fun _ => c.result ()) fun _ => c.result _
  exact c.sequence header fun header => versioned header.version

/-- A decoder that has read its header has no value open, and no handler is running. -/
theorem books_of_start {source : Source} {d : Decoder}
    (run : DecodeM.start (.fresh registry options source) = .ok () d) :
    d.depth = 0 ∧ d.extension = Tag.null.code ∧ d.registry = registry ∧ d.options = options := by
  have books : DecodeM.Restores DecodeM.start (.fresh registry options source) := by
    have both (idle : Nat × Oid) (own : Oid) : Lockstep (Booked idle 0 own) Unit DecodeM.start
        DecodeM.start :=
      congruence_start Booked.congruence.toCongruence fun version d d' booked =>
        .ok () ⟨by rw [booked.same], booked.depth, booked.extension⟩
    exact (Booked.unbooked both rfl).2
  have outfit : Lockstep (Outfitted registry options) Unit DecodeM.start DecodeM.start :=
    congruence_start Outfitted.likeness.congruence fun version d d' kept =>
      .ok () ⟨by rw [kept.same], kept.registry_eq, kept.options_eq⟩
  have kept := outfit (.fresh registry options source) _ ⟨rfl, rfl, rfl⟩
  unfold DecodeM.Restores at books
  rw [run] at books kept
  cases kept with
  | ok _ kept => exact ⟨books.1, books.2, kept.registry_eq, kept.options_eq⟩

end Decoder

namespace DecodeM

/-- The books of a decoder are in order on every path. Whatever the source and the handlers are, the
readers of values and of what handlers read return with as many values open and the same handler
running as before, whether or not they failed, and they do all that a decoder without books does,
where a handler asks for values in its own name. So between the calls of a client no value is open,
no handler is running, and the next value is read as by a fresh decoder over what is left. And a
value that is asked for at the end of the source, or one level too deep, is blamed on the one who
asks. -/
theorem books_in_order :
    (∀ (levels : Nat) (parent oid : Oid) (d : Decoder),
      Restores (decodeNested levels parent oid) d ∧
        decodeNested levels parent oid d = decodeNestedIn d.depth levels parent oid d) ∧
    (∀ (levels : Nat) (oid : Oid) (d : Decoder),
      Restores (readExtension (readElement (decodeNested levels)) oid) d ∧
        readExtension (readElement (decodeNested levels)) oid d =
          readExtensionOf (readElement (decodeNestedIn d.depth levels)) oid d) ∧
    (∀ (registry : Registry) (options : Options) (source : Source) (started : Decoder)
        (calls : List Call), start (.fresh registry options source) = .ok () started →
      let d := started.afterCalls calls
      d.depth = 0 ∧ d.extension = Tag.null.code ∧ decode d = decodeIn 0 d ∧
        Matching Decoder.Peer (decode d) (decode (.fresh registry options d.source))) ∧
    ∀ (opened levels : Nat) (own : Oid) (d : Decoder) (source : Source),
      (d.source.atEnd = (.ok true, source) →
        readElement (decodeNestedIn opened levels) own d =
          .error (.malformed own .missingValue) { d with source }) ∧
      ∀ (oid : Oid) (between : Decoder), d.source.atEnd = (.ok false, source) →
        (Wire.readOid : DecodeM Oid) { d with source } = .ok oid between →
          d.options.maxDepth ≤ opened →
            readElement (decodeNestedIn opened levels) own d =
              .error (.malformed own (.tooDeep d.options.maxDepth)) between := by
  refine ⟨fun levels parent oid d => ?_, fun levels oid d => ?_,
    fun registry options source started calls start => ?_,
    fun opened levels own d source => ⟨fun ended => ?_, fun oid between more read deep => ?_⟩⟩
  · have both := Decoder.Booked.unbooked (d := d)
      (fun _ _ => Decoder.Booked.decodeNested levels parent oid) rfl
    exact ⟨both.2, both.1⟩
  · have both := Decoder.Booked.unbooked (d := d) (fun _ _ => Decoder.Booked.readExtension
      (fun own parent => Decoder.Booked.congruence.readElement
        (Decoder.Booked.decodeNested levels) parent) oid) rfl
    exact ⟨both.2, both.1⟩
  · intro d
    obtain ⟨depth, extension, registryEq, optionsEq⟩ := Decoder.books_of_start start
    obtain ⟨depth', extension', registry', options'⟩ := Decoder.afterCalls_books calls started
    have closed : d.depth = 0 := depth'.trans depth
    have outside : d.extension = Tag.null.code := extension'.trans extension
    refine ⟨closed, outside, ?_, ?_⟩
    · exact (Decoder.Booked.unbooked (fun _ _ => Decoder.Booked.decode) closed).1
    · refine Decoder.Peer.decode _ _ ⟨?_⟩
      have known : d.registry = registry := registry'.trans registryEq
      have set : d.options = options := options'.trans optionsEq
      rw [known, set, closed, outside]
      rfl
  · have looked : atEnd d = .ok true { d with source } := by rw [atEnd, ended]
    rw [readElement, bind_of_ok looked]
    rfl
  · have looked : atEnd d = .ok false { d with source } := by rw [atEnd, more]
    rw [readElement, bind_of_ok looked]
    refine (bind_of_ok read).trans ?_
    have set : between.options = d.options := options_of_readOid (d := { d with source }) read
    rw [← set] at deep ⊢
    cases levels with
    | zero => rfl
    | succ levels => rw [decodeNestedIn, settings_bind, if_pos deep]; rfl

/-- The outer handler ignores that the inner one fails behind a null and asks for another value. It
is the outer one that is blamed for the end of the stream, and the books are in order behind it. -/
theorem books_in_order_behind_failures :
    let outer : ObjectReader := fun _ => .value fun _ => .readValue
    let inner : ObjectReader := fun _ => .value fun _ => .refuse (.unknownOid Tag.null.code)
    let registry : Registry := { readers := ⟨[(1000, outer), (1001, inner)]⟩ }
    let body : List UInt8 := [0x03, 0xE8, 0x03, 0xE9, 0, 0]
    let source : Source := .slice (Header.spelled ++ body)
    let atEnd : Decoder := .fresh registry {} (.slice [])
    let deep : Decoder := .fresh registry { maxDepth := 1 } (.slice [0, 0])
    (∃ started, start (.fresh registry {} source) = .ok () started ∧
      (∃ after, decode started = .error (.malformed 1000 .missingValue) after) ∧
        let d := started.afterCalls [.decode]
        d.depth = 0 ∧ d.extension = Tag.null.code ∧ decode d = decodeIn 0 d ∧
          Matching Decoder.Peer (decode d) (decode (.fresh registry {} d.source))) ∧
      readElement (decodeNestedIn 1 127) 1000 atEnd =
        .error (.malformed 1000 .missingValue) { atEnd with source := .slice [] } ∧
      ∃ between, readElement (decodeNestedIn 1 0) 1000 deep =
        .error (.malformed 1000 (.tooDeep 1)) between := by
  intro outer inner registry body source atEnd deep
  obtain ⟨-, -, sessions, blames⟩ := books_in_order
  have enough : Header.size ≤ (Header.spelled ++ body).length := by
    rw [List.length_append, Header.length_spelled]
    exact Nat.le_add_right ..
  let started : Decoder := .started registry {} source (Header.spelled ++ body)
  have run : start (.fresh registry {} source) = .ok () started :=
    start_of_holds (.slice _) enough
  have left : started.source = .slice body := by
    rw [Decoder.source_started, List.drop_left' Header.length_spelled]
  -- What the decoder fails with depends on the bytes behind the header alone.
  obtain ⟨after, failed⟩ : ∃ after, decode (.fresh registry {} (.slice body)) =
      .error (.malformed 1000 .missingValue) after := ⟨_, by cbv⟩
  have peers : Decoder.Peer (.fresh registry {} (.slice body)) started := by
    constructor
    rw [← left]
    rfl
  obtain ⟨between, read⟩ : ∃ between, (Wire.readOid : DecodeM Oid) deep =
      .ok Tag.null.code between := ⟨_, rfl⟩
  refine ⟨⟨started, run, ?_, sessions registry {} source started [.decode] run⟩,
    (blames 1 127 1000 atEnd (.slice [])).1 rfl, between,
    (blames 1 0 1000 deep (.slice [0, 0])).2 _ between rfl read (Nat.le_refl 1)⟩
  have both := Decoder.Peer.decode _ _ peers
  rw [failed] at both
  generalize decode started = result at both
  cases both with
  | error error peers => exact ⟨_, rfl⟩

end DecodeM

end TaggedStream
