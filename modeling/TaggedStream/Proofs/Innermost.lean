import Mathlib.Logic.Relation
import TaggedStream.Proofs.Blame

/-!
The innermost value that is not finished, and whom the decoder blames.

A value is entered when its identifier was read and a level is left for it. The grammar says which
values may begin inside it, and whether all of it is there. Of the values that were entered and are
not finished one is the innermost, and malformed input is blamed on it, by the tag that was read for
it. One tag makes an exception: an error with data blames what is wrong behind the data on the tag
of an error without.
-/

namespace TaggedStream

open DecodeM

theorem Scope.Strict.of_none (levels : Nat) : Strict ⟨levels, fun _ => none⟩ := by
  intro oid plan handled
  cases handled

/-- An identifier tells its tag, and where it ends. -/
theorem Tag.spelled_append_inj {tag other : Tag} {a b : List UInt8}
    (same : tag.spelled ++ a = other.spelled ++ b) : tag = other ∧ a = b := by
  have lengths : tag.spelled.length = other.spelled.length := by
    rw [spelled, spelled, BigEndian.length_encode, BigEndian.length_encode]
  obtain ⟨spelledEq, rfl⟩ := List.append_inj same lengths
  have codes := congrArg BigEndian.decode spelledEq
  rw [spelled, spelled, BigEndian.decode_encode tag.code.toNat_lt,
    BigEndian.decode_encode other.code.toNat_lt] at codes
  have tags := congrArg Tag.ofCode? (UInt16.toNat_inj.1 codes)
  rw [ofCode?_code, ofCode?_code] at tags
  exact ⟨Option.some.inj tags, rfl⟩

/-- A value whose identifier was read: how many levels may be opened inside it, its tag, and what
follows its identifier in the input. -/
structure Entered where
  levels : Nat
  tag : Tag
  input : List UInt8

namespace Entered

/-- The input begins with all of the value. -/
def Finished (e : Entered) : Prop :=
  ∃ payload rest v, e.input = payload ++ rest ∧ Payload (Derives e.levels) e.tag payload v

/-- The second value begins inside the first one, which leaves a level for it. -/
def Inside (outer inner : Entered) : Prop :=
  outer.levels = inner.levels + 1 ∧
    ∃ front, outer.input = front ++ (inner.tag.spelled ++ inner.input) ∧
      Site (Derives outer.levels) outer.tag front

/-- The second value is the innermost one in the first one that is not finished: all values that
begin inside it are. -/
structure Innermost (outermost e : Entered) : Prop where
  within : Relation.ReflTransGen Inside outermost e
  unfinished : ¬ e.Finished
  inside (child : Entered) : Inside e child → child.Finished

/-- The value is an error that comes with data, and the input begins with all of the data. -/
def HasData (e : Entered) : Prop :=
  e.tag = .throwableWithData ∧
    ∃ a rest data, e.input = a ++ rest ∧ Derives e.levels a (.map data)

/-- The identifier is the one that the value is blamed by: its own, but behind the data of an error
that of an error without. -/
structure BlamedBy (e : Entered) (oid : Oid) : Prop where
  own : ¬ e.HasData → oid = e.tag.code
  behindData : e.HasData → oid = Tag.throwable.code

/-- The decoder is about to read what follows the identifier. -/
structure At (e : Entered) (fuel : Nat) (d : Decoder) : Prop where
  room : d.scope = ⟨e.levels + 1, fun _ => none⟩
  source : d.source = .slice e.input
  enough : e.levels ≤ fuel

/-- Reads what follows the identifier. -/
def read (e : Entered) (fuel : Nat) : DecodeM Value :=
  decodeNested (fuel + 1) e.tag.code e.tag.code

end Entered

namespace DecodeM

variable {α : Type} {d after : Decoder} {levels fuel : Nat}

/-- The error of a bracketed step is the error of the step. -/
theorem bracketed_eq_error_iff {enter leave : Decoder → Decoder} {m : DecodeM α}
    {error : StreamError} :
    bracketed enter leave m d = .error error after ↔
      ∃ between, m (enter d) = .error error between ∧ leave between = after := by
  rw [bracketed]
  cases m (enter d) with
  | ok a between => simp
  | error e between => simp

/-- A value that no level is left for is blamed on the value that needs it. -/
theorem decodeNested_of_full (parent oid : Oid) (full : d.options.maxDepth ≤ d.depth) :
    decodeNested fuel parent oid d =
      .error (.malformed parent (.tooDeep d.options.maxDepth)) d := by
  cases fuel with
  | zero => rfl
  | succ fuel => rw [decodeNested_succ, nested_eq, if_pos full]

/-- With a level left, it does not matter which value needs another one. -/
theorem decodeNested_of_room (parent other oid : Oid) (room : d.depth < d.options.maxDepth) :
    decodeNested (fuel + 1) parent oid d = decodeNested (fuel + 1) other oid d := by
  rw [decodeNested_succ, decodeNested_succ, nested_eq, nested_eq, if_neg room.not_ge,
    if_neg room.not_ge]

/-- Behind an identifier outside the catalogue nothing is found malformed: there is no handler that
could complain. -/
theorem decodeNested_of_foreign {oid parent blamed : Oid} {fault : Fault}
    (unhandled : d.scope.handlers = fun _ => none) (room : d.depth < d.options.maxDepth)
    (foreign : Tag.ofCode? oid = none) :
    decodeNested (fuel + 1) parent oid d ≠ .error (.malformed blamed fault) after := by
  have unregistered : d.registry.reader? oid = none :=
    Option.map_eq_none_iff.1 (congrFun unhandled oid)
  intro run
  rw [decodeNested_succ, nested_eq, if_neg room.not_ge, bracketed_eq_error_iff] at run
  obtain ⟨between, run, -⟩ := run
  rw [readBody, foreign] at run
  change readExtension _ oid _ = _ at run
  rw [readExtension, get_bind, unregistered] at run
  cases run

/-- Without handlers, a value that another one needs is a derivation of the catalogue. -/
theorem recognises_readElement (enough : levels ≤ fuel) (parent : Oid) :
    Recognises ⟨levels, fun _ => none⟩ (readElement (decodeNested fuel) parent) (Derives levels) :=
  (Recognises.readElement (Recognises.decodeNested fuel enough) parent).congr fun _ _ =>
    derivesUnder_none_iff

/-- The decoder fails behind the identifier of a tag that a level is left for. -/
def FailsBehind (fuel : Nat) (tag : Tag) (d : Decoder) (error : StreamError) (after : Decoder) :
    Prop :=
  d.depth < d.options.maxDepth ∧ decodeNested fuel tag.code tag.code d = .error error after

/-- The reader of a value inside blames what is missing or too deep on the value that needs it. -/
theorem consults_readElement (enough : levels ≤ fuel) (own : Oid) :
    Consults ⟨levels, fun _ => none⟩ (FailsBehind fuel) own (· = [])
      (readElement (decodeNested fuel) own) where
  blames {d after input oid fault} room source run := by
    rw [readElement, bind_of_ok (atEnd_slice source)] at run
    cases ended : input.isEmpty with
    | true =>
      rw [ended] at run
      cases run
      exact .inl rfl
    | false =>
      rw [ended] at run
      rcases bind_eq_error run with failed | ⟨read, between, went, failed⟩
      · exact .inl (Blames.readUInt16.blamed failed)
      obtain ⟨a, rest, rfl, isOid, rfl⟩ :=
        Recognises.readOid.sound room (.of_none levels) source went
      cases levels with
      | zero =>
        have full := Nat.sub_eq_zero_iff_le.1 (congrArg Scope.levels room)
        rw [decodeNested_of_full own read (d := d.past a rest) full] at failed
        cases failed
        exact .inl rfl
      | succ lower =>
        obtain ⟨fuel, rfl⟩ : ∃ less, fuel = less + 1 := ⟨fuel - 1, by omega⟩
        have left : (d.past a rest).depth < (d.past a rest).options.maxDepth :=
          Decoder.depth_lt room
        cases known : Tag.ofCode? read with
        | none =>
          exact absurd failed (decodeNested_of_foreign (congrArg Scope.handlers room) left known)
        | some tag =>
          obtain rfl := Tag.code_of_ofCode? known
          obtain rfl : a = tag.spelled := isOid
          exact .inr ⟨[], tag, rest, rfl, rfl, left,
            (decodeNested_of_room tag.code own tag.code left).trans failed⟩
  passes {d after front rest tag error} room source isSite failed := by
    obtain rfl := isSite
    obtain ⟨left, failed⟩ := failed
    cases fuel with
    | zero =>
      obtain rfl := Nat.le_zero.1 enough
      have full := Nat.sub_eq_zero_iff_le.1 (congrArg Scope.levels room)
      exact absurd left full.not_gt
    | succ fuel =>
      rw [List.nil_append] at source failed
      have present : (tag.spelled ++ rest).isEmpty = false := by
        rw [Tag.spelled, BigEndian.encode_succ]
        rfl
      have isOid : Form.uint16 tag.spelled tag.code := rfl
      rw [readElement, bind_of_ok (atEnd_slice source), present]
      refine (bind_of_ok (Recognises.readOid.complete room source isOid)).trans ?_
      exact (decodeNested_of_room own tag.code tag.code left).trans failed

/-- What a value inside fails with, behind its identifier, the outer one fails with. -/
theorem readTagged_passes (enough : levels ≤ fuel) {front rest : List UInt8} {outer tag : Tag}
    {error : StreamError} (room : d.scope = ⟨levels, fun _ => none⟩)
    (source : d.source = .slice (front ++ (tag.spelled ++ rest)))
    (site : Site (Derives levels) outer front)
    (failed : FailsBehind fuel tag (d.past (front ++ tag.spelled) rest) error after) :
    readTagged (readElement (decodeNested fuel)) outer d = .error error after := by
  have inside := consults_readElement enough
  have takes := recognises_readElement enough
  by_cases withData : outer = .throwableWithData
  · subst withData
    exact Consults.passes_readThrowableWithData (.of_none levels) inside takes room source site
      failed
  · exact (Consults.readTagged (.of_none levels) inside takes withData).passes room source site
      failed

/-- What is found malformed behind an identifier is blamed on this value, or on a value inside that
fails. -/
theorem readTagged_blames (enough : levels ≤ fuel) {input : List UInt8} {outer : Tag} {oid : Oid}
    {fault : Fault} (room : d.scope = ⟨levels, fun _ => none⟩) (source : d.source = .slice input)
    (run : readTagged (readElement (decodeNested fuel)) outer d =
      .error (.malformed oid fault) after) :
    Entered.BlamedBy ⟨levels, outer, input⟩ oid ∨ ∃ front tag rest,
      input = front ++ (Tag.spelled tag ++ rest) ∧ Site (Derives levels) outer front ∧
        FailsBehind fuel tag (d.past (front ++ tag.spelled) rest) (.malformed oid fault) after := by
  have inside := consults_readElement enough
  have takes := recognises_readElement enough
  by_cases withData : outer = .throwableWithData
  · subst withData
    rcases Consults.blames_readThrowableWithData (.of_none levels) inside takes room source run with
      ⟨noData, own⟩ | ⟨hasData, own⟩ | found
    · exact .inl ⟨fun _ => own, fun hasData => absurd hasData.2 noData⟩
    · exact .inl ⟨fun noData => absurd ⟨rfl, hasData⟩ noData, fun _ => own⟩
    · exact .inr found
  · refine ((Consults.readTagged (.of_none levels) inside takes withData).blames room source
      run).imp_left fun own => ?_
    exact ⟨fun _ => own, fun hasData => absurd hasData.1 withData⟩

end DecodeM

namespace Entered

variable {fuel : Nat} {d after : Decoder} {e child outermost : Entered} {oid : Oid} {fault : Fault}

namespace At

/-- What follows the identifier is read one level deeper. -/
theorem read_eq (h : e.At fuel d) : e.read fuel d =
    bracketed (fun d => { d with depth := d.depth + 1 }) (fun d => { d with depth := d.depth - 1 })
      (readTagged (readElement (decodeNested fuel)) e.tag) d := by
  rw [read, decodeNested_succ, nested_eq, if_neg (Decoder.depth_lt h.room).not_ge, readBody,
    Tag.ofCode?_code]

/-- A value that is not finished cannot be read. -/
theorem fails (h : e.At fuel d) (unfinished : ¬ e.Finished) :
    ∃ error after, e.read fuel d = .error error after := by
  have reads := Recognises.readTagged (recognises_readElement h.enough) e.tag
  cases run : e.read fuel d with
  | error error after => exact ⟨error, after, rfl⟩
  | ok v after =>
    rw [h.read_eq, bracketed] at run
    split at run
    case h_2 => cases run
    case h_1 v' inside ran =>
      obtain ⟨payload, rest, split, isPayload, -⟩ :=
        reads.sound (Decoder.scope_deeper h.room) (.of_none _) h.source ran
      exact absurd ⟨payload, rest, v', split, isPayload⟩ unfinished

/-- A value that cannot be read is not finished. -/
theorem unfinished (h : e.At fuel d) {error : StreamError}
    (failed : e.read fuel d = .error error after) : ¬ e.Finished := by
  rintro ⟨payload, rest, v, split, isPayload⟩
  have reads := Recognises.readTagged (recognises_readElement h.enough) e.tag
  have source := h.source.trans (congrArg Source.slice split)
  rw [h.read_eq, bracketed_eq_error_iff] at failed
  obtain ⟨between, failed, -⟩ := failed
  rw [reads.complete (Decoder.scope_deeper h.room) source isPayload] at failed
  cases failed

/-- A value that begins inside is read behind the bytes in front of it, and what it fails with, the
outer one fails with. -/
theorem passes (h : e.At fuel d) (inside : Inside e child) :
    ∃ less between, child.At less between ∧ ∀ error after,
      child.read less between = .error error after →
        ∃ after, e.read fuel d = .error error after := by
  have read := h.read_eq
  obtain ⟨room, source, enough⟩ := h
  obtain ⟨levels, outer, input⟩ := e
  obtain ⟨lower, tag, rest⟩ := child
  obtain ⟨rfl, front, rfl, site⟩ := inside
  obtain ⟨less, rfl⟩ := Nat.exists_eq_add_one.2 (Nat.zero_lt_of_lt enough)
  have deeper := Decoder.scope_deeper room
  refine ⟨less, Decoder.past (front ++ tag.spelled) rest { d with depth := d.depth + 1 },
    ⟨deeper, rfl, Nat.le_of_succ_le_succ enough⟩, fun error after failed => ?_⟩
  have behind : FailsBehind (less + 1) tag
      (Decoder.past (front ++ tag.spelled) rest { d with depth := d.depth + 1 }) error after :=
    ⟨Decoder.depth_lt deeper, failed⟩
  have passed := readTagged_passes enough deeper source site behind
  rw [read]
  exact ⟨_, bracketed_eq_error_iff.2 ⟨after, passed, rfl⟩⟩

/-- What is found malformed is blamed on this value, or a value inside is not finished. -/
theorem blames (h : e.At fuel d) (run : e.read fuel d = .error (.malformed oid fault) after) :
    e.BlamedBy oid ∨ ∃ child, Inside e child ∧ ¬ child.Finished := by
  rw [h.read_eq, bracketed_eq_error_iff] at run
  obtain ⟨between, run, -⟩ := run
  obtain ⟨room, source, enough⟩ := h
  obtain ⟨levels, outer, input⟩ := e
  have deeper := Decoder.scope_deeper room
  refine (readTagged_blames enough deeper source run).imp_right fun found => ?_
  obtain ⟨front, tag, rest, rfl, site, left, failed⟩ := found
  cases levels with
  | zero =>
    have full := Nat.sub_eq_zero_iff_le.1 (congrArg Scope.levels deeper)
    exact absurd left full.not_gt
  | succ lower =>
    obtain ⟨less, rfl⟩ := Nat.exists_eq_add_one.2 (Nat.zero_lt_of_lt enough)
    have child : At ⟨lower, tag, rest⟩ less
        (Decoder.past (front ++ tag.spelled) rest { d with depth := d.depth + 1 }) :=
      ⟨deeper, rfl, Nat.le_of_succ_le_succ enough⟩
    exact ⟨⟨lower, tag, rest⟩, ⟨rfl, front, rfl, site⟩, child.unfinished failed⟩

end At

/-- Inside a value that is finished, all are. -/
theorem Inside.unfinished (inside : Inside e child) (unfinished : ¬ child.Finished) :
    ¬ e.Finished := by
  -- Any decoder that is about to read the outer value tells.
  let d : Decoder := .fresh {}
    { maxDepth := e.levels + 1, maxDepth_pos := Nat.succ_pos _ } (.slice e.input)
  have here : e.At e.levels d := ⟨rfl, rfl, Nat.le_refl _⟩
  obtain ⟨less, between, there, passes⟩ := here.passes inside
  obtain ⟨error, after, failed⟩ := there.fails unfinished
  obtain ⟨after, failed⟩ := passes error after failed
  exact here.unfinished failed

theorem unfinished_of_within (within : Relation.ReflTransGen Inside outermost e)
    (unfinished : ¬ e.Finished) : ¬ outermost.Finished := by
  induction within using Relation.ReflTransGen.head_induction_on with
  | refl => exact unfinished
  | head inside _ ih => exact inside.unfinished ih

/-- A value that is not finished has an innermost one. -/
theorem exists_innermost (unfinished : ¬ outermost.Finished) :
    ∃ e, Innermost outermost e := by
  obtain ⟨levels, tag, input⟩ := outermost
  induction levels generalizing tag input with
  | zero => exact ⟨_, .refl, unfinished, fun child inside => nomatch inside.1⟩
  | succ levels ih =>
    by_cases finished : ∀ child, Inside ⟨levels + 1, tag, input⟩ child → child.Finished
    · exact ⟨_, .refl, unfinished, finished⟩
    · push Not at finished
      obtain ⟨⟨lower, tag, rest⟩, inside, unfinished⟩ := finished
      obtain rfl := Nat.succ.inj inside.1
      obtain ⟨e, innermost⟩ := ih tag rest unfinished
      exact ⟨e, .head inside innermost.within, innermost.unfinished, innermost.inside⟩

/-- Whatever is malformed, it is blamed on every innermost value that is not finished. -/
theorem Innermost.blamedBy (h : Innermost outermost e) (here : outermost.At fuel d)
    (run : outermost.read fuel d = .error (.malformed oid fault) after) : e.BlamedBy oid := by
  obtain ⟨within, unfinished, finished⟩ := h
  induction within using Relation.ReflTransGen.head_induction_on generalizing fuel d after with
  | refl =>
    refine (here.blames run).resolve_right fun found => ?_
    obtain ⟨child, inside, unfinished⟩ := found
    exact unfinished (finished child inside)
  | head inside within ih =>
    obtain ⟨less, between, there, passes⟩ := here.passes inside
    obtain ⟨error, last, failed⟩ := there.fails (unfinished_of_within within unfinished)
    obtain ⟨_, passed⟩ := passes error last failed
    rw [run] at passed
    cases passed
    exact ih there failed

end Entered

namespace DecodeM

variable {d after : Decoder} {input : List UInt8} {oid : Oid} {fault : Fault}

/-- Malformed input is blamed on the innermost value that was entered and is not finished, but for
what is wrong behind the data of an error. With nothing registered, and whatever nesting bound is
set, whenever the decoder finds a byte string malformed there is such an innermost value, and the
identifier that is blamed is the one that was read for it. Only where this value is an error with
data, and all of the data is there, it is the identifier of an error without data instead. -/
theorem blames_innermost (unregistered : d.registry.readers = .empty) (outside : d.depth = 0)
    (source : d.source = .slice input) (run : decode d = .error (.malformed oid fault) after) :
    ∃ tag rest, input = tag.spelled ++ rest ∧
      (∃ e, Entered.Innermost ⟨d.options.maxDepth - 1, tag, rest⟩ e) ∧
      ∀ e, Entered.Innermost ⟨d.options.maxDepth - 1, tag, rest⟩ e → e.BlamedBy oid := by
  obtain ⟨levels, depthEq⟩ := Nat.exists_eq_add_one.2 d.options.maxDepth_pos
  have room : d.scope = ⟨levels + 1, fun _ => none⟩ := by
    rw [← handlers_of_unregistered unregistered, ← depthEq, ← Nat.sub_zero d.options.maxDepth,
      ← outside]
    rfl
  cases input with
  | nil =>
    rw [decode, bind_of_ok (atEnd_slice source)] at run
    cases run
  | cons byte bytes =>
    rw [decode_of_present source] at run
    rcases bind_eq_error run with failed | ⟨read, between, went, failed⟩
    · -- An identifier that is cut short is blamed on nobody.
      have zero := (Blames.readUInt16 : Blames 0 Wire.readUInt16).blamed failed
      have one := (Blames.readUInt16 : Blames 1 Wire.readUInt16).blamed failed
      exact absurd (zero.symm.trans one) (by decide)
    obtain ⟨a, rest, split, isOid, rfl⟩ :=
      Recognises.readOid.sound room (.of_none (levels + 1)) source went
    rw [depthEq] at failed
    have left : (d.past a rest).depth < (d.past a rest).options.maxDepth := Decoder.depth_lt room
    rcases bind_eq_error failed with failed | ⟨v, between, -, impossible⟩
    case inr => cases impossible
    cases known : Tag.ofCode? read with
    | none =>
      exact absurd failed (decodeNested_of_foreign (congrArg Scope.handlers room) left known)
    | some tag =>
      obtain rfl := Tag.code_of_ofCode? known
      obtain rfl : a = tag.spelled := isOid
      have here : Entered.At ⟨levels, tag, rest⟩ levels (d.past tag.spelled rest) :=
        ⟨room, rfl, Nat.le_refl _⟩
      rw [depthEq, Nat.add_sub_cancel]
      exact ⟨tag, rest, split, Entered.exists_innermost (here.unfinished failed),
        fun e innermost => innermost.blamedBy here failed⟩

/-- An error with empty data, and a two where it should say whether there is a message. The error is
the innermost value, but the tag of an error without data is blamed. -/
theorem blames_innermost_behind_data :
    let input : List UInt8 := [0, 0x91, 0, 0x65, 2]
    let error : Entered := ⟨127, .throwableWithData, [0, 0x65, 2]⟩
    (∃ after, decode (.fresh {} {} (.slice input)) =
        .error (.malformed Tag.throwable.code (.notBoolean 2)) after) ∧
      Entered.Innermost error error ∧ error.HasData ∧ error.BlamedBy Tag.throwable.code := by
  intro input error
  obtain ⟨after, run⟩ : ∃ after, decode (.fresh {} {} (.slice input)) =
      .error (.malformed Tag.throwable.code (.notBoolean 2)) after := ⟨_, rfl⟩
  obtain ⟨tag, rest, split, ⟨inner, found⟩, blamed⟩ := blames_innermost rfl rfl rfl run
  have spelled : input = Tag.throwableWithData.spelled ++ [0, 0x65, 2] := rfl
  obtain ⟨rfl, rfl⟩ := Tag.spelled_append_inj (split.symm.trans spelled)
  have empty : Derives 127 [0, 0x65] (.map ⟨[]⟩) := ⟨.mapEmpty, [], rfl, .mapEmpty⟩
  have innermost : Entered.Innermost error error := by
    refine ⟨.refl, Entered.unfinished_of_within found.within found.unfinished,
      fun child inside => ?_⟩
    obtain ⟨levels, tag, input⟩ := child
    obtain ⟨levelsEq, front, split, site⟩ := inside
    change Site _ .throwableWithData front at site
    cases site with
    | data =>
      have spelled : error.input = Tag.mapEmpty.spelled ++ [2] := rfl
      obtain ⟨rfl, rfl⟩ := Tag.spelled_append_inj (split.symm.trans spelled)
      exact ⟨[], [2], .map ⟨[]⟩, rfl, .mapEmpty⟩
    | behindData isData place =>
      have short := congrArg List.length split
      have long := place.length_le
      simp only [List.length_append, error, List.length_cons, List.length_nil] at short
      omega
  exact ⟨⟨after, run⟩, innermost, ⟨rfl, [0, 0x65], [2], _, rfl, empty⟩, blamed error innermost⟩

end DecodeM

end TaggedStream
