import Mathlib.Data.List.Forall2
import Mathlib.Data.List.Induction
import Mathlib.Data.List.Nodup
import TaggedStream.OrderedMap

/-!
Maps as dictionaries that remember an order.

A history is the list of all changes, the pairs that a map was built from included. What the map
holds at a key is what the last change of that key left there, and its keys stand in the order in
which they arrived: a key arrives with a change that inserts it while it is absent, so a key that
was removed and comes back goes to the end, and one that gets a new value stays where it is.
-/

namespace TaggedStream.OrderedMap

variable {κ ν : Type}

/-! ## Changes -/

/-- A call that changes a map. -/
inductive Change (κ ν : Type) where
  | insert (key : κ) (value : ν)
  | erase (key : κ)

/-- The key whose value is changed. -/
def Change.key : Change κ ν → κ
  | insert key _ => key
  | erase key => key

/-- What is at the key afterwards. -/
def Change.value? : Change κ ν → Option ν
  | insert _ value => some value
  | erase _ => none

/-- The change that inserts a pair. -/
def Change.ofPair (pair : κ × ν) : Change κ ν := insert pair.1 pair.2

variable [BEq κ]

/-- Carries a change out, and gives the value that the key had. -/
def Change.perform : Change κ ν → OrderedMap κ ν → Option ν × OrderedMap κ ν
  | insert key value, m => m.getThenInsert? key value
  | erase key, m => m.getThenErase? key

/-- The map after one change after another. -/
def afterAll (history : List (Change κ ν)) (m : OrderedMap κ ν) : OrderedMap κ ν :=
  history.foldl (fun m change => (change.perform m).2) m

/-- A finite map, as a function, with another value at the key of a change. -/
def Change.assign (held : κ → Option ν) (change : Change κ ν) : κ → Option ν :=
  fun key => if change.key == key then change.value? else held key

/-- The finite map that a history leads to. -/
def held (history : List (Change κ ν)) : κ → Option ν :=
  history.foldl Change.assign fun _ => none

/-- The change at a moment of a history inserts the key, which is absent before. -/
def Arrives (history : List (Change κ ν)) (key : κ) (moment : Nat) : Prop :=
  ∃ value, history[moment]? = some (.insert key value) ∧ held (history.take moment) key = none

/-- The key arrives at this moment of a history, and at no later one. -/
structure ArrivesLast (history : List (Change κ ν)) (key : κ) (moment : Nat) : Prop where
  arrives : Arrives history key moment
  last (later : Nat) (again : Arrives history key later) : later ≤ moment

/-- The map is the dictionary of a history: each key once, with the value that the history leaves
there, in the order of the last arrivals. -/
structure Follows (history : List (Change κ ν)) (m : OrderedMap κ ν) : Prop where
  distinct : m.keys.Nodup
  found (key : κ) : m.get? key = held history key
  arrived {key : κ} (present : key ∈ m.keys) : ∃ moment, ArrivesLast history key moment
  ordered : m.keys.Pairwise fun first second => ∀ early late,
    ArrivesLast history first early → ArrivesLast history second late → early < late

/-! ## One change -/

/-- One search finds the value and the place to change. -/
theorem getThenInsert?_eq (m : OrderedMap κ ν) (key : κ) (value : ν) :
    m.getThenInsert? key value = (m.get? key, m.insert key value) := by
  obtain ⟨entries⟩ := m
  suffices main : exchangeEntry key value entries =
      ((entries.find? fun entry => entry.1 == key).map Prod.snd, insertEntry key value entries) by
    rw [getThenInsert?, main]
    rfl
  induction entries with
  | nil => rfl
  | cons entry rest ih =>
    by_cases here : entry.1 == key
    · simp [exchangeEntry, insertEntry, here]
    · simp [exchangeEntry, insertEntry, here, ih]

theorem getThenErase?_eq (m : OrderedMap κ ν) (key : κ) :
    m.getThenErase? key = (m.get? key, m.erase key) := by
  obtain ⟨entries⟩ := m
  suffices main : withdrawEntry key entries =
      ((entries.find? fun entry => entry.1 == key).map Prod.snd, eraseEntry key entries) by
    rw [getThenErase?, main]
    rfl
  induction entries with
  | nil => rfl
  | cons entry rest ih =>
    by_cases here : entry.1 == key
    · simp [withdrawEntry, eraseEntry, here]
    · simp [withdrawEntry, eraseEntry, here, ih]

theorem ofList_append_singleton (pairs : List (κ × ν)) (pair : κ × ν) :
    ofList (pairs ++ [pair]) = (ofList pairs).insert pair.1 pair.2 := by
  rw [ofList, List.foldl_append]
  rfl

/-- One pair more, if there is one. -/
theorem ofList_append_toList (pairs : List (κ × ν)) (more : Option (κ × ν)) :
    ofList (pairs ++ more.toList) =
      more.elim (ofList pairs) fun pair => (ofList pairs).insert pair.1 pair.2 := by
  cases more with
  | none => rw [Option.toList_none, List.append_nil, Option.elim_none]
  | some pair => exact ofList_append_singleton pairs pair

/-- The pairs of a list are inserted one by one. -/
theorem ofList_eq_afterAll (pairs : List (κ × ν)) :
    ofList pairs = OrderedMap.empty.afterAll (pairs.map Change.ofPair) := by
  rw [afterAll, List.foldl_map]
  refine congrArg (fun step => pairs.foldl step empty) (funext fun m => funext fun pair => ?_)
  rw [Change.ofPair, Change.perform, getThenInsert?_eq]

/-! ## Histories -/

theorem held_append_singleton (history : List (Change κ ν)) (change : Change κ ν) :
    held (history ++ [change]) = Change.assign (held history) change := by
  rw [held, List.foldl_append]
  rfl

/-- What is held at a key is what the last change of the key left there. -/
theorem held_eq_last (history : List (Change κ ν)) (key : κ) :
    held history key =
      (history.reverse.find? fun change => change.key == key).bind Change.value? := by
  induction history using List.reverseRecOn with
  | nil => rfl
  | append_singleton history change ih =>
    rw [held_append_singleton, List.reverse_append, List.reverse_singleton, List.singleton_append,
      List.find?_cons, Change.assign, ih]
    cases change.key == key <;> rfl

/-- One more change makes its own key arrive, if it inserts it and it is absent, and no other. -/
theorem arrives_append_singleton {history : List (Change κ ν)} {change : Change κ ν} {key : κ}
    {moment : Nat} :
    Arrives (history ++ [change]) key moment ↔ Arrives history key moment ∨
      moment = history.length ∧ held history key = none ∧ ∃ value, change = .insert key value := by
  unfold Arrives
  rcases Nat.lt_trichotomy moment history.length with before | rfl | behind
  · rw [List.getElem?_append_left before, List.take_append_of_le_length (Nat.le_of_lt before)]
    exact (or_iff_left fun last => Nat.ne_of_lt before last.1).symm
  · simp [and_comm]
  · have gone : history[moment]? = none := List.getElem?_eq_none (Nat.le_of_lt behind)
    have gone' : (history ++ [change])[moment]? = none :=
      List.getElem?_eq_none (by rw [List.length_append]; exact behind)
    simp [gone, gone', Nat.ne_of_gt behind]

theorem Arrives.lt_length {history : List (Change κ ν)} {key : κ} {moment : Nat}
    (arrives : Arrives history key moment) : moment < history.length := by
  obtain ⟨value, there, -⟩ := arrives
  exact (List.getElem?_eq_some_iff.1 there).1

/-- A change that does not make a key arrive leaves its last arrival. -/
theorem arrivesLast_append_singleton {history : List (Change κ ν)} {change : Change κ ν} {key : κ}
    (stays : held history key = none → ∀ value, change ≠ .insert key value) (moment : Nat) :
    ArrivesLast (history ++ [change]) key moment ↔ ArrivesLast history key moment := by
  have same (moment : Nat) :
      Arrives (history ++ [change]) key moment ↔ Arrives history key moment := by
    rw [arrives_append_singleton]
    exact or_iff_left fun ⟨_, absent, value, inserts⟩ => stays absent value inserts
  constructor
  · intro ⟨arrives, last⟩
    exact ⟨(same moment).1 arrives, fun later again => last later ((same later).2 again)⟩
  · intro ⟨arrives, last⟩
    exact ⟨(same moment).2 arrives, fun later again => last later ((same later).1 again)⟩

/-- A key that is inserted while it is absent arrives last now. -/
theorem arrivesLast_of_absent {history : List (Change κ ν)} {key : κ}
    (absent : held history key = none) (value : ν) :
    ArrivesLast (history ++ [.insert key value]) key history.length where
  arrives := arrives_append_singleton.2 (.inr ⟨rfl, absent, value, rfl⟩)
  last later again := Nat.le_of_lt_succ (by simpa using again.lt_length)

theorem Follows.empty : Follows [] (OrderedMap.empty : OrderedMap κ ν) where
  distinct := .nil
  found _ := rfl
  arrived := nofun
  ordered := .nil

/-- The keys that stay have the arrivals that they had, and stay in their order. -/
theorem Follows.sublist {history : List (Change κ ν)} {m : OrderedMap κ ν} {left : List κ}
    (h : Follows history m) (change : Change κ ν)
    (kept : left.Sublist m.keys)
    (stays : ∀ key ∈ left, held history key = none → ∀ value, change ≠ .insert key value) :
    (∀ key ∈ left, ∃ moment, ArrivesLast (history ++ [change]) key moment) ∧
      left.Pairwise fun first second => ∀ early late,
        ArrivesLast (history ++ [change]) first early →
          ArrivesLast (history ++ [change]) second late → early < late := by
  constructor
  · intro key there
    obtain ⟨moment, last⟩ := h.arrived (kept.subset there)
    exact ⟨moment, (arrivesLast_append_singleton (stays key there) moment).2 last⟩
  · refine (h.ordered.sublist kept).imp_of_mem fun {first second} there there' before early late
      arrives arrives' => before early late ?_ ?_
    · exact (arrivesLast_append_singleton (stays first there) early).1 arrives
    · exact (arrivesLast_append_singleton (stays second there') late).1 arrives'

/-! ## Keys that are told apart -/

variable [LawfulBEq κ]

theorem get?_eq_none_iff {m : OrderedMap κ ν} {key : κ} : m.get? key = none ↔ key ∉ m.keys := by
  rw [get?, Option.map_eq_none_iff, List.find?_eq_none, keys, List.mem_map]
  constructor
  · rintro none ⟨entry, there, rfl⟩
    exact none entry there BEq.rfl
  · intro absent entry there same
    exact absent ⟨entry, there, eq_of_beq same⟩

theorem contains_iff {m : OrderedMap κ ν} {key : κ} : m.contains key = true ↔ key ∈ m.keys := by
  rw [contains, Option.isSome_iff_ne_none, Ne, get?_eq_none_iff, not_not]

theorem get?_insert (m : OrderedMap κ ν) (key other : κ) (value : ν) :
    (m.insert key value).get? other = if key == other then some value else m.get? other := by
  obtain ⟨entries⟩ := m
  unfold insert get?
  induction entries with
  | nil => by_cases same : key == other <;> simp [insertEntry, same]
  | cons entry rest ih =>
    unfold insertEntry
    by_cases here : entry.1 == key
    · obtain rfl := eq_of_beq here
      by_cases same : entry.1 == other <;> simp [same]
    · by_cases first : entry.1 == other
      · have ne : ¬ (key == other) = true := fun same =>
          here (beq_iff_eq.2 ((eq_of_beq first).trans (eq_of_beq same).symm))
        simp [here, first, ne]
      · simpa [here, first] using ih

/-- A key that is absent goes to the end. -/
theorem entries_insert_of_absent {m : OrderedMap κ ν} {key : κ} (absent : key ∉ m.keys)
    (value : ν) :
    (m.insert key value).entries = m.entries ++ [(key, value)] := by
  obtain ⟨entries⟩ := m
  unfold insert
  induction entries with
  | nil => rfl
  | cons entry rest ih =>
    obtain ⟨ne, later⟩ := not_or.1 (mt List.mem_cons.2 absent)
    have other : ¬ (entry.1 == key) = true := fun same => ne (eq_of_beq same).symm
    simp only [insertEntry, if_neg other, List.cons_append]
    exact congrArg (entry :: ·) (ih later)

/-- A key that is present keeps its place, and so do all others. -/
theorem entries_insert_of_present {m : OrderedMap κ ν} (distinct : m.keys.Nodup) {key : κ}
    (present : key ∈ m.keys) (value : ν) :
    (m.insert key value).entries =
      m.entries.map fun entry => if entry.1 == key then (entry.1, value) else entry := by
  obtain ⟨entries⟩ := m
  unfold insert
  induction entries with
  | nil => cases present
  | cons entry rest ih =>
    obtain ⟨fresh, distinct⟩ := List.nodup_cons.1 distinct
    by_cases here : entry.1 == key
    · obtain rfl := eq_of_beq here
      have others : rest.map (fun other => if other.1 == entry.1 then (other.1, value) else other) =
          rest := by
        refine (List.map_congr_left fun other there => if_neg fun same => fresh ?_).trans
          (List.map_id _)
        exact List.mem_map.2 ⟨other, there, eq_of_beq same⟩
      simp only [insertEntry, if_pos here, List.map_cons, others]
    · have later : key ∈ keys ⟨rest⟩ := (List.mem_cons.1 present).resolve_left fun same =>
        here (beq_iff_eq.2 same.symm)
      simp only [insertEntry, if_neg here, List.map_cons]
      exact congrArg (entry :: ·) (ih distinct later)

theorem keys_insert {m : OrderedMap κ ν} (distinct : m.keys.Nodup) (key : κ) (value : ν) :
    (m.insert key value).keys = if m.contains key then m.keys else m.keys ++ [key] := by
  split
  next present =>
    rw [keys, entries_insert_of_present distinct (contains_iff.1 present), List.map_map]
    refine List.map_congr_left fun entry _ => ?_
    dsimp only [Function.comp]
    split <;> rfl
  next absent =>
    rw [keys, entries_insert_of_absent (mt contains_iff.2 absent), List.map_append]
    rfl

theorem nodup_keys_insert {m : OrderedMap κ ν} (distinct : m.keys.Nodup) (key : κ) (value : ν) :
    (m.insert key value).keys.Nodup := by
  rw [keys_insert distinct]
  split
  · exact distinct
  next absent =>
    refine List.nodup_append.2 ⟨distinct, List.pairwise_singleton _ _, ?_⟩
    rintro other there _ last rfl
    exact absent (contains_iff.2 (List.mem_singleton.1 last ▸ there))

/-- When each key is there once, an entry is what is found at its key. -/
theorem mem_entries_iff {m : OrderedMap κ ν} (distinct : m.keys.Nodup) {key : κ} {value : ν} :
    (key, value) ∈ m.entries ↔ m.get? key = some value := by
  constructor
  · intro there
    have some : (m.entries.find? fun entry => entry.1 == key).isSome :=
      List.find?_isSome.2 ⟨_, there, BEq.refl key⟩
    obtain ⟨entry, found⟩ := Option.isSome_iff_exists.1 some
    have here : entry.1 = key := by simpa using List.find?_some found
    have same : entry = (key, value) :=
      List.inj_on_of_nodup_map distinct (List.mem_of_find?_eq_some found) there here
    rw [get?, found, same]
    rfl
  · intro found
    obtain ⟨entry, first, rfl⟩ := Option.map_eq_some_iff.1 found
    have here : entry.1 = key := by simpa using List.find?_some first
    rw [← here]
    exact List.mem_of_find?_eq_some first

/-- All entries but that of the key are left, in their order. -/
theorem entries_erase {m : OrderedMap κ ν} (distinct : m.keys.Nodup) (key : κ) :
    (m.erase key).entries = m.entries.filter fun entry => entry.1 != key := by
  obtain ⟨entries⟩ := m
  unfold erase
  induction entries with
  | nil => rfl
  | cons entry rest ih =>
    obtain ⟨fresh, distinct⟩ := List.nodup_cons.1 distinct
    by_cases here : entry.1 == key
    · obtain rfl := eq_of_beq here
      have others : rest.filter (fun other => other.1 != entry.1) = rest :=
        List.filter_eq_self.2 fun other there => bne_iff_ne.2 fun same =>
          fresh (List.mem_map.2 ⟨other, there, same⟩)
      simp [eraseEntry, others]
    · have kept : (entry.1 != key) = true := bne_iff_ne.2 fun same => here (beq_iff_eq.2 same)
      simp only [eraseEntry, if_neg here]
      rw [List.filter_cons, if_pos kept]
      exact congrArg (entry :: ·) (ih distinct)

theorem get?_erase {m : OrderedMap κ ν} (distinct : m.keys.Nodup) (key other : κ) :
    (m.erase key).get? other = if key == other then none else m.get? other := by
  split
  next same =>
    obtain rfl := eq_of_beq same
    rw [get?_eq_none_iff, keys, entries_erase distinct, List.mem_map]
    rintro ⟨entry, there, rfl⟩
    exact bne_iff_ne.1 (List.mem_filter.1 there).2 rfl
  next ne =>
    -- an entry of the other key is not one of those that go
    have kept (entry : κ × ν) : decide ((entry.1 != key) = true ∧ (entry.1 == other) = true) =
        (entry.1 == other) := by
      by_cases here : entry.1 == other
      · have stays : entry.1 ≠ key := fun same =>
          ne (beq_iff_eq.2 (same.symm.trans (eq_of_beq here)))
        simp [here, stays]
      · simp [here]
    simp only [get?, entries_erase distinct, List.find?_filter, kept]

theorem keys_erase {m : OrderedMap κ ν} (distinct : m.keys.Nodup) (key : κ) :
    (m.erase key).keys = m.keys.filter (· != key) := by
  rw [keys, entries_erase distinct, keys, List.filter_map]
  rfl

/-! ## Runs -/

namespace Follows

variable {history : List (Change κ ν)} {m : OrderedMap κ ν}

theorem held_ne_none (h : Follows history m) {key : κ} (present : key ∈ m.keys) :
    held history key ≠ none := fun absent =>
  get?_eq_none_iff.1 ((h.found key).trans absent) present

theorem insert (h : Follows history m) (key : κ) (value : ν) :
    Follows (history ++ [.insert key value]) (m.insert key value) := by
  have found (other : κ) :
      (m.insert key value).get? other = held (history ++ [.insert key value]) other := by
    rw [get?_insert, held_append_singleton, h.found]
    rfl
  have keys := keys_insert h.distinct key value
  obtain ⟨arrived, ordered⟩ := h.sublist (.insert key value) (List.Sublist.refl m.keys)
    fun other there absent => absurd absent (h.held_ne_none there)
  cases present : m.contains key with
  | true =>
    rw [present, if_pos rfl] at keys
    rw [← keys] at arrived ordered
    exact ⟨nodup_keys_insert h.distinct key value, found, arrived _, ordered⟩
  | false =>
    rw [present, if_neg Bool.false_ne_true] at keys
    have fresh : key ∉ m.keys := fun there => by simp [contains_iff.2 there] at present
    have absent : held history key = none := (h.found key).symm.trans (get?_eq_none_iff.2 fresh)
    have now := arrivesLast_of_absent absent value
    refine ⟨nodup_keys_insert h.distinct key value, found, fun {other} there => ?_, ?_⟩
    · rw [keys] at there
      rcases List.mem_append.1 there with there | last
      · exact arrived other there
      · rw [List.mem_singleton.1 last]
        exact ⟨_, now⟩
    · rw [keys]
      refine List.pairwise_append.2 ⟨ordered, List.pairwise_singleton _ _, ?_⟩
      intro other there _ last early late arrives arrives'
      rw [List.mem_singleton.1 last] at arrives'
      -- the other key is present, so it arrived before this change
      have earlier := (arrivesLast_append_singleton
        (fun absent => absurd absent (h.held_ne_none there)) early).1 arrives
      exact Nat.lt_of_lt_of_le earlier.arrives.lt_length (arrives'.last _ now.arrives)

theorem erase (h : Follows history m) (key : κ) :
    Follows (history ++ [.erase key]) (m.erase key) := by
  have keys := keys_erase h.distinct key
  obtain ⟨arrived, ordered⟩ := h.sublist (.erase key)
    (List.filter_sublist (p := (· != key))) fun _ _ _ _ => nofun
  rw [← keys] at arrived ordered
  refine ⟨?_, fun other => ?_, arrived _, ordered⟩
  · rw [keys]
    exact h.distinct.filter _
  · rw [get?_erase h.distinct, held_append_singleton, h.found]
    rfl

/-- One more change. -/
theorem perform (h : Follows history m) (change : Change κ ν) :
    Follows (history ++ [change]) (change.perform m).2 := by
  cases change with
  | insert key value =>
    rw [Change.perform, getThenInsert?_eq]
    exact h.insert key value
  | erase key =>
    rw [Change.perform, getThenErase?_eq]
    exact h.erase key

/-- Any number of changes. -/
theorem afterAll (h : Follows history m) (changes : List (Change κ ν)) :
    Follows (history ++ changes) (m.afterAll changes) := by
  induction changes generalizing history m with
  | nil => rwa [List.append_nil]
  | cons change changes ih =>
    rw [List.append_cons]
    exact ih (h.perform change)

end Follows

theorem follows_ofList (pairs : List (κ × ν)) :
    Follows (pairs.map Change.ofPair) (ofList pairs) := by
  rw [ofList_eq_afterAll]
  exact Follows.empty.afterAll _

/-- Each key stands where it first occurs among the pairs. -/
theorem keys_ofList (pairs : List (κ × ν)) :
    (ofList pairs).keys = (pairs.map Prod.fst).eraseDups := by
  induction pairs using List.reverseRecOn with
  | nil => rfl
  | append_singleton pairs pair ih =>
    have present : (ofList pairs).contains pair.1 = true ↔ pair.1 ∈ pairs.map Prod.fst := by
      rw [contains_iff, ih, List.mem_eraseDups]
    rw [ofList_append_singleton, keys_insert (follows_ofList pairs).distinct, ih, List.map_append,
      List.eraseDups_append]
    by_cases seen : pair.1 ∈ pairs.map Prod.fst
    · rw [if_pos (present.2 seen)]
      simp [List.removeAll, seen]
    · rw [if_neg (mt present.1 seen)]
      simp [List.removeAll, List.eraseDups_cons, seen]

/-- Each key has its last value among the pairs. -/
theorem get?_ofList (pairs : List (κ × ν)) (key : κ) :
    (ofList pairs).get? key =
      (pairs.reverse.find? fun pair => pair.1 == key).map Prod.snd := by
  have same : (fun change : Change κ ν => change.key == key) ∘ Change.ofPair =
      fun pair : κ × ν => pair.1 == key := rfl
  rw [(follows_ofList pairs).found, held_eq_last, ← List.map_reverse, List.find?_map, same]
  cases pairs.reverse.find? fun pair => pair.1 == key <;> rfl

/-- Equal maps have equal entries in the same order. -/
theorem isEqv_iff (sameValue : ν → ν → Bool) (m n : OrderedMap κ ν) :
    m.isEqv (· == ·) sameValue n = true ↔
      List.Forall₂ (fun a b => a.1 = b.1 ∧ sameValue a.2 b.2 = true) m.toList n.toList := by
  obtain ⟨entries⟩ := m
  obtain ⟨others⟩ := n
  unfold isEqv toList
  induction entries generalizing others with
  | nil => cases others <;> simp
  | cons entry entries ih =>
    cases others with
    | nil => simp
    | cons other others => simp [List.isEqv, ih]

/-- Maps are dictionaries in the order of insertion. Whatever pairs a map is built from, and
whatever is inserted and removed afterwards, each key is there once, with the value that the finite
map of the history has, and the keys stand in the order of their last arrivals. A key that is
inserted next gets its value in place if it is there, and goes to the end if not; a key that is
removed takes nothing with it and moves nothing; both give the value from before. A map from pairs
has each key at its first occurrence with its last value. Maps are equal when their entries are, one
by one in order. -/
theorem dictionary_of_history (pairs : List (κ × ν)) (changes : List (Change κ ν)) :
    let m := (ofList pairs).afterAll changes
    let history := pairs.map Change.ofPair ++ changes
    m.Follows history ∧
    (∀ key, m.contains key = (held history key).isSome) ∧
    (∀ key value,
      (m.getThenInsert? key value).1 = held history key ∧
      (m.getThenInsert? key value).2.toList =
        if m.contains key then
          m.toList.map fun entry => if entry.1 == key then (entry.1, value) else entry
        else m.toList ++ [(key, value)]) ∧
    (∀ key,
      (m.getThenErase? key).1 = held history key ∧
      (m.getThenErase? key).2.toList = (m.toList.filter fun entry => entry.1 != key) ∧
      (m.getThenErase? key).2.contains key = false) ∧
    ofList pairs = empty.afterAll (pairs.map Change.ofPair) ∧
    (ofList pairs).keys = (pairs.map Prod.fst).eraseDups ∧
    (∀ key, (ofList pairs).get? key =
      (pairs.reverse.find? fun pair => pair.1 == key).map Prod.snd) ∧
    ∀ (sameValue : ν → ν → Bool) (other : OrderedMap κ ν),
      m.isEqv (· == ·) sameValue other = true ↔
        List.Forall₂ (fun a b => a.1 = b.1 ∧ sameValue a.2 b.2 = true) m.toList other.toList := by
  intro m history
  have follows : m.Follows history := (follows_ofList pairs).afterAll changes
  refine ⟨follows, fun key => ?_, fun key value => ?_, fun key => ?_, ofList_eq_afterAll pairs,
    keys_ofList pairs, get?_ofList pairs, fun sameValue other => isEqv_iff sameValue m other⟩
  · rw [contains, follows.found]
  · rw [getThenInsert?_eq]
    refine ⟨follows.found key, ?_⟩
    split
    next present =>
      exact entries_insert_of_present follows.distinct (contains_iff.1 present) value
    next absent => exact entries_insert_of_absent (mt contains_iff.2 absent) value
  · rw [getThenErase?_eq]
    refine ⟨follows.found key, entries_erase follows.distinct key, ?_⟩
    rw [contains, get?_erase follows.distinct, if_pos BEq.rfl]
    rfl

/-- A key that comes twice among the pairs, is removed and comes back, beside one that stays. -/
theorem dictionary_of_returning_key :
    let pairs := [(1, 'a'), (2, 'b'), (1, 'c')]
    let changes := [.erase 1, .insert 2 'd', .insert 1 'e']
    let m := (ofList pairs).afterAll changes
    m.toList = [(2, 'd'), (1, 'e')] ∧ m.Follows (pairs.map Change.ofPair ++ changes) ∧
    (m.getThenErase? 2).1 = some 'd' ∧ (m.getThenErase? 2).2.contains 2 = false := by
  obtain ⟨follows, -, -, erased, -⟩ := dictionary_of_history [(1, 'a'), (2, 'b'), (1, 'c')]
    [.erase 1, .insert 2 'd', .insert 1 'e']
  exact ⟨rfl, follows, (erased 2).1, (erased 2).2.2⟩

end TaggedStream.OrderedMap
