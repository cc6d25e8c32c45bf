import Iso8583.Proofs.Store.Queue

/-!
# A put comes to an end

A put can check each of its steps: that a number fits its word, that an entry to be removed is in the arrival
queue, and that evicting takes no more rounds than it may. The entries are always there, and there are as many
rounds as replies are evicted, whatever the limit is. Only doubling the limit goes wrong, from half the range of
the word on: it overflows, and a product that wraps is below the limit itself.
-/

namespace Iso8583.PendingReplies

open List

/-! ## Checked steps -/

inductive PutFault where
  | overflow
  /-- The arrival queue has nothing at a place. -/
  | noEntry (place : Nat)
  | tooManyRounds
  deriving DecidableEq

/-- The product of two words, if it fits a word. -/
def checkedProduct (a b : UInt64) : Except PutFault UInt64 :=
  if a.toNat * b.toNat < UInt64.size then .ok (a * b) else .error .overflow

/-- The product of two words, less what does not fit a word. -/
def wrappedProduct (a b : UInt64) : Except PutFault UInt64 := .ok (a * b)

/-- Drops claimed keys from the arrival queue once it is longer than twice the limit. -/
def compactWith (product : UInt64 → UInt64 → Except PutFault UInt64) (store : PendingReplies) :
    Except PutFault PendingReplies := do
  let threshold ← product 2 store.limit
  if threshold.toNat < store.arrivals.length then
    return { store with arrivals := store.arrivals.filter store.contains }
  else return store

/-- The entry at a place of the arrival queue, and the queue without it. -/
def removeAt (arrivals : List String) (place : Nat) : Except PutFault (String × List String) :=
  match arrivals[place]? with
  | some key => .ok (key, arrivals.eraseIdx place)
  | none => .error (.noEntry place)

/-- The store after one round of evicting; nothing if evicting is over. -/
def evictRound (store : PendingReplies) : Except PutFault (Option PendingReplies) :=
  if store.limit.toNat < store.size then
    match store.arrivals.findIdx? store.isEvictable with
    | none => return none
    | some place => do
      let (key, arrivals) ← removeAt store.arrivals place
      return some { store.erase key with arrivals := arrivals }
  else return none

/-- Evicts in no more than the given number of rounds. -/
def evictWithin (rounds : Nat) (store : PendingReplies) : Except PutFault PendingReplies := do
  match ← store.evictRound with
  | none => return store
  | some next =>
    match rounds with
    | 0 => throw .tooManyRounds
    | rounds + 1 => evictWithin rounds next

/-- Stores a reply, with every step checked. Also answers whether it replaced another one. -/
def putWith (product : UInt64 → UInt64 → Except PutFault UInt64) (rounds : Nat) (store : PendingReplies)
    (key : String) (reply : Bytes) : Except PutFault (Bool × PendingReplies) := do
  let compacted ← (store.insert key reply).compactWith product
  let last ← compacted.evictWithin rounds
  return (store.contains key, last)

/-! ## The threshold -/

theorem checkedProduct_two (limit : UInt64) : checkedProduct 2 limit =
    if UInt64.size ≤ 2 * limit.toNat then .error .overflow else .ok (2 * limit) := by
  have two : (2 : UInt64).toNat = 2 := rfl
  unfold checkedProduct
  rw [two]
  split
  · rename_i fits
    rw [if_neg (Nat.not_le.2 fits)]
  · rename_i high
    rw [if_pos (Nat.not_lt.1 high)]

theorem compactWith_wrapped (store : PendingReplies) : store.compactWith wrappedProduct = .ok store.compact := by
  unfold compact
  change (if _ then _ else _) = _
  split <;> rfl

theorem compactWith_checked (store : PendingReplies) : store.compactWith checkedProduct =
    if UInt64.size ≤ 2 * store.limit.toNat then .error .overflow else .ok store.compact := by
  unfold compactWith
  rw [checkedProduct_two]
  split
  · rfl
  · exact store.compactWith_wrapped

/-- From half the range of the word on the doubled limit wraps, and is then below the limit itself. -/
theorem toNat_double (limit : UInt64) : (2 * limit).toNat =
    if UInt64.size ≤ 2 * limit.toNat then 2 * limit.toNat - UInt64.size else 2 * limit.toNat := by
  have range := limit.toNat_lt_size
  rw [UInt64.toNat_mul]
  change 2 * limit.toNat % UInt64.size = _
  split
  · rename_i high
    rw [Nat.mod_eq_sub_mod high, Nat.mod_eq_of_lt (by omega)]
  · exact Nat.mod_eq_of_lt (by omega)

/-! ## Rounds -/

/-- An entry leaves the queue, and with it the reply under its key, which nobody awaits. -/
def EvictsOne (before after : PendingReplies) : Prop :=
  ∃ place key, before.arrivals[place]? = some key ∧ before.isEvictable key = true ∧
    after = { before.erase key with arrivals := before.arrivals.eraseIdx place } ∧
    after.size < before.size

theorem findIdx?_of_find? {arrivals : List String} {p : String → Bool} {key : String}
    (found : arrivals.find? p = some key) :
    ∃ place, arrivals.findIdx? p = some place ∧ arrivals[place]? = some key ∧
      arrivals.eraseIdx place = arrivals.eraseP p := by
  rw [find?_eq_getElem?_findIdx] at found
  have inside : arrivals.findIdx p < arrivals.length := (List.getElem?_eq_some_iff.1 found).1
  have place : arrivals.findIdx? p = some (arrivals.findIdx p) :=
    findIdx?_eq_some_iff_findIdx_eq.2 ⟨inside, rfl⟩
  refine ⟨_, place, found, ?_⟩
  rw [eraseP_eq_eraseIdx, place]

theorem evictRound_of_within {store : PendingReplies} (within : ¬store.limit.toNat < store.size) :
    store.evictRound = .ok none := if_neg within

theorem evictRound_of_none {store : PendingReplies} (found : store.arrivals.find? store.isEvictable = none) :
    store.evictRound = .ok none := by
  rw [find?_eq_none] at found
  have nowhere : store.arrivals.findIdx? store.isEvictable = none :=
    findIdx?_eq_none_iff.2 fun key mem => by simpa using found key mem
  unfold evictRound
  rw [nowhere]
  split <;> rfl

theorem evictRound_of_some {store : PendingReplies} {victim : String}
    (full : store.limit.toNat < store.size) (found : store.arrivals.find? store.isEvictable = some victim) :
    store.evictRound =
      .ok (some { store.erase victim with arrivals := store.arrivals.eraseP store.isEvictable }) := by
  obtain ⟨place, first, entry, erased⟩ := findIdx?_of_find? found
  have removed : removeAt store.arrivals place =
      .ok (victim, store.arrivals.eraseP store.isEvictable) := by
    unfold removeAt
    rw [entry, ← erased]
  unfold evictRound
  rw [if_pos full, first]
  dsimp only
  rw [removed]
  rfl

theorem evictsOne_of_evictRound {before after : PendingReplies}
    (round : before.evictRound = .ok (some after)) : before.EvictsOne after := by
  by_cases full : before.limit.toNat < before.size
  · cases found : before.arrivals.find? before.isEvictable with
    | none =>
      rw [evictRound_of_none found] at round
      cases round
    | some victim =>
      rw [evictRound_of_some full found] at round
      cases round
      obtain ⟨place, -, entry, erased⟩ := findIdx?_of_find? found
      have evictable : before.isEvictable victim = true := find?_some found
      have held : before.contains victim = true := by
        simp only [isEvictable, Bool.and_eq_true] at evictable
        exact evictable.1
      exact ⟨place, victim, entry, evictable, by rw [erased], length_erase_lt held⟩
  · rw [evictRound_of_within full] at round
    cases round

theorem Listed.evictRound_cases {store : PendingReplies} (listed : store.Listed) :
    (store.evictRound = .ok none ∧ store.evict = store) ∨
      ∃ after, store.evictRound = .ok (some after) ∧ after.Listed ∧ store.size = after.size + 1 ∧
        store.evict = after.evict := by
  by_cases full : store.limit.toNat < store.size
  · cases found : store.arrivals.find? store.isEvictable with
    | none =>
      refine .inl ⟨evictRound_of_none found, ?_⟩
      rw [PendingReplies.evict, if_pos full]
      split <;> simp_all
    | some victim =>
      have fewer := listed.size_erase_of_find? found
      refine .inr ⟨_, evictRound_of_some full found, listed.evictOne found, fewer, ?_⟩
      rw [PendingReplies.evict, if_pos full]
      split <;> simp_all
  · exact .inl ⟨evictRound_of_within full, evict_of_within (Nat.not_lt.1 full)⟩

theorem Listed.evictWithin_eq {store : PendingReplies} (listed : store.Listed) (rounds : Nat) :
    store.evictWithin rounds =
      if rounds + store.evict.size < store.size then .error .tooManyRounds else .ok store.evict := by
  -- Each round leaves a store that is listed as well, so that the next one takes exactly one reply again.
  induction rounds generalizing store with
  | zero =>
    have size := size_evict listed
    unfold evictWithin
    rcases listed.evictRound_cases with ⟨round, same⟩ | ⟨after, round, still, fewer, same⟩
    · rw [round, same, if_neg (by omega)]
      rfl
    · have less := size_evict still
      rw [round, same, if_pos (by omega)]
      rfl
  | succ rounds ih =>
    unfold evictWithin
    rcases listed.evictRound_cases with ⟨round, same⟩ | ⟨after, round, still, fewer, same⟩
    · rw [round, same, if_neg (by omega)]
      rfl
    · have here : rounds + 1 + after.evict.size < store.size ↔ rounds + after.evict.size < after.size := by omega
      rw [round, same]
      simp only [here]
      exact ih still

/-! ## Whole puts -/

theorem size_put_add (store : PendingReplies) (key : String) (reply : Bytes) :
    (store.put key reply).2.size + (store.evictions key reply).length =
      (store.insert key reply).compact.size := by
  have parts := (perm_put store key reply).length_eq
  rw [length_append] at parts
  unfold size
  rw [replies_compact]
  exact parts

theorem Listed.evictWithin_put {store : PendingReplies} (listed : store.Listed) (rounds : Nat) (key : String)
    (reply : Bytes) : (store.insert key reply).compact.evictWithin rounds =
      if rounds < (store.evictions key reply).length then .error .tooManyRounds
      else .ok (store.put key reply).2 := by
  have size := store.size_put_add key reply
  have evicted := (listed.insert key reply).compact.evictWithin_eq rounds
  change _ =
    if rounds + (store.put key reply).2.size < _ then _ else Except.ok (store.put key reply).2 at evicted
  have enough : rounds + (store.put key reply).2.size < (store.insert key reply).compact.size ↔
      rounds < (store.evictions key reply).length := by omega
  simp only [enough] at evicted
  exact evicted

/-- With the right threshold only the number of rounds can stop a put. -/
theorem Listed.putWith_eq {store : PendingReplies} (listed : store.Listed)
    {product : UInt64 → UInt64 → Except PutFault UInt64} {key : String} {reply : Bytes}
    (compacted : (store.insert key reply).compactWith product = .ok (store.insert key reply).compact)
    (rounds : Nat) : store.putWith product rounds key reply =
      if rounds < (store.evictions key reply).length then .error .tooManyRounds
      else .ok (store.put key reply) := by
  have evicted := listed.evictWithin_put rounds key reply
  unfold putWith
  rw [compacted]
  change (evictWithin rounds _ >>= fun last => pure (store.contains key, last)) = _
  rw [evicted]
  split <;> rfl

theorem Listed.putWith_wrapped {store : PendingReplies} (listed : store.Listed) (rounds : Nat) (key : String)
    (reply : Bytes) : store.putWith wrappedProduct rounds key reply =
      if rounds < (store.evictions key reply).length then .error .tooManyRounds
      else .ok (store.put key reply) :=
  listed.putWith_eq (compactWith_wrapped _) rounds

theorem Listed.putWith_checked {store : PendingReplies} (listed : store.Listed) (rounds : Nat) (key : String)
    (reply : Bytes) : store.putWith checkedProduct rounds key reply =
      if UInt64.size ≤ 2 * store.limit.toNat then .error .overflow
      else if rounds < (store.evictions key reply).length then .error .tooManyRounds
      else .ok (store.put key reply) := by
  have compacted := (store.insert key reply).compactWith_checked
  rw [limit_insert] at compacted
  split
  · rename_i high
    rw [if_pos high] at compacted
    unfold putWith
    rw [compacted]
    rfl
  · rename_i fits
    rw [if_neg fits] at compacted
    exact listed.putWith_eq compacted rounds

/-- In every store that a history leads to, each step of a put succeeds except that the doubled limit may not
fit the word: entries are found where they are removed, and there are as many rounds of evicting as replies go,
each of which takes one of the held replies. A put whose product wraps completes for every limit, but its
threshold is right only if the doubled limit fits. -/
theorem put_completes (limit : UInt64) (calls : List StoreCall) (key : String) (reply : Bytes) :
    let store := (performAll perform (ofLimit limit) calls).2
    let evicted := (store.evictions key reply).length
    (∀ rounds, store.putWith checkedProduct rounds key reply =
      if UInt64.size ≤ 2 * limit.toNat then .error .overflow
      else if rounds < evicted then .error .tooManyRounds
      else .ok (store.put key reply)) ∧
    (∀ rounds, store.putWith wrappedProduct rounds key reply =
      if rounds < evicted then .error .tooManyRounds else .ok (store.put key reply)) ∧
    (2 * store.limit).toNat = (if UInt64.size ≤ 2 * limit.toNat then 2 * limit.toNat - UInt64.size
      else 2 * max limit.toNat 1) ∧
    ∀ before after : PendingReplies, before.evictRound = .ok (some after) → before.EvictsOne after := by
  intro store evicted
  have listed : store.Listed := (Listed.ofLimit limit).performAll calls
  have bound : store.limit.toNat = max limit.toNat 1 := by
    rw [← toNat_limit_ofLimit, ← limit_performAll (ofLimit limit) calls]
  -- A limit of nothing counts as one, and neither is too large to be doubled.
  have high : UInt64.size ≤ 2 * store.limit.toNat ↔ UInt64.size ≤ 2 * limit.toNat := by
    rw [bound]
    unfold UInt64.size
    omega
  refine ⟨?_, ?_, ?_, ?_⟩
  · intro rounds
    have checked := listed.putWith_checked rounds key reply
    simp only [high] at checked
    exact checked
  · intro rounds
    exact listed.putWith_wrapped rounds key reply
  · have doubled := toNat_double store.limit
    simp only [high] at doubled
    rw [doubled, bound]
    unfold UInt64.size
    split <;> omega
  · intro before after round
    exact evictsOne_of_evictRound round

/-- The oldest reply is awaited, so the next one goes, in one round. -/
theorem put_completes_in_one_round :
    let calls : List StoreCall := [.begin "a", .put "a" [1], .put "b" [2]]
    let store := (performAll perform (ofLimit 2) calls).2
    let full : PendingReplies := ⟨[("a", [1]), ("b", [2]), ("c", [3])], ["a", "b", "c"], ["a"], 2⟩
    let last : PendingReplies := ⟨[("a", [1]), ("c", [3])], ["a", "c"], ["a"], 2⟩
    store.putWith checkedProduct 1 "c" [3] = .ok (false, last) ∧
      full.evictRound = .ok (some last) ∧ full.EvictsOne last := by
  intro calls store full last
  have round : full.evictRound = .ok (some last) := by decide +kernel
  have put : store.put "c" [3] = (false, last) := by decide +kernel
  have evicted : (store.evictions "c" [3]).length = 1 := by decide +kernel
  obtain ⟨checked, -, -, evicts⟩ := put_completes 2 calls "c" [3]
  refine ⟨?_, round, evicts full last round⟩
  rw [← put]
  have here := checked 1
  rw [if_neg (by decide), if_neg (by rw [evicted]; decide)] at here
  exact here

/-- From half the range of the word on the doubled limit overflows. Where it wraps, it is zero at half the range,
and a queue of two entries counts as longer than twice the limit. -/
theorem double_of_half_range_overflows :
    let half : UInt64 := 0x8000000000000000
    let calls : List StoreCall := [.put "a" [1], .remove "a", .put "b" [2]]
    (ofLimit half).putWith checkedProduct 0 "a" [1] = .error .overflow ∧
      (ofLimit 0xFFFFFFFFFFFFFFFF).putWith checkedProduct 0 "a" [1] = .error .overflow ∧
      (2 * (ofLimit half).limit).toNat = 0 ∧
      (performAll perform (ofLimit half) calls).2.arrivals = ["b"] ∧
      (performAll perform (ofLimit (half - 1)) calls).2.arrivals = ["a", "b"] := by
  decide +kernel

end Iso8583.PendingReplies
