import Iso8583.Proofs.Store.Accounts
import Mathlib.Data.List.Dedup

/-!
# How long the arrival queue gets

Claimed keys leave the arrival queue once it is longer than twice the limit. A key that is held then keeps all
its entries, also those of replies that were claimed before. So behind a put the queue is longer than twice the
limit and the number of replies only by such entries, and each of them goes back to a reply that came under a
claimed key that was still listed.
-/

namespace Iso8583.PendingReplies

open List

/-! ## Repeated entries -/

/-- How many entries of a queue are listed again behind. -/
def repeated : List String → Nat
  | [] => 0
  | key :: rest => if key ∈ rest then repeated rest + 1 else repeated rest

theorem repeated_cons (key : String) (rest : List String) :
    repeated (key :: rest) = if key ∈ rest then repeated rest + 1 else repeated rest := rfl

theorem length_eq_repeated_add (keys : List String) : keys.length = repeated keys + keys.dedup.length := by
  induction keys with
  | nil => rfl
  | cons key rest ih =>
    rw [repeated_cons, length_cons]
    split
    · rename_i again
      rw [dedup_cons_of_mem again]
      omega
    · rename_i last
      rw [dedup_cons_of_notMem last, length_cons]
      omega

theorem repeated_le_of_sublist {part keys : List String} (sub : part <+ keys) :
    repeated part ≤ repeated keys := by
  induction sub with
  | slnil => exact Nat.le_refl 0
  | cons key sub ih =>
    rw [repeated_cons]
    split <;> omega
  | cons_cons key sub ih =>
    rw [repeated_cons, repeated_cons]
    split
    · rename_i again
      rw [if_pos (sub.subset again)]
      omega
    · split <;> omega

theorem repeated_concat (keys : List String) (key : String) :
    repeated (keys ++ [key]) = repeated keys + (keys.contains key).toNat := by
  induction keys with
  | nil => rfl
  | cons first rest ih =>
    rw [cons_append, repeated_cons, repeated_cons, ih]
    by_cases same : key = first
    · subst same
      by_cases again : key ∈ rest <;> simp [again]
    · by_cases again : first ∈ rest <;> simp [again, same, Ne.symm same]
      omega

/-! ## Evicting -/

theorem evict_of_within {store : PendingReplies} (within : store.size ≤ store.limit.toNat) :
    store.evict = store := by
  rw [evict, if_neg (Nat.not_lt.2 within)]

theorem sublist_arrivals_evict (store : PendingReplies) : store.evict.arrivals <+ store.arrivals := by
  fun_induction evict store with
  | case1 store full found => exact .refl _
  | case2 store full victim found ih => exact ih.trans eraseP_sublist
  | case3 store within => exact .refl _

theorem Listed.length_arrivals_evict {store : PendingReplies} (listed : store.Listed) :
    store.evict.arrivals.length + store.size = store.arrivals.length + store.evict.size := by
  fun_induction PendingReplies.evict store with
  | case1 store full found => rfl
  | case2 store full victim found ih =>
    have evictable : store.isEvictable victim = true := find?_some found
    have fewer := listed.size_erase_of_find? found
    have shorter := length_eraseP_of_mem (mem_of_find?_eq_some found) evictable
    have some := length_pos_of_mem (mem_of_find?_eq_some found)
    have next := ih (listed.evictOne found)
    change (PendingReplies.evict _).arrivals.length + (store.erase victim).size =
      (store.arrivals.eraseP store.isEvictable).length + (PendingReplies.evict _).size at next
    omega
  | case3 store within => rfl

theorem sublist_arrivals_compact (store : PendingReplies) : store.compact.arrivals <+ store.arrivals := by
  unfold compact
  split
  · exact filter_sublist
  · exact .refl _

/-! ## One put -/

theorem toNat_double_le (limit : UInt64) : (2 * limit).toNat ≤ 2 * limit.toNat := by
  rw [UInt64.toNat_mul]
  exact Nat.mod_le _ _

theorem length_arrivals_compact_le (store : PendingReplies) :
    store.compact.arrivals.length ≤ 2 * store.limit.toNat ∨
      store.compact.arrivals.length ≤ repeated store.compact.arrivals + store.size := by
  unfold compact
  split
  · refine .inr ?_
    have held : (store.arrivals.filter store.contains).dedup ⊆ store.replies.map (·.1) := by
      intro key mem
      exact contains_iff_mem.1 (mem_filter.1 (mem_dedup.1 mem)).2
    have distinct := (subperm_of_subset (nodup_dedup _) held).length_le
    rw [length_map] at distinct
    rw [length_eq_repeated_add]
    exact Nat.add_le_add_left distinct _
  · rename_i short
    have := toNat_double_le store.limit
    omega

theorem Listed.length_arrivals_put_le {store : PendingReplies} (listed : store.Listed) (key : String)
    (reply : Bytes) : (store.put key reply).2.arrivals.length ≤
      max (2 * store.limit.toNat) (store.put key reply).2.size +
        repeated (store.insert key reply).arrivals := by
  have compacted := length_arrivals_compact_le (store.insert key reply)
  have evicted := (listed.insert key reply).compact.length_arrivals_evict
  have shorter := (sublist_arrivals_evict (store.insert key reply).compact).length_le
  have fewer := repeated_le_of_sublist (sublist_arrivals_compact (store.insert key reply))
  have size : (store.insert key reply).compact.size = (store.insert key reply).size := by
    unfold PendingReplies.size
    rw [replies_compact]
  rw [limit_insert] at compacted
  change (store.insert key reply).compact.evict.arrivals.length ≤
    max _ (store.insert key reply).compact.evict.size + _
  omega

/-! ## Histories -/

/-- How many calls store a reply under a key that was claimed and is still listed. -/
def returnCount : PendingReplies → List StoreCall → Nat
  | _, [] => 0
  | store, call :: calls => (store.returns call).toNat + returnCount (store.perform call).2 calls

theorem returnCount_of_noneReturns {store : PendingReplies} {calls : List StoreCall}
    (fresh : store.NoneReturns calls) : store.returnCount calls = 0 := by
  induction calls generalizing store with
  | nil => rfl
  | cons call calls ih =>
    unfold returnCount
    rw [fresh.1, ih fresh.2]
    rfl

theorem repeated_arrivals_insert (store : PendingReplies) (key : String) (reply : Bytes) :
    repeated (store.insert key reply).arrivals =
      repeated store.arrivals + (store.returns (.put key reply)).toNat := by
  cases present : store.contains key with
  | true => simp [insert, returns, present]
  | false => simpa [insert, returns, present] using repeated_concat store.arrivals key

/-- A call repeats at most one entry, and only if a claimed key comes back. -/
theorem repeated_arrivals_perform_le (store : PendingReplies) (call : StoreCall) :
    repeated (store.perform call).2.arrivals ≤ repeated store.arrivals + (store.returns call).toNat := by
  cases call with
  | put key reply =>
    rw [← repeated_arrivals_insert]
    exact repeated_le_of_sublist ((sublist_arrivals_evict _).trans (sublist_arrivals_compact _))
  | remove key => exact Nat.le_add_right _ _
  | begin key =>
    obtain ⟨inFlight, begun⟩ := store.perform_begin key
    rw [begun]
    exact Nat.le_add_right _ _
  | finish key => exact Nat.le_add_right _ _

theorem repeated_arrivals_performAll_le (store : PendingReplies) (calls : List StoreCall) :
    repeated (performAll perform store calls).2.arrivals ≤
      repeated store.arrivals + store.returnCount calls := by
  induction calls generalizing store with
  | nil => exact Nat.le_refl _
  | cons call calls ih =>
    have now := repeated_arrivals_perform_le store call
    have later := ih (store.perform call).2
    unfold returnCount
    change repeated (performAll perform (store.perform call).2 calls).2.arrivals ≤ _
    omega

theorem performAll_concat (store : PendingReplies) (calls : List StoreCall) (last : StoreCall) :
    (performAll perform store (calls ++ [last])).2 = ((performAll perform store calls).2.perform last).2 := by
  induction calls generalizing store with
  | nil => rfl
  | cons call calls ih => exact ih (store.perform call).2

theorem returnCount_concat (store : PendingReplies) (calls : List StoreCall) (last : StoreCall) :
    store.returnCount (calls ++ [last]) =
      store.returnCount calls + ((performAll perform store calls).2.returns last).toNat := by
  induction calls generalizing store with
  | nil => exact Nat.add_comm _ _
  | cons call calls ih =>
    rw [cons_append]
    unfold returnCount
    rw [ih, Nat.add_assoc]
    rfl

/-! ## Keys that come back -/

/-- A reply that is put and claimed, again and again. -/
def rounds (key : String) (reply : Bytes) : Nat → List StoreCall
  | 0 => []
  | n + 1 => .put key reply :: .remove key :: rounds key reply n

theorem put_of_replicate {limit : UInt64} (least : 0 < limit.toNat) (key : String) (reply : Bytes) (n : Nat) :
    ((⟨[], replicate n key, [], limit⟩ : PendingReplies).put key reply).2 =
      ⟨[(key, reply)], replicate (n + 1) key, [], limit⟩ := by
  have inserted : (⟨[], replicate n key, [], limit⟩ : PendingReplies).insert key reply =
      ⟨[(key, reply)], replicate (n + 1) key, [], limit⟩ := by
    rw [replicate_succ']
    rfl
  have compacted : (⟨[(key, reply)], replicate (n + 1) key, [], limit⟩ : PendingReplies).compact =
      ⟨[(key, reply)], replicate (n + 1) key, [], limit⟩ := by
    unfold compact
    split
    · rw [filter_eq_self.2]
      intro other mem
      rw [eq_of_mem_replicate mem]
      exact contains_iff_mem.2 mem_cons_self
    · rfl
  change ((⟨[], replicate n key, [], limit⟩ : PendingReplies).insert key reply).compact.evict = _
  rw [inserted, compacted]
  exact evict_of_within least

theorem performAll_rounds {limit : UInt64} (least : 0 < limit.toNat) (key : String) (reply : Bytes)
    (m n : Nat) : (performAll perform ⟨[], replicate m key, [], limit⟩ (rounds key reply n)).2 =
      ⟨[], replicate (m + n) key, [], limit⟩ := by
  induction n generalizing m with
  | zero => rfl
  | succ n ih =>
    have claimed : (perform (⟨[(key, reply)], replicate (m + 1) key, [], limit⟩ : PendingReplies)
        (.remove key)).2 = ⟨[], replicate (m + 1) key, [], limit⟩ := by
      simp [perform, remove, erase]
    change (performAll perform (perform ((⟨[], replicate m key, [], limit⟩ : PendingReplies).put key reply).2
      (.remove key)).2 (rounds key reply n)).2 = _
    rw [put_of_replicate least, claimed, ih, Nat.add_assoc, Nat.add_comm 1 n]

/-- Behind a put the arrival queue is longer than twice the limit and the number of replies by at most as many
entries as claimed keys came back while they were still listed, so not at all if none did. The same key put and
claimed again and again does make it as long as one likes, with one reply held. -/
theorem length_arrivals_le (limit : UInt64) (calls : List StoreCall) (key : String) (reply : Bytes) :
    let history := calls ++ [.put key reply]
    let store := (performAll perform (ofLimit limit) history).2
    store.limit.toNat = max limit.toNat 1 ∧
      store.arrivals.length ≤
        max (2 * store.limit.toNat) store.size + (ofLimit limit).returnCount history ∧
      ((ofLimit limit).NoneReturns history →
        store.arrivals.length ≤ max (2 * store.limit.toNat) store.size) ∧
      ∀ n, let store := (performAll perform (ofLimit limit) (rounds key reply n ++ [.put key reply])).2
        store.arrivals.length = n + 1 ∧ store.size = 1 := by
  intro history store
  have start : (ofLimit limit).Listed := .ofLimit limit
  have last : store = ((performAll perform (ofLimit limit) calls).2.put key reply).2 :=
    performAll_concat _ calls _
  have bound : store.arrivals.length ≤
      max (2 * store.limit.toNat) store.size + (ofLimit limit).returnCount history := by
    have queue := (start.performAll calls).length_arrivals_put_le key reply
    have stale := repeated_arrivals_performAll_le (ofLimit limit) calls
    have none : repeated (ofLimit limit).arrivals = 0 := rfl
    have count : (ofLimit limit).returnCount history = _ := returnCount_concat _ calls _
    rw [repeated_arrivals_insert] at queue
    rw [last, limit_put, count]
    omega
  refine ⟨?_, bound, ?_, ?_⟩
  · rw [← toNat_limit_ofLimit, ← limit_performAll (ofLimit limit) history]
  · intro fresh
    rw [returnCount_of_noneReturns fresh] at bound
    exact bound
  · intro n
    have least : 0 < (ofLimit limit).limit.toNat := by
      rw [toNat_limit_ofLimit]
      omega
    have before := performAll_rounds least key reply 0 n
    rw [Nat.zero_add] at before
    have after := put_of_replicate least key reply n
    dsimp only
    rw [performAll_concat]
    change ((performAll perform (ofLimit limit) (rounds key reply n)).2.put key reply).2.arrivals.length = _ ∧
      ((performAll perform (ofLimit limit) (rounds key reply n)).2.put key reply).2.size = _
    have same : (performAll perform (ofLimit limit) (rounds key reply n)).2 =
        ⟨[], replicate n key, [], (ofLimit limit).limit⟩ := before
    rw [same, after]
    exact ⟨length_replicate, rfl⟩

/-- Every key is claimed before the next one comes, and none comes back. -/
theorem length_arrivals_le_of_claimed :
    let calls : List StoreCall := [.put "a" [1], .remove "a", .put "b" [2], .remove "b"]
    let history := calls ++ [.put "c" [3]]
    (ofLimit 1).NoneReturns history ∧
      (performAll perform (ofLimit 1) history).2.arrivals.length ≤ max (2 * 1) 1 := by
  intro calls history
  have fresh : (ofLimit 1).NoneReturns history := by decide +kernel
  have limit : (performAll perform (ofLimit 1) history).2.limit.toNat = 1 := by decide +kernel
  have size : (performAll perform (ofLimit 1) history).2.size = 1 := by decide +kernel
  have bound := (length_arrivals_le 1 calls "c" [3]).2.2.1 fresh
  rw [limit, size] at bound
  exact ⟨fresh, bound⟩

/-- A key is put and claimed twice and put once more: with a limit of one, three entries stand in the queue, also
when a reply under another key has evicted the last one. So the next two replies under the key are evicted as
soon as they come. -/
theorem queue_longer_than_twice_limit :
    let calls : List StoreCall :=
      [.put "a" [1], .remove "a", .put "a" [2], .remove "a", .put "a" [3], .put "b" [4]]
    let store := (performAll perform (ofLimit 1) calls).2
    store.arrivals = ["a", "a", "b"] ∧ max (2 * store.limit.toNat) store.size < store.arrivals.length ∧
      (performAll perform store [.put "a" [5], .put "a" [6]]).2.replies = [("b", [4])] := by
  decide +kernel

end Iso8583.PendingReplies
