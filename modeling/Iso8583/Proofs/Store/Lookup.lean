import Iso8583.PendingReplies

/-!
# What the store holds under a key

Each operation as seen by a lookup. A reply that comes while its key is awaited stays until it is
claimed or replaced: evicting passes over it.
-/

namespace Iso8583.PendingReplies

/-! ## Lookup -/

theorem mem_of_get? {store : PendingReplies} {key : String} {bytes : Bytes}
    (h : store.get? key = some bytes) : (key, bytes) ∈ store.replies := by
  unfold get? at h
  obtain ⟨reply, found, rfl⟩ := Option.map_eq_some_iff.1 h
  have same : reply.1 = key := by simpa using List.find?_some found
  rw [← same]
  exact List.mem_of_find?_eq_some found

theorem contains_iff {store : PendingReplies} {key : String} :
    store.contains key = true ↔ ∃ bytes, (key, bytes) ∈ store.replies := by
  simp [contains]

theorem get?_eq_none_iff {store : PendingReplies} {key : String} :
    store.get? key = none ↔ store.contains key = false := by
  simp [get?, contains]

theorem contains_of_get? {store : PendingReplies} {key : String} {bytes : Bytes}
    (h : store.get? key = some bytes) : store.contains key = true :=
  contains_iff.2 ⟨bytes, mem_of_get? h⟩

theorem get?_congr {first second : PendingReplies} (same : first.replies = second.replies)
    (key : String) : first.get? key = second.get? key := by
  unfold get?
  rw [same]

/-! ## Claiming -/

theorem mem_erase {store : PendingReplies} {key : String} {reply : String × Bytes} :
    reply ∈ (store.erase key).replies ↔ reply ∈ store.replies ∧ reply.1 ≠ key := by
  simp [erase]

theorem get?_erase_self (store : PendingReplies) (key : String) : (store.erase key).get? key = none := by
  rw [get?_eq_none_iff, Bool.eq_false_iff]
  intro h
  obtain ⟨bytes, held⟩ := contains_iff.1 h
  exact (mem_erase.1 held).2 rfl

theorem get?_erase_of_ne {store : PendingReplies} {key other : String} (different : other ≠ key) :
    (store.erase key).get? other = store.get? other := by
  unfold get? erase
  rw [List.find?_filter]
  congr 2
  funext reply
  by_cases same : reply.1 = other <;> simp [same, different]

/-! ## Storing -/

theorem mem_insert {store : PendingReplies} {key : String} {bytes : Bytes} {reply : String × Bytes}
    (h : reply ∈ (store.insert key bytes).replies) :
    reply = (key, bytes) ∨ reply.1 ≠ key ∧ reply ∈ store.replies := by
  unfold insert at h
  split at h
  · obtain ⟨held, mem, rfl⟩ := List.mem_map.1 h
    by_cases same : held.1 = key
    · exact .inl (if_pos (by simp [same]))
    · rw [if_neg (by simpa using same)]
      exact .inr ⟨same, mem⟩
  · rename_i absent
    rcases List.mem_append.1 h with mem | mem
    · refine .inr ⟨fun same => absent (contains_iff.2 ⟨reply.2, ?_⟩), mem⟩
      rw [← same]
      exact mem
    · exact .inl (List.mem_singleton.1 mem)

theorem get?_insert_self (store : PendingReplies) (key : String) (bytes : Bytes) :
    (store.insert key bytes).get? key = some bytes := by
  cases found : (store.insert key bytes).get? key with
  | none =>
    have absent := get?_eq_none_iff.1 found
    have held : (key, bytes) ∈ (store.insert key bytes).replies := by
      unfold insert
      split
      · rename_i present
        obtain ⟨old, mem⟩ := contains_iff.1 present
        exact List.mem_map.2 ⟨_, mem, if_pos (by simp)⟩
      · simp
    rw [contains_iff.2 ⟨bytes, held⟩] at absent
    cases absent
  | some other =>
    rcases mem_insert (mem_of_get? found) with same | ⟨different, -⟩
    · rw [(Prod.mk.inj same).2]
    · exact absurd rfl different

theorem get?_insert_of_ne {store : PendingReplies} {key other : String} (different : other ≠ key)
    (bytes : Bytes) : (store.insert key bytes).get? other = store.get? other := by
  unfold get? insert
  split
  · rw [List.find?_map, Option.map_map]
    have pass : ((fun reply : String × Bytes => reply.1 == other) ∘
        fun held => if held.1 == key then (key, bytes) else held) = fun reply => reply.1 == other := by
      funext reply
      by_cases same : reply.1 = key <;> simp [same]
    rw [pass]
    cases found : store.replies.find? fun reply => reply.1 == other with
    | none => rfl
    | some reply =>
      have same : reply.1 = other := by simpa using List.find?_some found
      simp [same, different]
  · rw [List.find?_append]
    have last : [(key, bytes)].find? (fun reply => reply.1 == other) = none := by
      simp [Ne.symm different]
    rw [last, Option.or_none]

theorem replies_compact (store : PendingReplies) : store.compact.replies = store.replies := by
  unfold compact
  split <;> rfl

theorem inFlight_compact (store : PendingReplies) : store.compact.inFlight = store.inFlight := by
  unfold compact
  split <;> rfl

theorem mem_of_mem_evict {store : PendingReplies} {reply : String × Bytes}
    (h : reply ∈ store.evict.replies) : reply ∈ store.replies := by
  fun_induction evict store with
  | case1 store full found => exact h
  | case2 store full key found ih => exact (mem_erase.1 (ih h)).1
  | case3 store within => exact h

theorem inFlight_evict (store : PendingReplies) : store.evict.inFlight = store.inFlight := by
  fun_induction evict store with
  | case1 store full found => rfl
  | case2 store full key found ih => exact ih
  | case3 store within => rfl

theorem get?_evict_of_isInFlight {store : PendingReplies} {key : String}
    (awaited : store.isInFlight key = true) : store.evict.get? key = store.get? key := by
  fun_induction evict store with
  | case1 store full found => rfl
  | case2 store full victim found ih =>
    have evictable : store.isEvictable victim = true := List.find?_some found
    have different : key ≠ victim := by
      rintro rfl
      simp [isEvictable, awaited] at evictable
    exact (ih awaited).trans (get?_erase_of_ne different)
  | case3 store within => rfl

theorem inFlight_insert (store : PendingReplies) (key : String) (bytes : Bytes) :
    (store.insert key bytes).inFlight = store.inFlight := by
  unfold insert
  split <;> rfl

theorem inFlight_put (store : PendingReplies) (key : String) (bytes : Bytes) :
    (store.put key bytes).2.inFlight = store.inFlight := by
  unfold put
  rw [inFlight_evict, inFlight_compact, inFlight_insert]

theorem mem_put {store : PendingReplies} {key : String} {bytes : Bytes} {reply : String × Bytes}
    (h : reply ∈ (store.put key bytes).2.replies) :
    reply = (key, bytes) ∨ reply.1 ≠ key ∧ reply ∈ store.replies := by
  have kept := mem_of_mem_evict h
  rw [replies_compact] at kept
  exact mem_insert kept

theorem get?_put_of_isInFlight {store : PendingReplies} {awaited : String}
    (inFlight : store.isInFlight awaited = true) (key : String) (bytes : Bytes) :
    (store.put key bytes).2.get? awaited =
      if key = awaited then some bytes else store.get? awaited := by
  have still : (store.insert key bytes).compact.isInFlight awaited = true := by
    unfold isInFlight
    rw [inFlight_compact, inFlight_insert]
    exact inFlight
  unfold put
  rw [get?_evict_of_isInFlight still, get?_congr (replies_compact _)]
  split
  · rename_i same
    subst same
    exact get?_insert_self store key bytes
  · rename_i different
    exact get?_insert_of_ne (Ne.symm different) bytes

/-! ## Awaiting -/

theorem begin?_eq_some_iff {store next : PendingReplies} {key : String} :
    store.begin? key = some next ↔
      store.isInFlight key = false ∧ next = { store with inFlight := key :: store.inFlight } := by
  unfold begin?
  split
  · rename_i inFlight
    simp [inFlight]
  · rename_i free
    simp only [Option.some.injEq, Bool.eq_false_iff]
    exact ⟨fun same => ⟨free, same.symm⟩, fun h => h.2.symm⟩

theorem begin?_eq_none_iff {store : PendingReplies} {key : String} :
    store.begin? key = none ↔ store.isInFlight key = true := by
  simp [begin?]

theorem finish_of_begin? {store next : PendingReplies} {key : String}
    (begun : store.begin? key = some next) : next.finish key = store := by
  obtain ⟨free, rfl⟩ := begin?_eq_some_iff.1 begun
  have kept : store.inFlight.filter (· != key) = store.inFlight := by
    rw [List.filter_eq_self]
    intro other held
    have different : other ≠ key := by
      rintro rfl
      simp [isInFlight, held] at free
    simpa using different
  simp [finish, kept]

theorem mem_inFlight_finish {store : PendingReplies} {key other : String} :
    other ∈ (store.finish key).inFlight ↔ other ∈ store.inFlight ∧ other ≠ key := by
  simp [finish]

theorem isInFlight_iff {store : PendingReplies} {key : String} :
    store.isInFlight key = true ↔ key ∈ store.inFlight := by
  simp [isInFlight]

end Iso8583.PendingReplies
